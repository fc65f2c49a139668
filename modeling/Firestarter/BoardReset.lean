import Firestarter.LatchCoherence
import Firestarter.PortRefinement

/-! What the boards' setup does to the lines. A chip in the socket is enabled by a low level, so the
control port must hold its rest levels by the time its pins become outputs, whatever the registers
held. From there on the board serves the model's power-up state, and the calls that end the setup
clear the three latches over a chip that stays off. -/
namespace Firestarter

open Interactive Interactive.Prog StoreSequence

/-- Both chip lines high, all strobes low. -/
def restLevels : U8 := chipEnable ||| outputEnable

/-- Every control line that is an output is at its rest level. -/
def Connector.AtRest (c : Connector) : Prop :=
  c.control &&& c.controlOutputs = restLevels &&& c.controlOutputs

theorem Connector.atRest_of_inputs {c : Connector} (inputs : c.controlOutputs = 0) : c.AtRest := by
  unfold AtRest
  rw [inputs]
  apply eq_of_lines <;> simp

theorem Connector.atRest_of_levels {c : Connector} (levels : c.control = restLevels) :
    c.AtRest := by
  unfold AtRest
  rw [levels]

/-! ## The Uno class -/

namespace Uno

/-- No pin is an output and the serial port is closed; the port bits are whatever they are. -/
structure Ports.Reset (p : Ports) : Prop where
  inputs : p.ddrB = 0
  serial : p.serial = false

theorem configurePins_rests {p : Ports} (reset : p.Reset) :
    (settled configurePins p).Ready ∧ (settled configurePins p).serial = false ∧
      (settled configurePins p).connector.control = restLevels ∧
      ∀ p' ∈ passed configurePins p, p'.connector.AtRest := by
  have levels : (userButton ||| outputEnable ||| chipEnable) &&& controlLines = restLevels := by
    decide
  have outputs : leastSignificantByte ||| mostSignificantByte ||| controlRegister |||
      outputEnable ||| chipEnable = controlLines := by decide
  have button : (userButton ||| outputEnable ||| chipEnable) &&& userButton = userButton := by
    decide
  refine ⟨⟨outputs, button⟩, reset.serial, levels, ?_⟩
  intro p' member
  simp only [configurePins, passed_cons, passed_nil, List.mem_cons, List.not_mem_nil, or_false]
    at member
  rcases member with rfl | rfl
  · apply Connector.atRest_of_inputs
    simp [Ports.connector, reset.inputs]
  · exact Connector.atRest_of_levels levels

end Uno

/-! ## The Leonardo -/

namespace Leonardo

structure Ports.Reset (p : Ports) : Prop where
  inputs : controlWiring p.ddrB p.ddrC p.ddrD = 0
  controlPins : p.controlPins = 0

/-- Once the variable is shown it is shown whatever the ports held. -/
theorem controlWiring_setControlPin (p : Ports) (pin : U8) (state : Bool) :
    controlWiring (settled (rurpSetControlPin pin state) p).portB
        (settled (rurpSetControlPin pin state) p).portC
        (settled (rurpSetControlPin pin state) p).portD =
      (if state then p.controlPins ||| pin else p.controlPins &&& ~~~pin) &&& 0x3F := by
  simp only [rurpSetControlPin, settled_cons, settled_nil, controlWiring_store_b,
    controlWiring_store_c, controlWiring_store_d]
  apply eq_of_lines <;> simp

/-- The setup's first half: both chip lines high in the port bits, no direction bit touched. -/
def raiseChipLines : Stores Ports :=
  rurpSetControlPin chipEnable true ++ rurpSetControlPin outputEnable true

theorem settled_raiseChipLines {p : Ports} (reset : p.Reset) :
    controlWiring (settled raiseChipLines p).portB (settled raiseChipLines p).portC
        (settled raiseChipLines p).portD = restLevels ∧
      (settled raiseChipLines p).controlPins = restLevels := by
  unfold raiseChipLines
  rw [settled_append]
  generalize first : settled (rurpSetControlPin chipEnable true) p = q
  have pins : q.controlPins = chipEnable := by
    rw [← first]
    simp only [rurpSetControlPin, settled_cons, settled_nil, reset.controlPins, if_true]
    decide
  constructor
  · rw [controlWiring_setControlPin, pins]
    decide
  · simp only [rurpSetControlPin, settled_cons, settled_nil, pins, if_true]
    rfl

theorem directions_raiseChipLines {p p' : Ports} (member : p' ∈ passed raiseChipLines p) :
    (p'.ddrB, p'.ddrC, p'.ddrD) = (p.ddrB, p.ddrC, p.ddrD) := by
  refine look_passed (fun p : Ports => (p.ddrB, p.ddrC, p.ddrD)) ?_ member
  intro store listed p
  simp only [raiseChipLines, rurpSetControlPin, List.cons_append, List.nil_append, List.mem_cons,
    List.not_mem_nil, or_false] at listed
  rcases listed with rfl | rfl | rfl | rfl | rfl | rfl | rfl | rfl <;> rfl

theorem outputs_directions (b c d : U8) :
    controlWiring (b ||| portbControlMask) (c ||| portcControlMask) (d ||| portdControlMask) =
      0x3F := by
  apply lines_eq <;> simp [portbControlMask, portcControlMask, portdControlMask]

theorem configurePins_rests {p : Ports} (reset : p.Reset) :
    (settled configurePins p).Ready ∧
      (settled configurePins p).connector.control = restLevels ∧
      ∀ p' ∈ passed configurePins p, p'.connector.AtRest := by
  obtain ⟨shown, pins⟩ := settled_raiseChipLines reset
  have early (p' : Ports) (member : p' ∈ passed raiseChipLines p) : p'.connector.AtRest := by
    apply Connector.atRest_of_inputs
    have same := directions_raiseChipLines member
    simp only [Prod.mk.injEq] at same
    simp [Ports.connector, same, reset.inputs]
  have split : configurePins = raiseChipLines ++
      [fun p => { p with ddrB := p.ddrB ||| portbControlMask },
        fun p => { p with ddrC := p.ddrC ||| portcControlMask },
        fun p => { p with ddrD := p.ddrD ||| portdControlMask }] := rfl
  rw [split, settled_append, passed_append]
  generalize settled raiseChipLines p = q at shown pins
  have levels : controlWiring q.portB q.portC q.portD &&& controlLines = restLevels := by
    rw [shown]
    decide
  refine ⟨⟨?_, ?_⟩, levels, ?_⟩
  · simp only [settled_cons, settled_nil, shown, pins]
    decide
  · simp only [settled_cons, settled_nil, outputs_directions]
  · intro p' member
    rcases List.mem_append.mp member with first | second
    · exact early p' first
    · apply Connector.atRest_of_levels
      simp only [passed_cons, passed_nil, List.mem_cons, List.not_mem_nil, or_false] at second
      rcases second with rfl | rfl | rfl <;> exact levels

end Leonardo

/-! ## The PY32F071 -/

namespace Py32f071

/-- What the setup calls of the vendor's library, told by the stores each call makes, as far as the
control lines on port A are concerned. -/
structure Hal where
  /-- `HAL_GPIO_WritePin` -/
  writePin : U8 → Bool → Stores Ports
  /-- `HAL_GPIO_Init` with `GPIO_MODE_OUTPUT_PP` -/
  initOutput : U8 → Stores Ports
  /-- `HAL_GPIO_Init` with `GPIO_MODE_ANALOG` for the pin that measures VPP, which is no control
  line -/
  initAnalog : Stores Ports
  /-- The pin's bit takes the level. -/
  writes : ∀ pin ∈ controlPins, ∀ state p,
    (settled (writePin pin state) p).odrA.setWidth 8 &&& pin = if state then pin else 0
  writes_others : ∀ pin ∈ controlPins, ∀ state, ∀ store ∈ writePin pin state, ∀ p,
    (store p).odrA.setWidth 8 &&& ~~~pin = p.odrA.setWidth 8 &&& ~~~pin
  writes_modes : ∀ pin ∈ controlPins, ∀ state, ∀ store ∈ writePin pin state, ∀ p,
    (store p).moderA = p.moderA
  /-- The pin becomes an output. -/
  inits : ∀ pin ∈ controlPins, ∀ p,
    outputLines (settled (initOutput pin) p).moderA &&& pin = pin
  inits_others : ∀ pin ∈ controlPins, ∀ store ∈ initOutput pin, ∀ p,
    outputLines (store p).moderA &&& ~~~pin = outputLines p.moderA &&& ~~~pin
  inits_bits : ∀ pin ∈ controlPins, ∀ store ∈ initOutput pin, ∀ p, (store p).odrA = p.odrA
  analog_lines : ∀ store ∈ initAnalog, ∀ p,
    outputLines (store p).moderA &&& controlLines = outputLines p.moderA &&& controlLines
  analog_bits : ∀ store ∈ initAnalog, ∀ p, (store p).odrA = p.odrA

/-- The level is in the port bits before the pin drives it. -/
def configureOutput (hal : Hal) (pin : U8) (state : Bool) : Stores Ports :=
  hal.writePin pin state ++ hal.initOutput pin

/-- `configure_adc`, as far as it reaches the ports; it does not return when the converter fails. -/
def configureAdc (hal : Hal) : Stores Ports := hal.initAnalog

/-- `rurp_board_setup` up to its first call of a shield function that drives a line. -/
def configurePins (hal : Hal) : Stores Ports :=
  configureOutput hal chipEnable true ++ (configureOutput hal outputEnable true ++
    (configureOutput hal leastSignificantByte false ++
      (configureOutput hal mostSignificantByte false ++
        (configureOutput hal controlRegister false ++ (rurpSetDataInput ++ configureAdc hal)))))

structure Ports.Reset (p : Ports) : Prop where
  inputs : outputLines p.moderA = 0

/-- Bytes that agree on a mask agree on every part of it. -/
theorem and_eq_and_of_mask {a r mask part : U8} (same : a &&& mask = r &&& mask)
    (inside : part &&& mask = part) : a &&& part = r &&& part := by
  rw [← inside, BitVec.and_comm part, ← BitVec.and_assoc, ← BitVec.and_assoc, same]

/-- Bytes that agree on two masks agree on both together. -/
theorem and_or_eq {a r done pin : U8} (first : a &&& done = r &&& done)
    (second : a &&& pin = r &&& pin) : a &&& (done ||| pin) = r &&& (done ||| pin) := by
  apply BitVec.eq_of_getElem_eq
  intro i small
  have left := congrArg (fun b : U8 => b[i]) first
  have right := congrArg (fun b : U8 => b[i]) second
  simp only [BitVec.getElem_and, BitVec.getElem_or] at left right ⊢
  rw [Bool.and_or_distrib_left, Bool.and_or_distrib_left, left, right]

/-- A byte is what it is on a mask and beside it. -/
theorem eq_or_of_parts {x done pin : U8} (beside : x &&& ~~~pin = done) (on : x &&& pin = pin) :
    x = done ||| pin := by
  apply BitVec.eq_of_getElem_eq
  intro i small
  have left := congrArg (fun b : U8 => b[i]) beside
  have right := congrArg (fun b : U8 => b[i]) on
  simp only [BitVec.getElem_and, BitVec.getElem_not, BitVec.getElem_or] at left right ⊢
  rw [← left]
  revert right
  cases x[i] <;> cases pin[i] <;> simp

/-- What is the same but for one line is within the lines known so far and that one. -/
theorem and_or_eq_self {x done pin : U8} (same : x &&& ~~~pin = done &&& ~~~pin) :
    x &&& (done ||| pin) = x := by
  apply BitVec.eq_of_getElem_eq
  intro i small
  have bit := congrArg (fun b : U8 => b[i]) same
  simp only [BitVec.getElem_and, BitVec.getElem_not, BitVec.getElem_or] at bit ⊢
  revert bit
  cases x[i] <;> cases done[i] <;> cases pin[i] <;> simp

/-- The lines configured so far, and no other, are outputs, each at its rest level. -/
structure Configured (done : U8) (p : Ports) : Prop where
  outputs : outputLines p.moderA &&& controlLines = done
  rests : p.odrA.setWidth 8 &&& done = restLevels &&& done

/-- A port whose bits rest on a mask that holds all its outputs. -/
theorem atRest_of_mask {p : Ports} {mask : U8}
    (rests : p.odrA.setWidth 8 &&& mask = restLevels &&& mask)
    (inside : outputLines p.moderA &&& controlLines &&& mask =
      outputLines p.moderA &&& controlLines) : p.connector.AtRest := by
  have part : controlLines &&& (outputLines p.moderA &&& controlLines) =
      outputLines p.moderA &&& controlLines := by
    rw [BitVec.and_comm, BitVec.and_assoc, BitVec.and_self]
  unfold Connector.AtRest Ports.connector
  dsimp only
  rw [BitVec.and_assoc, part]
  exact and_eq_and_of_mask rests inside

/-- The pin's bit is written: a line configured before is still at its level, and no mode changes. -/
theorem Configured.written (hal : Hal) {done : U8} {p : Ports} (pin : U8) (state : Bool)
    (listed : pin ∈ controlPins) (fresh : done &&& ~~~pin = done)
    (level : restLevels &&& pin = if state then pin else 0) (configured : Configured done p) :
    (settled (hal.writePin pin state) p).moderA = p.moderA ∧
      (settled (hal.writePin pin state) p).odrA.setWidth 8 &&& (done ||| pin) =
        restLevels &&& (done ||| pin) ∧
      ∀ p' ∈ passed (hal.writePin pin state) p, p'.connector.AtRest := by
  obtain ⟨outputs, rests⟩ := configured
  let bits (p : Ports) : U8 := p.odrA.setWidth 8 &&& ~~~pin
  have writing := hal.writes_others pin listed state
  have modes := hal.writes_modes pin listed state
  have earlier (p' : Ports) (same : bits p' = bits p) :
      p'.odrA.setWidth 8 &&& done = restLevels &&& done := by
    have inside : (~~~pin) &&& done = done := by rw [BitVec.and_comm, fresh]
    rw [← rests, ← inside, ← BitVec.and_assoc, ← BitVec.and_assoc]
    exact congrArg (· &&& done) same
  refine ⟨look_settled Ports.moderA modes, ?_, fun p' member => ?_⟩
  · have same : bits (settled (hal.writePin pin state) p) = bits p := look_settled bits writing
    refine and_or_eq (earlier _ same) ?_
    rw [level]
    exact hal.writes pin listed state p
  · have same : bits p' = bits p := look_passed bits writing member
    have mode : p'.moderA = p.moderA := look_passed Ports.moderA modes member
    refine atRest_of_mask (earlier p' same) ?_
    rw [mode, outputs, BitVec.and_self]

/-- Then the pin becomes an output. While the library works on it, the port bits stay and so do the
other outputs. -/
theorem Configured.inits (hal : Hal) {done : U8} {p : Ports} (pin : U8)
    (listed : pin ∈ controlPins) (fresh : done &&& ~~~pin = done)
    (outputs : outputLines p.moderA &&& controlLines = done)
    (written : p.odrA.setWidth 8 &&& (done ||| pin) = restLevels &&& (done ||| pin)) :
    Configured (done ||| pin) (settled (hal.initOutput pin) p) ∧
      ∀ p' ∈ passed (hal.initOutput pin) p, p'.connector.AtRest := by
  let other (p : Ports) : U8 := outputLines p.moderA &&& ~~~pin
  have kept := hal.inits_bits pin listed
  have apart := hal.inits_others pin listed
  have lines (p' : Ports)
      (others : outputLines p'.moderA &&& ~~~pin = outputLines p.moderA &&& ~~~pin) :
      (outputLines p'.moderA &&& controlLines) &&& ~~~pin = done := by
    rw [BitVec.and_assoc, BitVec.and_comm controlLines, ← BitVec.and_assoc, others,
      BitVec.and_assoc, BitVec.and_comm (~~~pin), ← BitVec.and_assoc, outputs, fresh]
  refine ⟨⟨?_, ?_⟩, fun p' member => ?_⟩
  · have made := hal.inits pin listed p
    have own : (outputLines (settled (hal.initOutput pin) p).moderA &&& controlLines) &&& pin =
        pin := by
      rw [BitVec.and_assoc, BitVec.and_comm controlLines, (controlLines_of_mem listed).1, made]
    exact eq_or_of_parts (lines _ (look_settled other apart)) own
  · have same : (settled (hal.initOutput pin) p).odrA = p.odrA := look_settled Ports.odrA kept
    rw [same]
    exact written
  · have same : p'.odrA = p.odrA := look_passed Ports.odrA kept member
    have left := lines p' (look_passed other apart member)
    refine atRest_of_mask ?_ (and_or_eq_self (left.trans fresh.symm))
    rw [same]
    exact written

/-- One more line is configured, with its rest level. -/
theorem Configured.next (hal : Hal) {done : U8} {p : Ports} (pin : U8) (state : Bool)
    (listed : pin ∈ controlPins) (fresh : done &&& ~~~pin = done)
    (level : restLevels &&& pin = if state then pin else 0) (configured : Configured done p) :
    Configured (done ||| pin) (settled (configureOutput hal pin state) p) ∧
      ∀ p' ∈ passed (configureOutput hal pin state) p, p'.connector.AtRest := by
  obtain ⟨modes, written, early⟩ := Configured.written hal pin state listed fresh level configured
  have outputs := configured.1
  rw [← modes] at outputs
  obtain ⟨done, late⟩ := Configured.inits hal pin listed fresh outputs written
  unfold configureOutput
  rw [settled_append, passed_append]
  refine ⟨done, fun p' member => ?_⟩
  exact (List.mem_append.mp member).elim (early p') (late p')

theorem configurePins_rests (hal : Hal) {p : Ports} (reset : p.Reset) :
    (settled (configurePins hal) p).Ready ∧
      (settled (configurePins hal) p).connector.control = restLevels ∧
      ∀ p' ∈ passed (configurePins hal) p, p'.connector.AtRest := by
  have none : Configured 0 p := by
    constructor
    · rw [reset.inputs]
      decide
    · apply eq_of_lines <;> simp
  have first := none.next hal chipEnable true (by decide) (by decide) (by decide)
  have second := first.1.next hal outputEnable true (by decide) (by decide) (by decide)
  have third := second.1.next hal leastSignificantByte false (by decide) (by decide) (by decide)
  have fourth := third.1.next hal mostSignificantByte false (by decide) (by decide) (by decide)
  have fifth := fourth.1.next hal controlRegister false (by decide) (by decide) (by decide)
  have all : 0 ||| chipEnable ||| outputEnable ||| leastSignificantByte ||| mostSignificantByte |||
      controlRegister = controlLines := by decide
  rw [all] at fifth
  unfold configurePins
  rw [settled_append, settled_append, settled_append, settled_append, settled_append]
  simp only [passed_append, List.mem_append]
  generalize settled (configureOutput hal controlRegister false) _ = q at fifth
  obtain ⟨⟨outputs, rests⟩, fifth⟩ := fifth
  -- The data lines and the analog input leave the control lines as they are.
  let lines (p : Ports) : U16 × U8 := (p.odrA, outputLines p.moderA &&& controlLines)
  have still : ∀ store ∈ rurpSetDataInput ++ configureAdc hal, ∀ p, lines (store p) = lines p := by
    intro store member p
    rcases List.mem_append.mp member with data | analog
    · simp only [rurpSetDataInput, List.mem_cons, List.not_mem_nil, or_false] at data
      rcases data with rfl | rfl <;> rfl
    · exact Prod.ext (hal.analog_bits store analog p) (hal.analog_lines store analog p)
  have control (p' : Ports) (same : lines p' = lines q) : p'.connector.control = restLevels := by
    have bits : p'.odrA = q.odrA := congrArg Prod.fst same
    unfold Ports.connector
    dsimp only
    rw [bits, rests]
    decide
  have ended : lines (settled (rurpSetDataInput ++ configureAdc hal) q) = lines q :=
    look_settled lines still
  refine ⟨(congrArg Prod.snd ended).trans outputs, control _ ended, ?_⟩
  intro p' member
  rcases member with member | member | member | member | member | member
  · exact first.2 p' member
  · exact second.2 p' member
  · exact third.2 p' member
  · exact fourth.2 p' member
  · exact fifth p' member
  · rw [← List.mem_append, ← passed_append] at member
    exact Connector.atRest_of_levels (control p' (look_passed lines still member))

end Py32f071

/-! ## From reset to service -/

/-- The registers after a reset, as far as the setup counts on them. -/
def BoardReset : (board : Board) → (boardPort board).State → Prop
  | .uno, p | .uno328pb, p => Uno.Ports.Reset p
  | .leonardo, p => Leonardo.Ports.Reset p
  | .py32f071, p => Py32f071.Ports.Reset p

/-- The stores of `rurp_board_setup` that make the control lines outputs. -/
def configurePins (hal : Py32f071.Hal) : (board : Board) → Stores (boardPort board).State
  | .uno | .uno328pb => Uno.configurePins
  | .leonardo => Leonardo.configurePins
  | .py32f071 => Py32f071.configurePins hal

variable {env : Env} {b : Build} {w w' : World}

/-- Then no line has been driven away from its rest level, and the board serves the model's power-up
state. -/
theorem configurePins_rests (hal : Py32f071.Hal) {s : (boardPort b.board).State}
    (reset : BoardReset b.board s) (fresh : w.PoweredUp) :
    (boardPort b.board).Serves (settled (configurePins hal b.board) s) false false w.pins ∧
      ∀ c ∈ (boardPort b.board).shows (configurePins hal b.board) s, c.AtRest := by
  have levels : w.pins.control = restLevels := by
    have high : w.pins.control = chipLevels true true := by
      rw [fresh]
      rfl
    rw [high]
    decide
  obtain ⟨board, devTools⟩ := b
  dsimp only at s reset ⊢
  cases board with
  | uno =>
    obtain ⟨ready, serial, control, rests⟩ := Uno.configurePins_rests reset
    refine ⟨⟨ready, serial, control.trans levels.symm, nofun⟩, ?_⟩
    exact List.forall_mem_map.mpr rests
  | uno328pb =>
    obtain ⟨ready, serial, control, rests⟩ := Uno.configurePins_rests reset
    refine ⟨⟨ready, serial, control.trans levels.symm, nofun⟩, ?_⟩
    exact List.forall_mem_map.mpr rests
  | leonardo =>
    obtain ⟨ready, control, rests⟩ := Leonardo.configurePins_rests reset
    refine ⟨⟨ready, rfl, control.trans levels.symm, nofun⟩, ?_⟩
    exact List.forall_mem_map.mpr rests
  | py32f071 =>
    obtain ⟨ready, control, rests⟩ := Py32f071.configurePins_rests hal reset
    refine ⟨⟨ready, rfl, control.trans levels.symm, nofun⟩, ?_⟩
    exact List.forall_mem_map.mpr rests

/-! ## The calls that end the setup -/

/-- The chip is turned off, and the three registers are cleared; then the Uno class opens its serial
port over the data lines, and the PY32F071 lets them go. -/
def setupCalls (b : Build) : List PortCall :=
  [.setChipEnable true, .setChipOutput true, .registerWrite .leastSignificantByte 0,
    .registerWrite .mostSignificantByte 0, .registerWrite .controlRegister 0] ++
  match b.board with
  | .uno | .uno328pb => [.communicationMode]
  | .leonardo => []
  | .py32f071 => [.dataInput]

/-- All stores of `rurp_board_setup`. -/
def boardSetupStores (hal : Py32f071.Hal) (b : Build) : Stores (boardPort b.board).State :=
  configurePins hal b.board ++ (boardPort b.board).allStores b (setupCalls b)

theorem setupCalls_scheduled (b : Build) : Scheduled b false (setupCalls b) := by
  obtain ⟨board, devTools⟩ := b
  cases board <;> cases devTools <;> decide

theorem setupCalls_opens (b : Build) :
    (setupCalls b).foldl (PortCall.opens b) false = b.serialOnIo := by
  obtain ⟨board, devTools⟩ := b
  cases board <;> rfl

theorem setupCalls_settles (b : Build) :
    (setupCalls b).foldl (PortCall.settles b) false = !b.serialOnIo := by
  obtain ⟨board, devTools⟩ := b
  cases board <;> rfl

theorem setupCalls_latches (b : Build) (p : Pins) :
    (PortCall.applyAll b p (setupCalls b)).latches = ⟨0, 0, 0⟩ := by
  obtain ⟨board, devTools⟩ := b
  cases board <;> rfl

/-- The control register counts a drop of its high-voltage bits, and waits for it. -/
theorem ends_clear_control (stale : w.controlRegister ≠ 0) :
    Ends (rurpWriteToRegister controlRegister 0) env w
      (fun _ w' => w'.pins =
        (PortCall.registerWrite .controlRegister 0).apply env.build w.pins)
      (fun _ => True) := by
  show Ends (when (w.controlRegister != 0) _) env w _ _
  refine Ends.when (fun _ => ?_) fun same => absurd (by simpa using same) stale
  have timed : Within env PinsKept (when
      (w.controlRegister &&& ctrlVppRegulatorEnable > (0 : Reg) &&& ctrlVppRegulatorEnable) do
        let now ← millis
        update fun w => { w with regulatorOffMs := now }) := by
    have (passed : Nat) := PinsKept.update env (fun w => { w with now := w.now + passed })
      fun _ => rfl
    have (now : U32) := PinsKept.update env (fun w => { w with regulatorOffMs := now })
      fun _ => rfl
    unfold millis
    infer_instance
  unfold writeControlRegister
  refine timed.bind_ends (fun _ w₁ same => ?_) fun _ _ => trivial
  show Ends (do
      rurpInternalWriteToRegister controlRegister
        ((physicalControl env.build w₁.hardwareRevision 0).setWidth 16)
      when _ (delayMicroseconds 4))
    env { w₁ with controlRegister := 0, trace := _ } _ _
  rw [physicalControl_zero, ends_bind]
  refine (PortCall.registerWrite .controlRegister 0).ends_program.mono (fun _ w₂ moved => ?_)
    fun _ _ => trivial
  have settles : Within env PinsKept (when
      (w.controlRegister &&& ctrlVppP1Enable > (0 : Reg) &&& ctrlVppP1Enable)
      (delayMicroseconds 4)) := inferInstance
  refine (settles.ends w₂).mono (fun _ w₃ same' => ?_) fun _ _ => trivial
  rw [Eq.trans same' moved]
  exact congrArg _ same

theorem ends_clear_lsb (stale : w.lsbAddress ≠ 0) :
    Ends (rurpWriteToRegister leastSignificantByte 0) env w
      (fun _ w' => w'.pins =
        (PortCall.registerWrite .leastSignificantByte 0).apply env.build w.pins)
      (fun _ => True) := by
  show Ends (when (w.lsbAddress != 0) _) env w _ _
  refine Ends.when (fun _ => ?_) fun same => absurd (by simpa using same) stale
  rw [ends_bind, ends_update]
  exact (PortCall.registerWrite .leastSignificantByte 0).ends_program

theorem ends_clear_msb (stale : w.msbAddress ≠ 0) :
    Ends (rurpWriteToRegister mostSignificantByte 0) env w
      (fun _ w' => w'.pins =
        (PortCall.registerWrite .mostSignificantByte 0).apply env.build w.pins)
      (fun _ => True) := by
  show Ends (when (w.msbAddress != 0) _) env w _ _
  refine Ends.when (fun _ => ?_) fun same => absurd (by simpa using same) stale
  rw [ends_bind, ends_update]
  exact (PortCall.registerWrite .mostSignificantByte 0).ends_program

/-- Registers that no cache gives for 0 are all cleared. -/
theorem ends_clears {m : Fw Unit} {Q : Unit → World → Prop} {R : World → Prop}
    (lsb : w.lsbAddress ≠ 0) (msb : w.msbAddress ≠ 0) (control : w.controlRegister ≠ 0)
    (rest : ∀ w', w'.pins = PortCall.applyAll env.build w.pins
      [.registerWrite .leastSignificantByte 0, .registerWrite .mostSignificantByte 0,
        .registerWrite .controlRegister 0] → Ends m env w' Q R) :
    Ends (do
      rurpWriteToRegister leastSignificantByte 0
      rurpWriteToRegister mostSignificantByte 0
      rurpWriteToRegister controlRegister 0
      m) env w Q R := by
  rw [ends_bind]
  refine ((ends_latch_lsb fun same => absurd same lsb).and (ends_clear_lsb lsb)).mono
    (fun _ w₁ first => ?_) fun _ cut => cut.1.elim
  rw [ends_bind]
  have stale : w₁.msbAddress ≠ 0 := by
    rw [first.1.msb]
    exact msb
  refine ((ends_latch_msb fun same => absurd same stale).and (ends_clear_msb stale)).mono
    (fun _ w₂ second => ?_) fun _ cut => cut.1.elim
  rw [ends_bind]
  have stale : w₂.controlRegister ≠ 0 := by
    rw [second.1.control, first.1.control]
    exact control
  refine ((ends_latch_control fun same => absurd same stale).and (ends_clear_control stale)).mono
    (fun _ w₃ third => rest w₃ ?_) fun _ cut => cut.1.elim
  rw [third.2, second.2, first.2]
  rfl

/-- The PY32F071 lets the data lines go before it opens its port. -/
theorem ends_releases :
    Ends (do rurpSetDataInput; rurpSerialBegin) env w
      (fun _ w' => w'.pins = PortCall.dataInput.apply env.build w.pins)
      (fun w' => w'.pins = PortCall.dataInput.apply env.build w.pins) := by
  have opens : Within env PinsKept rurpSerialBegin := by
    unfold rurpSerialBegin whileLoop
    infer_instance
  rw [ends_bind]
  refine PortCall.ends_dataInput.mono (fun _ w₁ moved => ?_) fun _ => False.elim
  refine (opens.ends w₁).mono (fun _ w₂ same => ?_) fun w₂ same => ?_
  · exact Eq.trans same moved
  · exact Eq.trans same moved

/-- The model's setup makes these calls: after a reset no cache holds what is written. -/
theorem ends_setupCalls (fresh : w.PoweredUp) :
    Ends rurpBoardSetup env w
      (fun _ w' => w'.pins = PortCall.applyAll env.build w.pins (setupCalls env.build))
      (fun w' => w'.pins = PortCall.applyAll env.build w.pins (setupCalls env.build)) := by
  obtain ⟨lsb, msb, control⟩ : w.lsbAddress ≠ 0 ∧ w.msbAddress ≠ 0 ∧ w.controlRegister ≠ 0 := by
    rw [fresh]
    exact ⟨show (0xFF : U8) ≠ 0 by decide, show (0xFF : U8) ≠ 0 by decide,
      show (0xFF : Reg) ≠ 0 by decide⟩
  unfold rurpBoardSetup
  rw [ends_bind, ends_build]
  refine @ends_clears env { w with chipEnable := true, outputEnable := true } _ _ _ lsb msb control
    fun w₁ cleared => ?_
  unfold setupCalls PortCall.applyAll whileLoop
  rw [List.foldl_append]
  have cleared : w₁.pins = List.foldl (fun p call => PortCall.apply env.build call p) w.pins
      [.setChipEnable true, .setChipOutput true, .registerWrite .leastSignificantByte 0,
        .registerWrite .mostSignificantByte 0, .registerWrite .controlRegister 0] := cleared
  rw [← cleared]
  cases env.build.board with
  | uno => exact (inferInstance : Within env PinsKept rurpSetCommunicationMode).ends w₁
  | uno328pb => exact (inferInstance : Within env PinsKept rurpSetCommunicationMode).ends w₁
  | leonardo => exact (inferInstance : Within env PinsKept (_ >>= fun _ => delay 1)).ends w₁
  | py32f071 => exact ends_releases

/-! ## The whole setup -/

/-- The chip is off: no chip line is driven low. -/
def Connector.ChipOff (c : Connector) : Prop :=
  ∀ line ∈ chipLines, c.controlOutputs &&& line = 0 ∨ c.level line = true

theorem chipLines_rest : ∀ line ∈ chipLines, restLevels &&& line = line ∧ line ≠ 0 := by decide

theorem Connector.AtRest.chipOff {c : Connector} (rests : c.AtRest) : c.ChipOff := by
  intro line listed
  obtain ⟨high, -⟩ := chipLines_rest line listed
  by_cases low : c.control &&& line = 0
  · left
    have same := congrArg (· &&& line) rests
    simp only [BitVec.and_assoc, BitVec.and_comm c.controlOutputs] at same
    rw [← BitVec.and_assoc, ← BitVec.and_assoc, low, high, BitVec.and_comm line] at same
    simpa using same.symm
  · right
    simpa [Connector.level] using low

namespace PortCall

/-- The call does not pull a chip line down. -/
def raises : PortCall → Bool
  | setChipEnable state | setChipOutput state => state
  | _ => true

theorem apply_level (b : Build) {call : PortCall} {p : Pins} (raising : call.raises = true)
    (high : p.chipEnable = true ∧ p.outputEnable = true) :
    (call.apply b p).chipEnable = true ∧ (call.apply b p).outputEnable = true := by
  cases call with
  | setChipEnable state => exact ⟨raising, high.2⟩
  | setChipOutput state => exact ⟨high.1, raising⟩
  | _ => exact high

theorem applyAll_level (b : Build) {calls : List PortCall} {p : Pins}
    (raising : ∀ call ∈ calls, call.raises = true)
    (high : p.chipEnable = true ∧ p.outputEnable = true) :
    (applyAll b p calls).chipEnable = true ∧ (applyAll b p calls).outputEnable = true := by
  induction calls generalizing p with
  | nil => exact high
  | cons call calls ih =>
    have first := apply_level b (raising call List.mem_cons_self) high
    exact ih (fun call member => raising call (List.mem_cons_of_mem _ member)) first

end PortCall

theorem setupCalls_raise (b : Build) : ∀ call ∈ setupCalls b, call.raises = true := by
  obtain ⟨board, devTools⟩ := b
  cases board <;> cases devTools <;> decide

theorem Pins.level_of_high {p : Pins} (high : p.chipEnable = true ∧ p.outputEnable = true) :
    ∀ line ∈ chipLines, p.level line = true := by
  have control : p.control = restLevels := by
    unfold Pins.control
    rw [high.1, high.2]
    decide
  intro line listed
  obtain ⟨same, some⟩ := chipLines_rest line listed
  unfold Pins.level
  rw [control, same]
  simpa using some

/-- Every store is one of some call's. -/
theorem BoardPort.mem_shows_allStores {port : BoardPort} {calls : List PortCall} {s : port.State}
    {c : Connector} (member : c ∈ port.shows (port.allStores b calls) s) :
    ∃ done call rest, calls = done ++ call :: rest ∧
      c ∈ port.shows (port.stores b call) (settled (port.allStores b done) s) := by
  induction calls generalizing s with
  | nil => cases member
  | cons call calls ih =>
    have split : port.allStores b (call :: calls) = port.stores b call ++ port.allStores b calls :=
      rfl
    rw [split, BoardPort.shows_append] at member
    rcases List.mem_append.mp member with first | later
    · exact ⟨[], call, calls, rfl, first⟩
    · obtain ⟨done, next, rest, rfl, shown⟩ := ih later
      refine ⟨call :: done, next, rest, rfl, ?_⟩
      have split : port.allStores b (call :: done) = port.stores b call ++ port.allStores b done :=
        rfl
      rwa [split, settled_append]

/-- Calls that pull no chip line down leave the chip off at every store. -/
theorem BoardPort.InStep.chipOff {port : BoardPort} {s : port.State} {p : Pins}
    {calls : List PortCall} (steps : port.InStep b s p calls)
    (raising : ∀ call ∈ calls, call.raises = true)
    (high : p.chipEnable = true ∧ p.outputEnable = true) :
    ∀ c ∈ port.shows (port.allStores b calls) s, c.ChipOff := by
  intro c member
  obtain ⟨done, call, rest, rfl, shown⟩ := BoardPort.mem_shows_allStores member
  have before := PortCall.applyAll_level b
    (fun call member => raising call (List.mem_append_left _ member)) high
  have after : (PortCall.applyAll b p (done ++ [call])).chipEnable = true ∧
      (PortCall.applyAll b p (done ++ [call])).outputEnable = true := by
    refine PortCall.applyAll_level b (fun next member => raising next ?_) high
    rw [List.append_cons]
    exact List.mem_append_left _ member
  intro line listed
  right
  rcases (steps.lines done call rest rfl c shown).lines line listed with same | same
  · exact same.trans (Pins.level_of_high before line listed)
  · exact same.trans (Pins.level_of_high after line listed)

/-- From a reset to the end of the board's setup. No control line is driven away from its rest level
before the control lines are outputs; from there on the board goes through the calls in step with
the model, the chip is off at every store of the setup, and in the end the board serves what the
model's setup leaves, with the three latches clear. They are clear while a board waits for its
host, too. -/
theorem board_setup_rests (hal : Py32f071.Hal) {s : (boardPort env.build.board).State}
    (reset : BoardReset env.build.board s) (fresh : w.PoweredUp) :
    (∀ c ∈ (boardPort env.build.board).shows (configurePins hal env.build.board) s, c.AtRest) ∧
    (boardPort env.build.board).InStep env.build (settled (configurePins hal env.build.board) s)
      w.pins (setupCalls env.build) ∧
    (∀ c ∈ (boardPort env.build.board).shows (boardSetupStores hal env.build) s, c.ChipOff) ∧
    Ends rurpBoardSetup env w (fun _ w' =>
      (boardPort env.build.board).Serves (settled (boardSetupStores hal env.build) s)
        env.build.serialOnIo (!env.build.serialOnIo) w'.pins ∧
      w'.latches = ⟨0, 0, 0⟩ ∧
      ∀ seen : List (Connector × U8),
        seen.map Prod.fst = (boardPort env.build.board).shows
          ((boardPort env.build.board).allStores env.build (setupCalls env.build))
          (settled (configurePins hal env.build.board) s) →
        w.latches.following seen = w'.latches)
      (fun w' => w'.latches = ⟨0, 0, 0⟩) := by
  have faithful := boardPort_faithful env.build
  have scheduled := setupCalls_scheduled env.build
  obtain ⟨serves, rests⟩ := configurePins_rests hal reset fresh
  have steps := inStep_calls faithful scheduled serves
  obtain ⟨served, goes⟩ := serves_calls faithful scheduled serves
  rw [setupCalls_opens, setupCalls_settles] at served
  have high : w.pins.chipEnable = true ∧ w.pins.outputEnable = true := by
    rw [fresh]
    exact ⟨rfl, rfl⟩
  have clear {w' : World}
      (same : w'.pins = PortCall.applyAll env.build w.pins (setupCalls env.build)) :
      w'.latches = ⟨0, 0, 0⟩ := by
    have latches : w'.latches = w'.pins.latches := rfl
    rw [latches, same, setupCalls_latches]
  refine ⟨rests, steps, ?_, ?_⟩
  · intro c member
    unfold boardSetupStores at member
    rw [BoardPort.shows_append] at member
    rcases List.mem_append.mp member with early | late
    · exact (rests c early).chipOff
    · exact steps.chipOff (setupCalls_raise env.build) high c late
  · refine (ends_setupCalls fresh).mono (fun _ w' same => ⟨?_, clear same, ?_⟩) fun w' => clear
    · unfold boardSetupStores
      rw [settled_append, same]
      exact served
    · have latches : w'.latches = w'.pins.latches := rfl
      rw [latches, same]
      exact goes

namespace Py32f071

/-- The number of a control line's pin. -/
def pinNumber (pin : U8) : Nat :=
  if pin = leastSignificantByte then 0
  else if pin = mostSignificantByte then 1
  else if pin = outputEnable then 2
  else if pin = controlRegister then 3
  else 5

/-- The two mode bits of one pin are written, the others stay. -/
theorem isOutput_store (moder : U32) {k i : Nat} (line : i < 8) :
    isOutput (moder &&& ~~~((3 : U32) <<< (2 * k)) ||| (1 : U32) <<< (2 * k)) i =
      (decide (i = k) || isOutput moder i) := by
  have low : 2 * i < 32 := by omega
  have high : 2 * i + 1 < 32 := by omega
  have one (j : Nat) : (1 : U32).getLsbD j = decide (j = 0) := by
    simp
  have three (j : Nat) : (3 : U32).getLsbD j = decide (j < 2) := by
    rcases Nat.lt_or_ge j 2 with small | large
    · interval_cases j <;> rfl
    · have power : (3 : U32).toNat < 2 ^ j :=
        Nat.lt_of_lt_of_le (by decide) (Nat.pow_le_pow_right (by decide) large)
      rw [decide_eq_false (by omega)]
      exact Nat.testBit_lt_two_pow power
  unfold isOutput
  simp only [BitVec.getLsbD_or, BitVec.getLsbD_and, BitVec.getLsbD_not, BitVec.getLsbD_shiftLeft,
    one, three, low, high, decide_true, Bool.true_and]
  rcases Nat.lt_trichotomy i k with less | rfl | more
  · have lowest : 2 * i < 2 * k := by omega
    have above : 2 * i + 1 < 2 * k := by omega
    have other : i ≠ k := by omega
    simp [lowest, above, other]
  · simp
  · have lowest : ¬ 2 * i < 2 * k := by omega
    have above : ¬ 2 * i + 1 < 2 * k := by omega
    have far : ¬ 2 * i - 2 * k < 2 := by omega
    have farther : ¬ 2 * i + 1 - 2 * k < 2 := by omega
    have some : 2 * i - 2 * k ≠ 0 := by omega
    have more : 2 * i + 1 - 2 * k ≠ 0 := by omega
    have other : i ≠ k := by omega
    simp [lowest, above, other, far, farther, some, more]

theorem pinNumber_bit : ∀ pin ∈ controlPins, ∀ i (small : i < 8),
    decide (i = pinNumber pin) = pin[i] := by decide

/-- Storing a pin's two mode bits makes it an output and no other pin another thing. -/
theorem outputLines_store (moder : U32) {pin : U8} (listed : pin ∈ controlPins) :
    outputLines (moder &&& ~~~((3 : U32) <<< (2 * pinNumber pin)) |||
      (1 : U32) <<< (2 * pinNumber pin)) = pin ||| outputLines moder := by
  have bit (i : Nat) (small : i < 8) :
      isOutput (moder &&& ~~~((3 : U32) <<< (2 * pinNumber pin)) |||
        (1 : U32) <<< (2 * pinNumber pin)) i = (pin[i] || isOutput moder i) := by
    rw [isOutput_store _ small, pinNumber_bit pin listed i small]
  apply lines_eq <;> rw [bit _ (by decide)] <;> simp [outputLines, getElem_lines]

/-- A pin's two mode bits are 11 for an analog input; pin 4 is no control line. -/
theorem outputLines_analog (moder : U32) :
    outputLines (moder ||| (3 : U32) <<< 8) &&& controlLines =
      outputLines moder &&& controlLines := by
  apply eq_of_lines <;> simp [outputLines, getElem_lines, isOutput, controlLines_eq]

/-- A library that makes one store in each call: to `BSRR`, or to the two mode bits of the pin. -/
def Hal.plain : Hal where
  writePin pin state := [fun p => { p with
    odrA := bsrr p.odrA (if state then (pin.setWidth 16).setWidth 32
      else (pin.setWidth 16).setWidth 32 <<< 16) }]
  initOutput pin := [fun p => { p with
    moderA := p.moderA &&& ~~~((3 : U32) <<< (2 * pinNumber pin)) |||
      (1 : U32) <<< (2 * pinNumber pin) }]
  initAnalog := [fun p => { p with moderA := p.moderA ||| (3 : U32) <<< 8 }]
  writes pin _ state p := by
    rw [settled_cons, settled_nil]
    dsimp only
    rw [bsrr_setWidth]
    apply BitVec.eq_of_getElem_eq
    intro i small
    cases state
    · simp
    · simpa using Or.inr
  writes_others pin _ state store stored p := by
    rw [List.mem_singleton.mp stored]
    dsimp only
    rw [bsrr_setWidth]
    apply BitVec.eq_of_getElem_eq
    intro i small
    cases state
    all_goals
      simp only [Bool.false_eq_true, if_false, if_true, BitVec.getElem_and, BitVec.getElem_or,
        BitVec.getElem_not]
      cases pin[i] <;> simp
  writes_modes pin listed state store stored p := by
    rw [List.mem_singleton.mp stored]
  inits pin listed p := by
    rw [settled_cons, settled_nil]
    dsimp only
    rw [outputLines_store _ listed]
    apply BitVec.eq_of_getElem_eq
    intro i small
    simp only [BitVec.getElem_and, BitVec.getElem_or]
    cases pin[i] <;> simp
  inits_others pin listed store stored p := by
    rw [List.mem_singleton.mp stored]
    dsimp only
    rw [outputLines_store _ listed]
    apply BitVec.eq_of_getElem_eq
    intro i small
    simp only [BitVec.getElem_and, BitVec.getElem_or, BitVec.getElem_not]
    cases pin[i] <;> simp
  inits_bits pin listed store stored p := by
    rw [List.mem_singleton.mp stored]
  analog_lines store stored p := by
    rw [List.mem_singleton.mp stored]
    exact outputLines_analog p.moderA
  analog_bits store stored p := by
    rw [List.mem_singleton.mp stored]

/-- All port bits are set at reset, and no pin is an output. -/
def Ports.allSet : Ports := ⟨0xFFFF, 0xFFFFFFFF, 0xFFFF, 0xFFFFFFFF, 0, 0⟩

end Py32f071

theorem board_setup_rests_py32f071 :
    (∀ c ∈ Py32f071.port.shows (Py32f071.configurePins .plain) .allSet, c.AtRest) ∧
    (∀ c ∈ Py32f071.port.shows (boardSetupStores .plain ⟨.py32f071, false⟩) .allSet, c.ChipOff) ∧
    Ends rurpBoardSetup (Env.still ⟨.py32f071, false⟩ 1) World.blank
      (fun _ w' => Py32f071.port.Serves
          (settled (boardSetupStores .plain ⟨.py32f071, false⟩) .allSet) false true w'.pins ∧
        w'.latches = ⟨0, 0, 0⟩)
      (fun w' => w'.latches = ⟨0, 0, 0⟩) := by
  have reset : BoardReset .py32f071 Py32f071.Ports.allSet := ⟨by decide⟩
  obtain ⟨rests, -, off, ends⟩ := @board_setup_rests (Env.still ⟨.py32f071, false⟩ 1) World.blank
    .plain _ reset World.blank_poweredUp
  exact ⟨rests, off, ends.mono (fun _ _ both => ⟨both.1, both.2.1⟩) fun _ => id⟩

end Firestarter
