import Firestarter.BoardFaithful

/-! The shield's functions on the boards refine the ones of the model. The model moves a few named
lines and three latches at once; a board makes many stores, and the latches of the shield are open
while their strobe is high. Whatever calls the firmware makes, board and model agree when they are
done, and at every store of a call the latches and the chip lines are as the model has them before
that call or after it. -/
namespace Firestarter

open Interactive Interactive.Prog StoreSequence

set_option synthInstance.maxSize 4000

/-! ## The lines of the model -/

/-- What the shield and the chip see of the model's world. -/
structure Pins where
  chipEnable : Bool
  outputEnable : Bool
  dataOutput : Bool
  dataBus : U8
  latches : Latches
  deriving DecidableEq

def World.pins (w : World) : Pins :=
  ⟨w.chipEnable, w.outputEnable, w.dataOutput, w.dataBus, w.latches⟩

/-- The three latches. -/
inductive Register where
  | leastSignificantByte | mostSignificantByte | controlRegister
  deriving DecidableEq, Repr

def Register.strobe : Register → U8
  | .leastSignificantByte => Firestarter.leastSignificantByte
  | .mostSignificantByte => Firestarter.mostSignificantByte
  | .controlRegister => Firestarter.controlRegister

/-- The calls by which the firmware reaches the ports. -/
inductive PortCall where
  | registerWrite (reg : Register) (data : Reg)
  | setChipEnable (state : Bool)
  | setChipOutput (state : Bool)
  | dataOutput
  | dataInput
  | writeData (data : U8)
  | programmerMode
  | communicationMode
  deriving DecidableEq, Repr

namespace PortCall

/-- What the firmware runs. -/
def program : PortCall → Fw Unit
  | registerWrite reg data => rurpInternalWriteToRegister reg.strobe data
  | setChipEnable state => rurpSetControlPin chipEnable state
  | setChipOutput state => rurpSetControlPin outputEnable state
  | dataOutput => rurpSetDataOutput
  | dataInput => rurpSetDataInput
  | writeData data => rurpWriteDataBuffer data
  | programmerMode => rurpSetProgrammerMode
  | communicationMode => rurpSetCommunicationMode

/-- What it does to the lines. -/
def apply (b : Build) : PortCall → Pins → Pins
  | registerWrite reg data, p =>
    { p with
      dataOutput := true
      dataBus := data.setWidth 8
      latches := p.latches.taking reg.strobe (data.setWidth 8) }
  | setChipEnable state, p => { p with chipEnable := state }
  | setChipOutput state, p => { p with outputEnable := state }
  | dataOutput, p => { p with dataOutput := true }
  | dataInput, p =>
    { p with dataOutput := false, dataBus := if b.board = .py32f071 then p.dataBus else 0 }
  | writeData data, p => { p with dataOutput := true, dataBus := data }
  | programmerMode, p => p
  | communicationMode, p => p

end PortCall

/-- One call after another. -/
def runCalls : List PortCall → Fw Unit
  | [] => pure ()
  | call :: calls => do
    call.program
    runCalls calls

/-! ## The model moves the lines as said -/

/-- The lines stay as they are. -/
def PinsKept (s s' : World) : Prop := s'.pins = s.pins

instance : IsPreorder World PinsKept where
  refl _ := rfl
  trans _ _ _ first rest := Eq.trans rest first

variable {env : Env} {w w' : World}

theorem PinsKept.update (env : Env) (f : World → World) (same : ∀ w, (f w).pins = w.pins) :
    Within env PinsKept (update f : Fw Unit) := Within.update f same

instance {α : Type} (question : Env → World → α) : Within env PinsKept (ask question) := by
  have := PinsKept.update env (fun w => { w with asked := w.asked + 1 }) fun _ => rfl
  unfold ask
  infer_instance

instance : Within env PinsKept build := by
  unfold build
  infer_instance

instance (e : Event) : Within env PinsKept (note e) := PinsKept.update env _ fun _ => rfl

instance (ms : U32) : Within env PinsKept (delay ms) := by
  have (passed : Nat) := PinsKept.update env
    (fun w => { w with now := w.now + ms.toNat + passed }) fun _ => rfl
  unfold delay
  infer_instance

instance (us : U16) : Within env PinsKept (delayMicroseconds us) := by
  unfold delayMicroseconds
  infer_instance

instance : Within env PinsKept receive := by
  have (bytes : List U8) := PinsKept.update env (fun w => { w with rx := w.rx ++ bytes })
    fun _ => rfl
  unfold receive
  infer_instance

instance (id : U8) (params : List U8) :
    Within env PinsKept (firestarterEmitFrameWide id params) := by
  unfold firestarterEmitFrameWide
  infer_instance

instance : Within env PinsKept flushDeferredLog := by
  have := PinsKept.update env (fun w => { w with deferredLog := [] }) fun _ => rfl
  unfold flushDeferredLog
  infer_instance

instance : Within env PinsKept rurpCommunicationRead := by
  have := PinsKept.update env (fun w => { w with rx := w.rx.tail }) fun _ => rfl
  unfold rurpCommunicationRead
  infer_instance

instance : Within env PinsKept rurpSetProgrammerMode := by
  have := PinsKept.update env (fun w => { w with comMode := false }) fun _ => rfl
  have := PinsKept.update env (fun w => { w with rx := [] }) fun _ => rfl
  unfold rurpSetProgrammerMode rurpSerialEnd
  infer_instance

instance : Within env PinsKept rurpSetCommunicationMode := by
  have := PinsKept.update env (fun w => { w with comMode := true }) fun _ => rfl
  unfold rurpSetCommunicationMode rurpSerialBegin rurpCommunicationAvailable whileLoop
  infer_instance

theorem PortCall.ends_dataInput :
    Ends rurpSetDataInput env w
      (fun _ w' => w'.pins = PortCall.dataInput.apply env.build w.pins) (fun _ => False) := by
  simp only [apply, rurpSetDataInput, ends_bind, ends_build, ends_update, World.pins, beq_iff_eq]

/-- Each call does to the model's lines what is said of it. -/
theorem PortCall.ends_program (call : PortCall) :
    Ends call.program env w (fun _ w' => w'.pins = call.apply env.build w.pins)
      (fun _ => True) := by
  cases call with
  | registerWrite reg data =>
    simp only [program, apply, rurpInternalWriteToRegister, ends_bind, ends_build, ends_when,
      rurpWriteDataBuffer, rurpSetDataOutput, ends_update, rurpSetControlPin, delayMicroseconds,
      delay, ask, ends_look, ends_outside, ends_pure]
    cases reg <;> split <;> rfl
  | setChipEnable state => exact rfl
  | setChipOutput state => exact rfl
  | dataOutput => exact rfl
  | dataInput => exact PortCall.ends_dataInput.mono (fun _ _ => id) fun _ => False.elim
  | writeData data => exact rfl
  | programmerMode =>
    have within : Within env PinsKept rurpSetProgrammerMode := inferInstance
    exact (within.ends w).mono (fun _ _ kept => kept) fun _ _ => trivial
  | communicationMode =>
    have within : Within env PinsKept rurpSetCommunicationMode := inferInstance
    exact (within.ends w).mono (fun _ _ kept => kept) fun _ _ => trivial

/-! ## The boards make their stores -/

namespace BoardPort

/-- `rurp_internal_write_to_register`; the Uno class clears its bus before the upper address byte. -/
def rurpInternalWriteToRegister (port : BoardPort) (b : Build) (reg : U8) (data : Reg) :
    Stores port.State :=
  (if b.serialOnIo && reg == mostSignificantByte then port.rurpWriteDataBuffer 0 else []) ++
    (port.rurpWriteDataBuffer (data.setWidth 8) ++
      (port.rurpSetControlPin reg true ++ port.rurpSetControlPin reg false))

/-- The stores of a call. -/
def stores (port : BoardPort) (b : Build) : PortCall → Stores port.State
  | .registerWrite reg data => port.rurpInternalWriteToRegister b reg.strobe data
  | .setChipEnable state => port.rurpSetControlPin chipEnable state
  | .setChipOutput state => port.rurpSetControlPin outputEnable state
  | .dataOutput => port.rurpSetDataOutput
  | .dataInput => port.rurpSetDataInput
  | .writeData data => port.rurpWriteDataBuffer data
  | .programmerMode => port.rurpSetProgrammerMode
  | .communicationMode => port.rurpSetCommunicationMode

/-- All stores of a list of calls. -/
def allStores (port : BoardPort) (b : Build) (calls : List PortCall) : Stores port.State :=
  calls.flatMap (port.stores b)

/-- What the shield sees meanwhile. -/
def shows (port : BoardPort) (stores : Stores port.State) (s : port.State) : List Connector :=
  (passed stores s).map port.connector

end BoardPort

/-! ## Control lines -/

/-- The control port between two register writes: the strobes are low. -/
def chipLevels (chip output : Bool) : U8 :=
  (if chip then chipEnable else 0) ||| if output then outputEnable else 0

theorem chipLevels_chipEnable : ∀ chip output state, chipLevels state output =
    if state then chipLevels chip output ||| chipEnable
    else chipLevels chip output &&& ~~~chipEnable := by decide

theorem chipLevels_outputEnable : ∀ chip output state, chipLevels chip state =
    if state then chipLevels chip output ||| outputEnable
    else chipLevels chip output &&& ~~~outputEnable := by decide

theorem chipLevels_strobe :
    ∀ strobe ∈ strobes, ∀ chip output, chipLevels chip output &&& strobe = 0 := by decide

theorem chipLevels_strobed : ∀ strobe ∈ strobes, ∀ chip output,
    (chipLevels chip output ||| strobe) &&& ~~~strobe = chipLevels chip output := by decide

def Pins.control (p : Pins) : U8 := chipLevels p.chipEnable p.outputEnable

def Pins.level (p : Pins) (line : U8) : Bool := p.control &&& line != 0

theorem mem_controlPins_of_strobe : ∀ strobe ∈ strobes, strobe ∈ controlPins := by decide

theorem mem_controlPins_of_chip : ∀ pin ∈ chipLines, pin ∈ controlPins := by decide

theorem chip_ne_strobe : ∀ pin ∈ chipLines, ∀ strobe ∈ strobes, pin ≠ strobe := by decide

theorem controlPin_ne_zero : ∀ pin ∈ controlPins, pin ≠ 0 := by decide

/-- Every line has a bit of its own. -/
theorem controlPins_apart :
    ∀ pin ∈ controlPins, ∀ line ∈ controlPins, pin ≠ line → pin &&& line = 0 := by decide

namespace Connector

variable {c : Connector} {pin line : U8}

theorem level_switched_self (c : Connector) (state : Bool) (some : pin ≠ 0) :
    (c.switched pin state).level pin = state := by
  cases state
  · have clear : c.control &&& ~~~pin &&& pin = 0 := by
      apply BitVec.eq_of_getElem_eq
      intro i small
      simp
    simp [switched, level, clear]
  · have set : (c.control ||| pin) &&& pin = pin := by
      apply BitVec.eq_of_getElem_eq
      intro i small
      simpa using Or.inr
    simpa [switched, level, set] using some

theorem level_switched_other {other : U8} (c : Connector) (state : Bool)
    (apart : pin &&& other = 0) : (c.switched pin state).level other = c.level other := by
  have bits (i : Nat) (small : i < 8) : pin[i] = true → other[i] = false := by
    have bit := congrArg (fun b : U8 => b[i]) apart
    simpa using bit
  have same : (if state then c.control ||| pin else c.control &&& ~~~pin) &&& other =
      c.control &&& other := by
    apply BitVec.eq_of_getElem_eq
    intro i small
    have bit := bits i small
    cases state
    · simp only [Bool.false_eq_true, if_false, BitVec.getElem_and, BitVec.getElem_not]
      revert bit
      cases pin[i] <;> cases other[i] <;> simp
    · simp only [if_true, BitVec.getElem_and, BitVec.getElem_or]
      revert bit
      cases pin[i] <;> cases other[i] <;> simp
  unfold level switched
  rw [same]

end Connector

/-! ## The latches of the shield -/

/-- Each latch is open while its strobe is high. The lines that the board does not drive have any
level they like. -/
def Latches.following (l : Latches) (seen : List (Connector × U8)) : Latches where
  lsb := held (fun o => o.1.level leastSignificantByte) (fun o => o.1.bus o.2) l.lsb seen
  msb := held (fun o => o.1.level mostSignificantByte) (fun o => o.1.bus o.2) l.msb seen
  control := held (fun o => o.1.level controlRegister) (fun o => o.1.bus o.2) l.control seen

theorem Latches.following_append (l : Latches) (seen later : List (Connector × U8)) :
    l.following (seen ++ later) = (l.following seen).following later := by
  simp [following]

/-- Wherever the other lines go meanwhile, the latches go from one value to another. -/
def Latches.Goes (before : Latches) (shown : List Connector) (after : Latches) : Prop :=
  ∀ seen : List (Connector × U8), seen.map Prod.fst = shown → before.following seen = after

/-- And they have no third value on the way. -/
structure Latches.Turns (before : Latches) (shown : List Connector) (after : Latches) : Prop where
  goes : before.Goes shown after
  through : ∀ seen : List (Connector × U8), seen.map Prod.fst <+: shown →
    before.following seen = before ∨ before.following seen = after

namespace Latches

variable {l before between after : Latches} {shown more : List Connector}
  {seen : List (Connector × U8)}

theorem Goes.append (first : before.Goes shown between) (second : between.Goes more after) :
    before.Goes (shown ++ more) after := by
  intro seen split
  obtain ⟨early, late, rfl, early_eq, late_eq⟩ := List.map_eq_append_iff.mp split
  rw [following_append, first early early_eq, second late late_eq]

/-- Before they turn they may have been shown other things. -/
theorem Turns.after_still (still : before.Turns shown before) (turns : before.Turns more after) :
    before.Turns (shown ++ more) after where
  goes := still.goes.append turns.goes
  through seen early := by
    obtain ⟨rest, split⟩ := early
    rcases List.append_eq_append_iff.mp split with ⟨rest, whole, -⟩ | ⟨late, first, second⟩
    · left
      rcases still.through seen ⟨rest, whole.symm⟩ with same | same <;> exact same
    · obtain ⟨early, now, rfl, early_eq, now_eq⟩ := List.map_eq_append_iff.mp first
      rw [following_append, still.goes early early_eq]
      exact turns.through now ⟨rest, now_eq ▸ second.symm⟩

/-- With all strobes low nothing is taken. -/
theorem following_of_closed
    (closed : ∀ o ∈ seen, ∀ strobe ∈ strobes, o.1.level strobe = false) :
    l.following seen = l := by
  have keeps (strobe b : U8) (listed : strobe ∈ strobes) :
      held (fun o => o.1.level strobe) (fun o => o.1.bus o.2) b seen = b :=
    held_of_closed fun o member => closed o member strobe listed
  unfold following
  rw [keeps _ _ (by simp [strobes]), keeps _ _ (by simp [strobes]), keeps _ _ (by simp [strobes])]

/-- The board drives one byte all along and opens no latch but one, which takes that byte. -/
theorem following_of_opened {strobe data : U8} (listed : strobe ∈ strobes)
    (driven : ∀ o ∈ seen, o.1.data = data ∧ o.1.dataOutputs = 0xFF)
    (others : ∀ o ∈ seen, ∀ line ∈ strobes, strobe &&& line = 0 → o.1.level line = false)
    (opened : ∃ o ∈ seen, o.1.level strobe = true) :
    l.following seen = l.taking strobe data := by
  have steady (o : Connector × U8) (member : o ∈ seen) : o.1.bus o.2 = data := by
    obtain ⟨byte, outputs⟩ := driven o member
    unfold Connector.bus lineLevels
    rw [byte, outputs]
    apply eq_of_lines <;> simp
  have takes (b : U8) :
      held (fun o => o.1.level strobe) (fun o => o.1.bus o.2) b seen = data :=
    held_of_opened (fun o member _ => steady o member) opened
  have keeps (line b : U8) (other : line ∈ strobes) (apart : strobe &&& line = 0) :
      held (fun o => o.1.level line) (fun o => o.1.bus o.2) b seen = b :=
    held_of_closed fun o member => others o member line other apart
  unfold following
  simp only [strobes, List.mem_cons, List.not_mem_nil, or_false] at listed
  rcases listed with rfl | rfl | rfl
  · rw [takes, keeps _ _ (by simp [strobes]) (by decide), keeps _ _ (by simp [strobes]) (by decide)]
    rfl
  · rw [keeps _ _ (by simp [strobes]) (by decide), takes, keeps _ _ (by simp [strobes]) (by decide)]
    rfl
  · rw [keeps _ _ (by simp [strobes]) (by decide), keeps _ _ (by simp [strobes]) (by decide), takes]
    rfl

/-- What is seen of a part of the connector's views is one of them. -/
theorem shown_of_seen (early : seen.map Prod.fst <+: shown) {o : Connector × U8}
    (member : o ∈ seen) : o.1 ∈ shown := early.subset (List.mem_map_of_mem member)

theorem turns_of_closed
    (closed : ∀ c ∈ shown, ∀ strobe ∈ strobes, c.level strobe = false) : l.Turns shown l := by
  have same (seen : List (Connector × U8)) (early : seen.map Prod.fst <+: shown) :
      l.following seen = l :=
    following_of_closed fun o member => closed o.1 (shown_of_seen early member)
  exact ⟨fun seen all => same seen (all ▸ List.prefix_rfl), fun seen early => .inl (same seen early)⟩

/-- A strobe over a steady byte: until it goes up the latch has its old value, and then the byte. -/
theorem turns_of_driven {strobe data : U8} (listed : strobe ∈ strobes)
    (driven : ∀ c ∈ shown, c.data = data ∧ c.dataOutputs = 0xFF)
    (others : ∀ c ∈ shown, ∀ line ∈ strobes, strobe ≠ line → c.level line = false)
    (opened : ∃ c ∈ shown, c.level strobe = true) : l.Turns shown (l.taking strobe data) := by
  have takes (seen : List (Connector × U8)) (early : seen.map Prod.fst <+: shown)
      (opened : ∃ o ∈ seen, o.1.level strobe = true) :
      l.following seen = l.taking strobe data := by
    refine following_of_opened listed (fun o member => driven o.1 (shown_of_seen early member))
      (fun o member line other apart => ?_) opened
    refine others o.1 (shown_of_seen early member) line other ?_
    rintro rfl
    rw [BitVec.and_self] at apart
    exact controlPin_ne_zero strobe (mem_controlPins_of_strobe strobe listed) apart
  constructor
  · intro seen all
    obtain ⟨c, shows, high⟩ := opened
    obtain ⟨o, member, rfl⟩ := List.mem_map.mp (all ▸ shows)
    exact takes seen (all ▸ List.prefix_rfl) ⟨o, member, high⟩
  · intro seen early
    by_cases opened : ∃ o ∈ seen, o.1.level strobe = true
    · exact .inr (takes seen early opened)
    · left
      apply following_of_closed
      intro o member line other
      by_cases same : strobe = line
      · subst same
        exact Bool.eq_false_iff.mpr fun high => opened ⟨o, member, high⟩
      · exact others o.1 (shown_of_seen early member) line other same

end Latches

/-! ## One call -/

/-- The board stands for the model's lines. The data lines are known from the first data call after
a change of mode on. -/
structure BoardPort.Serves (port : BoardPort) (s : port.State) (opened exact : Bool) (p : Pins) :
    Prop where
  ready : port.Ready s
  serial : port.serialOpen s = opened
  control : (port.connector s).control = p.control
  data : exact = true → (port.connector s).data = p.dataBus ∧
    (port.connector s).dataOutputs = if p.dataOutput then 0xFF else 0

namespace PortCall

/-- The calls that drive the data lines or let them go. -/
def usesData : PortCall → Bool
  | registerWrite .. | dataOutput | dataInput | writeData _ => true
  | _ => false

/-- Whether the serial port holds the shared lines afterwards. -/
def opens (b : Build) (opened : Bool) : PortCall → Bool
  | programmerMode => false
  | communicationMode => b.serialOnIo
  | _ => opened

/-- Whether the data lines are known afterwards. -/
def settles (b : Build) (exact : Bool) : PortCall → Bool
  | registerWrite .. | writeData _ => true
  | dataInput => exact || b.board != .py32f071
  | programmerMode | communicationMode => exact && !b.serialOnIo
  | _ => exact

end PortCall

/-- All control lines are driven, and each chip line has the level from before or from after. -/
structure Connector.Between (c : Connector) (p p' : Pins) : Prop where
  outputs : c.controlOutputs = controlLines
  lines : ∀ line ∈ chipLines, c.level line = p.level line ∨ c.level line = p'.level line

variable {port : BoardPort} {b : Build} {s : port.State} {opened exact : Bool} {p : Pins}

/-- What the stores of a call owe: the board serves again, and at every store the latches and the
chip lines are as they were or as they will be. -/
structure BoardPort.Tracks (port : BoardPort) (stores : Stores port.State) (s : port.State)
    (p p' : Pins) (opened exact : Bool) : Prop where
  serves : port.Serves (settled stores s) opened exact p'
  latches : p.latches.Turns (port.shows stores s) p'.latches
  lines : ∀ c ∈ port.shows stores s, c.Between p p'

theorem BoardPort.shows_append (first second : Stores port.State) (s : port.State) :
    port.shows (first ++ second) s = port.shows first s ++ port.shows second (settled first s) := by
  unfold BoardPort.shows
  rw [passed_append, List.map_append]

/-- The stores before a call's own move only the data lines. -/
theorem BoardPort.Tracks.after_data {first second : Stores port.State} {p' p'' : Pins}
    {opened' exact' : Bool} (early : port.Tracks first s p p' opened exact)
    (still : p' = { p with dataOutput := p'.dataOutput, dataBus := p'.dataBus })
    (late : port.Tracks second (settled first s) p' p'' opened' exact') :
    port.Tracks (first ++ second) s p p'' opened' exact' := by
  have latches : p'.latches = p.latches := by rw [still]
  have levels : p'.level = p.level := by rw [still]; rfl
  have first_turns := early.latches
  have second_turns := late.latches
  rw [latches] at first_turns second_turns
  constructor
  · rw [settled_append]
    exact late.serves
  · rw [BoardPort.shows_append]
    exact first_turns.after_still second_turns
  · intro c member
    rw [BoardPort.shows_append] at member
    rcases List.mem_append.mp member with first | second
    · obtain ⟨outputs, lines⟩ := early.lines c first
      refine ⟨outputs, fun line listed => .inl ?_⟩
      rcases lines line listed with same | same
      · exact same
      · exact same.trans (congrFun levels line)
    · obtain ⟨outputs, lines⟩ := late.lines c second
      rw [levels] at lines
      exact ⟨outputs, lines⟩

theorem BoardPort.Serves.strobes_low (serves : port.Serves s opened exact p) {strobe : U8}
    (listed : strobe ∈ strobes) : (port.connector s).level strobe = false := by
  have low := chipLevels_strobe strobe listed p.chipEnable p.outputEnable
  simp [Connector.level, serves.control, Pins.control, low]

theorem BoardPort.Serves.level_eq (serves : port.Serves s opened exact p) (line : U8) :
    (port.connector s).level line = p.level line := by
  unfold Connector.level Pins.level
  rw [serves.control]

/-- Stores that leave the control lines alone move no latch and no chip line. -/
theorem turns_of_leavesControl (faithful : port.Faithful b) {stores : Stores port.State}
    {p' : Pins} (serves : port.Serves s opened exact p)
    (leaves : LeavesControl port.connector port.Ready stores s) :
    p.latches.Turns (port.shows stores s) p.latches ∧
      ∀ c ∈ port.shows stores s, c.Between p p' := by
  have same (c : Connector) (member : c ∈ port.shows stores s) (line : U8) :
      c.level line = (port.connector s).level line := by
    obtain ⟨s', passes, rfl⟩ := List.mem_map.mp member
    unfold Connector.level
    rw [leaves.control s' passes]
  constructor
  · apply Latches.turns_of_closed
    intro c member strobe listed
    rw [same c member]
    exact serves.strobes_low listed
  · intro c member
    refine ⟨?_, fun line _ => .inl ((same c member line).trans (serves.level_eq line))⟩
    obtain ⟨s', passes, rfl⟩ := List.mem_map.mp member
    rw [leaves.outputs s' passes]
    exact faithful.outputs s serves.ready

theorem LeavesControl.control_settled {stores : Stores port.State}
    (leaves : LeavesControl port.connector port.Ready stores s) :
    (port.connector (settled stores s)).control = (port.connector s).control := by
  rcases settled_mem_passed stores s with same | passes
  · rw [same]
  · exact leaves.control _ passes

/-- A data call. -/
theorem SettlesData.tracks (faithful : port.Faithful b) {stores : Stores port.State}
    {data outputs : U8} {p' : Pins} {exact' : Bool} (serves : port.Serves s opened exact p)
    (settles : SettlesData port.connector port.Ready port.serialOpen stores s data outputs)
    (chip : p'.control = p.control) (latches : p'.latches = p.latches)
    (known : exact' = true → data = p'.dataBus ∧ outputs = if p'.dataOutput then 0xFF else 0) :
    port.Tracks stores s p p' false exact' := by
  obtain ⟨turns, lines⟩ := turns_of_leavesControl faithful serves settles.control
  refine ⟨⟨settles.control.ready, settles.serial, ?_, ?_⟩, ?_, lines⟩
  · rw [settles.control.control_settled, serves.control, chip]
  · intro exact
    rw [settles.data, settles.dataOutputs]
    exact known exact
  · rw [latches]
    exact turns

/-- A change of mode. -/
theorem ChangesMode.tracks (faithful : port.Faithful b) {stores : Stores port.State}
    {shares serial : Bool} (serves : port.Serves s opened exact p)
    (changes : ChangesMode port.connector port.Ready port.serialOpen stores s shares serial) :
    port.Tracks stores s p p serial (exact && !shares) := by
  obtain ⟨turns, lines⟩ := turns_of_leavesControl faithful serves changes.control
  refine ⟨⟨changes.control.ready, changes.serial, ?_, ?_⟩, turns, lines⟩
  · rw [changes.control.control_settled, serves.control]
  · intro known
    obtain ⟨exact, unshared⟩ := Bool.and_eq_true_iff.mp known
    rw [changes.unshared (by simpa using unshared)]
    exact serves.data exact

/-- A chip line. -/
theorem SwitchesPin.tracks (faithful : port.Faithful b) {stores : Stores port.State} {pin : U8}
    {state : Bool} {p' : Pins} (serves : port.Serves s opened exact p)
    (switches : SwitchesPin port.connector port.Ready port.serialOpen stores s pin state)
    (chip : pin ∈ chipLines)
    (control : p'.control = if state then p.control ||| pin else p.control &&& ~~~pin)
    (rest : p' = { p with chipEnable := p'.chipEnable, outputEnable := p'.outputEnable }) :
    port.Tracks stores s p p' opened exact := by
  have after := switches.switches.settled
  have apart (strobe : U8) (listed : strobe ∈ strobes) : pin &&& strobe = 0 :=
    controlPins_apart pin (mem_controlPins_of_chip pin chip) strobe
      (mem_controlPins_of_strobe strobe listed) (chip_ne_strobe pin chip strobe listed)
  have latches : p'.latches = p.latches := by rw [rest]
  have serves' : port.Serves (settled stores s) opened exact p' := by
    refine ⟨switches.ready, switches.serial.trans serves.serial, ?_, fun known => ?_⟩
    · rw [after, control, ← serves.control]
      rfl
    · rw [after, rest]
      exact serves.data known
  refine ⟨serves', ?_, ?_⟩
  · rw [latches]
    apply Latches.turns_of_closed
    intro c member strobe listed
    rcases switches.switches.mem member with rfl | rfl
    · exact serves.strobes_low listed
    · rw [Connector.level_switched_other _ _ (apart strobe listed)]
      exact serves.strobes_low listed
  · have outputs := faithful.outputs s serves.ready
    intro c member
    rcases switches.switches.mem member with rfl | rfl
    · exact ⟨outputs, fun line _ => .inl (serves.level_eq line)⟩
    · rw [← after]
      exact ⟨faithful.outputs _ switches.ready, fun line _ => .inr (serves'.level_eq line)⟩

/-- The strobe of a latch goes up and down again over a byte the board drives. -/
theorem tracks_strobe (faithful : port.Faithful b) {strobe data : U8}
    (serves : port.Serves s opened true p) (listed : strobe ∈ strobes)
    (byte : p.dataBus = data) (driven : p.dataOutput = true) :
    port.Tracks (port.rurpSetControlPin strobe true ++ port.rurpSetControlPin strobe false) s p
      { p with latches := p.latches.taking strobe data } opened true := by
  have pinned := mem_controlPins_of_strobe strobe listed
  have up := faithful.controlPin s strobe true serves.ready pinned
  have down := faithful.controlPin _ strobe false up.ready pinned
  have raised := up.switches.settled
  have lowered := down.switches.settled
  rw [raised] at lowered
  obtain ⟨bus, outputs⟩ := serves.data rfl
  rw [byte] at bus
  rw [driven, if_pos rfl] at outputs
  -- The connector takes two views besides the one before: the strobe up, and down again.
  have views (c : Connector)
      (member : c ∈ port.shows (port.rurpSetControlPin strobe true ++
        port.rurpSetControlPin strobe false) s) :
      c = port.connector s ∨ c = (port.connector s).switched strobe true ∨
        c = ((port.connector s).switched strobe true).switched strobe false := by
    rw [BoardPort.shows_append] at member
    rcases List.mem_append.mp member with early | late
    · exact (up.switches.mem early).imp_right .inl
    · rw [← raised]
      exact .inr (down.switches.mem late)
  have other (c : Connector)
      (member : c ∈ port.shows (port.rurpSetControlPin strobe true ++
        port.rurpSetControlPin strobe false) s) (line : U8) (control : line ∈ controlPins)
      (different : strobe ≠ line) : c.level line = (port.connector s).level line := by
    have apart := controlPins_apart strobe pinned line control different
    rcases views c member with rfl | rfl | rfl
    · rfl
    · rw [Connector.level_switched_other _ _ apart]
    · rw [Connector.level_switched_other _ _ apart, Connector.level_switched_other _ _ apart]
  refine ⟨⟨?_, ?_, ?_, fun _ => ?_⟩, ?_, ?_⟩
  · rw [settled_append]
    exact down.ready
  · rw [settled_append, down.serial, up.serial]
    exact serves.serial
  · rw [settled_append, lowered]
    have same := chipLevels_strobed strobe listed p.chipEnable p.outputEnable
    unfold Connector.switched
    rw [serves.control]
    exact same
  · rw [settled_append, lowered, driven]
    exact ⟨bus.trans byte.symm, outputs⟩
  · apply Latches.turns_of_driven listed
    · intro c member
      rcases views c member with rfl | rfl | rfl <;> exact ⟨bus, outputs⟩
    · intro c member line listed' different
      rw [other c member line (mem_controlPins_of_strobe line listed') different]
      exact serves.strobes_low listed'
    · refine ⟨(port.connector s).switched strobe true, ?_, ?_⟩
      · rw [BoardPort.shows_append]
        exact List.mem_append_left _ up.switches.last
      · exact Connector.level_switched_self _ _ (controlPin_ne_zero strobe pinned)
  · intro c member
    have all := faithful.outputs s serves.ready
    constructor
    · rcases views c member with rfl | rfl | rfl <;> exact all
    · intro line listed'
      have different : strobe ≠ line :=
        fun same => chip_ne_strobe line listed' strobe listed same.symm
      left
      rw [other c member line (mem_controlPins_of_chip line listed') different]
      exact serves.level_eq line

theorem BoardPort.Serves.closed (serves : port.Serves s opened exact p)
    (shut : opened = false) : port.serialOpen s = false := serves.serial.trans shut

theorem tracks_writeData (faithful : port.Faithful b) (serves : port.Serves s opened exact p)
    (shut : opened = false) (data : U8) :
    port.Tracks (port.rurpWriteDataBuffer data) s p { p with dataOutput := true, dataBus := data }
      false true :=
  (faithful.writeData s data serves.ready (serves.closed shut)).tracks faithful serves rfl rfl
    fun _ => ⟨rfl, rfl⟩

/-- A whole register write: the byte is on the lines before the strobe goes up. -/
theorem tracks_registerWrite (faithful : port.Faithful b) (serves : port.Serves s opened exact p)
    (shut : opened = false) {reg : U8} (listed : reg ∈ strobes) (data : Reg) :
    port.Tracks (port.rurpInternalWriteToRegister b reg data) s p
      { p with
        dataOutput := true
        dataBus := data.setWidth 8
        latches := p.latches.taking reg (data.setWidth 8) } false true := by
  have write {s : port.State} {opened exact : Bool} {p' : Pins}
      (serves : port.Serves s opened exact p') (shut : opened = false)
      (same : p' = { p with dataOutput := p'.dataOutput, dataBus := p'.dataBus }) :
      port.Tracks (port.rurpWriteDataBuffer (data.setWidth 8) ++
        (port.rurpSetControlPin reg true ++ port.rurpSetControlPin reg false)) s p'
        { p with
          dataOutput := true
          dataBus := data.setWidth 8
          latches := p.latches.taking reg (data.setWidth 8) } false true := by
    rw [same]
    rw [same] at serves
    have first := tracks_writeData faithful serves shut (data.setWidth 8)
    exact first.after_data rfl (tracks_strobe faithful first.serves listed rfl rfl)
  unfold BoardPort.rurpInternalWriteToRegister
  split
  · have cleared := tracks_writeData faithful serves shut 0
    exact cleared.after_data rfl (write cleared.serves rfl rfl)
  · exact write serves shut rfl

/-! ## Any calls -/

/-- Every call refines the model's. -/
theorem tracks_call (faithful : port.Faithful b) (serves : port.Serves s opened exact p)
    (call : PortCall) (shut : call.usesData = true → opened = false) :
    port.Tracks (port.stores b call) s p (call.apply b p) (call.opens b opened)
      (call.settles b exact) := by
  cases call with
  | registerWrite reg data =>
    have listed : reg.strobe ∈ strobes := by cases reg <;> decide
    have closed := shut rfl
    subst closed
    exact tracks_registerWrite faithful serves rfl listed data
  | setChipEnable state =>
    have switches := faithful.controlPin s chipEnable state serves.ready (by decide)
    refine switches.tracks faithful serves (by decide) ?_ rfl
    exact chipLevels_chipEnable p.chipEnable p.outputEnable state
  | setChipOutput state =>
    have switches := faithful.controlPin s outputEnable state serves.ready (by decide)
    refine switches.tracks faithful serves (by decide) ?_ rfl
    exact chipLevels_outputEnable p.chipEnable p.outputEnable state
  | dataOutput =>
    have closed := shut rfl
    subst closed
    have settles := faithful.dataOutput s serves.ready serves.serial
    exact settles.tracks faithful serves rfl rfl fun known => ⟨(serves.data known).1, rfl⟩
  | dataInput =>
    have closed := shut rfl
    subst closed
    have settles := faithful.dataInput s serves.ready serves.serial
    refine settles.tracks faithful serves rfl rfl fun known => ⟨?_, rfl⟩
    unfold PortCall.apply
    dsimp only
    split
    · rename_i py32
      unfold PortCall.settles at known
      rw [py32, bne_self_eq_false, Bool.or_false] at known
      exact (serves.data known).1
    · rfl
  | writeData data =>
    have closed := shut rfl
    subst closed
    exact tracks_writeData faithful serves rfl data
  | programmerMode =>
    exact (faithful.programmerMode s serves.ready).tracks faithful serves
  | communicationMode =>
    exact (faithful.communicationMode s serves.ready).tracks faithful serves

/-- The Uno class opens its serial port on two of the data lines: while it is open there are no data
calls. -/
def Scheduled (b : Build) : Bool → List PortCall → Prop
  | _, [] => True
  | opened, call :: calls =>
    (call.usesData = true → opened = false) ∧ Scheduled b (call.opens b opened) calls

instance Scheduled.decidable (b : Build) :
    (opened : Bool) → (calls : List PortCall) → Decidable (Scheduled b opened calls)
  | _, [] => isTrue trivial
  | opened, call :: calls =>
    have := Scheduled.decidable b (call.opens b opened) calls
    inferInstanceAs (Decidable (_ ∧ _))

theorem Scheduled.split {done rest : List PortCall}
    (scheduled : Scheduled b opened (done ++ rest)) :
    Scheduled b opened done ∧ Scheduled b (done.foldl (PortCall.opens b) opened) rest := by
  induction done generalizing opened with
  | nil => exact ⟨trivial, scheduled⟩
  | cons call done ih =>
    obtain ⟨shut, later⟩ := scheduled
    obtain ⟨first, last⟩ := ih later
    exact ⟨⟨shut, first⟩, last⟩

/-- All calls together. -/
def PortCall.applyAll (b : Build) (p : Pins) (calls : List PortCall) : Pins :=
  calls.foldl (fun p call => call.apply b p) p

theorem serves_calls (faithful : port.Faithful b) {calls : List PortCall}
    (scheduled : Scheduled b opened calls) (serves : port.Serves s opened exact p) :
    port.Serves (settled (port.allStores b calls) s) (calls.foldl (PortCall.opens b) opened)
        (calls.foldl (PortCall.settles b) exact) (PortCall.applyAll b p calls) ∧
      p.latches.Goes (port.shows (port.allStores b calls) s)
        (PortCall.applyAll b p calls).latches := by
  induction calls generalizing s opened exact p with
  | nil => exact ⟨serves, (Latches.turns_of_closed fun c none => by cases none).goes⟩
  | cons call calls ih =>
    obtain ⟨shut, later⟩ := scheduled
    have first := tracks_call faithful serves call shut
    obtain ⟨served, goes⟩ := ih later first.serves
    have split : port.allStores b (call :: calls) = port.stores b call ++ port.allStores b calls :=
      rfl
    rw [split, settled_append, BoardPort.shows_append]
    exact ⟨served, first.latches.goes.append goes⟩

/-- The shield sees the calls one after another: at every store of a call the latches and the chip
lines are as the model has them before that call or after it. The lines that the board does not
drive may go anywhere meanwhile. -/
structure BoardPort.InStep (port : BoardPort) (b : Build) (s : port.State) (p : Pins)
    (calls : List PortCall) : Prop where
  latches : ∀ done call rest, calls = done ++ call :: rest → ∀ seen now : List (Connector × U8),
    seen.map Prod.fst = port.shows (port.allStores b done) s →
    now.map Prod.fst <+: port.shows (port.stores b call) (settled (port.allStores b done) s) →
    p.latches.following (seen ++ now) = (PortCall.applyAll b p done).latches ∨
      p.latches.following (seen ++ now) = (PortCall.applyAll b p (done ++ [call])).latches
  lines : ∀ done call rest, calls = done ++ call :: rest →
    ∀ c ∈ port.shows (port.stores b call) (settled (port.allStores b done) s),
      c.Between (PortCall.applyAll b p done) (PortCall.applyAll b p (done ++ [call]))

theorem inStep_calls (faithful : port.Faithful b) {calls : List PortCall}
    (scheduled : Scheduled b opened calls) (serves : port.Serves s opened exact p) :
    port.InStep b s p calls := by
  have next (done : List PortCall) (call : PortCall) : PortCall.applyAll b p (done ++ [call]) =
      call.apply b (PortCall.applyAll b p done) := List.foldl_append
  constructor
  · rintro done call rest rfl seen now early part
    obtain ⟨first, shut, -⟩ := scheduled.split
    obtain ⟨served, goes⟩ := serves_calls faithful first serves
    rw [Latches.following_append, goes seen early, next]
    exact (tracks_call faithful served call shut).latches.through now part
  · rintro done call rest rfl
    obtain ⟨first, shut, -⟩ := scheduled.split
    obtain ⟨served, -⟩ := serves_calls faithful first serves
    rw [next]
    exact (tracks_call faithful served call shut).lines

theorem ends_runCalls (calls : List PortCall) :
    Ends (runCalls calls) env w
      (fun _ w' => w'.pins = PortCall.applyAll env.build w.pins calls) (fun _ => True) := by
  induction calls generalizing w with
  | nil => exact rfl
  | cons call calls ih =>
    unfold runCalls
    rw [ends_bind]
    refine (call.ends_program).mono (fun _ w' moved => ?_) fun _ _ => trivial
    refine ih.mono (fun _ w'' later => ?_) fun _ _ => trivial
    rw [later, moved]
    rfl

/-- The calls of the firmware on any board against the model's: the board goes through them in step
with the model, the lines agree at the end, the open latches took what the model's took whatever the
other lines did meanwhile, and where the data lines are known a byte read is the one on them. -/
theorem ports_refine {calls : List PortCall} {s : (boardPort env.build.board).State}
    (serves : (boardPort env.build.board).Serves s opened exact w.pins)
    (scheduled : Scheduled env.build opened calls) :
    (boardPort env.build.board).InStep env.build s w.pins calls ∧
    Ends (runCalls calls) env w (fun _ w' =>
      (boardPort env.build.board).Serves
        (settled ((boardPort env.build.board).allStores env.build calls) s)
        (calls.foldl (PortCall.opens env.build) opened)
        (calls.foldl (PortCall.settles env.build) exact) w'.pins ∧
      (∀ seen : List (Connector × U8),
        seen.map Prod.fst = (boardPort env.build.board).shows
          ((boardPort env.build.board).allStores env.build calls) s →
        w.latches.following seen = w'.latches) ∧
      (calls.foldl (PortCall.settles env.build) exact = true → ∀ outside,
        (boardPort env.build.board).rurpReadDataBuffer
            (settled ((boardPort env.build.board).allStores env.build calls) s) outside =
          if w'.dataOutput then w'.dataBus else (boardPort env.build.board).elsewhere outside))
      (fun _ => True) := by
  have faithful := boardPort_faithful env.build
  obtain ⟨served, goes⟩ := serves_calls faithful scheduled serves
  refine ⟨inStep_calls faithful scheduled serves, ?_⟩
  refine (ends_runCalls calls).mono (fun _ w' moved => ?_) fun _ _ => trivial
  rw [← moved] at served goes
  refine ⟨served, goes, fun known outside => ?_⟩
  obtain ⟨data, outputs⟩ := served.data known
  rw [faithful.readData]
  unfold Connector.bus lineLevels
  rw [data, outputs]
  cases driven : w'.dataOutput with
  | true =>
    have out : w'.pins.dataOutput = true := driven
    rw [if_pos out, if_pos rfl]
    apply eq_of_lines <;> simp [World.pins]
  | false =>
    have out : w'.pins.dataOutput = false := driven
    rw [out, if_neg Bool.false_ne_true, if_neg Bool.false_ne_true]
    apply eq_of_lines <;> simp

/-- An Uno sets an address and then lets the chip drive the bus. -/
def addressedRead : List PortCall :=
  [.programmerMode, .registerWrite .leastSignificantByte 0x34,
    .registerWrite .mostSignificantByte 0x12, .dataInput, .setChipEnable false]

theorem ports_refine_uno :
    Uno.port.InStep ⟨.uno, false⟩ ⟨0x34, 0x2F, 0, 0, false⟩ World.blank.pins addressedRead ∧
    Ends (runCalls addressedRead) (Env.still ⟨.uno, false⟩ 1) World.blank (fun _ w' =>
        ∀ outside, Uno.rurpReadDataBuffer (settled (Uno.port.allStores ⟨.uno, false⟩ addressedRead)
          ⟨0x34, 0x2F, 0, 0, false⟩) outside = if w'.dataOutput then w'.dataBus else outside)
      (fun _ => True) := by
  have serves : Uno.port.Serves (⟨0x34, 0x2F, 0, 0, false⟩ : Uno.Ports) false true
      World.blank.pins :=
    ⟨⟨by decide, by decide⟩, rfl, by decide, fun _ => ⟨rfl, rfl⟩⟩
  obtain ⟨steps, ends⟩ := @ports_refine (Env.still ⟨.uno, false⟩ 1) World.blank false true
    addressedRead _ serves (by decide)
  exact ⟨steps, ends.mono (fun _ _ agrees => agrees.2.2 (by decide)) fun _ => id⟩

end Firestarter
