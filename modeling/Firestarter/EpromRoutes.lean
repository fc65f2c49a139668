import Firestarter.AddressLines
import Firestarter.ChipAccess
import Firestarter.CommandSetup

/-! Where the programming voltage is while an EPROM block is written. The trace tells the logical
control register at every access: the routes are down whenever the chip is read, and up whenever it
is given a pulse. -/
namespace Firestarter

open Interactive Interactive.Prog

set_option synthInstance.maxSize 4000

/-! ## Switches of a register -/

/-- A register after one of its masks was set or cleared. -/
def switched (control bit : Reg) (state : Bool) : Reg :=
  if state then control ||| bit else control &&& ~~~bit

section
variable {control control' bit mask part : Reg}

/-- Bits outside the mask stay. -/
theorem switched_apart (apart : bit &&& mask = 0) (state : Bool) :
    switched control bit state &&& mask = control &&& mask := by
  have outside (i : Nat) : bit.getLsbD i = true → mask.getLsbD i = false := by
    intro inside
    have none := congrArg (·.getLsbD i) apart
    simpa [inside] using none
  ext i inside
  have outside := outside i
  cases state <;> simp [switched, BitVec.getLsbD_eq_getElem inside] at outside ⊢ <;> grind

theorem switched_on : switched control bit true &&& bit = bit := by
  ext i inside
  simp only [switched, if_true, BitVec.getElem_and, BitVec.getElem_or]
  grind

theorem switched_off : switched control bit false &&& bit = 0 := by
  ext i inside
  simp [switched]

/-- What agrees on a mask agrees on each part of it. -/
theorem agree_part (same : control' &&& mask = control &&& mask) (sub : mask &&& part = part) :
    control' &&& part = control &&& part := by
  rw [← sub, ← BitVec.and_assoc, same, BitVec.and_assoc]

end

/-! ## The register behind a trace -/

def Event.controlValue : Event → Option Reg
  | .control data => some data
  | _ => none

/-- The logical control register after these events, newest first. -/
def registerAfter (control : Reg) : List Event → Reg
  | [] => control
  | e :: older => e.controlValue.getD (registerAfter control older)

/-- Every access of these events, newest first, with the register as it was then. -/
def accessesWith (control : Reg) : List Event → List (Access × Reg)
  | [] => []
  | e :: older =>
    e.access.toList.map (·, registerAfter control older) ++ accessesWith control older

theorem registerAfter_append (control : Reg) (later earlier : List Event) :
    registerAfter control (later ++ earlier) =
      registerAfter (registerAfter control earlier) later := by
  induction later with
  | nil => rfl
  | cons e later ih => simp only [List.cons_append, registerAfter, ih]

theorem accessesWith_append (control : Reg) (later earlier : List Event) :
    accessesWith control (later ++ earlier) =
      accessesWith (registerAfter control earlier) later ++ accessesWith control earlier := by
  induction later with
  | nil => rfl
  | cons e later ih =>
    simp only [List.cons_append, accessesWith, ih, registerAfter_append, List.append_assoc]

/-- A run that answers at most, and in which every access meets a register it fits. -/
structure Traced (fits : Access → Reg → Prop) (w w' : World) : Prop where
  handle : { w'.handle with responseCode := 0 } = { w.handle with responseCode := 0 }
  pointer : w'.epSetControlRegister = w.epSetControlRegister
  adds : ∃ new, w'.trace = new ++ w.trace ∧
    registerAfter w.controlRegister new = w'.controlRegister ∧
    ∀ x ∈ accessesWith w.controlRegister new, fits x.1 x.2

variable {env : Env} {w w' w'' : World} {fits fits' : Access → Reg → Prop}

theorem Traced.of_quiet (handle : w'.handle = w.handle)
    (pointer : w'.epSetControlRegister = w.epSetControlRegister) (trace : w'.trace = w.trace)
    (control : w'.controlRegister = w.controlRegister) : Traced fits w w' :=
  ⟨by rw [handle], pointer, [], trace, control.symm, nofun⟩

/-- A note of no access and no register value. -/
theorem Traced.of_note {e : Event} (handle : w'.handle = w.handle)
    (pointer : w'.epSetControlRegister = w.epSetControlRegister) (trace : w'.trace = e :: w.trace)
    (control : w'.controlRegister = w.controlRegister) (other : e.access = none)
    (plain : e.controlValue = none) : Traced fits w w' := by
  refine ⟨by rw [handle], pointer, [e], trace, ?_, ?_⟩
  · rw [control, registerAfter, plain]
    rfl
  · simp [accessesWith, other]

instance : IsPreorder World (Traced fits) where
  refl _ := .of_quiet rfl rfl rfl rfl
  trans w₁ w₂ w₃ first rest := by
    obtain ⟨new, trace, control, fit⟩ := first.adds
    obtain ⟨new', trace', control', fit'⟩ := rest.adds
    refine ⟨rest.handle.trans first.handle, rest.pointer.trans first.pointer, new' ++ new, ?_, ?_,
      ?_⟩
    · rw [trace', trace, List.append_assoc]
    · rw [registerAfter_append, control, control']
    · intro x member
      rw [accessesWith_append, control, List.mem_append] at member
      exact member.elim (fit' x) (fit x)

theorem Traced.mono (done : Traced fits w w') (wider : ∀ a reg, fits a reg → fits' a reg) :
    Traced fits' w w' := by
  obtain ⟨new, trace, control, fit⟩ := done.adds
  exact ⟨done.handle, done.pointer, new, trace, control, fun x member => wider _ _ (fit x member)⟩

/-- A run with accesses of one kind only, throughout which these bits of the register stay. -/
structure Holding (mask : Reg) (may : Access → Bool) (w w' : World) : Prop where
  held : w'.controlRegister &&& mask = w.controlRegister &&& mask
  traced : Traced (fun a reg => may a = true ∧ reg &&& mask = w.controlRegister &&& mask) w w'

variable {mask part : Reg} {may : Access → Bool}

theorem Holding.of_note {e : Event} (handle : w'.handle = w.handle)
    (pointer : w'.epSetControlRegister = w.epSetControlRegister) (trace : w'.trace = e :: w.trace)
    (control : w'.controlRegister = w.controlRegister) (other : e.access = none)
    (plain : e.controlValue = none) : Holding mask may w w' :=
  ⟨by rw [control], .of_note handle pointer trace control other plain⟩

instance : IsPreorder World (Holding mask may) where
  refl w := ⟨rfl, refl_of _ w⟩
  trans w₁ w₂ w₃ first rest := by
    refine ⟨rest.held.trans first.held, trans_of _ first.traced (rest.traced.mono ?_)⟩
    intro a reg fit
    exact ⟨fit.1, fit.2.trans first.held⟩

instance : BusFrame env (Holding mask may) where
  bus s s' _ same := by
    have handle := congrArg World.handle same
    have pointer := congrArg World.epSetControlRegister same
    have trace := congrArg World.trace same
    have control := congrArg World.controlRegister same
    have control : s'.controlRegister = s.controlRegister := control
    exact ⟨by rw [control], .of_quiet handle pointer trace control⟩

instance : LatchFrame (Holding mask may) where
  strobe _ _ _ _ _ := .of_note rfl rfl rfl rfl rfl rfl

instance : PrintFrame (Holding mask may) where
  print s e print := by
    refine .of_note (e := e) rfl rfl rfl rfl ?_ ?_
    all_goals cases e <;> first | rfl | cases print
  defer _ _ := ⟨rfl, .of_quiet rfl rfl rfl rfl⟩

instance : ReportFrame env (Holding mask may) where
  report _ _ _ := inferInstance
  respond _ := Within.update _ fun _ => ⟨rfl, rfl, rfl, [], rfl, rfl, nofun⟩

/-- The note of an access of the kind that may happen. -/
theorem Holding.of_access {e : Event} {a : Access} (here : e.access = some a)
    (plain : e.controlValue = none) (allowed : may a = true) :
    Holding mask may w { w with trace := e :: w.trace } := by
  refine ⟨rfl, rfl, rfl, [e], rfl, ?_, ?_⟩
  · rw [registerAfter, plain]
    rfl
  · intro x member
    rw [accessesWith, here] at member
    obtain rfl := List.mem_singleton.mp member
    exact ⟨allowed, rfl⟩

instance : SenseFrame (Holding mask Access.isRead) where
  sense s e passive := by
    cases e with
    | read address data latches => exact .of_access (a := .read address data) rfl rfl rfl
    | measured millivolts latches => exact .of_note rfl rfl rfl rfl rfl rfl
    | _ => cases passive

instance : StoreFrame (Holding mask Access.isStore) where
  store s e store := by
    cases e with
    | wrote address data latches => exact .of_access (a := .wrote address data) rfl rfl rfl
    | flipped address data latches => exact .of_access (a := .flipped address data) rfl rfl rfl
    | _ => cases store

/-! ## Writing the control register -/

/-- The register took this value, without an access. -/
structure Switched (control : Reg) (w w' : World) : Prop where
  value : w'.controlRegister = control
  handle : w'.handle = w.handle
  traced : Traced (fun _ _ => False) w w'

/-- Nothing of the register changes, and no access happens. -/
abbrev RegisterStill : World → World → Prop := Holding (BitVec.allOnes 16) fun _ => false

theorem RegisterStill.control (still : RegisterStill w w') : w'.controlRegister = w.controlRegister := by
  have held := still.held
  rw [BitVec.and_allOnes, BitVec.and_allOnes] at held
  exact held

theorem RegisterStill.touchless (still : RegisterStill w w') : Traced (fun _ _ => False) w w' :=
  still.traced.mono fun _ _ fit => absurd fit.1 Bool.false_ne_true

theorem ends_writeControl (w : World) (data : Reg) :
    Ends (rurpWriteToRegister controlRegister data) env w (fun _ w' => Switched data w w')
      (fun _ => False) := by
  have written : Ends (rurpWriteToRegister controlRegister data) env w
      (fun _ w' => w'.controlRegister = data ∧ Traced (fun _ _ => False) w w')
      (fun _ => False) := by
    have lsb : (controlRegister == leastSignificantByte) = false := by decide
    have msb : (controlRegister == mostSignificantByte) = false := by decide
    unfold rurpWriteToRegister
    simp only [ends_bind, ends_look, lsb, msb, beq_self_eq_true, Bool.false_eq_true, if_false,
      Bool.true_and]
    refine Ends.when (fun _ => ?_) fun same => ?_
    · unfold writeControlRegister
      have timed (now : U32) :
          Within env RegisterStill (update fun w => { w with regulatorOffMs := now } : Fw Unit) :=
        Within.update _ fun _ => ⟨rfl, .of_quiet rfl rfl rfl rfl⟩
      refine Within.bind_completes (S := RegisterStill) fun _ w₁ before => ?_
      rw [ends_bind, ends_update, ends_bind]
      unfold note
      rw [ends_update]
      have now : Traced (fun _ _ => False) w₁
          { w₁ with controlRegister := data, trace := .control data :: w₁.trace } :=
        ⟨rfl, rfl, [.control data], rfl, rfl, fun _ member => (List.not_mem_nil member).elim⟩
      refine (Completes.within (R := RegisterStill) inferInstance inferInstance _).mono
        (fun _ w' after => ?_) fun _ => id
      exact ⟨after.control, trans_of _ before.touchless (trans_of _ now after.touchless)⟩
    · have same : w.controlRegister = data := by simpa using same
      exact ⟨same, refl_of _ w⟩
  have silent : Ends (rurpWriteToRegister controlRegister data) env w (fun _ w' => Silent w w')
      (fun _ => False) := Completes.within inferInstance inferInstance w
  exact (silent.and written).mono
    (fun _ _ both => ⟨both.2.1, both.1.handle, both.2.2⟩) fun _ never => never.1

/-- What an address write carries over: the routes to the socket and the regulator. -/
def carriedBits : Reg := rurpSocketVppRouteBits ||| ctrlVppRegulatorEnable

theorem topAddress_carried (b : Build) (hw pins : U8) (control : Reg) (bus : U32) :
    memUtilCalculateTopAddressRegister b hw pins control bus &&& carriedBits =
      control &&& carriedBits := by
  have lines (v : Reg) : v &&& (ctrlAddressLine16 ||| ctrlAddressLine17 ||| ctrlAddressLine18 |||
      ctrlReadWrite) &&& carriedBits = 0 := by
    rw [BitVec.and_assoc]
    exact BitVec.and_zero
  have kept : topAddressPreserveMask b hw pins &&& carriedBits = carriedBits := by
    unfold topAddressPreserveMask ctrlVppVpeDropEnable
    cases b.hardwareRevision <;> cases isRevision2 hw <;> dsimp only <;> split <;> decide
  have both : (((bus >>> rurpCtrlAddressShift).setWidth 16 &&& (ctrlAddressLine16 |||
      ctrlAddressLine17 ||| ctrlAddressLine18 ||| ctrlReadWrite)) |||
      (control &&& topAddressPreserveMask b hw pins)) &&& carriedBits = control &&& carriedBits := by
    rw [BitVec.and_comm, BitVec.and_or_distrib_left, BitVec.and_comm, lines,
      BitVec.and_comm carriedBits, BitVec.and_assoc, kept]
    exact BitVec.zero_or
  unfold memUtilCalculateTopAddressRegister
  dsimp only
  split
  · have high : ctrlAddressLine17 &&& carriedBits = 0 := by decide
    exact (switched_apart high true).trans both
  · exact both

/-- Addressing the chip holds the routes and the regulator. -/
instance : AddressFrame env (Holding carriedBits may) where
  address bus := by
    have latch (reg : U8) (other : reg ≠ controlRegister) (data : Reg) :
        Within env (Holding carriedBits may) (rurpWriteToRegister reg data) := by
      have lsb : Within env (Holding carriedBits may)
          (update fun w => { w with lsbAddress := data.setWidth 8 } : Fw Unit) :=
        Within.update _ fun _ => ⟨rfl, .of_quiet rfl rfl rfl rfl⟩
      have msb : Within env (Holding carriedBits may)
          (update fun w => { w with msbAddress := data.setWidth 8 } : Fw Unit) :=
        Within.update _ fun _ => ⟨rfl, .of_quiet rfl rfl rfl rfl⟩
      have control (old : Reg) : Within env (Holding carriedBits may)
          (when (reg == controlRegister && old != data) (writeControlRegister old data)) := by
        rw [beq_false_of_ne other, Bool.false_and]
        exact Within.pure ()
      unfold rurpWriteToRegister
      infer_instance
    have lsb := latch leastSignificantByte (by decide)
    have msb := latch mostSignificantByte (by decide)
    have noted (control : Reg) (latches : Latches) (offFor : Nat) :
        Within env (Holding carriedBits may) (note (.addressed control latches offFor)) :=
      Within.update _ fun _ => .of_note rfl rfl rfl rfl rfl rfl
    unfold memUtilSetAddress
    refine within_bind inferInstance fun _ => within_bind inferInstance fun _ => ?_
    refine within_bind inferInstance fun b => within_bind inferInstance fun hw => ?_
    refine within_bind inferInstance fun h => ?_
    refine within_iff_ends.mpr fun s => ?_
    rw [ends_bind]
    unfold rurpReadControlRegister
    rw [ends_bind, ends_look, ends_pure, ends_bind]
    refine (ends_writeControl s _).mono (fun _ w' written => ?_) fun _ never => never.elim
    have step : Holding carriedBits may s w' :=
      ⟨by rw [written.value, topAddress_carried], written.traced.mono fun _ _ never => never.elim⟩
    have onward : Ends (do
        let w ← look
        note (.addressed w.controlRegister w.latches (w.now - w.regulatorOffAt))) env w'
        (fun _ => Holding carriedBits may w') (Holding carriedBits may w') :=
      Within.ends inferInstance w'
    exact onward.mono (fun _ _ rest => trans_of _ step rest) fun _ rest => trans_of _ step rest

/-- The setters as `configure_eprom` leaves them. -/
structure EpromSetters (w : World) : Prop where
  handle : w.handle.firestarterSetControlRegister = some .epromInternalSetControlRegister
  saved : w.epSetControlRegister = some .memorySetControlRegister

theorem EpromSetters.traced (setters : EpromSetters w) (traced : Traced fits w w') :
    EpromSetters w' := by
  have setter := congrArg Handle.firestarterSetControlRegister traced.handle
  exact ⟨setter.trans setters.handle, traced.pointer.trans setters.saved⟩

/-- `configure_eprom` leaves them so when it takes over from the generic setter. -/
theorem epromSetters_configured
    (generic : w.handle.firestarterSetControlRegister = some .memorySetControlRegister) :
    Ends configureEprom env w (fun _ => EpromSetters) EpromSetters := by
  have setters {w' : World} (configured : DriverStep w.asEprom w') : EpromSetters w' := by
    have setter := congrArg (fun w : World => w.handle.firestarterSetControlRegister) configured.kept
    have saved := congrArg World.epSetControlRegister configured.kept
    exact ⟨setter, saved.trans generic⟩
  exact (ends_configureEprom w).mono (fun _ _ => setters) fun _ => setters

theorem ends_setControlRegister (setters : EpromSetters w) (bit : Reg) (state : Bool) :
    Ends (setControlRegister bit state) env w
      (fun _ w' => Switched (switched w.controlRegister (w.handle.vpeRoute bit) state) w w')
      (fun _ => False) := by
  unfold setControlRegister epromInternalSetControlRegister memorySetControlRegister
  rw [ends_bind, ends_getHandle, setters.handle, if_neg (by decide), if_pos rfl, ends_bind,
    ends_getHandle, ends_bind, ends_look, if_pos setters.saved, ends_bind]
  unfold rurpReadControlRegister
  rw [ends_bind, ends_look, ends_pure]
  exact ends_writeControl w _

/-! ## The routes of a chip -/

/-- The two routes a programming voltage can take to the chip. -/
def programRoutes : Reg := ctrlVpeEnable ||| ctrlVppP1Enable

/-- The one that reaches the chip's own supply pin. -/
def Handle.vppRoute (h : Handle) : Reg := if h.usingP1AsVpp then ctrlVppP1Enable else ctrlVpeEnable

/-- Both routes are down when the chip is read. Its own route and the regulator are up when it is
given a byte. -/
def RouteFits (h : Handle) : Access → Reg → Prop
  | .read .., control => control &&& programRoutes = 0
  | _, control =>
    control &&& h.vppRoute = h.vppRoute ∧
      control &&& ctrlVppRegulatorEnable = ctrlVppRegulatorEnable

theorem Handle.vpeRoute_vpe (h : Handle) : h.vpeRoute ctrlVpeEnable = h.vppRoute := by
  unfold Handle.vpeRoute Handle.vppRoute
  cases h.usingP1AsVpp <;> decide

/-- A mask without VPE goes through as it is. -/
theorem Handle.vpeRoute_other (h : Handle) {bit : Reg} (other : bit &&& ctrlVpeEnable = 0) :
    h.vpeRoute bit = bit := by
  unfold Handle.vpeRoute
  rw [other]
  rfl

theorem Handle.vppRoute_parts (h : Handle) :
    h.vppRoute &&& programRoutes = h.vppRoute ∧ programRoutes &&& h.vppRoute = h.vppRoute ∧
      carriedBits &&& h.vppRoute = h.vppRoute ∧ h.vppRoute &&& ctrlVppRegulatorEnable = 0 := by
  unfold Handle.vppRoute
  cases h.usingP1AsVpp <;> decide

/-- The regulator alone, or with the drop resistor. -/
theorem epromHvRouteMask_either (b : Build) (h : Handle) :
    epromHvRouteMask b h = ctrlVppRegulatorEnable ∨ epromHvRouteMask b h = epromHvRouteBits b := by
  unfold epromHvRouteMask
  split
  · exact .inl rfl
  · split
    · exact .inr rfl
    · split
      · exact .inl rfl
      · split
        · exact .inl rfl
        · exact .inr rfl

/-- The rail goes up without a route. -/
theorem hvRouteMask_parts (b : Build) (h : Handle) :
    epromHvRouteMask b h &&& programRoutes = 0 ∧ epromHvRouteMask b h &&& ctrlVpeEnable = 0 ∧
      epromHvRouteMask b h &&& ctrlVppRegulatorEnable = ctrlVppRegulatorEnable := by
  rcases epromHvRouteMask_either b h with mask | mask <;> rw [mask]
  · decide
  · unfold epromHvRouteBits ctrlVppVpeDropEnable
    cases b.hardwareRevision <;> decide

/-- Whatever the driver puts in the place of VPE, the mask takes the regulator, the drop resistor
and A9 down, and with routes that are down before nothing is left up. -/
theorem allOff_parts (b : Build) (h : Handle) :
    (h.vpeRoute (epromHvAllOffMask b) ||| programRoutes) &&& highVoltageBits b =
      highVoltageBits b := by
  unfold Handle.vpeRoute epromHvAllOffMask highVoltageBits epromHvRouteBits ctrlVppVpeDropEnable
  cases b.hardwareRevision <;> cases h.usingP1AsVpp <;> decide

theorem regulator_on {control : Reg} (on : (control &&& ctrlVppRegulatorEnable == 0) = false) :
    control &&& ctrlVppRegulatorEnable = ctrlVppRegulatorEnable := by
  have bit : ctrlVppRegulatorEnable = BitVec.twoPow 16 7 := by decide
  rw [bit] at on ⊢
  rw [BitVec.and_twoPow] at on ⊢
  split
  · rfl
  · rename_i down
    rw [if_neg down] at on
    cases on

/-- What was down stays down where a mask is taken out, and what the mask covers goes down. -/
theorem lowered_off {control bit mask part : Reg} (down : control &&& part = 0)
    (covers : (bit ||| part) &&& mask = mask) : switched control bit false &&& mask = 0 := by
  ext i inside
  have down := congrArg (fun v : Reg => v[i]) down
  have covers := congrArg (fun v : Reg => v[i]) covers
  simp only [BitVec.getElem_and, BitVec.getElem_or] at down covers
  simp only [switched, Bool.false_eq_true, if_false, BitVec.getElem_and, BitVec.getElem_not]
  simp at down ⊢
  grind

/-! ## A block -/

/-- A moment of a block between two of its passes: all went right and both routes are down. -/
structure Resting (w w' : World) : Prop where
  traced : Traced (RouteFits w.handle) w w'
  routes : w'.controlRegister &&& programRoutes = 0

/-- One before a failure: the regulator is up. -/
structure Powered (w w' : World) : Prop extends Resting w w' where
  regulator : w'.controlRegister &&& ctrlVppRegulatorEnable = ctrlVppRegulatorEnable

theorem Resting.scan (resting : Resting w w') (scan : Holding carriedBits Access.isRead w' w'') :
    Resting w w'' := by
  have down {control : Reg} (same : control &&& carriedBits = w'.controlRegister &&& carriedBits) :
      control &&& programRoutes = 0 := (agree_part same rfl).trans resting.routes
  refine ⟨trans_of _ resting.traced (scan.traced.mono fun a reg fit => ?_), down scan.held⟩
  cases a with
  | read => exact down fit.2
  | wrote => cases fit.1
  | flipped => cases fit.1

theorem Powered.scan (powered : Powered w w') (scan : Holding carriedBits Access.isRead w' w'') :
    Powered w w'' :=
  ⟨powered.toResting.scan scan, (agree_part scan.held rfl).trans powered.regulator⟩

theorem Switched.silent {control : Reg} (switched : Switched control w' w'') :
    Traced fits w' w'' := switched.traced.mono fun _ _ never => never.elim

/-- The regulator is up before the first pass, whether it was found up or not. -/
theorem ends_epromRegulatorUp (setters : EpromSetters w)
    (off : w.controlRegister &&& programRoutes = 0) (b : Build) (h : Handle) :
    Ends (epromRegulatorUp b h) env w (fun _ w' => Powered w w') (fun _ => False) := by
  unfold epromRegulatorUp rurpReadControlRegister
  rw [ends_bind, ends_bind, ends_look, ends_pure]
  refine Ends.when (fun _ => ?_) fun on => ⟨⟨refl_of _ w, off⟩, regulator_on on⟩
  obtain ⟨apart, noVpe, rail⟩ := hvRouteMask_parts b h
  rw [ends_bind]
  refine (ends_setControlRegister setters _ _).mono (fun _ w₁ raised => ?_) fun _ => id
  have value := raised.value
  rw [Handle.vpeRoute_other _ noVpe] at value
  have powered : Powered w w₁ := by
    refine ⟨⟨raised.silent, ?_⟩, ?_⟩
    · rw [value, switched_apart apart]
      exact off
    · rw [value, ← rail, ← BitVec.and_assoc, switched_on]
  exact (Completes.within (R := Holding carriedBits Access.isRead) inferInstance inferInstance
    w₁).mono (fun _ _ settled => powered.scan settled) fun _ => id

/-- During a pulse pass the chip's route is up; then it is down again. -/
theorem ends_pulsePass_routes (setters : EpromSetters w) (powered : Powered w w') (h : Handle)
    (base groupLen : Nat) (pending : Nat → Bool) :
    Ends (pulsePass h base groupLen pending) env w' (fun _ => Powered w) (fun _ => False) := by
  have route : w'.handle.vppRoute = w.handle.vppRoute := by
    have same := congrArg Handle.vppRoute powered.traced.handle
    exact same
  obtain ⟨inside, inRoutes, carried, apart⟩ := w.handle.vppRoute_parts
  have setters' := setters.traced powered.traced
  unfold pulsePass
  rw [ends_bind]
  refine (ends_setControlRegister setters' _ _).mono (fun _ w₁ raised => ?_) fun _ => id
  have value := raised.value
  rw [Handle.vpeRoute_vpe, route] at value
  refine Within.bind_completes (S := Holding carriedBits Access.isStore) fun _ w₂ settled => ?_
  refine Within.bind_completes (S := Holding carriedBits Access.isStore) fun _ w₃ pulsed => ?_
  refine Within.bind_completes (S := Holding carriedBits Access.isStore) fun _ w₄ held => ?_
  have up : Holding carriedBits Access.isStore w₁ w₄ :=
    trans_of _ settled (trans_of _ pulsed held)
  have onRoute {control : Reg} (same : control &&& carriedBits = w₁.controlRegister &&& carriedBits) :
      control &&& w.handle.vppRoute = w.handle.vppRoute := by
    rw [agree_part same carried, value, switched_on]
  have onRail {control : Reg} (same : control &&& carriedBits = w₁.controlRegister &&& carriedBits) :
      control &&& ctrlVppRegulatorEnable = ctrlVppRegulatorEnable := by
    rw [agree_part same rfl, value, switched_apart apart]
    exact powered.regulator
  have traced : Traced (RouteFits w.handle) w w₄ := by
    refine trans_of _ powered.traced (trans_of _ raised.silent (up.traced.mono fun a reg fit => ?_))
    cases a with
    | read => cases fit.1
    | wrote => exact ⟨onRoute fit.2, onRail fit.2⟩
    | flipped => exact ⟨onRoute fit.2, onRail fit.2⟩
  refine (ends_setControlRegister (setters.traced traced) _ _).mono (fun _ w₅ lowered => ?_)
    fun _ => id
  have value' := lowered.value
  have route' : w₄.handle.vppRoute = w.handle.vppRoute := by
    have same := congrArg Handle.vppRoute traced.handle
    exact same
  rw [Handle.vpeRoute_vpe, route'] at value'
  -- Only the chip's own route was up, so taking it down takes both down.
  have other : w₄.controlRegister &&& programRoutes = w.handle.vppRoute := by
    rw [agree_part up.held rfl, value, switched, if_pos rfl, BitVec.and_comm,
      BitVec.and_or_distrib_left, BitVec.and_comm, powered.routes, inRoutes]
    exact BitVec.zero_or
  refine ⟨⟨trans_of _ traced lowered.silent, ?_⟩, ?_⟩
  · have down : switched w₄.controlRegister w.handle.vppRoute false &&& w.handle.vppRoute = 0 :=
      switched_off
    rw [value']
    unfold switched at down ⊢
    simp only [Bool.false_eq_true, if_false] at down ⊢
    rw [BitVec.and_assoc, BitVec.and_comm _ programRoutes, ← BitVec.and_assoc, other]
    rw [BitVec.and_not_self]
  · rw [value', switched_apart apart]
    exact onRail up.held

/-- How a group or a block ends: the routes are down, and only an error took the rail down. -/
structure Left (w w' : World) : Prop extends Resting w w' where
  regulator : w'.handle.responseCode ≠ responseCodeError →
    w'.controlRegister &&& ctrlVppRegulatorEnable = ctrlVppRegulatorEnable

theorem Powered.left (powered : Powered w w') : Left w w' :=
  ⟨powered.toResting, fun _ => powered.regulator⟩

/-- The routes stay down while masks are taken out. -/
theorem Resting.lower {bit : Reg} (resting : Resting w w')
    (lowered : Switched (switched w'.controlRegister bit false) w' w'') : Resting w w'' := by
  refine ⟨trans_of _ resting.traced lowered.silent, ?_⟩
  rw [lowered.value]
  refine lowered_off resting.routes ?_
  ext i inside
  simp
  grind

theorem ends_epromHvAllOff (setters : EpromSetters w) (resting : Resting w w') :
    Ends epromHvAllOff env w' (fun _ w'' => Resting w w'' ∧ w''.handle = w'.handle ∧
      w''.controlRegister &&& highVoltageBits env.build = 0) (fun _ => False) := by
  unfold epromHvAllOff
  rw [ends_bind, ends_build]
  refine (ends_setControlRegister (setters.traced resting.traced) _ _).mono
    (fun _ w'' lowered => ⟨resting.lower lowered, lowered.handle, ?_⟩) fun _ => id
  rw [lowered.value]
  exact lowered_off resting.routes (allOff_parts env.build w'.handle)

theorem ends_refuse_left (resting : Resting w w') (msgId : U8) [ReportId msgId]
    (params : List U8) :
    Ends (refuse msgId params) env w' (fun _ w'' => Left w w'' ∧
      w''.handle.responseCode = responseCodeError) (fun _ => False) := by
  have scan : Ends (refuse msgId params) env w'
      (fun _ w'' => Holding carriedBits Access.isRead w' w'') (fun _ => False) :=
    Completes.within inferInstance inferInstance w'
  have error : Ends (refuse msgId params) env w'
      (fun _ w'' => w''.handle.responseCode = responseCodeError) (fun _ => True) := by
    unfold refuse setResponseCode
    rw [ends_bind]
    exact ends_any _ (fun _ _ => rfl) fun _ => trivial
  exact (scan.and error).mono
    (fun _ _ both => ⟨⟨resting.scan both.1, fun other => absurd both.2 other⟩, both.2⟩)
    fun _ never => never.1

theorem ends_reportBudgetFailure (setters : EpromSetters w) (resting : Resting w w')
    (address : U32) (pulseCount msgId : U8) [ReportId msgId] :
    Ends (epromInternalReportBudgetFailure address pulseCount msgId) env w' (fun _ => Left w)
      (fun _ => False) := by
  unfold epromInternalReportBudgetFailure
  rw [ends_bind]
  refine (ends_epromHvAllOff setters resting).mono (fun _ w₁ down => ?_) fun _ => id
  exact (ends_refuse_left down.1 msgId _).mono (fun _ _ done => done.1) fun _ => id

/-! ## Blocks -/

/-- What is known in the course of a block, for a relation that its reads keep along: while its passes
go on, and when it has ended. -/
structure BlockRule (env : Env) (scan : World → World → Prop) where
  up : World → Prop
  left : World → Prop
  scans : ∀ {w w' : World}, up w → scan w w' → up w'
  settles : ∀ {w : World}, up w → left w
  pulses : ∀ {w : World} (h : Handle) (base groupLen : Nat) (pending : Nat → Bool), up w →
    Ends (pulsePass h base groupLen pending) env w (fun _ => up) (fun _ => False)
  fails : ∀ {w : World} (address : U32) (pulseCount msgId : U8) [ReportId msgId], up w →
    Ends (epromInternalReportBudgetFailure address pulseCount msgId) env w (fun _ => left)
      (fun _ => False)

namespace BlockRule

section
variable {scan : World → World → Prop} [BusFrame env scan] [ReadFrame scan] [AddressFrame env scan]
  [ReportFrame env scan] (R : BlockRule env scan)

theorem ends_passTurn (up : R.up w) (h : Handle) (row : EpromParams) (base groupLen : Nat)
    (pass : Pass) :
    Ends (passTurn h row base groupLen pass) env w
      (fun r w' => match r with
        | .inl next => R.up w' ∧ pass.pulses < row.maxPulses ∧ next.pulses = pass.pulses + 1
        | .inr (some _) => R.up w'
        | .inr none => R.left w') (fun _ => False) := by
  unfold passTurn
  refine Within.bind_completes (S := scan) fun scan w₁ scanned => ?_
  have up := R.scans up scanned
  split
  · exact up
  split
  · rw [ends_bind]
    exact R.fails _ _ _ up
  rename_i pulses
  split
  · rw [ends_bind]
    exact R.fails _ _ _ up
  rw [ends_bind]
  refine (R.pulses h base groupLen _ up).mono (fun _ _ pulsed => ?_) fun _ => id
  exact ⟨pulsed, BitVec.not_le.mp pulses, rfl⟩

/-- How the passes of a group end. -/
def Passed : Option U32 → World → Prop
  | some _ => R.up
  | none => R.left

/-- How a group ends, and the loop over the groups. -/
def Grouped : U32 ⊕ Unit → World → Prop
  | .inl _ => R.up
  | .inr () => R.left

theorem ends_programGroup (up : R.up w) (h : Handle) (row : EpromParams) (lastEmitMs : U32)
    (base : Nat) :
    Ends (programGroup h row lastEmitMs base) env w R.Grouped (fun _ => False) := by
  have looped : Ends (repeatUntil (passTurn h row base (min (h.blockLen - base) epromProgramGroup))
      (row.maxPulses.toNat + 1)
      { pulses := 0, accumulated := 0, pending := fun _ => false, lastEmitMs }) env w
      R.Passed (fun _ => False) := by
    -- Every turn that goes round again gives one of the row's pulses.
    refine ends_repeatUntil_of_bound (fun left pass w' => R.up w' ∧
      pass.pulses.toNat + left = row.maxPulses.toNat) (fun left pass w' so => ?_) _
      row.maxPulses.toNat _ w ⟨up, Nat.zero_add _⟩ (Nat.lt_succ_self _)
    refine (R.ends_passTurn so.1 h row base _ pass).mono (fun r _ turned => ?_) fun _ => id
    rcases r with next | _ | _
    · obtain ⟨up, below, count⟩ := turned
      have below : pass.pulses.toNat < row.maxPulses.toNat := below
      have room := row.maxPulses.isLt
      have one : (1 : U8).toNat = 1 := rfl
      have count : next.pulses.toNat = pass.pulses.toNat + 1 := by
        rw [count, BitVec.toNat_add, one]
        omega
      have sum := so.2
      exact ⟨left - 1, by omega, up, by omega⟩
    · exact turned
    · exact turned
  unfold programGroup
  rw [ends_bind]
  refine looped.mono (fun r _ done => ?_) fun _ => id
  cases r with
  | none => exact done
  | some _ => exact done

/-- A block, from where its regulator has come up. -/
theorem ends_writeBody (refuses : ∀ id params [ReportId id],
      Ends (refuse id params) env w (fun _ => R.left) (fun _ => False))
    (raises : Ends (epromRegulatorUp env.build w.handle) env w (fun _ => R.up) (fun _ => False)) :
    Ends epromInternalWriteExecuteBody env w (fun _ => R.left) (fun _ => False) := by
  unfold epromInternalWriteExecuteBody
  rw [ends_bind, ends_build, ends_bind, ends_getHandle]
  split
  · exact refuses _ _
  rename_i row _
  rw [ends_bind]
  refine raises.mono (fun _ w₁ up => ?_) fun _ => id
  refine Within.bind_completes (S := scan) fun lastEmitMs w₂ timed => ?_
  have looped : Ends (forLoop (programGroup w.handle row) (groupBases w.handle.blockLen)
      lastEmitMs) env w₂ R.Grouped (fun _ => False) :=
    ends_forLoop (fun _ _ => R.up)
      (fun base _ lastEmitMs _ up =>
        (R.ends_programGroup up w.handle row lastEmitMs base).mono
          (fun r _ grouped => by cases r <;> exact grouped) fun _ => id)
      (fun _ _ up => up) _ _ w₂ (R.scans up timed)
  rw [ends_bind]
  refine looped.mono (fun programmed w₃ done => ?_) fun _ => id
  cases programmed with
  | inl _ =>
    refine Ends.when (fun _ => ?_) fun _ => R.settles done
    exact (Completes.within (R := scan) inferInstance inferInstance w₃).mono
      (fun _ _ verified => R.settles (R.scans done verified)) fun _ => id
  | inr _ => exact done

end

end BlockRule

/-- The routes in the course of a block. -/
def routeRule (setters : EpromSetters w) :
    BlockRule env (Holding carriedBits Access.isRead) where
  up := Powered w
  left := Left w
  scans powered scan := powered.scan scan
  settles powered := powered.left
  pulses h base groupLen pending powered := ends_pulsePass_routes setters powered h base groupLen pending
  fails address pulseCount msgId _ powered :=
    ends_reportBudgetFailure setters powered.toResting address pulseCount msgId

theorem ends_writeBody_routes (setters : EpromSetters w)
    (off : w.controlRegister &&& programRoutes = 0) :
    Ends epromInternalWriteExecuteBody env w (fun _ => Left w) (fun _ => False) :=
  (routeRule setters).ends_writeBody
    (fun _ _ => (ends_refuse_left ⟨refl_of _ w, off⟩ _ _).mono (fun _ _ done => done.1) fun _ => id)
    (ends_epromRegulatorUp setters off _ _)

/-- The route discipline of a write. Every verify read is made with both routes down, and every pulse
with its own route and the regulator up; after an error all of the high voltage is down, and
otherwise the routes are, with the regulator left on for the next chunk. -/
theorem eprom_route_discipline {w : World} (setters : EpromSetters w)
    (off : w.controlRegister &&& rurpSocketVppRouteBits = 0) :
    ∃ w' new, epromWriteExecute env w = (some (), w') ∧ w'.trace = new ++ w.trace ∧
      registerAfter w.controlRegister new = w'.controlRegister ∧
      (∀ x ∈ accessesWith w.controlRegister new, RouteFits w.handle x.1 x.2) ∧
      (w'.handle.responseCode = responseCodeError →
        w'.controlRegister &&& highVoltageBits env.build = 0) ∧
      (w'.handle.responseCode ≠ responseCodeError →
        w'.controlRegister &&& programRoutes = 0 ∧
          w'.controlRegister &&& ctrlVppRegulatorEnable = ctrlVppRegulatorEnable) := by
  have none : w.controlRegister &&& programRoutes = 0 := by
    have part : rurpSocketVppRouteBits &&& programRoutes = programRoutes := by decide
    rw [← part, ← BitVec.and_assoc, off]
    exact BitVec.zero_and
  have ended : Ends epromWriteExecute env w (fun _ w' => Left w w' ∧
      (w'.handle.responseCode = responseCodeError →
        w'.controlRegister &&& highVoltageBits env.build = 0)) (fun _ => False) := by
    unfold epromWriteExecute
    rw [ends_bind]
    refine (ends_writeBody_routes setters none).mono (fun _ w₁ left => ?_) fun _ => id
    unfold epromOffOnError
    rw [ends_bind, ends_getHandle]
    refine Ends.when (fun error => ?_) fun fine => ⟨left, fun error => ?_⟩
    · refine (ends_epromHvAllOff setters left.toResting).mono (fun _ w₂ down => ?_) fun _ => id
      obtain ⟨resting, handle, down⟩ := down
      refine ⟨⟨resting, fun other => absurd ?_ other⟩, fun _ => down⟩
      rw [handle]
      exact beq_iff_eq.mp error
    · rw [error] at fine
      cases fine
  unfold Ends at ended
  rcases run : epromWriteExecute env w with ⟨_ | _, w'⟩ <;> rw [run] at ended
  · exact ended.elim
  · obtain ⟨left, down⟩ := ended
    obtain ⟨new, trace, control, fit⟩ := left.traced.adds
    exact ⟨w', new, rfl, trace, control, fit, down, fun fine => ⟨left.routes, left.regulator fine⟩⟩

/-- A board on which that write has been set up and nothing is switched on. -/
def quietBoard : World where
  handle :=
    { cmd := cmdWrite, responseCode := responseCodeOk, protocol := protoEprom28Pin, pins := 28,
      memSize := 65536, pulseDelay := 100, dataSize := 1,
      busConfig := { vppLine := vppP128Dip },
      firestarterSetControlRegister := some .epromInternalSetControlRegister }
  epSetControlRegister := some .memorySetControlRegister
  controlRegister := 0
  stored := none
  latches := ⟨0, 0, 0⟩

theorem eprom_route_discipline_quietBoard :
    ∃ w' new, epromWriteExecute (Env.still ⟨.uno, false⟩ 0) quietBoard = (some (), w') ∧
      w'.trace = new ++ quietBoard.trace ∧
      registerAfter quietBoard.controlRegister new = w'.controlRegister ∧
      (∀ x ∈ accessesWith quietBoard.controlRegister new, RouteFits quietBoard.handle x.1 x.2) ∧
      (w'.handle.responseCode = responseCodeError →
        w'.controlRegister &&& highVoltageBits (Env.still ⟨.uno, false⟩ 0).build = 0) ∧
      (w'.handle.responseCode ≠ responseCodeError →
        w'.controlRegister &&& programRoutes = 0 ∧
          w'.controlRegister &&& ctrlVppRegulatorEnable = ctrlVppRegulatorEnable) :=
  eprom_route_discipline ⟨rfl, rfl⟩ (by decide)

end Firestarter
