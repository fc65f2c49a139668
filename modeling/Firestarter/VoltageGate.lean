import Firestarter.CommandTurns
import Firestarter.UnmeasuredRail

/-! The gate between the regulator and the socket, over whole commands. A command that routes high
voltage measures the rail in its INIT callback; a rail above the window ends the command there, and
no route was up. Under a calibration the scaler cannot evaluate not even the regulator goes up. -/
namespace Firestarter

open Interactive Interactive.Prog

set_option synthInstance.maxSize 4000

variable {env : Env} {w w' w'' : World}

/-! ## Bits that stay down -/

/-- The note that the control register took a value with one of these bits. -/
def Event.raises (mask : Reg) : Event → Bool
  | .control data => data &&& mask != 0
  | _ => false

/-- None of these bits is up, and none was at any moment since that state. -/
def StaysDown (mask : Reg) (w w' : World) : Prop :=
  w'.controlRegister &&& mask = 0 ∧
    ∃ new, w'.trace = new ++ w.trace ∧ ∀ e ∈ new, e.raises mask = false

/-- From a register with none of these bits up, none goes up. -/
def DownStep (mask : Reg) (w w' : World) : Prop :=
  w.controlRegister &&& mask = 0 → StaysDown mask w w'

section
variable {mask sub : Reg}

theorem down_sub {control : Reg} (down : control &&& mask = 0) (inside : mask &&& sub = sub) :
    control &&& sub = 0 := by
  rw [← inside, ← BitVec.and_assoc, down]
  exact BitVec.zero_and

namespace StaysDown

theorem start (down : w.controlRegister &&& mask = 0) : StaysDown mask w w :=
  ⟨down, [], rfl, fun _ none => absurd none List.not_mem_nil⟩

theorem step (stays : StaysDown mask w w') (step : DownStep mask w' w'') :
    StaysDown mask w w'' := by
  obtain ⟨down, new, trace, low⟩ := stays
  obtain ⟨down, new', trace', low'⟩ := step down
  refine ⟨down, new' ++ new, ?_, ?_⟩
  · rw [trace', trace, List.append_assoc]
  · intro e member
    cases List.mem_append.mp member with
    | inl member => exact low' e member
    | inr member => exact low e member

theorem weaken (stays : StaysDown mask w w') (inside : mask &&& sub = sub) :
    StaysDown sub w w' := by
  obtain ⟨down, new, trace, low⟩ := stays
  refine ⟨down_sub down inside, new, trace, fun e member => ?_⟩
  have low := low e member
  cases e with
  | control data => simp [Event.raises] at low ⊢; exact down_sub low inside
  | _ => rfl

end StaysDown

namespace DownStep

theorem of_note {e : Event} (low : e.raises mask = false) :
    DownStep mask w { w with trace := e :: w.trace } := fun down =>
  ⟨down, [e], rfl, by simpa using low⟩

theorem of_silent (control : w'.controlRegister = w.controlRegister) (trace : w'.trace = w.trace) :
    DownStep mask w w' := fun down => ⟨control ▸ down, [], trace, by simp⟩

instance : HostFrame (DownStep mask) where
  refl _ := of_silent rfl rfl
  trans _ _ _ first rest down := (first down).step rest
  talk s s' talk down := by
    have control := congrArg World.controlRegister talk.kept
    have control : s'.controlRegister = s.controlRegister := control
    obtain ⟨new, trace, heard⟩ := talk.adds
    refine ⟨control ▸ down, new, trace, fun e member => ?_⟩
    have heard := heard e member
    cases e <;> first | rfl | cases heard

instance : SenseFrame (DownStep mask) where
  sense s e passive := of_note (by cases e <;> first | rfl | cases passive)

instance : StoreFrame (DownStep mask) where
  store s e store := of_note (by cases e <;> first | rfl | cases store)

theorem within_silent (env : Env) (f : World → World)
    (control : ∀ w, (f w).controlRegister = w.controlRegister)
    (trace : ∀ w, (f w).trace = w.trace) : Within env (DownStep mask) (update f : Fw Unit) :=
  Within.update f fun w => of_silent (control w) (trace w)

instance : LatchFrame (DownStep mask) where
  strobe s reg byte latches offAt := by
    have noted : DownStep mask s { s with trace := .strobe reg byte :: s.trace } := of_note rfl
    refine trans_of (DownStep mask) noted ?_
    exact of_silent rfl rfl

theorem within_writeControlRegister (old : Reg) {data : Reg} (down : data &&& mask = 0) :
    Within env (DownStep mask) (writeControlRegister old data) := by
  have (now : U32) : Within env (DownStep mask) (update fun w =>
      { w with regulatorOffMs := now }) :=
    within_silent env _ (fun _ => rfl) fun _ => rfl
  have : Within env (DownStep mask) (update fun w => { w with controlRegister := data } :
      Fw Unit) := Within.update _ fun w _ => ⟨down, [], rfl, by simp⟩
  have low : Event.raises mask (.control data) = false := bne_eq_false_iff_eq.mpr down
  have : Within env (DownStep mask) (note (.control data)) := Within.update _ fun w => of_note low
  unfold writeControlRegister
  infer_instance

theorem within_write (reg : U8) {data : Reg} (down : data &&& mask = 0) :
    Within env (DownStep mask) (rurpWriteToRegister reg data) := by
  have lsb : Within env (DownStep mask) (update fun w =>
      { w with lsbAddress := data.setWidth 8 }) :=
    within_silent env _ (fun _ => rfl) fun _ => rfl
  have msb : Within env (DownStep mask) (update fun w =>
      { w with msbAddress := data.setWidth 8 }) :=
    within_silent env _ (fun _ => rfl) fun _ => rfl
  have control (old : Reg) : Within env (DownStep mask) (writeControlRegister old data) :=
    within_writeControlRegister old down
  unfold rurpWriteToRegister
  infer_instance

/-- What is made of the cached register starts from one with these bits down. -/
theorem within_memorySet (bit : Reg) (state : Bool)
    (stays : ∀ control, control &&& mask = 0 → switched control bit state &&& mask = 0) :
    Within env (DownStep mask) (memorySetControlRegister bit state) := by
  unfold memorySetControlRegister rurpReadControlRegister
  refine ⟨fun s down => ?_⟩
  have written : Within env (DownStep mask)
      (rurpWriteToRegister controlRegister (switched s.controlRegister bit state)) :=
    within_write controlRegister (stays _ down)
  exact written.moves s down

theorem within_set {bit : Reg} {state : Bool}
    (stays : ∀ h control, control &&& mask = 0 →
      switched control (Handle.vpeRoute h bit) state &&& mask = 0) :
    Within env (DownStep mask) (setControlRegister bit state) := by
  have plain (h : Handle) : Within env (DownStep mask)
      (memorySetControlRegister (h.vpeRoute bit) state) := within_memorySet _ _ (stays h)
  -- A handle with no pin-1 supply routes VPE as it is.
  have generic : Within env (DownStep mask) (memorySetControlRegister bit state) := by
    have same : Handle.vpeRoute {} bit = bit := by simp [Handle.vpeRoute, Handle.usingP1AsVpp]
    exact same ▸ plain {}
  have : Within env (DownStep mask) (epromInternalSetControlRegister bit state) := by
    unfold epromInternalSetControlRegister
    infer_instance
  unfold setControlRegister
  infer_instance

instance : LowerFrame env (DownStep mask) where
  lower bit := within_set fun h control down => by
    rw [switched, if_neg Bool.false_ne_true, BitVec.and_assoc, BitVec.and_comm _ mask,
      ← BitVec.and_assoc, down]
    exact BitVec.zero_and

/-- Raising other bits, VPE not among them. -/
theorem within_raise {bit : Reg} (apart : bit &&& mask = 0) (noVpe : bit &&& ctrlVpeEnable = 0) :
    Within env (DownStep mask) (setControlRegister bit true) :=
  within_set fun h control down => by
    rw [Handle.vpeRoute_other h noVpe, switched_apart apart]
    exact down

end DownStep

end

/-! ## Readings of the rail -/

def Event.isReading : Event → Bool
  | .measured .. => true
  | _ => false

/-- A reading above the window of this target. -/
def Event.exceeds (targetMv : U16) : Event → Bool
  | .measured millivolts _ => vppHighLimit targetMv < millivolts.setWidth 32
  | _ => false

/-- The parameters of a command, whichever command it is. -/
def Handle.settings (h : Handle) : Handle := { h.parameters with cmd := 0 }

/-- What a reading is judged by: the calibration, the revision, and the target. -/
def World.standard (w : World) : Configuration × U8 × Handle :=
  (w.config, w.revision, w.handle.settings)

theorem World.standard_field {w w' : World} (same : w'.standard = w.standard) {κ : Type}
    (f : Handle → κ) (kept : ∀ h, f h.settings = f h) : f w'.handle = f w.handle := by
  have own : w'.handle.settings = w.handle.settings :=
    congrArg (fun s : Configuration × U8 × Handle => s.2.2) same
  rw [← kept w'.handle, own, kept]

/-- No reading was above the window. -/
abbrev Tame (targetMv : U16) : World → World → Prop :=
  Grows World.standard fun e => !e.exceeds targetMv

/-- The rail was not read at all. -/
abbrev Unmetered : World → World → Prop := Grows World.standard fun e => !e.isReading

theorem Unmetered.tame {targetMv : U16} (quiet : Unmetered w w') : Tame targetMv w w' := by
  obtain ⟨kept, new, trace, unread⟩ := quiet
  refine ⟨kept, new, trace, fun e member => ?_⟩
  have unread := unread e member
  cases e <;> first | rfl | cases unread

namespace Unmetered

theorem of_note {e : Event} (unread : e.isReading = false) :
    Unmetered w { w with trace := e :: w.trace } := Grows.of_note e (by simp [unread]) rfl

instance : HostFrame Unmetered where
  talk s s' talk := by
    have kept := congrArg World.standard talk.kept
    have kept : s'.standard = s.standard := kept
    obtain ⟨new, trace, heard⟩ := talk.adds
    refine ⟨kept, new, trace, fun e member => ?_⟩
    have heard := heard e member
    cases e <;> first | rfl | cases heard

instance : ReadFrame Unmetered := ⟨fun _ _ _ _ => of_note rfl⟩

instance : StoreFrame Unmetered where
  store s e store := of_note (by cases e <;> first | rfl | cases store)

instance : LatchFrame Unmetered where
  strobe s reg byte latches offAt := by
    have noted : Unmetered s { s with trace := .strobe reg byte :: s.trace } := of_note rfl
    refine trans_of Unmetered noted ?_
    exact Grows.of_silent rfl rfl

instance : CacheFrame Unmetered where
  cache _ _ _ _ _ := Grows.of_silent rfl rfl
  control _ _ := of_note rfl
  addressed _ _ _ _ := of_note rfl

end Unmetered

/-- The callbacks that read the rail, each before it lets the rail reach the socket. -/
def Callback.isGated : Callback → Bool
  | .epromWriteInit | .epromGenericInit | .epromCheckChipIdInit | .flashIntelWriteInit
  | .flashIntelEraseInit | .eeprom28cWriteInit => true
  | _ => false

/-- The others, as far as they work on a chip that takes high voltage. -/
def Callback.isUngated : Callback → Bool
  | .epromWriteExecute | .epromEraseExecute | .epromCheckChipIdExecute | .flashIntelWriteExecute
  | .flashIntelEraseExecute | .flashIntelCleanup | .eeprom28cWriteExecute => true
  | _ => false

theorem within_ungated {callback : Callback} (ungated : callback.isUngated = true) :
    Within env Unmetered (dispatch callback) := by
  cases callback with
  | _ => first | exact absurd ungated Bool.false_ne_true | (unfold dispatch; infer_instance)

/-! ## What is known at the gate -/

/-- How the phase engine comes to the gate of a command without the force flag. -/
structure AtGate (env : Env) (w : World) : Prop where
  unforced : w.handle.isFlagSet flagForce = false
  measurable : isRevision0 env.build w.hardwareRevision = false
  off : w.controlRegister &&& highVoltageBits env.build = 0

/-- No route went up, and nothing at all under a calibration the scaler cannot evaluate. -/
structure Barred (b : Build) (w w' : World) : Prop where
  routes : StaysDown rurpSocketVppRouteBits w w'
  dark : calibrationIsPlausible b w.config = false → StaysDown (highVoltageBits b) w w'

/-- The calibration is good, and no reading was above the window. -/
structure Passed (b : Build) (w w' : World) : Prop where
  calibrated : calibrationIsPlausible b w.config = true
  tame : Tame w.handle.vppMv w w'

/-- The gate stopped the command, or found nothing to object to. -/
def Judged (b : Build) (w w' : World) : Prop :=
  w'.handle.responseCode = responseCodeError ∧ Barred b w w' ∨ Passed b w w'

variable {b : Build}

theorem routes_inside (b : Build) :
    highVoltageBits b &&& rurpSocketVppRouteBits = rurpSocketVppRouteBits := by
  unfold highVoltageBits epromHvRouteBits ctrlVppVpeDropEnable
  cases b.hardwareRevision <;> decide

theorem AtGate.down (gate : AtGate env w) : w.controlRegister &&& rurpSocketVppRouteBits = 0 :=
  down_sub gate.off (routes_inside env.build)

theorem Barred.of_dark (dark : StaysDown (highVoltageBits b) w w') : Barred b w w' :=
  ⟨dark.weaken (routes_inside b), fun _ => dark⟩

theorem Barred.of_good (good : calibrationIsPlausible b w.config = true)
    (routes : StaysDown rurpSocketVppRouteBits w w') : Barred b w w' :=
  ⟨routes, fun bad => absurd (good.symm.trans bad) (by decide)⟩

theorem Passed.onward (passed : Passed b w w') (quiet : Unmetered w' w'') : Passed b w w'' :=
  ⟨passed.calibrated, trans_of (Tame w.handle.vppMv) passed.tame quiet.tame⟩

/-! ## The reading -/

theorem ends_readVoltage (w : World) :
    Ends rurpReadVoltageMv env w
      (fun millivolts w' => w'.standard = w.standard ∧
        (vppHighLimit w.handle.vppMv < millivolts.setWidth 32 ∨ Tame w.handle.vppMv w w'))
      (fun _ => True) := by
  have read {w₁ : World} (quiet : Unmetered w w₁) (millivolts : U16) (latches : Latches) :
      { w₁ with trace := .measured millivolts latches :: w₁.trace }.standard = w.standard ∧
        (vppHighLimit w.handle.vppMv < millivolts.setWidth 32 ∨
          Tame w.handle.vppMv w
            { w₁ with trace := .measured millivolts latches :: w₁.trace }) := by
    refine ⟨quiet.kept, ?_⟩
    by_cases high : vppHighLimit w.handle.vppMv < millivolts.setWidth 32
    · exact .inl high
    · refine .inr (trans_of (Tame w.handle.vppMv) quiet.tame (Grows.of_note _ ?_ rfl))
      simpa [Event.exceeds] using high
  unfold rurpReadVoltageMv
  rw [ends_bind, ends_build]
  split
  · refine Within.bind_ends (S := Unmetered) inferInstance (fun _ w₁ quiet => ?_) fun _ _ => trivial
    refine Within.bind_ends (S := Unmetered) inferInstance (fun _ w₂ quiet₂ => ?_)
      fun _ _ => trivial
    exact read (trans_of Unmetered quiet quiet₂) _ _
  · refine Within.bind_ends (S := Unmetered) inferInstance (fun _ w₁ quiet => ?_) fun _ _ => trivial
    refine Within.bind_ends (S := Unmetered) inferInstance (fun _ w₂ quiet₂ => ?_)
      fun _ _ => trivial
    exact read (trans_of Unmetered quiet quiet₂) _ _

/-- What the window makes of a reading. -/
theorem ends_window (unforced : w.handle.isFlagSet flagForce = false) (settle : U32) :
    Ends (do
      delay settle
      memUtilCheckVppWindow (← rurpReadVoltageMv)) env w
      (fun _ w' => w'.handle.responseCode = responseCodeError ∨ Tame w.handle.vppMv w w')
      (fun _ => True) := by
  refine Within.bind_ends (S := Unmetered) inferInstance (fun _ w₁ waited => ?_) fun _ _ => trivial
  have target := World.standard_field waited.kept Handle.vppMv fun _ => rfl
  rw [ends_bind]
  refine (ends_readVoltage w₁).mono (fun millivolts w₂ read => ?_) fun _ _ => trivial
  obtain ⟨same, read⟩ := read
  replace same := same.trans waited.kept
  have target' := World.standard_field same Handle.vppMv fun _ => rfl
  have force := World.standard_field same (Handle.isFlagSet · flagForce) fun _ => rfl
  have unforced : w₂.handle.isFlagSet flagForce = false := force.trans unforced
  unfold memUtilCheckVppWindow memUtilReportVoltage
  rw [ends_bind, ends_getHandle, target']
  rw [target] at read
  split
  · rw [unforced, ends_bind]
    exact ends_any _ (fun _ _ => .inl rfl) fun _ => trivial
  · rename_i low
    have tame := read.resolve_left low
    refine (Within.ends (R := Unmetered) inferInstance w₂).mono (fun _ w₃ quiet => ?_)
      fun _ _ => trivial
    exact .inr (trans_of (Tame w.handle.vppMv) waited.tame
      (trans_of (Tame w.handle.vppMv) tame quiet.tame))

/-! ## The gates of the three drivers -/

/-- A part of a gate without a reading, and without a route. -/
def Poised (w w' : World) : Prop := Unmetered w w' ∧ DownStep rurpSocketVppRouteBits w w'

theorem within_poised {α : Type} {m : Fw α} (quiet : Within env Unmetered m)
    (down : Within env (DownStep rurpSocketVppRouteBits) m) : Within env Poised m :=
  ⟨fun s => ⟨quiet.moves s, down.moves s⟩⟩

theorem Poised.standard (poised : Poised w w') : w'.standard = w.standard := poised.1.kept

/-- What precedes the reading belongs to what was read. -/
theorem Passed.of_tame (good : calibrationIsPlausible b w.config = true) (before : Unmetered w w')
    (tame : Tame w'.handle.vppMv w' w'') : Passed b w w'' := by
  have target := World.standard_field before.kept Handle.vppMv fun _ => rfl
  rw [target] at tame
  exact ⟨good, trans_of (Tame w.handle.vppMv) before.tame tame⟩

theorem AtGate.unforced_of (gate : AtGate env w) (same : w'.standard = w.standard) :
    w'.handle.isFlagSet flagForce = false :=
  (World.standard_field same (Handle.isFlagSet · flagForce) fun _ => rfl).trans gate.unforced

/-- The regulator may go up before the reading, with the drop resistor where the part needs it. -/
theorem within_raiseRail (b : Build) (h : Handle) :
    Within env (DownStep rurpSocketVppRouteBits) (setControlRegister (epromHvRouteMask b h) true) := by
  have apart : epromHvRouteMask b h &&& rurpSocketVppRouteBits = 0 := by
    unfold epromHvRouteMask epromHvRouteBits ctrlVppVpeDropEnable
    cases b.hardwareRevision <;> repeat' split
    all_goals decide
  exact DownStep.within_raise apart (hvRouteMask_parts b h).2.1

instance : Within env (DownStep rurpSocketVppRouteBits)
    (setControlRegister ctrlVppRegulatorEnable true) :=
  DownStep.within_raise (by decide) (by decide)

/-- The reading itself, between the raised regulator and what follows. -/
theorem ends_reading {β : Type} {rest : Fw β} {ended : β → World → Prop} {cutOff : World → Prop}
    (unforced : w.handle.isFlagSet flagForce = false) (settle : U32)
    (onward : ∀ w', DownStep rurpSocketVppRouteBits w w' →
      (w'.handle.responseCode = responseCodeError ∨ Tame w.handle.vppMv w w') →
      Ends rest env w' ended cutOff)
    (cut : ∀ w', DownStep rurpSocketVppRouteBits w w' → cutOff w') :
    Ends (do
      delay settle
      memUtilCheckVppWindow (← rurpReadVoltageMv)
      rest) env w ended cutOff := by
  have down : Within env (DownStep rurpSocketVppRouteBits) (do
      delay settle
      memUtilCheckVppWindow (← rurpReadVoltageMv)) := inferInstance
  have split : (do
      delay settle
      memUtilCheckVppWindow (← rurpReadVoltageMv)
      rest) = (do
        delay settle
        memUtilCheckVppWindow (← rurpReadVoltageMv)) >>= fun _ => rest := by
    simp only [bind_assoc]
  rw [split, ends_bind]
  exact ((down.ends w).and (ends_window unforced settle)).mono
    (fun _ w' both => onward w' both.1 both.2) fun w' both => cut w' both.1

/-- An error outlives the switching-off, and whatever was down stays down. -/
theorem ends_lower_error {bit : Reg} (failed : w.handle.responseCode = responseCodeError) :
    Ends (setControlRegister bit false) env w
      (fun _ w' => w'.handle.responseCode = responseCodeError ∧ ∀ mask, DownStep mask w w')
      (fun w' => ∀ mask, DownStep mask w w') := by
  have silent : Within env Silent (setControlRegister bit false) := inferInstance
  have down (mask : Reg) : Within env (DownStep mask) (setControlRegister bit false) :=
    inferInstance
  have lowered : Within env (fun w w' => ∀ mask, DownStep mask w w') (setControlRegister bit false) :=
    ⟨fun s mask => (down mask).moves s⟩
  refine ((silent.ends w).and (lowered.ends w)).mono (fun _ w' both => ⟨?_, both.2⟩) fun _ both =>
    both.2
  rw [both.1.handle]
  exact failed

/-- A refused calibration. -/
theorem ends_refuseBadCalibration_barred (gate : AtGate env w)
    (bad : calibrationIsPlausible env.build w.config = false) :
    Ends memUtilRefuseBadCalibration env w
      (fun refused w' => refused = true ∧ w'.handle.responseCode = responseCodeError ∧
        Barred env.build w w')
      (Barred env.build w) := by
  have down : Within env (DownStep (highVoltageBits env.build)) memUtilRefuseBadCalibration :=
    inferInstance
  refine ((down.ends w).and (ends_refuseBadCalibration bad)).mono (fun _ w' both => ?_)
    fun _ both => both.2.elim
  exact ⟨both.2.1, both.2.2.error, .of_dark (both.1 gate.off)⟩

theorem ends_epromMeasureVpp (gate : AtGate env w)
    (good : calibrationIsPlausible env.build w.config = true) :
    Ends epromMeasureVpp env w (fun _ w' => Judged env.build w w') (Barred env.build w) := by
  have barred {w' : World} (down : DownStep rurpSocketVppRouteBits w w') : Barred env.build w w' :=
    .of_good good (down gate.down)
  have raise (b : Build) (h : Handle) : Within env Poised (setControlRegister (epromHvRouteMask b h) true) :=
    within_poised inferInstance (within_raiseRail b h)
  unfold epromMeasureVpp
  refine Within.bind_ends (S := Poised) (within_poised inferInstance inferInstance)
    (fun _ w₁ warned => ?_) fun w₁ warned => barred warned.2
  rw [ends_bind, ends_build, ends_bind, ends_getHandle]
  refine Within.bind_ends (S := Poised) (raise _ _) (fun _ w₂ raised => ?_) fun w₂ raised =>
    barred (trans_of (DownStep rurpSocketVppRouteBits) warned.2 raised.2)
  have quiet := trans_of Unmetered warned.1 raised.1
  have down := trans_of (DownStep rurpSocketVppRouteBits) warned.2 raised.2
  refine ends_reading (gate.unforced_of quiet.kept) 100 (fun w₃ low judged => ?_) fun w₃ low =>
    barred (trans_of (DownStep rurpSocketVppRouteBits) down low)
  replace low := trans_of (DownStep rurpSocketVppRouteBits) down low
  unfold epromHvAllOff
  rw [ends_bind, ends_build]
  rcases judged with failed | tame
  · exact (ends_lower_error failed).mono
      (fun _ _ off => .inl ⟨off.1, barred (trans_of (DownStep rurpSocketVppRouteBits) low (off.2 _))⟩)
      fun _ off => barred (trans_of (DownStep rurpSocketVppRouteBits) low (off _))
  · have passed : Passed env.build w w₃ := .of_tame good quiet tame
    refine (Within.ends (R := Poised) (within_poised inferInstance inferInstance) w₃).mono
      (fun _ _ off => .inr (passed.onward off.1))
      fun _ off => barred (trans_of (DownStep rurpSocketVppRouteBits) low off.2)

theorem ends_epromCheckVpp (gate : AtGate env w) :
    Ends epromCheckVpp env w (fun _ w' => Judged env.build w w') (Barred env.build w) := by
  unfold epromCheckVpp rurpGetHardwareRevision
  rw [ends_bind, ends_build, ends_bind, ends_bind, ends_look, ends_pure, gate.measurable,
    if_neg Bool.false_ne_true, ends_bind]
  cases good : calibrationIsPlausible env.build w.config with
  | true =>
    refine (ends_refuseBadCalibration_good good).mono (fun refused w' passed => ?_)
      fun _ never => never.elim
    obtain ⟨rfl, rfl⟩ := passed
    exact Ends.when (fun _ => ends_epromMeasureVpp gate good) nofun
  | false =>
    refine (ends_refuseBadCalibration_barred gate good).mono (fun refused w' so => ?_) fun _ => id
    obtain ⟨rfl, so⟩ := so
    exact Ends.when nofun fun _ => .inl so

/-- Where the gate of an Intel flash chip leaves the command. -/
def Lifted (b : Build) (w : World) (up : Bool) (w' : World) : Prop :=
  if up then Passed b w w'
  else w'.handle.responseCode = responseCodeError ∧ Barred b w w'

theorem ends_flashIntelMeasureVpp (gate : AtGate env w)
    (good : calibrationIsPlausible env.build w.config = true) :
    Ends flashIntelMeasureVpp env w (Lifted env.build w)
      (fun w' => Barred env.build w w' ∨ Passed env.build w w') := by
  have barred {w' : World} (down : DownStep rurpSocketVppRouteBits w w') : Barred env.build w w' :=
    .of_good good (down gate.down)
  unfold flashIntelMeasureVpp
  refine Within.bind_ends (S := Poised) (within_poised inferInstance inferInstance)
    (fun _ w₁ warned => ?_) fun w₁ warned => .inl (barred warned.2)
  refine Within.bind_ends (S := Poised) (within_poised inferInstance inferInstance)
    (fun _ w₂ raised => ?_) fun w₂ raised =>
      .inl (barred (trans_of (DownStep rurpSocketVppRouteBits) warned.2 raised.2))
  have quiet := trans_of Unmetered warned.1 raised.1
  have down := trans_of (DownStep rurpSocketVppRouteBits) warned.2 raised.2
  refine ends_reading (gate.unforced_of quiet.kept) 500 (fun w₃ low judged => ?_) fun w₃ low =>
    .inl (barred (trans_of (DownStep rurpSocketVppRouteBits) down low))
  replace low := trans_of (DownStep rurpSocketVppRouteBits) down low
  rw [ends_bind, ends_getHandle]
  split
  · rename_i failed
    rw [ends_bind]
    refine (ends_lower_error (beq_iff_eq.mp failed)).mono (fun _ w₄ off => ?_) fun _ off =>
      .inl (barred (trans_of (DownStep rurpSocketVppRouteBits) low (off _)))
    exact ⟨off.1, barred (trans_of (DownStep rurpSocketVppRouteBits) low (off.2 _))⟩
  · rename_i fine
    have tame := judged.resolve_left fun failed => fine (beq_iff_eq.mpr failed)
    have passed : Passed env.build w w₃ := .of_tame good quiet tame
    exact Within.bind_ends (S := Unmetered) inferInstance (fun _ _ route => passed.onward route)
      fun _ route => .inr (passed.onward route)

theorem ends_flashIntelVppUp (gate : AtGate env w) :
    Ends flashIntelVppUp env w (Lifted env.build w)
      (fun w' => Barred env.build w w' ∨ Passed env.build w w') := by
  unfold flashIntelVppUp rurpGetHardwareRevision
  rw [ends_bind, ends_build, ends_bind, ends_bind, ends_look, ends_pure, gate.measurable,
    if_neg Bool.false_ne_true, ends_bind]
  cases good : calibrationIsPlausible env.build w.config with
  | true =>
    refine (ends_refuseBadCalibration_good good).mono (fun refused w' passed => ?_)
      fun _ never => never.elim
    obtain ⟨rfl, rfl⟩ := passed
    rw [if_neg Bool.false_ne_true]
    exact ends_flashIntelMeasureVpp gate good
  | false =>
    refine (ends_refuseBadCalibration_barred gate good).mono (fun refused w' so => ?_)
      fun _ barred => .inl barred
    obtain ⟨rfl, so⟩ := so
    rw [if_pos rfl]
    exact so

theorem ends_eeprom28cRaiseAndRead (gate : AtGate env w)
    (good : calibrationIsPlausible env.build w.config = true) :
    Ends (eeprom28cRaiseAndRead true) env w (fun _ w' => Judged env.build w w')
      (fun w' => Barred env.build w w' ∨ Passed env.build w w') := by
  have barred {w' : World} (down : DownStep rurpSocketVppRouteBits w w') : Barred env.build w w' :=
    .of_good good (down gate.down)
  unfold eeprom28cRaiseAndRead
  refine Within.bind_ends (S := Poised) (within_poised inferInstance inferInstance)
    (fun _ w₁ raised => ?_) fun w₁ raised => .inl (barred raised.2)
  rw [if_pos rfl]
  refine ends_reading (gate.unforced_of raised.1.kept) 50 (fun w₂ low judged => ?_) fun w₂ low =>
    .inl (barred (trans_of (DownStep rurpSocketVppRouteBits) raised.2 low))
  replace low := trans_of (DownStep rurpSocketVppRouteBits) raised.2 low
  rw [ends_bind, ends_getHandle]
  split
  · rename_i failed
    exact (ends_lower_error (beq_iff_eq.mp failed)).mono
      (fun _ _ off => .inl ⟨off.1, barred (trans_of (DownStep rurpSocketVppRouteBits) low (off.2 _))⟩)
      fun _ off => .inl (barred (trans_of (DownStep rurpSocketVppRouteBits) low (off _)))
  · rename_i fine
    have tame := judged.resolve_left fun failed => fine (beq_iff_eq.mpr failed)
    have passed : Passed env.build w w₂ := .of_tame good raised.1 tame
    exact (Within.ends (R := Unmetered) inferInstance w₂).mono
      (fun _ _ read => .inr (passed.onward read)) fun _ read => .inr (passed.onward read)

theorem ends_eeprom28cCheckChipId (gate : AtGate env w) (target : w.handle.vppMv ≠ 0) :
    Ends eeprom28cCheckChipId env w (fun _ w' => Judged env.build w w')
      (fun w' => Barred env.build w w' ∨ Passed env.build w w') := by
  unfold eeprom28cCheckChipId rurpGetHardwareRevision
  rw [ends_bind, ends_getHandle]
  split
  · rw [gate.unforced, if_neg Bool.false_ne_true]
    have down : Within env (DownStep (highVoltageBits env.build))
        (refuse msgErrMemSizeTooSmall (bytes32 w.handle.memSize)) := inferInstance
    refine ((down.ends w).and (ends_refuse _ _ w)).mono (fun _ w' both => ?_) fun _ both => ?_
    · exact .inl ⟨both.2.2, .of_dark (both.1 gate.off)⟩
    · exact .inl (.of_dark (both.1 gate.off))
  · rw [ends_bind, ends_build, ends_bind, ends_bind, ends_look, ends_pure, gate.measurable,
      bne_iff_ne.mpr target]
    dsimp only
    rw [Bool.not_false, Bool.and_true, if_pos rfl, ends_bind]
    cases good : calibrationIsPlausible env.build w.config with
    | true =>
      refine (ends_refuseBadCalibration_good good).mono (fun refused w' passed => ?_)
        fun _ never => never.elim
      obtain ⟨rfl, rfl⟩ := passed
      exact Ends.when (fun _ => ends_eeprom28cRaiseAndRead gate good) nofun
    | false =>
      refine (ends_refuseBadCalibration_barred gate good).mono (fun refused w' so => ?_)
        fun _ barred => .inl barred
      obtain ⟨rfl, so⟩ := so
      exact Ends.when nofun fun _ => .inl so

/-! ## The gated callbacks -/

theorem Barred.onward (barred : Barred b w w') (down : ∀ mask, DownStep mask w' w'') :
    Barred b w w'' :=
  ⟨barred.routes.step (down _), fun bad => (barred.dark bad).step (down _)⟩

/-- What follows the gate in a callback: quiet once the gate is passed, and nothing but
switching off once it is not. -/
theorem Judged.ends_rest {m : Fw Unit} (judged : Judged env.build w w')
    (quiet : Within env Unmetered m)
    (failed : w'.handle.responseCode = responseCodeError →
      Ends m env w' (fun _ w'' => w''.handle.responseCode = responseCodeError ∧
        ∀ mask, DownStep mask w' w'') (fun w'' => ∀ mask, DownStep mask w' w'')) :
    Ends m env w' (fun _ w'' => Judged env.build w w'')
      (fun w'' => Barred env.build w w'' ∨ Passed env.build w w'') := by
  rcases judged with ⟨error, barred⟩ | passed
  · exact (failed error).mono (fun _ _ off => .inl ⟨off.1, barred.onward off.2⟩)
      fun _ off => .inl (barred.onward off)
  · exact (quiet.ends w').mono (fun _ _ onward => .inr (passed.onward onward))
      fun _ onward => .inr (passed.onward onward)

/-- A part of the callback that an error passes over. -/
theorem Judged.ends_when {m : Fw Unit} {c : Bool} (judged : Judged env.build w w')
    (skipped : w'.handle.responseCode = responseCodeError → c = false)
    (quiet : Within env Unmetered m) :
    Ends (when c m) env w' (fun _ w'' => Judged env.build w w'')
      (fun w'' => Barred env.build w w'' ∨ Passed env.build w w'') := by
  refine judged.ends_rest inferInstance fun error => ?_
  rw [skipped error]
  exact ⟨error, fun mask => refl_of (DownStep mask) w'⟩

theorem ends_epromGenericInit (gate : AtGate env w) :
    Ends epromGenericInit env w (fun _ w' => Judged env.build w w')
      (fun w' => Barred env.build w w' ∨ Passed env.build w w') := by
  unfold epromGenericInit
  rw [ends_bind]
  refine (ends_epromCheckVpp gate).mono (fun _ w₁ judged => ?_) fun _ barred => .inl barred
  rw [ends_bind, ends_getHandle]
  exact judged.ends_when (fun error => by simp [error]) inferInstance

theorem ends_epromWriteInit (gate : AtGate env w) :
    Ends epromWriteInit env w (fun _ w' => Judged env.build w w')
      (fun w' => Barred env.build w w' ∨ Passed env.build w w') := by
  unfold epromWriteInit epromInternalWriteInitBody
  rw [ends_bind, ends_bind]
  refine (ends_epromGenericInit gate).mono (fun _ w₁ judged => ?_) fun _ => id
  rw [ends_bind, ends_getHandle]
  refine (judged.ends_when (fun error => by simp [error]) inferInstance).mono
    (fun _ w₂ judged => ?_) fun _ => id
  refine judged.ends_rest inferInstance fun error => ?_
  unfold epromOffOnError epromHvAllOff
  rw [ends_bind, ends_getHandle, error]
  refine Ends.when (fun _ => ?_) nofun
  rw [ends_bind, ends_build]
  exact ends_lower_error error

theorem ends_flashIntelWriteInit (gate : AtGate env w) :
    Ends flashIntelWriteInit env w (fun _ w' => Judged env.build w w')
      (fun w' => Barred env.build w w' ∨ Passed env.build w w') := by
  unfold flashIntelWriteInit
  rw [ends_bind]
  refine (ends_flashIntelVppUp gate).mono (fun up w₁ lifted => ?_) fun _ => id
  cases up with
  | false => exact .inl lifted
  | true =>
    have passed : Passed env.build w w₁ := lifted
    exact (Within.ends (R := Unmetered) inferInstance w₁).mono
      (fun _ _ quiet => .inr (passed.onward quiet)) fun _ quiet => .inr (passed.onward quiet)

theorem ends_flashIntelEraseInit (gate : AtGate env w) :
    Ends flashIntelEraseInit env w (fun _ w' => Judged env.build w w')
      (fun w' => Barred env.build w w' ∨ Passed env.build w w') := by
  unfold flashIntelEraseInit
  rw [ends_discard]
  refine (ends_flashIntelVppUp gate).mono (fun up w₁ lifted => ?_) fun _ => id
  cases up with
  | false => exact .inl lifted
  | true => exact .inr lifted

theorem ends_eeprom28cWriteInit (gate : AtGate env w) (target : w.handle.vppMv ≠ 0)
    (identifies : w.handle.chipId > 0) :
    Ends eeprom28cWriteInit env w (fun _ w' => Judged env.build w w')
      (fun w' => Barred env.build w w' ∨ Passed env.build w w') := by
  unfold eeprom28cWriteInit
  rw [ends_bind, ends_getHandle, if_pos identifies, ends_bind]
  refine (ends_eeprom28cCheckChipId gate target).mono (fun _ w₁ judged => ?_) fun _ => id
  rw [ends_bind, ends_getHandle]
  exact judged.ends_when (fun error => by simp [error]) inferInstance

/-- What a callback needs besides: the A9 check has a target, and an identifier to look for. -/
def Callback.Fits (callback : Callback) (h : Handle) : Prop :=
  callback = .eeprom28cWriteInit → h.vppMv ≠ 0 ∧ h.chipId > 0

theorem Callback.Fits.of_ne {callback : Callback} {h : Handle}
    (other : callback ≠ .eeprom28cWriteInit) : callback.Fits h := fun here => absurd here other

theorem ends_gatedCallback {callback : Callback} (gated : callback.isGated = true)
    (fits : callback.Fits w.handle) (gate : AtGate env w) :
    Ends (dispatch callback) env w (fun _ w' => Judged env.build w w')
      (fun w' => Barred env.build w w' ∨ Passed env.build w w') := by
  cases callback with
  | epromWriteInit => exact ends_epromWriteInit gate
  | epromGenericInit => exact ends_epromGenericInit gate
  | epromCheckChipIdInit => exact (ends_epromCheckVpp gate).mono (fun _ _ => id) fun _ => .inl
  | flashIntelWriteInit => exact ends_flashIntelWriteInit gate
  | flashIntelEraseInit => exact ends_flashIntelEraseInit gate
  | eeprom28cWriteInit => exact ends_eeprom28cWriteInit gate (fits rfl).1 (fits rfl).2
  | _ => cases gated

/-! ## The phases around the gate -/

/-- The frames that close a phase. -/
def Event.closesPhase : Event → Bool
  | .emitted id _ => id == msgInitDone || id == msgMainDone || id == msgEndDone
  | _ => false

/-- A callback has failed since that state, and no phase has been closed. -/
def FailedSince (w w' : World) : Prop :=
  ∃ new, w'.trace = new ++ w.trace ∧
    (∃ callback, .returned callback responseCodeError ∈ new) ∧
    ∀ e ∈ new, e.closesPhase = false

/-- Nothing an engine does around a callback, but for the closing of a phase. -/
def Event.isOrdinary : Event → Bool
  | .measured .. | .control _ => false
  | e => !e.closesPhase

theorem Event.isOrdinary_of_report {e : Event} (noise : e.isReportNoise = true) :
    e.isOrdinary = true := by
  cases e with
  | emitted id params =>
    have report : isReport id = true := noise
    unfold isReport at report
    simp only [Event.isOrdinary, Event.closesPhase]
    grind
  | printed text => rfl
  | _ => cases noise

theorem Event.unclosed_of_noise {e : Event} (noise : e.isNoise = true) :
    (!e.closesPhase) = true := by
  cases e with
  | emitted id params =>
    have report : Event.isReportNoise (.emitted id params) = true := by
      simpa [Event.isNoise, Event.isShieldNoise] using noise
    exact Event.isOrdinary_of_report report
  | _ => rfl

section
variable {κ : Type} {part : World → κ} {noise : Event → Bool}

/-- What lies beside the link, a relation that allows the reports keeps along it. -/
theorem Grows.of_link (queue : w.QueuesReports) (link : LinkStep w w') (kept : part w' = part w)
    (reports : ∀ e : Event, e.isReportNoise = true → noise e = true) : Grows part noise w w' := by
  obtain ⟨-, new, trace, heard⟩ := link.adds queue
  exact ⟨kept, new, trace, fun e member => reports e (heard e member)⟩

theorem Grows.of_mode (queue : w.QueuesReports) (mode : ModeStep w w') (kept : part w' = part w)
    (reports : ∀ e : Event, e.isReportNoise = true → noise e = true) : Grows part noise w w' := by
  obtain ⟨-, new, trace, heard⟩ := mode.adds queue
  exact ⟨kept, new, trace, fun e member => reports e (heard e member)⟩

end

/-- A step of the engine that leaves the register and what a reading is judged by. -/
abbrev Ordinary : World → World → Prop :=
  Grows (fun w => (w.standard, w.controlRegister)) Event.isOrdinary

namespace Ordinary

theorem unmetered (step : Ordinary w w') : Unmetered w w' := by
  obtain ⟨kept, new, trace, ordinary⟩ := step
  refine ⟨congrArg Prod.fst kept, new, trace, fun e member => ?_⟩
  have ordinary := ordinary e member
  cases e <;> first | rfl | cases ordinary

theorem down (step : Ordinary w w') (mask : Reg) : DownStep mask w w' := by
  obtain ⟨kept, new, trace, ordinary⟩ := step
  have control : w'.controlRegister = w.controlRegister := congrArg Prod.snd kept
  refine fun down => ⟨control ▸ down, new, trace, fun e member => ?_⟩
  have ordinary := ordinary e member
  cases e <;> first | rfl | cases ordinary

theorem of_note {e : Event} (ordinary : e.isOrdinary = true) :
    Ordinary w { w with trace := e :: w.trace } := Grows.of_note e ordinary rfl

theorem of_link (queue : w.QueuesReports) (link : LinkStep w w') : Ordinary w w' := by
  have kept := congrArg (fun w : World => (w.standard, w.controlRegister)) link.kept
  exact Grows.of_link queue link kept fun _ => Event.isOrdinary_of_report

theorem of_mode (queue : w.QueuesReports) (mode : ModeStep w w') : Ordinary w w' := by
  have kept := congrArg (fun w : World => (w.standard, w.controlRegister)) mode.kept
  exact Grows.of_mode queue mode kept fun _ => Event.isOrdinary_of_report

theorem of_delivered {kind : OpMessageType} (queue : w.QueuesReports)
    (heard : Delivered kind w w') : Ordinary w w' ∧ w'.QueuesReports := by
  cases heard with
  | incomplete link => exact ⟨of_link queue link, (link.adds queue).1⟩
  | plain kind notData taken link =>
    exact ⟨trans_of Ordinary (of_link queue link) (of_note rfl), (link.adds queue).1⟩
  | @data _ v size link =>
    refine ⟨trans_of Ordinary (of_link queue link) ?_, (link.adds queue).1⟩
    exact ⟨rfl, [_], rfl, by simp [Event.isOrdinary, Event.closesPhase]⟩

theorem of_stage (w : World) (st : Stage) : Ordinary w (w.inStage st) :=
  ⟨rfl, [_], rfl, by simp [Event.isOrdinary, Event.closesPhase]⟩

end Ordinary

/-- Before the gate: nothing was read, nothing is up, and no phase has been closed. -/
structure Early (b : Build) (w w' : World) : Prop where
  unread : Unmetered w w'
  dark : StaysDown (highVoltageBits b) w w'
  unclosed : Grows (fun _ => ()) (fun e => !e.closesPhase) w w'

theorem Ordinary.unclosed (step : Ordinary w w') :
    Grows (fun _ => ()) (fun e => !e.closesPhase) w w' := by
  obtain ⟨-, new, trace, ordinary⟩ := step
  refine ⟨rfl, new, trace, fun e member => ?_⟩
  have ordinary := ordinary e member
  cases e <;> first | exact ordinary | rfl

theorem Early.ordinary (early : Early b w w') (step : Ordinary w' w'') : Early b w w'' where
  unread := trans_of Unmetered early.unread step.unmetered
  dark := early.dark.step (step.down _)
  unclosed := trans_of _ early.unclosed step.unclosed

/-- At any moment of the command. -/
def Shown (b : Build) (w w' : World) : Prop := Barred b w w' ∨ Passed b w w'

theorem Shown.ordinary (shown : Shown b w w') (step : Ordinary w' w'') : Shown b w w'' := by
  rcases shown with barred | passed
  · exact .inl (barred.onward step.down)
  · exact .inr (passed.onward step.unmetered)

theorem Early.shown (early : Early b w w') : Shown b w w' := .inl (.of_dark early.dark)

/-- Where the command may end. -/
structure Closing (b : Build) (w w' : World) : Prop where
  shown : Shown b w w'
  answered : Tame w.handle.vppMv w w' ∨ FailedSince w w'
  queue : w'.QueuesReports

theorem FailedSince.grows (failed : FailedSince w w')
    (step : Grows (fun _ => ()) (fun e => !e.closesPhase) w' w'') : FailedSince w w'' := by
  obtain ⟨new, trace, ⟨callback, returned⟩, unclosed⟩ := failed
  obtain ⟨-, new', trace', unclosed'⟩ := step
  refine ⟨new' ++ new, ?_, ⟨callback, List.mem_append_right _ returned⟩, fun e member => ?_⟩
  · rw [trace', trace, List.append_assoc]
  · cases List.mem_append.mp member with
    | inl member => simpa using unclosed' e member
    | inr member => exact unclosed e member

theorem Closing.ordinary (closing : Closing b w w') (step : Ordinary w' w'')
    (queue : w''.QueuesReports) : Closing b w w'' := by
  refine ⟨closing.shown.ordinary step, ?_, queue⟩
  rcases closing.answered with tame | failed
  · exact .inl (trans_of (Tame w.handle.vppMv) tame step.unmetered.tame)
  · exact .inr (failed.grows step.unclosed)

/-! What was known before a callback joins what the callback made of the gate. -/

theorem Early.barred (early : Early b w w') (barred : Barred b w' w'') : Barred b w w'' := by
  have config : w'.config = w.config := congrArg Prod.fst early.unread.kept
  have routes := early.dark.weaken (routes_inside b)
  exact ⟨routes.step fun _ => barred.routes,
    fun bad => early.dark.step fun _ => barred.dark (config ▸ bad)⟩

theorem Early.passed (early : Early b w w') (passed : Passed b w' w'') : Passed b w w'' := by
  have config : w'.config = w.config := congrArg Prod.fst early.unread.kept
  have target := World.standard_field early.unread.kept Handle.vppMv fun _ => rfl
  have tame := passed.tame
  rw [target] at tame
  exact ⟨config ▸ passed.calibrated, trans_of (Tame w.handle.vppMv) early.unread.tame tame⟩

theorem Early.joins (early : Early b w w') (shown : Shown b w' w'') : Shown b w w'' :=
  shown.imp early.barred early.passed

/-! ## The command -/

variable {h : Handle}

/-- The callbacks of a command that goes through the gate. -/
structure Handle.Gated (h : Handle) : Prop where
  init : ∃ callback, h.firestarterOperationInit = some callback ∧ callback.isGated = true ∧
    callback.Fits h
  main : ∀ c, h.firestarterOperationMain = some c → c.isUngated = true
  finish : ∀ c, h.firestarterOperationEnd = some c → c.isUngated = true

theorem Handle.Gated.of_callbacks (init main : Callback) {finish : Option Callback}
    (first : h.firestarterOperationInit = some init) (gated : init.isGated = true)
    (fits : init.Fits h) (second : h.firestarterOperationMain = some main)
    (ungated : main.isUngated = true) (last : h.firestarterOperationEnd = finish)
    (closes : ∀ c, finish = some c → c.isUngated = true) : h.Gated where
  init := ⟨init, first, gated, fits⟩
  main c named := by
    obtain rfl := Option.some.inj (second.symm.trans named)
    exact ungated
  finish c named := closes c (last.symm.trans named)

/-- What is known of a command at its acceptance. -/
structure Opening (env : Env) (h : Handle) (w₁ : World) : Prop where
  handle : w₁.handle = h
  gate : AtGate env w₁
  gated : h.Gated

variable {w₁ : World}

/-- The gate is reached as the command was accepted. -/
theorem Opening.atGate (opening : Opening env h w₁) (early : Early env.build w₁ w) :
    AtGate env w where
  unforced := opening.gate.unforced_of early.unread.kept
  measurable := by
    have same : w.hardwareRevision = w₁.hardwareRevision := by
      have config : w.config = w₁.config := congrArg Prod.fst early.unread.kept
      have revision : w.revision = w₁.revision := congrArg (fun s => s.2.1) early.unread.kept
      unfold World.hardwareRevision
      rw [config, revision]
    rw [same]
    exact opening.gate.measurable
  off := early.dark.1

/-- The runs of a callback, with what is known of one that comes to the gate. -/
def GateRun (env : Env) (callback : Callback) (after : World → World → Prop) (w w' : World) : Prop :=
  CallbackStep w w' ∧ (callback.Fits w.handle → AtGate env w → after w w')

theorem gateRuns {callback : Callback} (gated : callback.isGated = true) :
    CallbackRuns env callback (GateRun env callback (Judged env.build))
      (GateRun env callback (Shown env.build)) where
  step _ _ ran := ran.1
  ends w := by
    have settled : callback ≠ .configureMemory := by
      rintro rfl
      cases gated
    have whole : Within env CallbackStep (dispatch callback) := within_callback callback settled
    have steps := whole.ends w
    by_cases fits : callback.Fits w.handle ∧ AtGate env w
    · refine (steps.and (ends_gatedCallback gated fits.1 fits.2)).mono (fun _ _ both => ?_)
        fun _ both => ?_
      · exact ⟨both.1, fun _ _ => both.2⟩
      · exact ⟨both.1, fun _ _ => both.2⟩
    · exact steps.mono (fun _ _ step => ⟨step, fun there gate => absurd ⟨there, gate⟩ fits⟩)
        fun _ step => ⟨step, fun there gate => absurd ⟨there, gate⟩ fits⟩

/-- Nothing in a callback closes a phase. -/
theorem CallbackStep.unclosed (queue : w.QueuesReports) (step : CallbackStep w w') :
    Grows (fun _ => ()) (fun e => !e.closesPhase) w w' := by
  obtain ⟨-, new, trace, noise⟩ := step.adds queue
  exact ⟨rfl, new, trace, fun e member => Event.unclosed_of_noise (noise e member)⟩

section
variable {callback : Callback}

/-- The callback is entered. -/
theorem Early.calling (callback : Callback) (early : Early env.build w₁ w) (queue : w.QueuesReports)
    (enter : ModeStep w w') :
    Early env.build w₁ (w'.calling callback) ∧ (w'.calling callback).QueuesReports :=
  ⟨(early.ordinary (.of_mode queue enter)).ordinary (.of_note rfl), (enter.adds queue).1⟩

theorem Opening.fits (opening : Opening env h w₁) (found : h.firestarterOperationInit = some callback)
    (early : Early env.build w₁ w) : callback.Fits w.handle ∧ AtGate env w := by
  obtain ⟨c, named, -, fits⟩ := opening.gated.init
  obtain rfl : c = callback := Option.some.inj (named.symm.trans found)
  refine ⟨fun here => ?_, opening.atGate early⟩
  have target := World.standard_field early.unread.kept Handle.vppMv fun _ => rfl
  have identifier := World.standard_field early.unread.kept Handle.chipId fun _ => rfl
  rw [target, identifier, opening.handle]
  exact fits here

theorem FailedSince.of_return (unclosed : Grows (fun _ => ()) (fun e => !e.closesPhase) w w')
    (error : w'.handle.responseCode = responseCodeError) :
    FailedSince w (w'.returning callback) := by
  obtain ⟨-, new, trace, unclosed⟩ := unclosed
  refine ⟨.returned callback responseCodeError :: new, ?_, ⟨callback, List.mem_cons_self⟩, ?_⟩
  · rw [← error, List.cons_append, ← trace]
    rfl
  · intro e member
    cases List.mem_cons.mp member with
    | inl here => rw [here]; rfl
    | inr member => simpa using unclosed e member

/-- The INIT callback of the command. -/
theorem ends_serveGate (opening : Opening env h w₁) (gated : callback.isGated = true)
    (found : h.firestarterOperationInit = some callback) (queue : w.QueuesReports)
    (early : Early env.build w₁ w) :
    Ends (executeOperation dispatch (some callback)) env w
      (fun r w' => if r = .error then Closing env.build w₁ w'
        else w'.QueuesReports ∧ Passed env.build w₁ w')
      (Shown env.build w₁) := by
  have came {v w₂ : World} {after : World → World → Prop} (enter : ModeStep w v)
      (run : GateRun env callback after (v.calling callback) w₂) :
      Early env.build w₁ (v.calling callback) ∧ after (v.calling callback) w₂ ∧
        w₂.QueuesReports ∧
        Grows (fun _ => ()) (fun e => !e.closesPhase) (v.calling callback) w₂ := by
    obtain ⟨calling, queued⟩ := Early.calling callback early queue enter
    obtain ⟨fits, gate⟩ := opening.fits found calling
    exact ⟨calling, run.2 fits gate, (run.1.adds queued).1, run.1.unclosed queued⟩
  have left {w₂ w₃ : World} (queued : w₂.QueuesReports)
      (leave : ModeStep (w₂.returning callback) w₃) : Ordinary w₂ w₃ ∧ w₃.QueuesReports :=
    ⟨trans_of Ordinary (.of_note rfl) (.of_mode queued leave), (leave.adds queued).1⟩
  refine ((gateRuns gated).executes w).mono (fun r w' executed => ?_) fun w' cut => ?_
  · cases executed with
    | @good v w₂ w₃ _ enter run leave comMode response link handle =>
      obtain ⟨calling, judged, queued, -⟩ := came enter run
      obtain ⟨after, queued₃⟩ := left queued leave
      rw [if_neg (by decide)]
      have passed : Passed env.build (v.calling callback) w₂ := judged.resolve_left fun failed => by
        rw [failed.1] at response
        cases response
      refine ⟨(link.adds queued₃).1, ?_⟩
      exact ((calling.passed passed).onward after.unmetered).onward
        (Ordinary.of_link queued₃ link).unmetered
    | @bad v w₂ _ enter run leave comMode response =>
      obtain ⟨calling, judged, queued, unclosed⟩ := came enter run
      obtain ⟨after, queued'⟩ := left queued leave
      rw [if_pos rfl]
      rcases judged with ⟨error, barred⟩ | passed
      · have returning : Ordinary (w₂.returning callback) w' := .of_mode queued leave
        have failed : FailedSince w₁ (w₂.returning callback) :=
          FailedSince.of_return (trans_of _ calling.unclosed unclosed) error
        refine ⟨Shown.ordinary (.inl (calling.barred barred)) after, .inr ?_, queued'⟩
        exact failed.grows returning.unclosed
      · have passed := (calling.passed passed).onward after.unmetered
        exact ⟨.inr passed, .inl passed.tame, queued'⟩
  · cases cut with
    | entering enter => exact (early.ordinary (.of_mode queue enter)).shown
    | running enter run =>
      obtain ⟨calling, shown, -⟩ := came enter run
      exact calling.joins shown
    | leaving enter run leave link =>
      obtain ⟨calling, judged, queued, -⟩ := came enter run
      obtain ⟨after, queued'⟩ := left queued leave
      have shown := calling.joins (judged.imp (fun failed => failed.2) id)
      exact (shown.ordinary after).ordinary (.of_link queued' link)

end

/-! ## The turns of the command -/

/-- Ending a command reads nothing, raises nothing and closes no phase. -/
theorem ends_commandDone_down (live : Live w) :
    Ends commandDone env w
      (fun _ w' => ((∀ mask, DownStep mask w w') ∧ Unmetered w w') ∧
        Grows (fun _ => ()) (fun e => !e.closesPhase) w w' ∧ w'.QueuesReports)
      (fun w' => (∀ mask, DownStep mask w w') ∧ Unmetered w w') := by
  have down (mask : Reg) : Within env (DownStep mask) commandDone := by
    have idle : Within env (DownStep mask) (setHandle fun h => { h with cmd := cmdIdle }) :=
      DownStep.within_silent env (fun w => { w with handle := { w.handle with cmd := cmdIdle } })
        (fun _ => rfl) fun _ => rfl
    have write (reg : U8) : Within env (DownStep mask) (rurpWriteToRegister reg 0) :=
      DownStep.within_write reg BitVec.zero_and
    have finished : Within env (DownStep mask) (note .finished) :=
      Within.update _ fun _ => DownStep.of_note rfl
    unfold commandDone
    infer_instance
  have quiet : Within env Unmetered commandDone := by
    have finished : Within env Unmetered (note .finished) :=
      Within.update _ fun _ => Unmetered.of_note rfl
    have idle : Within env Unmetered (setHandle fun h => { h with cmd := cmdIdle }) :=
      Within.update _ fun _ => Grows.of_silent rfl rfl
    unfold commandDone
    infer_instance
  have both : Within env (fun w w' => (∀ mask, DownStep mask w w') ∧ Unmetered w w') commandDone :=
    ⟨fun s => ⟨fun mask => (down mask).moves s, quiet.moves s⟩⟩
  refine ((both.ends w).and (ends_commandDone live.queue fun _ => live.comMode)).mono
    (fun _ w' ran => ⟨ran.1, ?_⟩) fun _ ran => ran.1
  obtain ⟨-, idle, w₀, step, rfl⟩ := ran
  obtain ⟨-, new, trace, noise⟩ := step.adds live.queue
  refine ⟨⟨rfl, .finished :: new, by rw [List.cons_append, ← trace], fun e member => ?_⟩, idle.queue⟩
  cases List.mem_cons.mp member with
  | inl here => rw [here]; rfl
  | inr member => exact Event.unclosed_of_noise (noise e member)

/-- The gate is still ahead. -/
def Stage.isEarly : Stage → Bool
  | .beforeInit | .inInit => true
  | _ => false

/-- Up to the INIT callback one thing is known, and from it on another. -/
def Stage.Knows (st : Stage) (P Q : World → Prop) (w : World) : Prop :=
  w.QueuesReports ∧ if st.isEarly then P w else Q w

namespace Stage.Knows

variable {st : Stage} {P Q : World → Prop}

theorem either (knows : st.Knows P Q w) : P w ∨ Q w := by
  obtain ⟨-, so⟩ := knows
  split at so
  · exact .inl so
  · exact .inr so

/-- Another state in which the same is known. -/
theorem onward (knows : st.Knows P Q w) (queue : w'.QueuesReports)
    (before : P w → P w') (after : Q w → Q w') : st.Knows P Q w' := by
  obtain ⟨-, so⟩ := knows
  refine ⟨queue, ?_⟩
  split at so
  · rename_i is
    rw [if_pos is]
    exact before so
  · rename_i isLate
    rw [if_neg isLate]
    exact after so

/-- Past that callback a stage is as good as another. -/
theorem past {next : Stage} (knows : st.Knows P Q w) (same : st.isEarly = next.isEarly) :
    next.Knows P Q w := by
  unfold Knows at knows ⊢
  rw [← same]
  exact knows

theorem of_late (is : st.isEarly = false) (queue : w.QueuesReports) (so : Q w) :
    st.Knows P Q w :=
  ⟨queue, by rw [is]; exact so⟩

theorem late (knows : st.Knows P Q w) (is : st.isEarly = false) : Q w := by
  obtain ⟨-, so⟩ := knows
  rw [is] at so
  exact so

end Stage.Knows

/-- What is known in a stage of the command. -/
abbrev Gating (b : Build) (w₁ : World) (st : Stage) : World → Prop :=
  st.Knows (Early b w₁) (Passed b w₁)

namespace Gating

variable {st : Stage}

theorem shown (gating : Gating b w₁ st w) : Shown b w₁ w :=
  gating.either.elim (·.shown) .inr

theorem closing (gating : Gating b w₁ st w) : Closing b w₁ w := by
  refine ⟨gating.shown, .inl ?_, gating.1⟩
  exact gating.either.elim (·.unread.tame) (·.tame)

theorem ordinary (gating : Gating b w₁ st w) (step : Ordinary w w') (queue : w'.QueuesReports) :
    Gating b w₁ st w' :=
  gating.onward queue (·.ordinary step) (·.onward step.unmetered)

theorem link (gating : Gating b w₁ st w) (link : LinkStep w w') : Gating b w₁ st w' :=
  gating.ordinary (.of_link gating.1 link) (link.adds gating.1).1

theorem delivered {kind : OpMessageType} (gating : Gating b w₁ st w) (heard : Delivered kind w w') :
    Gating b w₁ st w' :=
  have step := Ordinary.of_delivered gating.1 heard
  gating.ordinary step.1 step.2

end Gating

/-- The END callback of the command, past the gate. -/
theorem ends_serveEnd {callback : Callback} {st : Stage} (ungated : callback.isUngated = true)
    (e : Engaged h st w) (passed : Passed env.build w₁ w) :
    Ends (executeOperation dispatch (some callback)) env w
      (fun _ w' => w'.QueuesReports ∧ Passed env.build w₁ w') (Shown env.build w₁) := by
  have settled : callback ≠ .configureMemory := by
    rintro rfl
    cases ungated
  have runs (c : Callback) (named : some callback = some c) : Within env Unmetered (dispatch c) := by
    obtain rfl := Option.some.inj named
    exact within_ungated ungated
  refine (((within_executeOperation runs).ends w).and (ends_callback settled w)).mono
    (fun _ w' both => ?_) fun _ both => .inr (passed.onward both.1)
  exact ⟨(e.executed both.2 fun _ _ step => step).queue, passed.onward both.1⟩

/-- The rule of a command that routes high voltage. -/
def gateRule (env : Env) {h : Handle} {w₁ : World} (opening : Opening env h w₁) :
    CommandRule env h where
  holds := Gating env.build w₁
  closing := Closing env.build w₁
  always := Shown env.build w₁
  safe gating := gating.shown
  settles gating := gating.closing
  lingers closing link := closing.ordinary (.of_link closing.queue link) (link.adds closing.queue).1
  onward shown live link := shown.ordinary (.of_link live.queue link)
  waits gating link := gating.link link
  hears _ gating heard := gating.delivered heard
  opens {st next _ _ _} opened _ gating heard link := by
    have same : st.isEarly = next.isEarly := by
      cases st <;> cases opened <;> rfl
    have replied := (gating.delivered heard).link link
    exact (replied.ordinary (.of_stage _ next) replied.1).past same
  lacks {st _ _ _ _} house lacking gating := by
    cases st <;> cases house
    · obtain ⟨callback, found, -⟩ := opening.gated.init
      cases found.symm.trans lacking
    · exact gating.past rfl
  serves {st _ _ _ callback _} settled house found e gating := by
    cases st <;> cases house
    · obtain ⟨c, named, gated, -⟩ := opening.gated.init
      obtain rfl := Option.some.inj (named.symm.trans found)
      refine (ends_serveGate opening gated named gating.1 gating.2).mono (fun r w' so => ?_) fun _ => id
      split at so
      · rename_i failed
        rw [if_pos failed]
        exact so
      · rename_i fine
        rw [if_neg fine]
        exact .of_late rfl so.1 so.2
    · refine (ends_serveEnd (opening.gated.finish callback found) e (gating.late rfl)).mono
        (fun r w' so => ?_) fun _ => id
      have after : Gating env.build w₁ .endServed w' := .of_late rfl so.1 so.2
      split
      · exact after.closing
      · exact after
  closes {st served next frame w} house _ gating := by
    have closed : Unmetered w (w.closed next frame) :=
      ⟨rfl, [.advanced next.number, .emitted frame []], rfl, by simp [Event.isReading]⟩
    cases st <;> cases house
    all_goals exact .of_late rfl gating.1 ((gating.late rfl).onward closed)
  pumps {w callback} found settled e gating := by
    have passed := gating.late rfl
    refine (ends_mainPump found settled (within_ungated (opening.gated.main callback found)) e).mono
      (fun ok w' so => ?_) fun _ moved => .inr (passed.onward moved)
    have onward := passed.onward so.1
    cases ok with
    | false => exact ⟨so.2, .inr onward, .inl onward.tame, so.2.queue⟩
    | true =>
      obtain ⟨st, known, engaged⟩ := so.2
      refine ⟨st, known, engaged, .of_late ?_ engaged.queue onward⟩
      rcases known with rfl | rfl <;> rfl
  ended := Closing env.build w₁
  seen := Shown env.build w₁
  shows := id
  concludes live closing := by
    have shown {w' : World} (down : (∀ mask, DownStep mask _ w') ∧ Unmetered _ w') :
        Shown env.build w₁ w' := closing.shown.imp (·.onward down.1) (·.onward down.2)
    refine (ends_commandDone_down live).mono (fun _ w' done => ?_) fun w' done => shown done
    refine ⟨shown done.1, ?_, done.2.2⟩
    exact closing.answered.imp (trans_of (Tame _) · done.1.2.tame) (·.grows done.2.1)
  rests closing link := closing.ordinary (.of_link closing.queue link) (link.adds closing.queue).1
  remains closing := closing.shown

/-! ## The commands that route high voltage -/

/-- Write, erase and identifier of an EPROM, write and erase of an Intel flash chip, and the write
of a 28C EEPROM that looks for an identifier under A9. -/
def Handle.GoesHigh (h : Handle) : Prop :=
  h.protocol ∈ [protoEprom28Pin, protoEprom32Pin, protoEprom24Pin] ∧
      h.cmd ∈ [cmdWrite, cmdErase, cmdCheckChipId] ∨
    h.protocol = protoFlashIntel ∧ h.cmd ∈ [cmdWrite, cmdErase] ∨
    h.protocol = protoEepromParallel ∧ h.cmd = cmdWrite ∧ h.chipId ≠ 0

theorem Handle.GoesHigh.memory (high : h.GoesHigh) : isMemoryCmd h.cmd = true := by
  rcases high with ⟨-, listed⟩ | ⟨-, listed⟩ | ⟨-, write, -⟩
  · simp only [List.mem_cons, List.not_mem_nil, or_false] at listed
    rcases listed with cmd | cmd | cmd <;> rw [cmd] <;> rfl
  · simp only [List.mem_cons, List.not_mem_nil, or_false] at listed
    rcases listed with cmd | cmd <;> rw [cmd] <;> rfl
  · rw [write]
    rfl

/-- The decoder accepts no memory command without a target voltage. -/
theorem Decoded.targeted {decoded : Handle} (made : Decoded b decoded)
    (memory : isMemoryCmd decoded.cmd = true) : decoded.vppMv ≠ 0 := by
  obtain ⟨h, p, same, valid⟩ := made.validated memory
  have target : decoded.vppMv = be16 p cfMemoryOffVppMv := congrArg Handle.vppMv same
  unfold validateMemory at valid
  rw [ite_pass_iff, ite_refuse_iff (by decide), ite_refuse_iff (by decide),
    ite_refuse_iff (by decide), ite_refuse_iff (by decide)] at valid
  obtain ⟨-, -, -, -, mandatory, -⟩ := valid
  rw [memory] at mandatory
  simp only [Bool.true_and, Bool.or_eq_true, beq_iff_eq, not_or] at mandatory
  rw [target]
  exact mandatory.2

/-- Each of the three drivers installs them so. -/
theorem Driver.configured_gated {driver : Driver} (high : h.GoesHigh) (target : h.vppMv ≠ 0)
    (found : driverFor h.protocol = some driver) (empty : h.firestarterOperationEnd = none) :
    (driver.configured h).Gated := by
  have none (c : Callback) (named : (none : Option Callback) = some c) : c.isUngated = true := by
    cases named
  have cleanup (c : Callback) (named : some Callback.flashIntelCleanup = some c) :
      c.isUngated = true := by
    cases named
    rfl
  rcases high with ⟨listed, cmds⟩ | ⟨intel, cmds⟩ | ⟨eeprom, write, identifier⟩
  · obtain rfl : driver = .eprom := by
      have table : ∀ protocol ∈ [protoEprom28Pin, protoEprom32Pin, protoEprom24Pin],
          driverFor protocol = some .eprom := by decide
      exact (Option.some.inj ((table _ listed).symm.trans found)).symm
    have last : h.withEpromCallbacks.firestarterOperationEnd = Option.none := by
      unfold Handle.withEpromCallbacks
      split_ifs <;> exact empty
    simp only [List.mem_cons, List.not_mem_nil, or_false] at cmds
    rcases cmds with cmd | cmd | cmd
    · refine .of_callbacks .epromWriteInit .epromWriteExecute ?_ rfl (.of_ne (by decide))
        ?_ rfl last none
      all_goals simp [Driver.configured, Handle.withEpromCallbacks, cmd]
    · refine .of_callbacks .epromGenericInit .epromEraseExecute ?_ rfl
        (.of_ne (by decide)) ?_ rfl last none
      all_goals simp [Driver.configured, Handle.withEpromCallbacks, cmd, cmdErase, cmdWrite]
    · refine .of_callbacks .epromCheckChipIdInit .epromCheckChipIdExecute ?_ rfl
        (.of_ne (by decide)) ?_ rfl last none
      all_goals
        simp [Driver.configured, Handle.withEpromCallbacks, cmd, cmdErase, cmdWrite, cmdCheckChipId]
  · obtain rfl : driver = .flashIntel := by
      rw [intel] at found
      exact (Option.some.inj found).symm
    simp only [List.mem_cons, List.not_mem_nil, or_false] at cmds
    rcases cmds with cmd | cmd
    · refine .of_callbacks .flashIntelWriteInit .flashIntelWriteExecute ?_ rfl
        (.of_ne (by decide)) ?_ rfl ?_ cleanup
      all_goals simp [Driver.configured, Handle.withFlashIntelCallbacks, cmd]
    · refine .of_callbacks .flashIntelEraseInit .flashIntelEraseExecute ?_ rfl
        (.of_ne (by decide)) ?_ rfl ?_ cleanup
      all_goals simp [Driver.configured, Handle.withFlashIntelCallbacks, cmd, cmdErase, cmdWrite]
  · obtain rfl : driver = .eeprom28c := by
      rw [eeprom] at found
      exact (Option.some.inj found).symm
    have looks : h.chipId > 0 := by
      have positive : 0 < h.chipId.toNat :=
        Nat.pos_of_ne_zero fun zero => identifier (BitVec.eq_of_toNat_eq zero)
      exact positive
    refine .of_callbacks .eeprom28cWriteInit .eeprom28cWriteExecute ?_ rfl
      (fun _ => ?_) ?_ rfl ?_ none
    all_goals simp [Driver.configured, Handle.withEeprom28cCallbacks, write]
    · exact ⟨target, looks⟩
    · exact empty

theorem Handle.Gated.of_parameters {h' : Handle} (gated : h.Gated)
    (same : h'.parameters = h.parameters) : h'.Gated := by
  have first := congrArg Handle.firestarterOperationInit same
  have second := congrArg Handle.firestarterOperationMain same
  have last := congrArg Handle.firestarterOperationEnd same
  have target := congrArg Handle.vppMv same
  have identifier := congrArg Handle.chipId same
  obtain ⟨callback, found, is, fits⟩ := gated.init
  refine ⟨⟨callback, Eq.trans first found, is, fun here => ?_⟩, fun c named => ?_, fun c named => ?_⟩
  · have target : h'.vppMv = h.vppMv := target
    have identifier : h'.chipId = h.chipId := identifier
    rw [target, identifier]
    exact fits here
  · exact gated.main c (Eq.trans second.symm named)
  · exact gated.finish c (Eq.trans last.symm named)

/-- An accepted command that routes high voltage goes through the gate. -/
theorem gated_of_accepted (accepted : Accepted env w) (high : w.handle.GoesHigh) :
    w.handle.Gated ∧ env.build.pinmapProvisional = false := by
  obtain ⟨driver, decoded, made, found, allowed, ⟨same, -⟩, -⟩ := accepted.setUp high.memory
  have unchanged := driver.configured_unconfigured
    (decoded.withoutCallbacks.withMemoryCallbacks.withReadHighMask env.build w.hardwareRevision)
  have cmd' := congrArg Handle.cmd unchanged
  have cmd : w.handle.cmd = decoded.cmd := (congrArg Handle.cmd same).trans cmd'
  have protocol' := congrArg Handle.protocol unchanged
  have protocol : w.handle.protocol = decoded.protocol :=
    (congrArg Handle.protocol same).trans protocol'
  have identifier' := congrArg Handle.chipId unchanged
  have identifier : w.handle.chipId = decoded.chipId :=
    (congrArg Handle.chipId same).trans identifier'
  have memory : isMemoryCmd decoded.cmd = true := cmd ▸ high.memory
  have refuses : env.build.pinmapProvisional = false := by
    unfold rurpPinmapRefuses at allowed
    rw [memory, Bool.and_true] at allowed
    exact allowed
  have decodedHigh : decoded.GoesHigh := by
    unfold Handle.GoesHigh at high ⊢
    rw [← cmd, ← protocol, ← identifier]
    exact high
  have gated : (driver.setUp env.build w.hardwareRevision decoded).Gated :=
    Driver.configured_gated decodedHigh (made.targeted memory) found rfl
  exact ⟨gated.of_parameters same, refuses⟩

/-- The boards with a settled pinmap are the ones that know their shield's revision. -/
theorem hardwareRevision_of_pinmap (settled : b.pinmapProvisional = false) :
    b.hardwareRevision = true := by
  unfold Build.pinmapProvisional at settled
  unfold Build.hardwareRevision
  simpa using settled

/-! ## The gate over runs -/

def World.highReadings (targetMv : U16) (w : World) : Nat := w.trace.countP (·.exceeds targetMv)

/-- The rail was read above the window of this target since that state. -/
def ReadHigh (targetMv : U16) (w w' : World) : Prop :=
  w.highReadings targetMv < w'.highReadings targetMv

theorem not_tame_of_readHigh {targetMv : U16} (high : ReadHigh targetMv w w') :
    ¬ Tame targetMv w w' := by
  rintro ⟨-, new, trace, low⟩
  have none : new.countP (·.exceeds targetMv) = 0 := by
    rw [List.countP_eq_zero]
    intro e member
    simpa using low e member
  unfold ReadHigh World.highReadings at high
  rw [trace, List.countP_append, none] at high
  omega

/-- Taking a command up raises nothing. -/
theorem ends_receiveCommand_down (layout : env.build.hardwareRevision = true)
    (off : NoHighVoltage env.build w.controlRegister) :
    StaysDown (highVoltageBits env.build) w (receiveCommand env w).2 := by
  obtain ⟨off, new, trace, silent⟩ := (within_receiveCommand_fiveVolt layout).moves w off
  refine ⟨off, new, trace, fun e member => ?_⟩
  have silent := silent e member
  cases e <;> first | rfl | exact silent

theorem StaysDown.trans {mask : Reg} (first : StaysDown mask w w') (rest : StaysDown mask w' w'') :
    StaysDown mask w w'' := first.step fun _ => rest

/-- The same state with another calibration in it. -/
def World.recalibrated (w : World) (config : Configuration) : World := { w with config := config }

theorem World.recalibrated_revision (w : World) {config : Configuration}
    (revision : config.hardwareRevision = w.config.hardwareRevision) :
    (w.recalibrated config).hardwareRevision = w.hardwareRevision := by
  show (if config.hardwareRevision < 0xFF then config.hardwareRevision else w.revision) = _
  rw [revision]
  rfl

/-- What a command that goes through the gate shows, whichever calibration is live from its taking up
on. -/
theorem gate_holds {w₀ w₁ w : World} (reach : Reach env w₀) (idle : w₀.handle.cmd = cmdIdle)
    (received : loop env w₀ = (some (), w₁)) (high : w₁.handle.GoesHigh)
    (unforced : w₁.handle.isFlagSet flagForce = false) (config : Configuration)
    (measurable : isRevision0 env.build (w₁.recalibrated config).hardwareRevision = false)
    (seen : SeenWhileRunning env (w₁.recalibrated config) w) :
    StaysDown (highVoltageBits env.build) w₀ w₁ ∧
      Shown env.build (w₁.recalibrated config) w ∧
      (WhileRunning env (w₁.recalibrated config) w →
        Tame w₁.handle.vppMv (w₁.recalibrated config) w ∨
          w.handle.cmd = cmdIdle ∧ FailedSince (w₁.recalibrated config) w) := by
  have taken := takesUp_emptyRegister reach idle received high.memory
  obtain ⟨⟨w₂, made, accepted, ready⟩, engaged, settled⟩ := taken.begun
  have same : w₁.handle = w₂.handle := by rw [made]
  obtain ⟨gated, provisional⟩ := gated_of_accepted accepted (same ▸ high)
  rw [← same] at gated
  have layout := hardwareRevision_of_pinmap provisional
  have before : StaysDown (highVoltageBits env.build) w₀ w₁ := by
    have taken := ends_receiveCommand_down layout (noHighVoltage_of_idle reach idle)
    rw [← loop_of_idle idle, received] at taken
    exact taken
  have opening : Opening env w₁.handle (w₁.recalibrated config) :=
    ⟨rfl, ⟨unforced, measurable, before.1⟩, gated⟩
  have between : (gateRule env opening).Between (w₁.recalibrated config) := by
    refine ⟨.beforeInit, rfl, ?_, engaged.queue, ?_⟩
    · exact ⟨engaged.parameters, engaged.number, engaged.comMode, engaged.queue⟩
    · exact ⟨refl_of Unmetered _, .start before.1, refl_of _ _⟩
  refine ⟨before, (gateRule env opening).of_seenWhileRunning high.memory settled between seen,
    fun states => ?_⟩
  rcases (gateRule env opening).of_whileRunning high.memory settled between states with
    ⟨idling, closing⟩ | ⟨st, -, engaged, gating⟩
  · have closing : Closing env.build (w₁.recalibrated config) w := closing
    exact closing.answered.imp_right fun failed => ⟨idling, failed⟩
  · -- A command that goes on has not read the rail, or has read it within the window.
    have gating : Gating env.build (w₁.recalibrated config) st w := gating
    obtain ⟨-, so⟩ := gating
    left
    split at so
    · exact so.unread.tame
    · exact so.tame

/-- A command that routes high voltage, without the force flag and where the rail can be measured:
a reading above the window means that no route was up at any moment, and that after the turn with
the reading the command is over, in an error. Taking the command up raises nothing, and whatever
becomes of the calibration then: with one the scaler cannot evaluate nothing at all is raised. -/
theorem voltage_gate {w₀ w₁ w : World} (reach : Reach env w₀) (idle : w₀.handle.cmd = cmdIdle)
    (received : loop env w₀ = (some (), w₁)) (high : w₁.handle.GoesHigh)
    (unforced : w₁.handle.isFlagSet flagForce = false)
    (measurable : isRevision0 env.build w₁.hardwareRevision = false)
    (seen : SeenWhileRunning env w₁ w) :
    (ReadHigh w₁.handle.vppMv w₁ w → StaysDown rurpSocketVppRouteBits w₀ w) ∧
      (ReadHigh w₁.handle.vppMv w₁ w → WhileRunning env w₁ w → w.handle.cmd = cmdIdle ∧
        FailedSince w₁ w) ∧
      StaysDown (highVoltageBits env.build) w₀ w₁ ∧
      ∀ config : Configuration, config.hardwareRevision = w₁.config.hardwareRevision →
        calibrationIsPlausible env.build config = false →
        ∀ v, SeenWhileRunning env (w₁.recalibrated config) v →
          StaysDown (highVoltageBits env.build) (w₁.recalibrated config) v := by
  obtain ⟨before, shown, concluded⟩ :=
    gate_holds reach idle received high unforced w₁.config measurable seen
  refine ⟨fun readHigh => ?_, fun readHigh states => ?_, before,
    fun config revision bad v states => ?_⟩
  · rcases shown with barred | passed
    · exact (before.weaken (routes_inside env.build)).trans barred.routes
    · exact absurd passed.tame (not_tame_of_readHigh readHigh)
  · exact (concluded states).resolve_left (not_tame_of_readHigh readHigh)
  · have kept := w₁.recalibrated_revision revision
    obtain ⟨-, barred | passed, -⟩ :=
      gate_holds reach idle received high unforced config (kept ▸ measurable) states
    · exact barred.dark bad
    · exact absurd (passed.calibrated.symm.trans bad) (by decide)

/-- A Leonardo whose host writes an Intel flash chip of 12 V, with a rail of almost 14 V. -/
def highRailEnv : Env :=
  (Env.still ⟨.leonardo, false⟩ 200).sends <|
    memoryFrame { cmd := cmdWrite, memSize := 4, protocol := protoFlashIntel, pins := 32,
                  vppMv := 12000,
                  busConfig := { addressLines := [], rwLine := 0xFF, vppLine := 0xFF } } ++
      [asciiO, asciiK]

/-- The command goes through the gate, and its first turn reads the rail too high. -/
theorem highRail_run : ∃ w₀ w₁ w : World, Reach highRailEnv w₀ ∧ w₀.handle.cmd = cmdIdle ∧
    loop highRailEnv w₀ = (some (), w₁) ∧ w₁.handle.GoesHigh ∧
    w₁.handle.isFlagSet flagForce = false ∧
    isRevision0 highRailEnv.build w₁.hardwareRevision = false ∧ w₁.handle.cmd ≠ cmdIdle ∧
    WhileRunning highRailEnv w₁ w ∧ ReadHigh w₁.handle.vppMv w₁ w := by
  have ran : ((stateAfter highRailEnv .blank 0).bind fun w₀ =>
      (loop highRailEnv w₀).1.bind fun _ =>
        (loop highRailEnv (loop highRailEnv w₀).2).1.map fun _ =>
          (w₀.handle.cmd, (loop highRailEnv w₀).2.handle.protocol,
            (loop highRailEnv w₀).2.handle.cmd, (loop highRailEnv w₀).2.handle.ctrlFlags,
            (loop highRailEnv w₀).2.hardwareRevision, (loop highRailEnv w₀).2.handle.vppMv,
            (loop highRailEnv w₀).2.highReadings 12000,
            (loop highRailEnv (loop highRailEnv w₀).2).2.highReadings 12000)) =
      some (cmdIdle, protoFlashIntel, cmdWrite, 0, revision20, 12000, 0, 1) := by
    decide +kernel
  obtain ⟨w₀, after, ran⟩ := Option.bind_eq_some_iff.mp ran
  obtain ⟨_, first, ran⟩ := Option.bind_eq_some_iff.mp ran
  obtain ⟨_, second, ran⟩ := Option.map_eq_some_iff.mp ran
  simp only [Prod.mk.injEq] at ran
  obtain ⟨idle, intel, write, flags, revision, target, before, later⟩ := ran
  have reach := (reach_stateAfter World.blank_poweredUp after).1
  have received : loop highRailEnv w₀ = (some (), (loop highRailEnv w₀).2) := Prod.ext first rfl
  have busy : (loop highRailEnv w₀).2.handle.cmd ≠ cmdIdle := by
    rw [write]
    decide
  have turn : WhileRunning highRailEnv (loop highRailEnv w₀).2
      (loop highRailEnv (loop highRailEnv w₀).2).2 := .turn .start busy (Prod.ext second rfl)
  have high : (loop highRailEnv w₀).2.handle.GoesHigh := .inr (.inl ⟨intel, by rw [write]; decide⟩)
  have unforced : (loop highRailEnv w₀).2.handle.isFlagSet flagForce = false := by
    unfold Handle.isFlagSet
    rw [flags]
    decide
  have measurable : isRevision0 highRailEnv.build (loop highRailEnv w₀).2.hardwareRevision = false := by
    rw [revision]
    decide
  refine ⟨_, _, _, reach, idle, received, high, unforced, measurable, busy, turn, ?_⟩
  unfold ReadHigh
  rw [target, before, later]
  decide

/-- The command is refused with its routes down; with a divider of nothing over nothing in the
record instead, its first turn raises nothing at all. -/
theorem voltage_gate_highRail : ∃ w₀ w₁ w : World, ReadHigh w₁.handle.vppMv w₁ w ∧
    w.handle.cmd = cmdIdle ∧ FailedSince w₁ w ∧ StaysDown rurpSocketVppRouteBits w₀ w ∧
    StaysDown (highVoltageBits highRailEnv.build)
      (w₁.recalibrated { w₁.config with r1 := 0, r2 := 0 })
      (loop highRailEnv (w₁.recalibrated { w₁.config with r1 := 0, r2 := 0 })).2 := by
  obtain ⟨w₀, w₁, w, reach, idle, received, high, unforced, measurable, busy, turn, readHigh⟩ :=
    highRail_run
  have gate := voltage_gate reach idle received high unforced measurable (.between turn)
  obtain ⟨routes, concluded, -, damaged⟩ := gate
  obtain ⟨idling, failed⟩ := concluded readHigh turn
  exact ⟨w₀, w₁, w, readHigh, idling, failed, routes readHigh,
    damaged { w₁.config with r1 := 0, r2 := 0 } rfl rfl _ (.inside .start busy)⟩

/-- The gate of one command, for every calibration that is live while it runs. -/
theorem high_voltage_gate {w₀ w₁ w : World} (reach : Reach env w₀)
    (idle : w₀.handle.cmd = cmdIdle) (received : loop env w₀ = (some (), w₁))
    (high : w₁.handle.GoesHigh) (unforced : w₁.handle.isFlagSet flagForce = false)
    (config : Configuration)
    (measurable : isRevision0 env.build (w₁.recalibrated config).hardwareRevision = false)
    (seen : SeenWhileRunning env (w₁.recalibrated config) w) :
    (ReadHigh w₁.handle.vppMv (w₁.recalibrated config) w →
      StaysDown rurpSocketVppRouteBits w₀ w ∧
        (WhileRunning env (w₁.recalibrated config) w →
          w.handle.cmd = cmdIdle ∧ FailedSince (w₁.recalibrated config) w)) ∧
      (calibrationIsPlausible env.build config = false →
        StaysDown (highVoltageBits env.build) w₀ w) := by
  obtain ⟨before, shown, concluded⟩ :=
    gate_holds reach idle received high unforced config measurable seen
  -- The record is no part of what stays down.
  have before : StaysDown (highVoltageBits env.build) w₀ (w₁.recalibrated config) := before
  refine ⟨fun readHigh => ?_, fun bad => ?_⟩
  · have rose := not_tame_of_readHigh readHigh
    rcases shown with barred | passed
    · exact ⟨(before.weaken (routes_inside env.build)).trans barred.routes,
        fun states => (concluded states).resolve_left rose⟩
    · exact absurd passed.tame rose
  · rcases shown with barred | passed
    · exact before.trans (barred.dark bad)
    · exact absurd (passed.calibrated.symm.trans bad) (by decide)

/-- The same command under its own calibration, and under one the scaler cannot evaluate. -/
theorem high_voltage_gate_highRail : ∃ w₀ w₁ w v : World,
    (ReadHigh w₁.handle.vppMv w₁ w ∧ StaysDown rurpSocketVppRouteBits w₀ w ∧
      w.handle.cmd = cmdIdle ∧ FailedSince w₁ w) ∧
    SeenWhileRunning highRailEnv (w₁.recalibrated { w₁.config with r1 := 0, r2 := 0 }) v ∧
      StaysDown (highVoltageBits highRailEnv.build) w₀ v := by
  obtain ⟨w₀, w₁, w, reach, idle, received, high, unforced, measurable, busy, turn, readHigh⟩ :=
    highRail_run
  obtain ⟨own, -⟩ :=
    high_voltage_gate reach idle received high unforced w₁.config measurable (.between turn)
  obtain ⟨routes, concluded⟩ := own readHigh
  have revision := @World.recalibrated_revision w₁ { w₁.config with r1 := 0, r2 := 0 } rfl
  have seen : SeenWhileRunning highRailEnv (w₁.recalibrated { w₁.config with r1 := 0, r2 := 0 })
      (loop highRailEnv (w₁.recalibrated { w₁.config with r1 := 0, r2 := 0 })).2 :=
    .inside .start busy
  obtain ⟨-, dark⟩ := high_voltage_gate reach idle received high unforced
    { w₁.config with r1 := 0, r2 := 0 } (revision ▸ measurable) seen
  exact ⟨w₀, w₁, w, _, ⟨readHigh, routes, concluded turn⟩, seen, dark rfl⟩

end Firestarter
