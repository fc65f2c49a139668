import Firestarter.EpromRoutes
import Firestarter.FlashPages
import Firestarter.HostFrames

/-! What becomes of a rail that could not be measured. The scaler answers 0, the window takes that
for a low rail, and only the calibration on record is looked at before: an operation refuses
exactly where the record is to blame, not where the reference channel read nothing. -/
namespace Firestarter

open Interactive Interactive.Prog

set_option synthInstance.maxSize 4000

/-! ## The operations -/

/-- The operations that measure the rail before they let it reach the socket. -/
inductive GatedOperation where
  | epromCheckVpp | flashIntelVppUp | eeprom28cCheckChipId
  deriving DecidableEq, Repr

namespace GatedOperation

def run : GatedOperation → Fw Unit
  | epromCheckVpp => Firestarter.epromCheckVpp
  | flashIntelVppUp => discard Firestarter.flashIntelVppUp
  | eeprom28cCheckChipId => Firestarter.eeprom28cCheckChipId

/-- The operation goes by a reading: the A9 check needs an identifier to look for at the end of the
chip, and a target to compare with. -/
def Measures : GatedOperation → Handle → Prop
  | eeprom28cCheckChipId, h => ¬ h.memSize < 64 ∧ h.vppMv ≠ 0
  | _, _ => True

/-- The register setter that the operation's driver has left installed. -/
def Installed : GatedOperation → World → Prop
  | epromCheckVpp => EpromSetters
  | _ => GenericSetter

end GatedOperation

/-- How the phase engine enters an operation: with an OK, and no route to the socket up. -/
structure Entered (operation : GatedOperation) (w : World) : Prop where
  installed : operation.Installed w
  response : w.handle.responseCode = responseCodeOk
  unrouted : w.controlRegister &&& rurpSocketVppRouteBits = 0

/-- The scaler's own test, for a reading under the stored calibration. -/
def unevaluable (b : Build) (config : Configuration) (bandgapAdc : U16) : Bool :=
  bandgapAdc == 0 || !calibrationIsPlausible b config

theorem rurpScaleVoltageMv_unevaluable {b : Build} {config : Configuration} {bandgapAdc : U16}
    (failed : unevaluable b config bandgapAdc = true) (adc : U16) :
    rurpScaleVoltageMv b (adc.setWidth 32) (bandgapAdc.setWidth 32) config.r1 config.r2
      (config.bandgapMv.setWidth 32) = 0 := by
  have count : (bandgapAdc.setWidth 32 == (0 : U32)) = (bandgapAdc == 0) := by
    rw [Bool.eq_iff_iff, beq_iff_eq, beq_iff_eq]
    constructor
    · intro none
      have none : (bandgapAdc.setWidth 32 : U32).toNat = 0 := congrArg BitVec.toNat none
      rw [BitVec.toNat_setWidth] at none
      have small := bandgapAdc.isLt
      have zero : bandgapAdc.toNat = 0 := by omega
      exact BitVec.eq_of_toNat_eq zero
    · rintro rfl
      rfl
  unfold unevaluable calibrationIsPlausible at failed
  unfold rurpScaleVoltageMv
  rw [count, if_pos failed]

/-! ## A refusal -/

/-- The logical control register took a value with a route to the socket up. -/
def Event.routes : Event → Bool
  | .control data => data &&& rurpSocketVppRouteBits != 0
  | _ => false

def isLowRail (id : U8) : Bool := id == msgWarnVppLowMv

/-- An error, without high voltage on the socket, and without a word about a low rail. -/
structure Refused (w w' : World) : Prop where
  error : w'.handle.responseCode = responseCodeError
  unrouted : ∃ new, w'.trace = new ++ w.trace ∧ ∀ e ∈ new, e.routes = false
  unsaid : w'.framesOf isLowRail ⊆ w.framesOf isLowRail

def GatedOperation.Refuses (operation : GatedOperation) (env : Env) (w : World) : Prop :=
  Ends operation.run env w (fun _ => Refused w) fun _ => False

variable {env : Env} {w w' w'' : World}

/-- Queueing a frame adds none of the others. -/
theorem framesOf_pushed_subset (ids : U8 → Bool) {id : U8} (other : ids id = false)
    (params : List U8) (w : World) :
    World.framesOf ids { w with deferredLog := (deferredLogPush w.deferredLog id params).1 } ⊆
      w.framesOf ids := by
  have fewer {rest : List DeferredFrame} (sub : ∀ frame ∈ rest, frame ∈ w.deferredLog) :
      World.framesOf ids { w with deferredLog := rest } ⊆ w.framesOf ids := by
    intro e member
    unfold World.framesOf at member ⊢
    simp only [List.mem_append, List.mem_reverse, List.mem_map, List.mem_filter] at member ⊢
    rcases member with ⟨frame, ⟨held, sends⟩, same⟩ | sent
    · exact .inl ⟨frame, ⟨sub frame held, sends⟩, same⟩
    · exact .inr sent
  have added {rest : List DeferredFrame} (sub : ∀ frame ∈ rest, frame ∈ w.deferredLog) :
      World.framesOf ids { w with
        deferredLog := rest ++ [⟨id, params.take deferredParamMax⟩] } ⊆ w.framesOf ids := by
    refine List.Subset.trans ?_ (fewer sub)
    have skipped : DeferredFrame.sends ids ⟨id, params.take deferredParamMax⟩ = false := by
      unfold DeferredFrame.sends
      rw [other, Bool.and_false]
    unfold World.framesOf
    rw [List.filter_append, List.filter_singleton, skipped]
    simp
  unfold deferredLogPush
  dsimp only
  split
  · split
    · exact List.Subset.refl _
    · split
      · exact List.Subset.refl _
      · rename_i rest dropped
        exact added (withoutNewestDroppable_subset dropped)
  · exact added fun _ member => member

/-- Nothing was routed and nothing said of a low rail. -/
structure Unsaid (w w' : World) : Prop where
  handle : w'.handle = w.handle
  unrouted : ∃ new, w'.trace = new ++ w.trace ∧ ∀ e ∈ new, e.routes = false
  unsaid : w'.framesOf isLowRail ⊆ w.framesOf isLowRail

theorem Unsaid.of_said (handle : w'.handle = w.handle) (trace : w'.trace = w.trace)
    (unsaid : w'.framesOf isLowRail ⊆ w.framesOf isLowRail) : Unsaid w w' :=
  ⟨handle, ⟨[], trace, fun _ none => absurd none List.not_mem_nil⟩, unsaid⟩

theorem ends_log_unsaid {id : U8} (other : isLowRail id = false) (params : List U8) (w : World) :
    Ends (rurpLogId id params) env w (fun _ => Unsaid w) fun _ => False := by
  unfold rurpLogId firestarterEmitFrameWide
  rw [ends_bind, ends_build, ends_bind, ends_look]
  split
  · refine Ends.when (fun _ => ?_) fun _ => .of_said rfl rfl (List.Subset.refl _)
    rw [ends_update]
    exact .of_said rfl rfl (framesOf_pushed_subset isLowRail other params w)
  · refine Ends.when (fun _ => ?_) fun _ => .of_said rfl rfl (List.Subset.refl _)
    rw [ends_note]
    refine ⟨rfl, ⟨[_], rfl, by simp [Event.routes]⟩, ?_⟩
    rw [framesOf_noted (show (Event.emitted id params).sends isLowRail = false from other)]
    exact List.Subset.refl _

/-- The refusal of a calibration, wherever it happens. -/
theorem ends_refuseBadCalibration
    (bad : calibrationIsPlausible env.build w.config = false) :
    Ends memUtilRefuseBadCalibration env w (fun refused w' => refused = true ∧ Refused w w')
      (fun _ => False) := by
  unfold memUtilRefuseBadCalibration refuse setResponseCode
  rw [ends_bind, ends_build, ends_bind, ends_look]
  dsimp only
  rw [bad, if_neg Bool.false_ne_true, ends_bind, ends_bind]
  refine (ends_log_unsaid (by decide) _ w).mono (fun _ w₁ said => ?_) fun _ => id
  rw [ends_setHandle, ends_pure]
  exact ⟨rfl, rfl, said.unrouted, said.unsaid⟩

/-! ## A reading of 0 -/

/-- A part of an operation that leaves the register as it is, and answers with no error. -/
structure Sensed (w w' : World) : Prop where
  control : w'.controlRegister = w.controlRegister
  traced : Traced (fun _ _ => True) w w'
  response : w.handle.responseCode ≠ responseCodeError →
    w'.handle.responseCode ≠ responseCodeError

theorem Sensed.of_quiet (handle : w'.handle = w.handle)
    (pointer : w'.epSetControlRegister = w.epSetControlRegister) (trace : w'.trace = w.trace)
    (control : w'.controlRegister = w.controlRegister) : Sensed w w' :=
  ⟨control, .of_quiet handle pointer trace control, fun good => by rw [handle]; exact good⟩

/-- A note about anything but the register. -/
theorem Sensed.of_note {e : Event} (plain : e.controlValue = none) (w : World) :
    Sensed w { w with trace := e :: w.trace } := by
  refine ⟨rfl, ⟨rfl, rfl, [e], rfl, ?_, fun _ _ => trivial⟩, id⟩
  rw [registerAfter, plain]
  rfl

instance : IsPreorder World Sensed where
  refl _ := .of_quiet rfl rfl rfl rfl
  trans _ _ _ first rest :=
    ⟨rest.control.trans first.control, trans_of _ first.traced rest.traced,
      rest.response ∘ first.response⟩

instance : BusFrame env Sensed where
  bus s s' _ same := by
    have handle := congrArg World.handle same
    have pointer := congrArg World.epSetControlRegister same
    have trace := congrArg World.trace same
    have control := congrArg World.controlRegister same
    exact .of_quiet handle pointer trace control

instance : MeasureFrame Sensed := ⟨fun s _ _ => .of_note rfl s⟩

instance : PrintFrame Sensed where
  print s e print := by
    refine .of_note ?_ s
    cases e <;> first | rfl | cases print
  defer _ _ := .of_quiet rfl rfl rfl rfl

instance : Within env Sensed (setResponseCode responseCodeWarning) :=
  Within.update _ fun _ =>
    ⟨rfl, ⟨rfl, rfl, [], rfl, rfl, nofun⟩, fun _ => show responseCodeWarning ≠ responseCodeError by decide⟩

instance : Within env Sensed memUtilWarnIfUncalibrated := by
  unfold memUtilWarnIfUncalibrated logId
  infer_instance

/-- No rail looks too high at 0 mV, and a low one is no error. -/
instance : Within env Sensed (memUtilCheckVppWindow 0) := by
  unfold memUtilCheckVppWindow memUtilReportVoltage
  refine within_bind inferInstance fun h => ?_
  rw [if_neg (show ¬ (0 : U16).setWidth 32 > vppHighLimit h.vppMv from Nat.not_lt_zero _)]
  infer_instance

section
variable (scaler : env.build.board ≠ .py32f071) (dead : ∀ seen, env.bandgapAdc seen = 0)
include scaler dead

/-- Without a reference count the scaler has nothing to divide by. -/
theorem ends_readVoltage_dead (w : World) :
    Ends rurpReadVoltageMv env w (fun millivolts w' => millivolts = 0 ∧ Sensed w w')
      (fun _ => True) := by
  have reference (w : World) : Ends rurpGetBandgapAdcReading env w
      (fun count w' => count = 0 ∧ Sensed w w') (fun _ => True) := by
    unfold rurpGetBandgapAdcReading
    rw [ends_bind, ends_build]
    refine Within.bind_ends (S := Sensed) inferInstance (fun _ w₁ waited => ?_) fun _ _ => trivial
    have talks : Within env Sensed (ask Env.bandgapAdc) := inferInstance
    have asked := talks.ends w₁
    refine (asked.and (show Ends (ask Env.bandgapAdc) env w₁ (fun count _ => count = 0)
      (fun _ => True) from dead w₁)).mono (fun _ _ both => ?_) fun _ _ => trivial
    exact ⟨both.2, trans_of _ waited both.1⟩
  unfold rurpReadVoltageMv
  rw [ends_bind, ends_build, if_neg (by simpa using scaler)]
  refine Within.bind_ends (S := Sensed) inferInstance (fun adc w₁ sampled => ?_) fun _ _ => trivial
  rw [ends_bind]
  refine (reference w₁).mono (fun count w₂ so => ?_) fun _ => id
  obtain ⟨rfl, counted⟩ := so
  rw [ends_bind, ends_look]
  dsimp only
  rw [ends_bind, ends_note, ends_pure]
  refine ⟨rurpScaleVoltageMv_unevaluable ?_ adc, trans_of _ sampled (trans_of _ counted ?_)⟩
  · rfl
  · exact .of_note rfl w₂

/-- After the rail was switched on, its reading lets the operation go on. -/
theorem ends_window_dead {β : Type} {rest : Fw β} {ended : β → World → Prop}
    (good : w.handle.responseCode ≠ responseCodeError) (settle : U32)
    (onward : ∀ w', Sensed w w' → w'.handle.responseCode ≠ responseCodeError →
      Ends rest env w' ended fun _ => True) :
    Ends (do
      delay settle
      memUtilCheckVppWindow (← rurpReadVoltageMv)
      rest) env w ended fun _ => True := by
  refine Within.bind_ends (S := Sensed) inferInstance (fun _ w₁ waited => ?_) fun _ _ => trivial
  rw [ends_bind]
  refine (ends_readVoltage_dead scaler dead w₁).mono (fun millivolts w₂ so => ?_) fun _ => id
  obtain ⟨rfl, read⟩ := so
  refine Within.bind_ends (S := Sensed) inferInstance (fun _ w₃ judged => ?_) fun _ _ => trivial
  have sensed : Sensed w w₃ := trans_of _ waited (trans_of _ read judged)
  exact onward w₃ sensed (sensed.response good)

end

theorem ends_refuseBadCalibration_good
    (good : calibrationIsPlausible env.build w.config = true) :
    Ends memUtilRefuseBadCalibration env w (fun refused w' => refused = false ∧ w' = w)
      (fun _ => False) := by
  unfold memUtilRefuseBadCalibration
  rw [ends_bind, ends_build, ends_bind, ends_look]
  dsimp only
  rw [if_pos good]
  exact ⟨rfl, rfl⟩

theorem EpromSetters.sensed (setters : EpromSetters w) (sensed : Sensed w w') : EpromSetters w' :=
  setters.traced sensed.traced

theorem GenericSetter.traced {fits : Access → Reg → Prop} (setter : GenericSetter w)
    (traced : Traced fits w w') : GenericSetter w' := by
  have same := congrArg Handle.firestarterSetControlRegister traced.handle
  exact same.trans setter

theorem ends_setGenericRegister (setter : GenericSetter w) (bit : Reg) (state : Bool) :
    Ends (setControlRegister bit state) env w
      (fun _ w' => Switched (switched w.controlRegister bit state) w w') (fun _ => False) := by
  unfold setControlRegister memorySetControlRegister rurpReadControlRegister
  rw [ends_bind, ends_getHandle, setter, if_pos rfl, ends_bind, ends_bind, ends_look, ends_pure]
  exact ends_writeControl w _

/-- The preflight of a calibration that passes. -/
theorem ends_epromCheckVpp_dead (scaler : env.build.board ≠ .py32f071)
    (dead : ∀ seen, env.bandgapAdc seen = 0) (entered : Entered .epromCheckVpp w)
    (measurable : isRevision0 env.build w.hardwareRevision = false)
    (good : calibrationIsPlausible env.build w.config = true) :
    Ends epromCheckVpp env w (fun _ w' => w'.handle.responseCode ≠ responseCodeError)
      (fun _ => True) := by
  have answered : w.handle.responseCode ≠ responseCodeError := by
    rw [entered.response]
    decide
  unfold epromCheckVpp rurpGetHardwareRevision
  rw [ends_bind, ends_build, ends_bind, ends_bind, ends_look, ends_pure, measurable,
    if_neg Bool.false_ne_true, ends_bind]
  refine (ends_refuseBadCalibration_good good).mono (fun refused w' passed => ?_) fun _ _ => trivial
  obtain ⟨rfl, rfl⟩ := passed
  refine Ends.when (fun _ => ?_) nofun
  unfold epromMeasureVpp
  refine Within.bind_ends (S := Sensed) inferInstance (fun _ w₁ warned => ?_) fun _ _ => trivial
  rw [ends_bind, ends_build, ends_bind, ends_getHandle, ends_bind]
  have setters : EpromSetters w₁ := EpromSetters.sensed entered.installed warned
  refine (ends_setControlRegister setters _ _).mono (fun _ w₂ raised => ?_) fun _ _ => trivial
  have answered : w₂.handle.responseCode ≠ responseCodeError := by
    rw [raised.handle]
    exact warned.response answered
  refine ends_window_dead scaler dead answered 100 fun w₃ sensed answered => ?_
  unfold epromHvAllOff
  rw [ends_bind, ends_build]
  have setters := (setters.traced raised.traced).sensed sensed
  refine (ends_setControlRegister setters _ _).mono (fun _ w₄ lowered => ?_) fun _ _ => trivial
  rw [lowered.handle]
  exact answered

theorem ends_flashIntelVppUp_dead (scaler : env.build.board ≠ .py32f071)
    (dead : ∀ seen, env.bandgapAdc seen = 0) (entered : Entered .flashIntelVppUp w)
    (measurable : isRevision0 env.build w.hardwareRevision = false)
    (good : calibrationIsPlausible env.build w.config = true) :
    Ends flashIntelVppUp env w (fun _ w' => w'.handle.responseCode ≠ responseCodeError)
      (fun _ => True) := by
  have answered : w.handle.responseCode ≠ responseCodeError := by
    rw [entered.response]
    decide
  unfold flashIntelVppUp rurpGetHardwareRevision
  rw [ends_bind, ends_build, ends_bind, ends_bind, ends_look, ends_pure, measurable,
    if_neg Bool.false_ne_true, ends_bind]
  refine (ends_refuseBadCalibration_good good).mono (fun refused w' passed => ?_) fun _ _ => trivial
  obtain ⟨rfl, rfl⟩ := passed
  rw [if_neg Bool.false_ne_true]
  unfold flashIntelMeasureVpp
  refine Within.bind_ends (S := Sensed) inferInstance (fun _ w₁ warned => ?_) fun _ _ => trivial
  rw [ends_bind]
  have setter : GenericSetter w₁ := GenericSetter.traced entered.installed warned.traced
  refine (ends_setGenericRegister setter _ _).mono (fun _ w₂ raised => ?_) fun _ _ => trivial
  have answered : w₂.handle.responseCode ≠ responseCodeError := by
    rw [raised.handle]
    exact warned.response answered
  refine ends_window_dead scaler dead answered 500 fun w₃ sensed answered => ?_
  rw [ends_bind, ends_getHandle, if_neg (by simpa using answered), ends_bind]
  have setter := (setter.traced raised.traced).traced sensed.traced
  refine (ends_setGenericRegister setter _ _).mono (fun _ w₄ routed => ?_) fun _ _ => trivial
  rw [ends_pure, routed.handle]
  exact answered

/-- As long as no register value names a route, none is up. -/
theorem registerAfter_unrouted {control : Reg} {new : List Event}
    (down : control &&& rurpSocketVppRouteBits = 0) (unrouted : ∀ e ∈ new, e.routes = false) :
    registerAfter control new &&& rurpSocketVppRouteBits = 0 := by
  induction new with
  | nil => exact down
  | cons e older ih =>
    have older := ih fun e' member => unrouted e' (List.mem_cons_of_mem _ member)
    have here := unrouted e List.mem_cons_self
    cases e with
    | control data => exact bne_eq_false_iff_eq.mp here
    | _ => exact older

/-- A run that had a route up has not refused. -/
theorem not_refused_of_routed {fits : Access → Reg → Prop}
    (down : w.controlRegister &&& rurpSocketVppRouteBits = 0) (traced : Traced fits w w')
    (routed : w'.controlRegister &&& rurpSocketVppRouteBits ≠ 0)
    (onward : Continues w' w'') : ¬ Refused w w'' := by
  intro refused
  obtain ⟨new, trace, control, -⟩ := traced.adds
  obtain ⟨later, trace'⟩ := onward
  obtain ⟨all, whole, unrouted⟩ := refused.unrouted
  rw [← trace', trace, ← List.append_assoc] at whole
  obtain rfl := List.append_cancel_right whole
  refine routed ?_
  rw [← control]
  exact registerAfter_unrouted down fun e member =>
    unrouted e (List.mem_append.mpr (.inr member))

theorem ends_eeprom28cCheckChipId_dead (scaler : env.build.board ≠ .py32f071)
    (dead : ∀ seen, env.bandgapAdc seen = 0) (entered : Entered .eeprom28cCheckChipId w)
    (measurable : isRevision0 env.build w.hardwareRevision = false)
    (measures : GatedOperation.eeprom28cCheckChipId.Measures w.handle)
    (good : calibrationIsPlausible env.build w.config = true) :
    Ends eeprom28cCheckChipId env w (fun _ w' => ¬ Refused w w') (fun _ => True) := by
  have answered : w.handle.responseCode ≠ responseCodeError := by
    rw [entered.response]
    decide
  obtain ⟨large, target⟩ := measures
  unfold eeprom28cCheckChipId rurpGetHardwareRevision
  rw [ends_bind, ends_getHandle, if_neg large, ends_bind, ends_build, ends_bind, ends_bind,
    ends_look, ends_pure, measurable, bne_iff_ne.mpr target]
  dsimp only
  rw [Bool.not_false, Bool.and_true, if_pos rfl, ends_bind]
  refine (ends_refuseBadCalibration_good good).mono (fun refused w' passed => ?_) fun _ _ => trivial
  obtain ⟨rfl, rfl⟩ := passed
  refine Ends.when (fun _ => ?_) nofun
  unfold eeprom28cRaiseAndRead
  rw [ends_bind]
  have setter : GenericSetter w' := entered.installed
  refine (ends_setGenericRegister setter _ _).mono (fun _ w₁ raised => ?_) fun _ _ => trivial
  have answered : w₁.handle.responseCode ≠ responseCodeError := by
    rw [raised.handle]
    exact answered
  rw [if_pos rfl]
  refine ends_window_dead scaler dead answered 50 fun w₂ sensed answered => ?_
  rw [ends_bind, ends_getHandle, if_neg (by simpa using answered)]
  unfold eeprom28cReadChipId
  rw [ends_bind]
  have setter := (setter.traced raised.traced).traced sensed.traced
  refine (ends_setGenericRegister setter _ _).mono (fun _ w₃ routed => ?_) fun _ _ => trivial
  have up : w₃.controlRegister &&& rurpSocketVppRouteBits ≠ 0 := by
    have on : w₃.controlRegister &&& ctrlVppA9Enable = ctrlVppA9Enable := by
      rw [routed.value, switched_on]
    intro down
    have none : w₃.controlRegister &&& rurpSocketVppRouteBits = 0 &&& rurpSocketVppRouteBits :=
      down.trans BitVec.zero_and.symm
    have part := agree_part none
      (show rurpSocketVppRouteBits &&& ctrlVppA9Enable = ctrlVppA9Enable by decide)
    rw [on] at part
    exact absurd part (by decide)
  have traced : Traced (fun _ _ => True) w' w₃ := by
    have raise : Traced (fun _ _ => True) w' w₁ := raised.traced.mono fun _ _ _ => trivial
    have route : Traced (fun _ _ => True) w₂ w₃ := routed.traced.mono fun _ _ _ => trivial
    exact trans_of _ raise (trans_of _ sensed.traced route)
  exact (Within.ends (R := Continues) inferInstance w₃).mono
    (fun _ _ onward => not_refused_of_routed entered.unrouted traced up onward) fun _ _ => trivial

/-! ## When an operation refuses -/

/-- A record that fails the test is refused before anything is switched on. -/
theorem GatedOperation.refuses_of_bad (operation : GatedOperation)
    (measurable : isRevision0 env.build w.hardwareRevision = false)
    (measures : operation.Measures w.handle)
    (bad : calibrationIsPlausible env.build w.config = false) : operation.Refuses env w := by
  unfold Refuses
  cases operation with
  | epromCheckVpp =>
    unfold run Firestarter.epromCheckVpp rurpGetHardwareRevision
    rw [ends_bind, ends_build, ends_bind, ends_bind, ends_look, ends_pure, measurable,
      if_neg Bool.false_ne_true, ends_bind]
    refine (ends_refuseBadCalibration bad).mono (fun refused w' so => ?_) fun _ => id
    obtain ⟨rfl, so⟩ := so
    exact Ends.when nofun fun _ => so
  | flashIntelVppUp =>
    unfold run Firestarter.flashIntelVppUp rurpGetHardwareRevision
    rw [ends_discard, ends_bind, ends_build, ends_bind, ends_bind, ends_look, ends_pure, measurable,
      if_neg Bool.false_ne_true, ends_bind]
    refine (ends_refuseBadCalibration bad).mono (fun refused w' so => ?_) fun _ => id
    obtain ⟨rfl, so⟩ := so
    rw [if_pos rfl]
    exact so
  | eeprom28cCheckChipId =>
    obtain ⟨large, target⟩ := measures
    unfold run Firestarter.eeprom28cCheckChipId rurpGetHardwareRevision
    rw [ends_bind, ends_getHandle, if_neg large, ends_bind, ends_build, ends_bind, ends_bind,
      ends_look, ends_pure, measurable, bne_iff_ne.mpr target]
    dsimp only
    rw [Bool.not_false, Bool.and_true, if_pos rfl, ends_bind]
    refine (ends_refuseBadCalibration bad).mono (fun refused w' so => ?_) fun _ => id
    obtain ⟨rfl, so⟩ := so
    exact Ends.when nofun fun _ => so

/-- With a record that passes, a dead reference channel is not noticed. -/
theorem GatedOperation.not_refuses_of_dead (operation : GatedOperation)
    (scaler : env.build.board ≠ .py32f071) (dead : ∀ seen, env.bandgapAdc seen = 0)
    (entered : Entered operation w) (measurable : isRevision0 env.build w.hardwareRevision = false)
    (measures : operation.Measures w.handle)
    (good : calibrationIsPlausible env.build w.config = true) : ¬ operation.Refuses env w := by
  have against : Ends operation.run env w (fun _ w' => ¬ Refused w w') (fun _ => True) := by
    cases operation with
    | epromCheckVpp =>
      exact (ends_epromCheckVpp_dead scaler dead entered measurable good).mono
        (fun _ _ answered refused => answered refused.error) fun _ => id
    | flashIntelVppUp =>
      refine (ends_discard _).mpr ?_
      exact (ends_flashIntelVppUp_dead scaler dead entered measurable good).mono
        (fun _ _ answered refused => answered refused.error) fun _ => id
    | eeprom28cCheckChipId =>
      exact ends_eeprom28cCheckChipId_dead scaler dead entered measurable measures good
  intro refuses
  have both : Ends operation.run env w (fun _ _ => False) fun _ => False :=
    (against.and refuses).mono (fun _ _ both => both.1 both.2) fun _ both => both.2
  exact both.state

/-- Of the readings the scaler cannot evaluate, an operation refuses those of a record that fails the
test, and no other. -/
theorem unmeasured_rail_refused_iff (operation : GatedOperation)
    (scaler : env.build.board ≠ .py32f071) (entered : Entered operation w)
    (measurable : isRevision0 env.build w.hardwareRevision = false)
    (measures : operation.Measures w.handle) {bandgapAdc : U16}
    (reference : ∀ seen, env.bandgapAdc seen = bandgapAdc)
    (failed : unevaluable env.build w.config bandgapAdc = true) :
    operation.Refuses env w ↔ calibrationIsPlausible env.build w.config = false := by
  constructor
  · intro refuses
    by_contra good
    rw [Bool.not_eq_false] at good
    have dead : bandgapAdc = 0 := by
      unfold unevaluable at failed
      simpa [good] using failed
    exact operation.not_refuses_of_dead scaler (fun seen => (reference seen).trans dead) entered
      measurable measures good refuses
  · exact operation.refuses_of_bad measurable measures

/-- A Leonardo of revision 2.2 about to program an Intel flash chip at 12 V. -/
def beforeVppUp (config : Configuration) : World where
  handle :=
    { cmd := cmdWrite, responseCode := responseCodeOk, protocol := protoFlashIntel, pins := 32
      vppMv := 12000, firestarterSetControlRegister := some .memorySetControlRegister }
  controlRegister := 0
  config := config
  revision := revision22
  stored := none
  latches := ⟨0, 0, 0⟩

theorem unmeasured_rail_refused_zero_divider :
    GatedOperation.flashIntelVppUp.Refuses (Env.still ⟨.leonardo, false⟩ 0)
      (beforeVppUp ⟨configVersion, 270000, 0, 0xFF, 1100⟩) :=
  (@unmeasured_rail_refused_iff (Env.still ⟨.leonardo, false⟩ 0) (beforeVppUp _) .flashIntelVppUp
    (by decide) ⟨rfl, rfl, rfl⟩ rfl trivial 225 (fun _ => rfl) (by decide)).mpr (by decide)

/-- Shipped calibration, 12 V wanted, and a reference channel that reads nothing: the chip gets
whatever the rail carries, with a warning. -/
theorem unmeasured_rail_let_through :
    ¬ ∀ (operation : GatedOperation) (env : Env) (w : World) (bandgapAdc : U16),
      env.build.board ≠ .py32f071 → Entered operation w →
        isRevision0 env.build w.hardwareRevision = false →
        w.handle.isFlagSet flagForce = false → operation.Measures w.handle →
        (∀ seen, env.bandgapAdc seen = bandgapAdc) →
        unevaluable env.build w.config bandgapAdc = true → operation.Refuses env w := by
  intro claim
  have refuses := claim .flashIntelVppUp
    { Env.still ⟨.leonardo, false⟩ 0 with bandgapAdc := fun _ => 0 }
    (beforeVppUp ⟨configVersion, valueR1, valueR2, 0xFF, 1100⟩) 0 (by decide) ⟨rfl, rfl, rfl⟩ rfl
    (by decide) trivial (fun _ => rfl) (by decide)
  have error := (refuses.mono (fun _ _ refused => refused.error) fun _ never => never.elim).state
  exact absurd error (by decide +kernel)

end Firestarter
