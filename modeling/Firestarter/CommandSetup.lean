import Firestarter.Firmware
import Firestarter.PhaseEngine
import Mathlib.Tactic.SplitIfs

/-! How a command comes to run: what `configure_memory` leaves in the handle, and what the receipt
of a command frame can end with. -/
namespace Firestarter

open Interactive Interactive.Prog

set_option synthInstance.maxSize 4000

variable {env : Env}

/-! ## Configuring the memory -/

/-- `mem_util_set_read_high_mask`, as a change of the handle. -/
def Handle.withReadHighMask (b : Build) (hw : U8) (h : Handle) : Handle :=
  let line := h.busConfig.vppLine
  let p1Vpp := line != 0xFF && h.usingP1AsVpp
  { h with
    busConfig :=
      { h.busConfig with
        readHighMask := if p1Vpp then 1 <<< line.toNat else 0
        readHighNeedsRegOff := p1Vpp && vppLineSwitchesVpp b hw line } }

/-- What a driver's `configure` leaves in the handle when it accepts the command. -/
def Driver.configured (driver : Driver) (h : Handle) : Handle :=
  match driver with
  | .flashIntel => h.withFlashIntelCallbacks
  | .eeprom28c => h.withEeprom28cCallbacks
  | .flashNorUnlock => h.withFlashNorUnlockCallbacks
  | .flash5vPage => h.withFlash5vPageCallbacks
  | .eprom =>
    let h := h.withEpromCallbacks
    { h with
      firestarterSetControlRegister := some .epromInternalSetControlRegister
      pulseDelay := if h.pulseDelay == 0 then epromFallbackPulse h.protocol else h.pulseDelay }
  | .sram => h

/-- The handle that `configure_memory` makes of the decoded one, for a revision. -/
def Driver.setUp (driver : Driver) (b : Build) (hw : U8) (decoded : Handle) : Handle :=
  driver.configured (decoded.withoutCallbacks.withMemoryCallbacks.withReadHighMask b hw)

/-- No driver makes a phase configure the memory again. -/
theorem Driver.setUp_settled (driver : Driver) (b : Build) (hw : U8) (decoded : Handle) :
    (driver.setUp b hw decoded).Settled := by
  have generic : (decoded.withoutCallbacks.withMemoryCallbacks.withReadHighMask b hw).Settled := by
    refine ⟨nofun, ?_, nofun⟩
    show (if decoded.cmd == cmdRead then some Callback.memoryReadExecute
      else if decoded.cmd == cmdWrite then some Callback.memoryWriteExecute else none) ≠ _
    split
    · nofun
    · split <;> nofun
  unfold Driver.setUp
  revert generic
  generalize decoded.withoutCallbacks.withMemoryCallbacks.withReadHighMask b hw = h
  intro generic
  obtain ⟨init, main, finish⟩ := generic
  cases driver with
  | sram => exact ⟨init, main, finish⟩
  | flashIntel =>
    show h.withFlashIntelCallbacks.Settled
    unfold Handle.withFlashIntelCallbacks
    split_ifs <;> refine ⟨?_, ?_, ?_⟩ <;> first | assumption | nofun
  | eeprom28c =>
    show h.withEeprom28cCallbacks.Settled
    unfold Handle.withEeprom28cCallbacks
    split_ifs <;> refine ⟨?_, ?_, ?_⟩ <;> first | assumption | nofun
  | flashNorUnlock =>
    show h.withFlashNorUnlockCallbacks.Settled
    unfold Handle.withFlashNorUnlockCallbacks
    split_ifs <;> refine ⟨?_, ?_, ?_⟩ <;> first | assumption | nofun
  | flash5vPage =>
    show h.withFlash5vPageCallbacks.Settled
    unfold Handle.withFlash5vPageCallbacks
    split_ifs <;> refine ⟨?_, ?_, ?_⟩ <;> first | assumption | nofun
  | eprom =>
    have callbacks : h.withEpromCallbacks.Settled := by
      unfold Handle.withEpromCallbacks
      split_ifs <;> refine ⟨?_, ?_, ?_⟩ <;> first | assumption | nofun
    exact ⟨callbacks.init, callbacks.main, callbacks.finish⟩

/-- A step of `configure_memory`: it may change the handle and the saved access pointer, and the
rest is a driver step. -/
abbrev ConfigureStep : World → World → Prop :=
  Moves (fun w => { w.beyondDriver with handle := {}, epSetControlRegister := none }) Event.isNoise

theorem DriverStep.configureStep {s s' : World} (h : DriverStep s s') : ConfigureStep s s' :=
  Moves.mono h (fun w => { w with handle := {}, epSetControlRegister := none }) (fun _ => rfl)
    fun _ noise => noise

theorem ends_refuse (id : U8) [ReportId id] (params : List U8) (w : World) :
    Ends (refuse id params) env w
      (fun _ w' => DriverStep w w' ∧ w'.handle.responseCode = responseCodeError)
      (DriverStep w) := by
  refine Within.and_ends (R := DriverStep) inferInstance ?_
  unfold refuse setResponseCode
  rw [ends_bind]
  exact ends_any _ (fun _ _ => rfl) fun _ => trivial

/-- Two handles of one command in one state, with the cursor at one place. -/
def SameSetup (h h' : Handle) : Prop :=
  h.parameters = h'.parameters ∧ h.operationState = h'.operationState ∧ h.address = h'.address

theorem SameSetup.trans {h h' h'' : Handle} (first : SameSetup h h') (rest : SameSetup h' h'') :
    SameSetup h h'' :=
  ⟨first.1.trans rest.1, first.2.1.trans rest.2.1, first.2.2.trans rest.2.2⟩

theorem DriverStep.sameSetup {s s' : World} (h : DriverStep s s') :
    SameSetup s'.handle s.handle := by
  have parameters := congrArg (fun w : World => w.handle.parameters) h.kept
  have state := congrArg (fun w : World => w.handle.operationState) h.kept
  have address := congrArg (fun w : World => w.handle.address) h.kept
  exact ⟨parameters, state, address⟩

/-- A driver looks at parameters only, and keeps the state and the command. -/
theorem Driver.configured_parameters (driver : Driver) (h : Handle) :
    (driver.configured h).parameters = (driver.configured h.parameters).parameters ∧
      (driver.configured h).operationState = h.operationState ∧
      (driver.configured h).cmd = h.cmd := by
  cases driver with
  | flashIntel =>
    dsimp only [Driver.configured, Handle.withFlashIntelCallbacks, Handle.parameters]
    cases h.cmd == cmdWrite <;> cases h.cmd == cmdErase <;> cases h.cmd == cmdCheckChipId <;>
      exact ⟨rfl, rfl, rfl⟩
  | eeprom28c =>
    dsimp only [Driver.configured, Handle.withEeprom28cCallbacks, Handle.parameters]
    cases h.cmd == cmdWrite <;> cases h.cmd == cmdErase <;> cases h.cmd == cmdSdpUnlock <;>
      cases h.cmd == cmdSdpLock <;> exact ⟨rfl, rfl, rfl⟩
  | flashNorUnlock =>
    dsimp only [Driver.configured, Handle.withFlashNorUnlockCallbacks, Handle.parameters]
    cases h.cmd == cmdWrite <;> cases h.cmd == cmdErase <;> cases h.cmd == cmdCheckChipId <;>
      cases h.cmd == cmdLockStatus <;> exact ⟨rfl, rfl, rfl⟩
  | flash5vPage =>
    dsimp only [Driver.configured, Handle.withFlash5vPageCallbacks, Handle.parameters]
    cases h.cmd == cmdWrite <;> cases h.cmd == cmdErase <;> cases h.cmd == cmdCheckChipId <;>
      cases h.cmd == cmdLockStatus <;> exact ⟨rfl, rfl, rfl⟩
  | eprom =>
    have callbacks : h.withEpromCallbacks.parameters = h.parameters.withEpromCallbacks.parameters ∧
        h.withEpromCallbacks.operationState = h.operationState ∧
        h.withEpromCallbacks.cmd = h.cmd := by
      dsimp only [Handle.withEpromCallbacks, Handle.parameters]
      cases h.cmd == cmdWrite <;> cases h.cmd == cmdErase <;> cases h.cmd == cmdCheckChipId <;>
        exact ⟨rfl, rfl, rfl⟩
    have installed := congrArg (fun p : Handle => { p with
      firestarterSetControlRegister := some .epromInternalSetControlRegister
      pulseDelay := if p.pulseDelay == 0 then epromFallbackPulse p.protocol else p.pulseDelay })
      callbacks.1
    exact ⟨installed, callbacks.2⟩
  | sram => exact ⟨rfl, rfl, rfl⟩

/-- What no driver's `configure` changes. -/
def Handle.unconfigured (h : Handle) : Handle :=
  { h with
    firestarterOperationInit := none
    firestarterOperationMain := none
    firestarterOperationEnd := none
    firestarterSetControlRegister := none
    pulseDelay := 0 }

theorem Driver.configured_unconfigured (driver : Driver) (h : Handle) :
    (driver.configured h).unconfigured = h.unconfigured := by
  cases driver with
  | flashIntel =>
    dsimp only [Driver.configured, Handle.withFlashIntelCallbacks]
    split_ifs <;> rfl
  | eeprom28c =>
    dsimp only [Driver.configured, Handle.withEeprom28cCallbacks]
    split_ifs <;> rfl
  | flashNorUnlock =>
    dsimp only [Driver.configured, Handle.withFlashNorUnlockCallbacks]
    split_ifs <;> rfl
  | flash5vPage =>
    dsimp only [Driver.configured, Handle.withFlash5vPageCallbacks]
    split_ifs <;> rfl
  | eprom =>
    have callbacks : h.withEpromCallbacks.unconfigured = h.unconfigured := by
      dsimp only [Handle.withEpromCallbacks]
      split_ifs <;> rfl
    exact callbacks
  | sram => rfl

theorem Driver.configured_sameSetup (driver : Driver) {h h' : Handle} (same : SameSetup h h') :
    SameSetup (driver.configured h) (driver.configured h') := by
  obtain ⟨parameters, state, -⟩ := driver.configured_parameters h
  obtain ⟨parameters', state', -⟩ := driver.configured_parameters h'
  have address := congrArg Handle.address (driver.configured_unconfigured h)
  have address' := congrArg Handle.address (driver.configured_unconfigured h')
  refine ⟨?_, ?_, ?_⟩
  · rw [parameters, parameters', same.1]
  · rw [state, state', same.2.1]
  · exact (address.trans same.2.2).trans address'.symm

/-- What `configure_memory` has to end with: an error, or the handle of a driver. -/
def SetUp (env : Env) (w w' : World) : Prop :=
  isGoodResponse w'.handle.responseCode = true →
    ∃ driver, driverFor w.handle.protocol = some driver ∧
      rurpPinmapRefuses env.build w.handle.cmd = false ∧
      SameSetup w'.handle (driver.setUp env.build w.hardwareRevision w.handle) ∧
      (driver = .eprom → w'.epSetControlRegister = some .memorySetControlRegister)

theorem not_good_of_error {w : World} (error : w.handle.responseCode = responseCodeError) :
    isGoodResponse w.handle.responseCode = true → False := by
  rw [error]
  nofun

/-- The world once the handle knows which line a read holds high. -/
def World.withReadHighMask (b : Build) (w : World) : World :=
  { w with handle := w.handle.withReadHighMask b w.hardwareRevision }

theorem ends_memUtilSetReadHighMask (w : World) {ended : Unit → World → Prop}
    {cutOff : World → Prop} :
    Ends memUtilSetReadHighMask env w ended cutOff ↔ ended () (w.withReadHighMask env.build) :=
  Iff.rfl

theorem ends_prepareBus (w : World) :
    Ends prepareBus env w (fun _ w' => DriverStep (w.withReadHighMask env.build) w')
      (DriverStep (w.withReadHighMask env.build)) := by
  unfold prepareBus
  rw [ends_bind, ends_memUtilSetReadHighMask]
  refine Within.ends ?_ (w.withReadHighMask env.build)
  infer_instance

/-- The handle may change freely in a configuring step. -/
theorem ConfigureStep.handle (w : World) (h : Handle) : ConfigureStep w { w with handle := h } :=
  Moves.of_silent rfl rfl rfl

/-- The world once the EPROM driver has put itself in the place of the generic setter. -/
def World.asEprom (w : World) : World :=
  { w with
    handle := Driver.eprom.configured w.handle
    epSetControlRegister := w.handle.firestarterSetControlRegister }

theorem ends_configureEprom (w : World) :
    Ends configureEprom env w (fun _ w' => DriverStep w.asEprom w') (DriverStep w.asEprom) := by
  have setter : w.handle.withEpromCallbacks.firestarterSetControlRegister =
      w.handle.firestarterSetControlRegister := by
    unfold Handle.withEpromCallbacks
    split_ifs <;> rfl
  unfold configureEprom
  rw [ends_bind, ends_setHandle, ends_bind, ends_update, ends_bind, ends_setHandle, setter]
  refine Within.ends (R := DriverStep) ?_ w.asEprom
  refine within_bind inferInstance fun h => ?_
  cases epromParamsFor h.protocol <;> infer_instance

theorem ends_configureDriver (driver : Driver) (w : World) :
    Ends (configureDriver driver) env w
      (fun _ w' => ConfigureStep w w' ∧ SameSetup w'.handle (driver.configured w.handle) ∧
        (driver = .eprom → w'.epSetControlRegister = w.handle.firestarterSetControlRegister))
      (ConfigureStep w) := by
  cases driver with
  | sram => exact ⟨refl_of ConfigureStep w, ⟨rfl, rfl, rfl⟩, nofun⟩
  | flashIntel => exact ⟨ConfigureStep.handle w _, ⟨rfl, rfl, rfl⟩, nofun⟩
  | eeprom28c => exact ⟨ConfigureStep.handle w _, ⟨rfl, rfl, rfl⟩, nofun⟩
  | flashNorUnlock => exact ⟨ConfigureStep.handle w _, ⟨rfl, rfl, rfl⟩, nofun⟩
  | flash5vPage => exact ⟨ConfigureStep.handle w _, ⟨rfl, rfl, rfl⟩, nofun⟩
  | eprom =>
    have configured : ConfigureStep w w.asEprom := Moves.of_silent rfl rfl rfl
    refine (ends_configureEprom w).mono (fun _ w' moved => ?_) fun w' moved => ?_
    · have kept := congrArg World.epSetControlRegister moved.kept
      exact ⟨trans_of ConfigureStep configured moved.configureStep, moved.sameSetup, fun _ => kept⟩
    · exact trans_of ConfigureStep configured moved.configureStep

theorem ends_configureMemory (w : World) :
    Ends configureMemory env w (fun _ w' => ConfigureStep w w' ∧ SetUp env w w')
      (ConfigureStep w) := by
  have refusal (h : Handle) (id : U8) [ReportId id] (params : List U8) :
      Ends (refuse id params) env { w with handle := h }
        (fun _ w' => ConfigureStep w w' ∧ SetUp env w w') (ConfigureStep w) := by
    refine (ends_refuse id params _).mono (fun _ w' moved => ?_) fun w' moved => ?_
    · exact ⟨trans_of ConfigureStep (ConfigureStep.handle w h) moved.1.configureStep,
        fun good => (not_good_of_error moved.2 good).elim⟩
    · exact trans_of ConfigureStep (ConfigureStep.handle w h) moved.configureStep
  unfold configureMemory
  simp only [ends_bind, ends_setHandle, ends_getHandle, ends_build]
  split
  · exact refusal _ _ _
  · rename_i allowed
    rw [ends_bind, ends_setHandle]
    split
    · unfold configureNotImplemented
      rw [ends_bind, ends_setHandle, ends_bind, ends_getHandle]
      exact refusal _ _ _
    · rename_i driver found
      rw [ends_bind]
      refine (ends_prepareBus _).mono (fun _ w₁ prepared => ?_) fun w₁ prepared => ?_
      · have before : ConfigureStep w w₁ :=
          trans_of ConfigureStep (ConfigureStep.handle w _) prepared.configureStep
        refine (ends_configureDriver driver w₁).mono (fun _ w' done => ?_) fun w' moved => ?_
        · obtain ⟨moved, setup, setter⟩ := done
          refine ⟨trans_of ConfigureStep before moved, fun _ => ⟨driver, found, ?_, ?_, ?_⟩⟩
          · exact Bool.eq_false_iff.mpr allowed
          · have same := driver.configured_sameSetup prepared.sameSetup
            exact setup.trans same
          · intro isEprom
            have kept := congrArg Handle.firestarterSetControlRegister prepared.sameSetup.1
            exact (setter isEprom).trans kept
        · exact trans_of ConfigureStep before moved
      · exact trans_of ConfigureStep (ConfigureStep.handle w _) prepared.configureStep

/-! ## Receiving a command -/

/-- The registers and what stands in front of them. -/
def World.shield (w : World) : World :=
  { lsbAddress := w.lsbAddress, msbAddress := w.msbAddress, controlRegister := w.controlRegister
    regulatorOffMs := w.regulatorOffMs, latches := w.latches, regulatorOffAt := w.regulatorOffAt
    stored := none }

/-- What setting a command up keeps around the configuration of the memory. -/
def World.beyondSetup (w : World) : World :=
  { w.shield with
    comMode := w.comMode
    handle := { cmd := w.handle.cmd, operationState := w.handle.operationState } }

/-- A step that drives no register: it neither changes the shield nor notes anything of it. -/
abbrev IdleStep : World → World → Prop :=
  Moves World.beyondSetup fun e => !e.isBoundary && !e.isShieldNoise

theorem LinkStep.idleStep {s s' : World} (h : LinkStep s s') : IdleStep s s' :=
  Moves.mono h World.beyondSetup (fun _ => rfl) fun e noise => by cases e <;> first | rfl | cases noise

section

instance : IsPreorder World IdleStep := inferInstance

instance : BusFrame env IdleStep where
  bus s s' _ same := by
    have kept := congrArg World.beyondSetup same
    exact Moves.of_bus kept same

instance (priority := low) idleOfLink {α : Type} (m : Fw α) [h : Within env LinkStep m] :
    Within env IdleStep m := h.weaken fun _ _ => LinkStep.idleStep

/-- A silent change that leaves the shield and the mode alone is an idle step. -/
theorem IdleStep.update (env : Env) (f : World → World)
    (kept : ∀ w, (f w).beyondSetup = w.beyondSetup)
    (trace : ∀ w, (f w).trace = w.trace) (queue : ∀ w, (f w).deferredLog = w.deferredLog) :
    Within env IdleStep (update f : Fw Unit) :=
  Within.update f fun w =>
    have mode := congrArg World.comMode (kept w)
    Moves.of_silent (kept w) (trace w) (queue w) fun speaks => mode.symm.trans speaks

instance : Within env IdleStep rurpSaveConfig := by
  have (saved : Bool) := IdleStep.update env
    (fun w => if saved then { w with stored := some w.config } else w)
    (fun w => by cases saved <;> rfl) (fun w => by cases saved <;> rfl)
    (fun w => by cases saved <;> rfl)
  unfold rurpSaveConfig
  infer_instance

instance (candidate : Configuration) : Within env IdleStep (rurpConfigCommit candidate) := by
  have := IdleStep.update env (fun w => { w with config := candidate })
    (fun _ => rfl) (fun _ => rfl) fun _ => rfl
  unfold rurpConfigCommit
  infer_instance

instance : Within env IdleStep applyConfigCommand := by
  unfold applyConfigCommand
  infer_instance

instance (id v : U8) [NoticeId id] : Within env LinkStep (logIdU8 id v) := by
  unfold logIdU8
  infer_instance

instance : Within env LinkStep reportIdentity := by
  unfold reportIdentity
  infer_instance

end

/-- A step that drives no register; it may change the mode. -/
abbrev ShieldStep : World → World → Prop :=
  Moves World.shield fun e => !e.isBoundary && !e.isShieldNoise

theorem IdleStep.shieldStep {s s' : World} (h : IdleStep s s') : ShieldStep s s' :=
  Moves.mono h World.shield (fun _ => rfl) fun _ noise => noise

theorem ModeStep.shieldStep {s s' : World} (h : ModeStep s s') : ShieldStep s s' :=
  Moves.mono h (World.shield) (fun _ => rfl)
    fun e noise => by cases e <;> first | rfl | cases noise

/-- Nothing runs; the firmware listens for a command frame. -/
structure Idle (w : World) : Prop where
  cmd : w.handle.cmd = cmdIdle
  comMode : w.comMode = true
  queue : w.QueuesReports

/-- The decoder made this handle of a command frame, with the operation state cleared. -/
def Decoded (b : Build) (decoded : Handle) : Prop :=
  ∃ received : Handle, received.operationState = 0 ∧ cmdDecode b received = (decoded, cmdDecodeOk)

/-- The command in the handle was set up. -/
structure Accepted (env : Env) (w : World) : Prop where
  comMode : w.comMode = true
  queue : w.QueuesReports
  fresh : w.handle.operationState = 0
  setUp : isMemoryCmd w.handle.cmd = true →
    ∃ driver decoded, Decoded env.build decoded ∧ driverFor decoded.protocol = some driver ∧
      rurpPinmapRefuses env.build decoded.cmd = false ∧
      SameSetup w.handle (driver.setUp env.build w.hardwareRevision decoded) ∧
      (driver = .eprom → w.epSetControlRegister = some .memorySetControlRegister)

/-- What an invariant of a command rests on: it holds at rest, it holds when a frame has been
received, and setting the memory up from there makes it ready for the command. -/
structure Readiness (env : Env) where
  rest : World → Prop
  fresh : World → Prop
  ready : World → Prop
  receives : ∀ {w : World}, rest w → fresh { w with trace := .received :: w.trace }
  rests : ∀ {w w' : World}, rest w → ShieldStep w w' → rest w'
  listens : ∀ {w w' : World}, fresh w → ShieldStep w w' → fresh w'
  waits : ∀ {w w' : World}, ready w → ShieldStep w w' → ready w'
  configures : ∀ {w : World}, fresh w →
    Ends configureMemory env w (fun _ w' => ready w') (fun _ => True)
  settles : ∀ {w : World}, fresh w → rest w
  passes : ∀ {w : World} (h : Handle), rest w → rest { w with trace := .accepted h :: w.trace }
  finishes : ∀ w : World, Ends commandDone env w (fun _ w' => rest w') (fun _ => True)

/-- The firmware took nothing up since it received the frame. -/
structure Listening (R : Readiness env) (w : World) : Prop where
  comMode : w.comMode = true
  queue : w.QueuesReports
  events : commandEvents w.trace = none
  fresh : R.fresh w

theorem commandEvents_none_of_moves {κ : Type} {part : World → κ} {noise : Event → Bool}
    {w w' : World} (h : Moves part noise w w') (queue : w.QueuesReports)
    (inside : ∀ e, noise e = true → e.isBoundary = false) (absent : commandEvents w.trace = none) :
    commandEvents w'.trace = none := by
  obtain ⟨-, new, heard, events⟩ := h.events queue inside
  rw [events, absent]
  rfl

theorem Event.isBoundary_of_idle {e : Event}
    (noise : (!e.isBoundary && !e.isShieldNoise) = true) : e.isBoundary = false := by
  cases e <;> first | rfl | cases noise

namespace Listening

variable {R : Readiness env} {w w' : World}

theorem idleStep (l : Listening R w) (moved : IdleStep w w') : Listening R w' where
  comMode := by
    have kept := congrArg World.comMode moved.kept
    exact kept.trans l.comMode
  queue := (moved.adds l.queue).1
  events := commandEvents_none_of_moves moved l.queue (fun _ => Event.isBoundary_of_idle) l.events
  fresh := R.listens l.fresh moved.shieldStep

/-- The handle is not looked at. -/
theorem handle (l : Listening R w) (h : Handle) : Listening R { w with handle := h } where
  comMode := l.comMode
  queue := l.queue
  events := l.events
  fresh := R.listens l.fresh (Moves.of_silent rfl rfl rfl)

end Listening

/-- What a run of `configure_memory` inside a command's setup relates. -/
def Configures (R : Readiness env) (w w' : World) : Prop :=
  ConfigureStep w w' ∧ SetUp env w w' ∧ (R.fresh w → R.ready w')

theorem ends_configures (R : Readiness env) (w : World) :
    Ends (dispatch .configureMemory) env w (fun _ w' => Configures R w w') (ConfigureStep w) := by
  show Ends configureMemory env w _ _
  by_cases fresh : R.fresh w
  · refine ((ends_configureMemory w).and (R.configures fresh)).mono (fun _ w' both => ?_)
      fun _ both => both.1
    exact ⟨both.1.1, both.1.2, fun _ => both.2⟩
  · exact (ends_configureMemory w).mono
      (fun _ w' done => ⟨done.1, done.2, fun there => (fresh there).elim⟩) fun _ moved => moved

theorem Event.isBoundary_of_report {e : Event} (noise : e.isReportNoise = true) :
    e.isBoundary = false := by cases e <;> first | rfl | cases noise

/-- The memory is set up for the handle `decoded`. -/
structure SetUpFor (R : Readiness env) (decoded : Handle) (w : World) : Prop where
  comMode : w.comMode = true
  queue : w.QueuesReports
  events : commandEvents w.trace = none
  ready : R.ready w
  handle : ∃ driver, driverFor decoded.protocol = some driver ∧
    rurpPinmapRefuses env.build decoded.cmd = false ∧
    SameSetup w.handle (driver.setUp env.build w.hardwareRevision decoded) ∧
    (driver = .eprom → w.epSetControlRegister = some .memorySetControlRegister)

section
variable {R : Readiness env}

/-- What is known after the configuration, whether it succeeded or not. -/
structure Attended (w : World) : Prop where
  comMode : w.comMode = true
  queue : w.QueuesReports
  events : commandEvents w.trace = none

theorem Attended.link {w w' : World} (a : Attended w) (link : LinkStep w w') : Attended w' where
  comMode := by
    have kept := congrArg World.comMode link.kept
    exact kept.trans a.comMode
  queue := (link.adds a.queue).1
  events := commandEvents_none_of_moves link a.queue (fun _ => Event.isBoundary_of_report) a.events

theorem Listening.attended {w : World} (l : Listening R w) : Attended w :=
  ⟨l.comMode, l.queue, l.events⟩

theorem SetUpFor.link {decoded : Handle} {w w' : World} (u : SetUpFor R decoded w)
    (link : LinkStep w w') : SetUpFor R decoded w' := by
  obtain ⟨comMode, queue, events⟩ := Attended.link ⟨u.comMode, u.queue, u.events⟩ link
  refine ⟨comMode, queue, events, R.waits u.ready link.idleStep.shieldStep, ?_⟩
  obtain ⟨driver, found, allowed, same, setter⟩ := u.handle
  refine ⟨driver, found, allowed, ?_, fun isEprom => ?_⟩
  · have revision := congrArg World.hardwareRevision link.kept
    have parameters := congrArg (fun w : World => w.handle.parameters) link.kept
    have state := congrArg (fun w : World => w.handle.operationState) link.kept
    have address := congrArg (fun w : World => w.handle.address) link.kept
    have revision : w'.hardwareRevision = w.hardwareRevision := revision
    rw [revision]
    exact SameSetup.trans ⟨parameters, state, address⟩ same
  · have kept := congrArg World.epSetControlRegister link.kept
    exact kept.trans (setter isEprom)

theorem ends_setUp {w : World} (l : Listening R w) :
    Ends (executeOperation dispatch (some .configureMemory)) env w
      (fun r w' => Attended w' ∧ (r ≠ .error → SetUpFor R w.handle w'))
      (fun w' => commandEvents w'.trace = none) := by
  have enter {w₁ : World} (enter : ModeStep w w₁) :
      (w₁.calling .configureMemory).QueuesReports ∧
        commandEvents (w₁.calling .configureMemory).trace = none := by
    refine ⟨(enter.adds l.queue).1, ?_⟩
    have before := commandEvents_none_of_moves enter l.queue (fun _ => Event.isBoundary_of_report)
      l.events
    show Option.map _ (commandEvents w₁.trace) = none
    rw [before]
    rfl
  have run {w₁ w₂ : World} (entered : ModeStep w w₁)
      (ran : ConfigureStep (w₁.calling .configureMemory) w₂) :
      (w₂.returning .configureMemory).QueuesReports ∧
        commandEvents (w₂.returning .configureMemory).trace = none := by
    obtain ⟨queue, events⟩ := enter entered
    refine ⟨(ran.adds queue).1, ?_⟩
    have before := commandEvents_none_of_moves ran queue (fun _ => Event.isBoundary_of_isNoise) events
    show Option.map _ (commandEvents w₂.trace) = none
    rw [before]
    rfl
  have leave {w₁ w₂ w₃ : World} (entered : ModeStep w w₁)
      (ran : ConfigureStep (w₁.calling .configureMemory) w₂)
      (left : ModeStep (w₂.returning .configureMemory) w₃) :
      w₃.QueuesReports ∧ commandEvents w₃.trace = none := by
    obtain ⟨queue, events⟩ := run entered ran
    exact ⟨(left.adds queue).1,
      commandEvents_none_of_moves left queue (fun _ => Event.isBoundary_of_report) events⟩
  refine (ends_executeOperation (ends_configures R) (fun _ _ ran => ?_) w).mono
    (fun r w' executed => ?_) fun w' cut => ?_
  · have kept := congrArg World.comMode ran.1.kept
    exact kept
  · cases executed with
    | bad entered ran left comMode response =>
      obtain ⟨queue, events⟩ := leave entered ran.1 left
      exact ⟨⟨comMode l.comMode, queue, events⟩, fun good => (good rfl).elim⟩
    | @good w₁ w₂ w₃ _ entered ran left comMode response link =>
      obtain ⟨queue, events⟩ := leave entered ran.1 left
      have attended : Attended w₃ := ⟨comMode l.comMode, queue, events⟩
      refine ⟨attended.link link, fun _ => SetUpFor.link ?_ link⟩
      obtain ⟨moved, setUp, ready⟩ := ran
      obtain ⟨driver, found, allowed, same, setter⟩ := setUp response
      have fresh : R.fresh (w₁.calling .configureMemory) :=
        R.listens l.fresh (trans_of ShieldStep entered.shieldStep (Moves.of_note _ rfl rfl))
      have after : ShieldStep w₂ w₃ :=
        trans_of ShieldStep (Moves.of_note _ rfl rfl) left.shieldStep
      -- The mode changes keep the handle that was decoded, and the revision.
      have before : w₁.handle = w.handle := entered.handle
      have later : w₃.handle = w₂.handle := left.handle
      have configured := congrArg World.hardwareRevision moved.kept
      have revision := congrArg World.hardwareRevision left.kept
      have setterKept := congrArg World.epSetControlRegister left.kept
      have revision : w₃.hardwareRevision = w₁.hardwareRevision := revision.trans configured
      refine ⟨attended.comMode, queue, events, R.waits (ready fresh) after,
        driver, ?_, ?_, ?_, fun isEprom => setterKept.trans (setter isEprom)⟩
      · rw [← before]
        exact found
      · rw [← before]
        exact allowed
      · rw [revision, later, ← before]
        exact same
  · cases cut with
    | entering entered =>
      exact commandEvents_none_of_moves entered l.queue (fun _ => Event.isBoundary_of_report) l.events
    | running entered ran =>
      obtain ⟨queue, events⟩ := enter entered
      exact commandEvents_none_of_moves ran queue (fun _ => Event.isBoundary_of_isNoise) events
    | leaving entered ran left link =>
      obtain ⟨queue, events⟩ := leave entered ran.1 left
      exact commandEvents_none_of_moves link queue (fun _ => Event.isBoundary_of_report) events

theorem Driver.setUp_cmd (driver : Driver) (b : Build) (hw : U8) (decoded : Handle) :
    (driver.setUp b hw decoded).cmd = decoded.cmd :=
  (driver.configured_parameters
    (decoded.withoutCallbacks.withMemoryCallbacks.withReadHighMask b hw)).2.2

theorem Driver.setUp_operationState (driver : Driver) (b : Build) (hw : U8) (decoded : Handle) :
    (driver.setUp b hw decoded).operationState = decoded.operationState :=
  (driver.configured_parameters
    (decoded.withoutCallbacks.withMemoryCallbacks.withReadHighMask b hw)).2.1

/-- The decoder does not touch the operation state. -/
theorem cmdDecode_operationState (b : Build) (h : Handle) :
    (cmdDecode b h).1.operationState = h.operationState := by
  unfold cmdDecode
  dsimp only
  split_ifs <;> rfl

/-- A frame was parsed: the command is set up, or it needs no memory. -/
structure Parsed (R : Readiness env) (w : World) : Prop where
  attended : Attended w
  state : w.handle.operationState = 0
  memory : isMemoryCmd w.handle.cmd = true →
    ∃ decoded, Decoded env.build decoded ∧ SetUpFor R decoded w
  other : isMemoryCmd w.handle.cmd = false → Listening R w

theorem Parsed.link {w w' : World} (p : Parsed R w) (link : LinkStep w w') : Parsed R w' := by
  have cmd := congrArg (fun w : World => w.handle.cmd) link.kept
  have state := congrArg (fun w : World => w.handle.operationState) link.kept
  have cmd : w'.handle.cmd = w.handle.cmd := cmd
  refine ⟨p.attended.link link, state.trans p.state, fun memory => ?_, fun other => ?_⟩
  · obtain ⟨decoded, known, setUp⟩ := p.memory (cmd ▸ memory)
    exact ⟨decoded, known, setUp.link link⟩
  · exact (p.other (cmd ▸ other)).idleStep link.idleStep

theorem ends_parseCommand {w : World} (l : Listening R w) (state : w.handle.operationState = 0) :
    Ends parseCommand env w (fun ok w' => if ok then Parsed R w' else Attended w')
      (fun w' => commandEvents w'.trace = none) := by
  rcases decode : cmdDecode env.build w.handle with ⟨h, res⟩
  have kept : h.operationState = 0 := by
    have same := cmdDecode_operationState env.build w.handle
    rw [decode] at same
    exact same.trans state
  have listening : Listening R { w with handle := h } := l.handle h
  have refused (id v : U8) [NoticeId id] :
      Ends (do logIdU8 id v; pure false) env { w with handle := h }
        (fun ok w' => if ok then Parsed R w' else Attended w')
        (fun w' => commandEvents w'.trace = none) := by
    refine Within.bind_ends (S := LinkStep) inferInstance (fun _ w' link => ?_) fun w' link => ?_
    · exact listening.attended.link link
    · exact (listening.attended.link link).events
  unfold parseCommand
  rw [ends_bind, ends_build, ends_bind, ends_getHandle, decode]
  dsimp only
  rw [ends_bind, ends_setHandle]
  split
  · refine Within.bind_ends (S := LinkStep) inferInstance (fun _ w' link => ?_) fun w' link => ?_
    · exact listening.attended.link link
    · exact (listening.attended.link link).events
  split
  · exact refused _ _
  split
  · exact refused _ _
  rename_i res_ok
  have decoded : Decoded env.build h := by
    refine ⟨w.handle, state, ?_⟩
    have ok : res = cmdDecodeOk := by simpa using res_ok
    rw [decode, ok]
  split
  · rename_i memory
    unfold opExecuteFunction
    rw [Option.isNone_some, if_neg Bool.false_ne_true, ends_bind, ends_bind]
    refine (ends_setUp listening).mono (fun r w' after => ?_) fun _ absent => absent
    show Ends _ env w' _ _
    by_cases failed : r = .error
    · subst failed
      refine Within.bind_ends (S := LinkStep) inferInstance (fun _ w₂ link => ?_) fun w₂ link => ?_
      · exact after.1.link link
      · exact (after.1.link link).events
    · have good : (r != .error) = true := by simpa using failed
      rw [good, ends_pure, if_pos rfl]
      have setUp := after.2 failed
      obtain ⟨driver, found, allowed, same, setter⟩ := setUp.handle
      have cmd : w'.handle.cmd = h.cmd := by
        have same := congrArg Handle.cmd same.1
        exact same.trans (driver.setUp_cmd env.build w'.hardwareRevision h)
      have parsedState : w'.handle.operationState = 0 := by
        rw [same.2.1, driver.setUp_operationState]
        exact kept
      refine ⟨after.1, parsedState, fun _ => ⟨h, decoded, setUp⟩, fun other => ?_⟩
      rw [cmd, memory] at other
      cases other
  rename_i other
  have other : isMemoryCmd h.cmd = false := by simpa using other
  split
  · refine (Within.ends (R := IdleStep) inferInstance _).mono (fun ok w' moved => ?_)
      fun w' moved => ?_
    · have cmd := congrArg (fun w : World => w.handle.cmd) moved.kept
      have state := congrArg (fun w : World => w.handle.operationState) moved.kept
      have listening := listening.idleStep moved
      have cmd : w'.handle.cmd = h.cmd := cmd
      split
      · refine ⟨listening.attended, state.trans kept, fun memory => ?_, fun _ => listening⟩
        rw [cmd, other] at memory
        cases memory
      · exact listening.attended
    · exact (listening.idleStep moved).events
  · exact ⟨listening.attended, kept, fun memory => absurd memory (by simp [other]),
      fun _ => listening⟩

theorem ends_acceptCommand {w : World} (p : Parsed R w) :
    Ends acceptCommand env w
      (fun _ w' => ∃ w₀, w' = { w₀ with trace := .accepted w₀.handle :: w₀.trace } ∧ Parsed R w₀)
      (fun w' => commandEvents w'.trace = none) := by
  unfold acceptCommand
  refine Within.bind_ends (S := LinkStep) inferInstance (fun _ w₁ link => ?_)
    fun _ link => (p.link link).attended.events
  replace p := p.link link
  rw [ends_bind, ends_outside, ends_bind, ends_look]
  refine Within.bind_ends (S := LinkStep) inferInstance (fun _ w₂ link => ?_)
    fun _ link => (p.link link).attended.events
  replace p := p.link link
  refine Within.bind_ends (S := LinkStep) inferInstance (fun _ w₃ link => ?_)
    fun _ link => (p.link link).attended.events
  rw [ends_bind, ends_getHandle, ends_note]
  exact ⟨w₃, rfl, p.link link⟩

theorem ends_initProgrammerFramed {w : World} (l : Listening R w) :
    Ends initProgrammerFramed env w
      (fun ok w' =>
        if ok then
          ∃ w₀, w' = { w₀ with trace := .accepted w₀.handle :: w₀.trace } ∧ Parsed R w₀
        else Attended w')
      (fun w' => commandEvents w'.trace = none) := by
  unfold initProgrammerFramed
  rw [ends_bind, ends_setHandle, ends_bind, ends_getHandle]
  have listening := l.handle { w.handle with
    responseCode := responseCodeOk, operationState := 0, ctrlFlags := flagVerbose }
  split
  · refine Within.bind_ends (S := LinkStep) inferInstance (fun _ w' link => ?_) fun w' link => ?_
    · exact listening.attended.link link
    · exact (listening.attended.link link).events
  · rw [ends_bind]
    refine (ends_parseCommand listening rfl).mono (fun ok w' parsed => ?_) fun _ absent => absent
    cases ok with
    | false => exact parsed
    | true =>
      rw [if_pos rfl, ends_bind]
      exact (ends_acceptCommand parsed).mono (fun _ _ accepted => accepted) fun _ absent => absent

end

/-! ## Ending a command -/

/-- What ending a command may add to the events. -/
abbrev EndStep : World → World → Prop := Moves (fun _ => ()) Event.isNoise

theorem Moves.endStep {κ : Type} {part : World → κ} {noise : Event → Bool} {s s' : World}
    (h : Moves part noise s s') (sub : ∀ e, noise e = true → e.isNoise = true) : EndStep s s' :=
  Moves.mono h (fun _ => ()) (fun _ => rfl) sub

/-- The command is over: the firmware is idle, and has said so last. -/
theorem ends_commandDone {w : World} (queue : w.QueuesReports)
    (mode : env.build.serialOnIo = false → w.comMode = true) :
    Ends commandDone env w
      (fun _ w' => Idle w' ∧
        ∃ w₀, EndStep w w₀ ∧ w' = { w₀ with trace := .finished :: w₀.trace })
      (EndStep w) := by
  unfold commandDone
  rw [ends_bind]
  refine (ends_rurpSetProgrammerMode w).mono (fun _ w₁ entered => ?_)
    fun _ moved => Moves.endStep moved fun _ => Event.isNoise_of_report
  obtain ⟨entered, kept⟩ := entered
  have mode₁ (absent : env.build.serialOnIo = false) : w₁.comMode = true :=
    (kept absent).trans (mode absent)
  have step₁ : EndStep w w₁ := Moves.endStep entered fun _ => Event.isNoise_of_report
  have driven {α : Type} {m : Fw α} {f : α → Fw Unit} {v : World} (moved : EndStep w v)
      (mode : env.build.serialOnIo = false → v.comMode = true) [first : Within env DriverStep m]
      {ended : Unit → World → Prop}
      (rest : ∀ a v', EndStep w v' → (env.build.serialOnIo = false → v'.comMode = true) →
        Ends (f a) env v' ended (EndStep w)) : Ends (m >>= f) env v ended (EndStep w) := by
    refine first.bind_ends (fun a v' step => rest a v' ?_ fun absent => ?_) fun v' step => ?_
    · exact trans_of EndStep moved (Moves.endStep step fun _ noise => noise)
    · have kept := congrArg World.comMode step.kept
      exact kept.trans (mode absent)
    · exact trans_of EndStep moved (Moves.endStep step fun _ noise => noise)
  refine driven step₁ mode₁ fun _ _ step mode => driven step mode fun _ _ step mode =>
    driven step mode fun _ _ step mode => driven step mode fun _ w₅ step mode => ?_
  rw [ends_bind, ends_setHandle, ends_bind]
  have idle : EndStep w { w₅ with handle := { w₅.handle with cmd := cmdIdle } } := by
    refine trans_of EndStep step ?_
    exact Moves.of_silent rfl rfl rfl
  refine (ends_rurpSetCommunicationMode _).mono (fun _ w₆ left => ?_) fun w₆ left => ?_
  · have last : EndStep w w₆ :=
      trans_of EndStep idle (Moves.endStep left.1 fun _ => Event.isNoise_of_report)
    have cmd := congrArg Handle.cmd left.1.handle
    exact ⟨⟨cmd, left.2 mode, (last.adds queue).1⟩, w₆, last, rfl⟩
  · exact trans_of EndStep idle (Moves.endStep left fun _ => Event.isNoise_of_report)

/-! ## The idle turn -/

/-- What the idle turn of the loop ends with: nothing came, the firmware is idle again after a
frame it did not take up, or a command was accepted. -/
inductive Attending (R : Readiness env) (w : World) : World → Prop
  | nothing {w' : World} (link : LinkStep w w') : Attending R w w'
  | refused {w' : World} (idle : Idle w') (rest : R.rest w')
      (events : commandEvents w'.trace = none) : Attending R w w'
  | accepted {w₀ : World} (parsed : Parsed R w₀) :
      Attending R w { w₀ with trace := .accepted w₀.handle :: w₀.trace }

theorem ends_receiveCommand {R : Readiness env} {w : World} (idle : Idle w) (rest : R.rest w) :
    Ends receiveCommand env w (fun _ w' => Attending R w w')
      (fun w' => LinkStep w w' ∨ commandEvents w'.trace = none) := by
  unfold receiveCommand
  refine Within.bind_ends (S := LinkStep) inferInstance (fun available w₁ link => ?_)
    fun _ link => .inl link
  refine Ends.when (fun came => ?_) fun _ => .nothing link
  rw [ends_bind, ends_note, ends_bind, ends_build]
  have comMode := congrArg World.comMode link.kept
  have rest := R.rests rest link.idleStep.shieldStep
  have listening : Listening R { w₁ with trace := .received :: w₁.trace } :=
    ⟨comMode.trans idle.comMode, (link.adds idle.queue).1, rfl, R.receives rest⟩
  refine Within.bind_ends (S := LinkStep) inferInstance (fun n w₂ link => ?_)
    fun _ link => .inr (listening.idleStep link.idleStep).events
  have cmd : w₂.handle.cmd = cmdIdle := by
    have first := congrArg (fun w : World => w.handle.cmd) ‹LinkStep w w₁›.kept
    have second := congrArg (fun w : World => w.handle.cmd) link.kept
    exact second.trans (first.trans idle.cmd)
  replace listening := listening.idleStep link.idleStep
  split
  · rw [ends_bind, ends_setHandle, ends_bind]
    refine (ends_initProgrammerFramed (listening.handle _)).mono (fun ok w₃ framed => ?_)
      fun _ absent => .inr absent
    refine Ends.when (fun failed => ?_) fun good => ?_
    · have attended : Attended w₃ := by
        cases ok with
        | true => cases failed
        | false => exact framed
      refine ((ends_commandDone attended.queue fun _ => attended.comMode).and
        (R.finishes w₃)).mono (fun _ w₄ done => ?_) fun w₄ done => .inr ?_
      · obtain ⟨⟨idle, w₀, step, rfl⟩, rest⟩ := done
        refine .refused idle rest ?_
        have events := commandEvents_none_of_moves step attended.queue
          (fun _ => Event.isBoundary_of_isNoise) attended.events
        show Option.map _ (commandEvents w₀.trace) = none
        rw [events]
        rfl
      · exact commandEvents_none_of_moves done.1 attended.queue
          (fun _ => Event.isBoundary_of_isNoise) attended.events
    · cases ok with
      | false => cases good
      | true =>
        obtain ⟨w₀, rfl, parsed⟩ := framed
        exact .accepted parsed
  · refine (Within.ends (R := LinkStep) inferInstance w₂).mono (fun _ w₃ link => ?_)
      fun _ link => .inr (listening.idleStep link.idleStep).events
    have cmd' := congrArg (fun w : World => w.handle.cmd) link.kept
    replace listening := listening.idleStep link.idleStep
    exact .refused ⟨cmd'.trans cmd, listening.comMode, listening.queue⟩
      (R.settles listening.fresh) listening.events

end Firestarter
