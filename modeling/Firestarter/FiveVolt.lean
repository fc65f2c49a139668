import Firestarter.AddressLines
import Firestarter.PhaseOrder
import Firestarter.TurnFrames

/-! The commands that never need a programming voltage: what they do to the control register keeps
every switch of it off, whatever lines the host's bus mapping names. -/
namespace Firestarter

open Interactive Interactive.Prog

set_option synthInstance.maxSize 4000

/-! ## A register without a switch -/

/-- None of the five switches is on in a logical control register. -/
def NoHighVoltage (b : Build) (control : Reg) : Prop := control &&& highVoltageBits b = 0

instance (b : Build) (control : Reg) : Decidable (NoHighVoltage b control) :=
  inferInstanceAs (Decidable (_ = _))

section
variable {b : Build} {control : Reg}

theorem NoHighVoltage.zero (b : Build) : NoHighVoltage b 0 := BitVec.zero_and

/-- Taking bits out of the register switches nothing on. -/
theorem NoHighVoltage.and (off : NoHighVoltage b control) (bits : Reg) :
    NoHighVoltage b (control &&& bits) := by
  unfold NoHighVoltage at off ⊢
  rw [BitVec.and_assoc, BitVec.and_comm bits, ← BitVec.and_assoc, off]
  exact BitVec.zero_and

theorem NoHighVoltage.or {other : Reg} (off : NoHighVoltage b control)
    (off' : NoHighVoltage b other) : NoHighVoltage b (control ||| other) := by
  unfold NoHighVoltage at off off' ⊢
  rw [BitVec.and_comm, BitVec.and_or_distrib_left, BitVec.and_comm, off, BitVec.and_comm, off']
  exact BitVec.or_zero

/-- Whatever bus lines an address raises, its top register has no switch that was off. -/
theorem NoHighVoltage.topAddress (layout : b.hardwareRevision = true)
    (off : NoHighVoltage b control) (hw pins : U8) (bus : U32) :
    NoHighVoltage b (memUtilCalculateTopAddressRegister b hw pins control bus) := by
  have switches : highVoltageBits b = 0x18E := by
    unfold highVoltageBits epromHvRouteBits
    rw [vppVpeDropEnable_eq layout]
    rfl
  have lines : NoHighVoltage b (ctrlAddressLine16 ||| ctrlAddressLine17 ||| ctrlAddressLine18 |||
      ctrlReadWrite) := by
    unfold NoHighVoltage
    rw [switches]
    rfl
  have supply : NoHighVoltage b ctrlAddressLine17 := by
    unfold NoHighVoltage
    rw [switches]
    rfl
  have top : NoHighVoltage b ((bus >>> rurpCtrlAddressShift).setWidth 16 &&&
      (ctrlAddressLine16 ||| ctrlAddressLine17 ||| ctrlAddressLine18 ||| ctrlReadWrite) |||
      control &&& topAddressPreserveMask b hw pins) := by
    refine NoHighVoltage.or ?_ (off.and _)
    rw [BitVec.and_comm]
    exact lines.and _
  unfold memUtilCalculateTopAddressRegister
  dsimp only
  split
  · exact top.or supply
  · exact top

end

/-! ## Steps that switch nothing on -/

/-- The note that the control register took a value with a switch on. -/
def Event.switchesOn (b : Build) : Event → Bool
  | .control data => data &&& highVoltageBits b != 0
  | _ => false

theorem Event.switchesOn_of_talk {b : Build} {e : Event} (talk : (!e.isBoundary && !e.isShieldNoise) = true) :
    e.switchesOn b = false := by
  cases e <;> first | rfl | cases talk

/-- No switch is on, and none was on at any moment since that state. -/
abbrev StaysOff (b : Build) (s s' : World) : Prop :=
  NoHighVoltage b s'.controlRegister ∧
    ∃ new, s'.trace = new ++ s.trace ∧ ∀ e ∈ new, e.switchesOn b = false

/-- From a register without a switch on, none is switched on. -/
def FiveVoltStep (b : Build) (s s' : World) : Prop :=
  NoHighVoltage b s.controlRegister → StaysOff b s s'

variable {env : Env} {b : Build}

namespace FiveVoltStep

variable {s s' : World}

theorem of_note (e : Event) (silent : e.switchesOn b = false) :
    FiveVoltStep b s { s with trace := e :: s.trace } := fun off =>
  ⟨off, [e], rfl, by simpa using silent⟩

theorem of_silent (control : s'.controlRegister = s.controlRegister) (trace : s'.trace = s.trace) :
    FiveVoltStep b s s' := fun off => ⟨control ▸ off, [], trace, by simp⟩

instance : HostFrame (FiveVoltStep b) where
  refl _ := of_silent rfl rfl
  trans s₁ s₂ s₃ first rest off := by
    obtain ⟨off, new, trace, silent⟩ := first off
    obtain ⟨off, new', trace', silent'⟩ := rest off
    refine ⟨off, new' ++ new, ?_, ?_⟩
    · rw [trace', trace, List.append_assoc]
    · intro e member
      cases List.mem_append.mp member with
      | inl member => exact silent' e member
      | inr member => exact silent e member
  talk s s' talk off := by
    have control := congrArg World.controlRegister talk.kept
    have control : s'.controlRegister = s.controlRegister := control
    obtain ⟨new, trace, heard⟩ := talk.adds
    exact ⟨control ▸ off, new, trace, fun e member => Event.switchesOn_of_talk (heard e member)⟩

instance : SenseFrame (FiveVoltStep b) where
  sense s e passive := of_note e (by cases e <;> first | rfl | cases passive)

instance : StoreFrame (FiveVoltStep b) where
  store s e store := of_note e (by cases e <;> first | rfl | cases store)

instance : SetupFrame (FiveVoltStep b) where
  handle _ _ := of_silent rfl rfl
  pointer _ _ := of_silent rfl rfl
  config _ _ _ := of_silent rfl rfl
  boundary s e boundary := of_note e (by cases e <;> first | rfl | cases boundary)

/-- A silent change of anything but the register. -/
theorem update (env : Env) (f : World → World)
    (control : ∀ w, (f w).controlRegister = w.controlRegister)
    (trace : ∀ w, (f w).trace = w.trace) :
    Within env (FiveVoltStep b) (update f : Fw Unit) :=
  Within.update f fun w => of_silent (control w) (trace w)

instance : LatchFrame (FiveVoltStep b) where
  strobe s reg byte latches offAt := by
    have noted : FiveVoltStep b s { s with trace := .strobe reg byte :: s.trace } :=
      of_note _ rfl
    refine trans_of (FiveVoltStep b) noted ?_
    exact of_silent rfl rfl

theorem within_writeControlRegister (env : Env) (old : Reg) {data : Reg}
    (off : NoHighVoltage b data) :
    Within env (FiveVoltStep b) (writeControlRegister old data) := by
  have (now : U32) := update (b := b) env (fun w => { w with regulatorOffMs := now })
    (fun _ => rfl) fun _ => rfl
  have : Within env (FiveVoltStep b) (Prog.update fun w => { w with controlRegister := data } :
      Fw Unit) := Within.update _ fun w _ => ⟨off, [], rfl, by simp⟩
  have silent : Event.switchesOn b (.control data) = false := bne_eq_false_iff_eq.mpr off
  have : Within env (FiveVoltStep b) (note (.control data)) :=
    Within.update _ fun w => of_note _ silent
  unfold writeControlRegister
  infer_instance

theorem within_rurpWriteToRegister (env : Env) (reg : U8) {data : Reg}
    (off : reg = controlRegister → NoHighVoltage b data) :
    Within env (FiveVoltStep b) (rurpWriteToRegister reg data) := by
  have := update (b := b) env (fun w => { w with lsbAddress := data.setWidth 8 })
    (fun _ => rfl) fun _ => rfl
  have := update (b := b) env (fun w => { w with msbAddress := data.setWidth 8 })
    (fun _ => rfl) fun _ => rfl
  have (old : Reg) : Within env (FiveVoltStep b)
      (when (reg == controlRegister && old != data) (writeControlRegister old data)) := by
    by_cases here : reg = controlRegister
    · have := within_writeControlRegister env old (off here)
      infer_instance
    · rw [beq_false_of_ne here, Bool.false_and]
      exact Within.pure ()
  unfold rurpWriteToRegister
  infer_instance

/-- What is made of the cached register starts from one without a switch on. -/
theorem within_readControl {α : Type} {f : Reg → Fw α}
    (rest : ∀ control, NoHighVoltage b control → Within env (FiveVoltStep b) (f control)) :
    Within env (FiveVoltStep b) (rurpReadControlRegister >>= f) :=
  ⟨fun s off => (rest s.controlRegister off).moves s off⟩

instance (bit : Reg) : Within env (FiveVoltStep b) (memorySetControlRegister bit false) := by
  unfold memorySetControlRegister
  refine within_readControl fun control off => ?_
  exact within_rurpWriteToRegister _ _ fun _ => off.and _

/-- Switching off is all the drivers may do by name. -/
instance : LowerFrame env (FiveVoltStep b) where
  lower bit := by
    have (bit : Reg) : Within env (FiveVoltStep b) (epromInternalSetControlRegister bit false) := by
      unfold epromInternalSetControlRegister
      infer_instance
    unfold setControlRegister
    infer_instance

/-- Addressing the chip switches nothing on. -/
theorem addressFrame (layout : env.build.hardwareRevision = true) :
    AddressFrame env (FiveVoltStep env.build) where
  address bus := by
    have (reg : U8) (other : reg ≠ controlRegister) (data : Reg) :
        Within env (FiveVoltStep env.build) (rurpWriteToRegister reg data) :=
      within_rurpWriteToRegister env reg fun here => (other here).elim
    have lsb := this leastSignificantByte (by decide)
    have msb := this mostSignificantByte (by decide)
    have noted (control : Reg) (latches : Latches) (offFor : Nat) :
        Within env (FiveVoltStep env.build) (note (.addressed control latches offFor)) :=
      Within.update _ fun w => of_note _ rfl
    unfold memUtilSetAddress
    refine within_bind inferInstance fun _ => within_bind inferInstance fun _ => ?_
    refine within_bind_of_ends (fun b => b = env.build) inferInstance (fun _ => rfl) ?_
    rintro _ rfl
    refine within_bind inferInstance fun hw => within_bind inferInstance fun h => ?_
    refine within_readControl fun control off => ?_
    have := within_rurpWriteToRegister env controlRegister
      fun _ => off.topAddress layout hw h.pins bus
    infer_instance

end FiveVoltStep

/-! ## The callbacks -/

/-- The callbacks of the drivers that need five volts only, and those of a read. -/
def Callback.isFiveVolt : Callback → Bool
  | .memoryReadExecute | .memoryWriteExecute | .flashIntelCleanup | .flashUtilCheckChipIdInit
  | .flashUtilChipErase | .flashNorUnlockWriteInit | .flashNorUnlockWriteExecute
  | .flashNorUnlockEraseExecute | .flashNorUnlockCheckChipIdExecute
  | .flashNorUnlockReadProtectionExecute | .flash5vPageWriteInit | .flash5vPageWriteExecute
  | .flash5vPageCheckChipIdExecute | .flash5vPageReadProtectionExecute => true
  | _ => false

theorem Callback.settled_of_fiveVolt {callback : Callback} (known : callback.isFiveVolt = true) :
    callback ≠ .configureMemory := by
  rintro rfl
  cases known

theorem within_fiveVoltCallback {R : World → World → Prop} [HostFrame R] [FetchFrame env R]
    [DepositFrame env R] [LowerFrame env R] {callback : Callback}
    (known : callback.isFiveVolt = true) : Within env R (dispatch callback) := by
  cases callback with
  | memoryReadExecute => exact (inferInstance : Within env R memoryReadExecute)
  | _ =>
    first
    | exact absurd known Bool.false_ne_true
    | (unfold dispatch; infer_instance)

/-! ## The commands -/

/-- The protocols of chips that never see a programming voltage. -/
def fiveVoltProtocols : List U8 :=
  [protoFlash5vPage, protoFlashNorUnlock, protoPhantom0x35, protoPhantom0x39, protoSram32Pin,
    protoSram24Pin, protoSram28Pin, protoSram32PinNvram]

/-- A read of any chip, or a command on a chip of these protocols. The raw register command carries
a chip's parameters too, but works on no chip. -/
def Handle.OnFiveVoltPath (h : Handle) : Prop :=
  h.cmd = cmdRead ∨
    cfPayloadKind h.cmd = .memory ∧ h.cmd ≠ cmdDevRegister ∧ h.protocol ∈ fiveVoltProtocols

theorem driver_of_fiveVoltProtocol {protocol : U8} (listed : protocol ∈ fiveVoltProtocols)
    {driver : Driver} (found : driverFor protocol = some driver) :
    driver = .flashNorUnlock ∨ driver = .flash5vPage ∨ driver = .sram := by
  have table : ∀ protocol ∈ fiveVoltProtocols, driverFor protocol = some .flashNorUnlock ∨
      driverFor protocol = some .flash5vPage ∨ driverFor protocol = some .sram := by decide
  have named := table protocol listed
  rw [found] at named
  simpa using named

/-- A handle whose callbacks are old ones or known ones. -/
theorem Handle.CallbacksIn.of_each {known : Callback → Prop} {h h' : Handle}
    (callbacks : h.CallbacksIn known)
    (init : ∀ c, h'.firestarterOperationInit = some c →
      h.firestarterOperationInit = some c ∨ known c)
    (main : ∀ c, h'.firestarterOperationMain = some c →
      h.firestarterOperationMain = some c ∨ known c)
    (finish : ∀ c, h'.firestarterOperationEnd = some c →
      h.firestarterOperationEnd = some c ∨ known c) : h'.CallbacksIn known := by
  rintro c (named | named | named)
  · exact (init c named).elim (fun old => callbacks c (.inl old)) id
  · exact (main c named).elim (fun old => callbacks c (.inr (.inl old))) id
  · exact (finish c named).elim (fun old => callbacks c (.inr (.inr old))) id

/-- What a driver installs for a read. -/
theorem Driver.configured_read (driver : Driver) {h : Handle} (read : h.cmd = cmdRead)
    (callbacks : h.CallbacksIn fun c => c.isFiveVolt = true) :
    (driver.configured h).CallbacksIn fun c => c.isFiveVolt = true := by
  cases driver with
  | flashIntel =>
    show h.withFlashIntelCallbacks.CallbacksIn _
    unfold Handle.withFlashIntelCallbacks
    rw [read]
    refine callbacks.of_each (fun _ => .inl) (fun _ => .inl) fun c named => .inr ?_
    obtain rfl := Option.some.inj named
    rfl
  | eeprom28c =>
    show h.withEeprom28cCallbacks.CallbacksIn _
    unfold Handle.withEeprom28cCallbacks
    rw [read]
    exact callbacks
  | flashNorUnlock =>
    show h.withFlashNorUnlockCallbacks.CallbacksIn _
    unfold Handle.withFlashNorUnlockCallbacks
    rw [read]
    refine callbacks.of_each (fun c named => .inr ?_) (fun _ => .inl) fun _ => .inl
    obtain rfl := Option.some.inj named
    rfl
  | flash5vPage =>
    show h.withFlash5vPageCallbacks.CallbacksIn _
    unfold Handle.withFlash5vPageCallbacks
    rw [read]
    exact callbacks
  | eprom =>
    have same : h.withEpromCallbacks = h := by
      unfold Handle.withEpromCallbacks
      rw [read]
      rfl
    show Handle.CallbacksIn _ { h.withEpromCallbacks with
      firestarterSetControlRegister := _, pulseDelay := _ }
    rw [same]
    exact callbacks
  | sram => exact callbacks

/-- What the flash drivers install for any command. -/
theorem Driver.configured_flash {h : Handle}
    (callbacks : h.CallbacksIn fun c => c.isFiveVolt = true) {driver : Driver}
    (flash : driver = .flashNorUnlock ∨ driver = .flash5vPage ∨ driver = .sram) :
    (driver.configured h).CallbacksIn fun c => c.isFiveVolt = true := by
  rcases flash with rfl | rfl | rfl
  · show h.withFlashNorUnlockCallbacks.CallbacksIn _
    unfold Handle.withFlashNorUnlockCallbacks
    split_ifs
    all_goals
      refine callbacks.of_each (fun c named => ?_) (fun c named => ?_) fun c named => ?_
      all_goals
        first
        | exact .inl named
        | (obtain rfl := Option.some.inj named; exact .inr rfl)
        | cases named
  · show h.withFlash5vPageCallbacks.CallbacksIn _
    unfold Handle.withFlash5vPageCallbacks
    split_ifs
    all_goals
      refine callbacks.of_each (fun c named => ?_) (fun c named => ?_) fun c named => ?_
      all_goals
        first
        | exact .inl named
        | (obtain rfl := Option.some.inj named; exact .inr rfl)
        | cases named
  · exact callbacks

/-- The callbacks that the memory gets for such a command. -/
theorem setUp_callbacks {decoded : Handle} (path : decoded.OnFiveVoltPath) {driver : Driver}
    (found : driverFor decoded.protocol = some driver) (b : Build) (hw : U8) :
    (driver.setUp b hw decoded).CallbacksIn fun c => c.isFiveVolt = true := by
  have generic : (decoded.withoutCallbacks.withMemoryCallbacks.withReadHighMask b hw).CallbacksIn
      fun c => c.isFiveVolt = true := by
    rintro c (named | named | named)
    · cases named
    · have named : (if decoded.cmd == cmdRead then some Callback.memoryReadExecute
        else if decoded.cmd == cmdWrite then some Callback.memoryWriteExecute else none) = some c :=
        named
      split_ifs at named <;> cases named <;> rfl
    · cases named
  rcases path with read | ⟨-, -, listed⟩
  · exact driver.configured_read read generic
  · exact Driver.configured_flash generic (driver_of_fiveVoltProtocol listed found)

/-! ## Setting a command up and ending it -/

theorem within_commandDone (env : Env) (b : Build) : Within env (FiveVoltStep b) commandDone := by
  have (reg : U8) : Within env (FiveVoltStep b) (rurpWriteToRegister reg 0) :=
    FiveVoltStep.within_rurpWriteToRegister env reg fun _ => NoHighVoltage.zero b
  have := TalkStep.note env .finished rfl rfl
  unfold commandDone
  infer_instance

theorem within_receiveCommand_fiveVolt (layout : env.build.hardwareRevision = true) :
    Within env (FiveVoltStep env.build) receiveCommand := by
  have := FiveVoltStep.addressFrame layout
  exact within_receiveCommand (within_commandDone env env.build)

/-! ## The turns of such a command -/

/-- A command that is running on a five-volt path, as far as its turns look at it. -/
def RunsOnFiveVolts (w : World) : Prop :=
  isMemoryCmd w.handle.cmd = true ∧ w.handle.CallbacksIn (fun c => c.isFiveVolt = true) ∨
    w.handle.cmd = cmdDevAddress

theorem RunsOnFiveVolts.talk {w w' : World} (runs : RunsOnFiveVolts w)
    (talk : TalkStep w w') : RunsOnFiveVolts w' := by
  have cmd := congrArg (fun w : World => w.handle.cmd) talk.kept
  have cmd : w'.handle.cmd = w.handle.cmd := cmd
  rcases runs with ⟨memory, callbacks⟩ | address
  · have kept : Guarded (Handle.CallbacksIn fun c => c.isFiveVolt = true) Continues w w' :=
      HostFrame.talk w w' talk
    exact .inl ⟨cmd ▸ memory, (kept callbacks).1⟩
  · exact .inr (cmd.trans address)

/-- A turn of such a command, along any relation that allows the chip to be accessed. -/
theorem ends_runCommand_fiveVolt {R : World → World → Prop} [HostFrame R] [HandleFrame R]
    [AddressFrame env R] [FetchFrame env R] [DepositFrame env R] [LowerFrame env R] {w : World}
    (runs : RunsOnFiveVolts w) :
    Ends (runCommand w.handle.cmd) env w (fun _ w' => R w w' ∧ RunsOnFiveVolts w') (R w) := by
  rcases id runs with ⟨memory, callbacks⟩ | address
  · refine (ends_memoryCommand (fun _ => Callback.settled_of_fiveVolt)
      (fun _ => within_fiveVoltCallback) memory callbacks).mono (fun _ w' step => ?_) fun _ => id
    obtain ⟨step, cmd, callbacks'⟩ := step
    exact ⟨step, .inl ⟨cmd ▸ memory, callbacks'⟩⟩
  · have turn : Within env R (runCommand cmdDevAddress) := by
      unfold runCommand
      refine within_bind inferInstance fun b => ?_
      have unknown : Within env R
          (do logIdU8 msgErrUnknownCmd cmdDevAddress; return true) := inferInstance
      have addressed : Within env R dtSetAddress := inferInstance
      cases devTools : b.devTools with
      | true => exact ⟨addressed.moves⟩
      | false => exact ⟨unknown.moves⟩
    have own := @within_runCommand env cmdDevAddress rfl
    rw [address]
    refine ((own.ends w).and (turn.ends w)).mono (fun _ w' step => ?_) fun w' step => step.2
    have cmd := congrArg Prod.fst step.1.kept
    exact ⟨step.2, .inr (cmd.trans address)⟩

theorem not_onFiveVoltPath_of_idle {h : Handle} (idle : h.cmd = cmdIdle) : ¬ h.OnFiveVoltPath := by
  rintro (read | ⟨kind, -⟩)
  · rw [idle] at read
    cases read
  · rw [idle] at kind
    cases kind

/-- A command on such a path is set up to run so. -/
theorem runsOnFiveVolts_of_parsed {w : World} (parsed : Parsed (Readiness.free env) w)
    (path : w.handle.OnFiveVoltPath) : RunsOnFiveVolts w := by
  cases memory : isMemoryCmd w.handle.cmd with
  | true =>
    obtain ⟨decoded, -, setUp⟩ := parsed.memory memory
    obtain ⟨driver, found, -, ⟨same, -⟩, -⟩ := setUp.handle
    have unchanged := driver.configured_unconfigured
      (decoded.withoutCallbacks.withMemoryCallbacks.withReadHighMask env.build w.hardwareRevision)
    have unchangedCmd := congrArg Handle.cmd unchanged
    have unchangedProtocol := congrArg Handle.protocol unchanged
    have cmd : w.handle.cmd = decoded.cmd := (congrArg Handle.cmd same).trans unchangedCmd
    have protocol : w.handle.protocol = decoded.protocol :=
      (congrArg Handle.protocol same).trans unchangedProtocol
    have path : decoded.OnFiveVoltPath := by
      unfold Handle.OnFiveVoltPath at path ⊢
      rw [← cmd, ← protocol]
      exact path
    have init := congrArg Handle.firestarterOperationInit same
    have main := congrArg Handle.firestarterOperationMain same
    have finish := congrArg Handle.firestarterOperationEnd same
    refine .inl ⟨memory, (setUp_callbacks path found env.build w.hardwareRevision).of_each ?_ ?_ ?_⟩
    · exact fun c named => .inl (init.symm.trans named)
    · exact fun c named => .inl (main.symm.trans named)
    · exact fun c named => .inl (finish.symm.trans named)
  | false =>
    refine .inr ?_
    rcases path with read | ⟨kind, notRegister, -⟩
    · rw [read] at memory
      cases memory
    · exact (devCommand_of_payloadKind kind memory).resolve_right notRegister

/-- Between the commands of a run the firmware listens. -/
theorem idle_of_reach {w : World} (reach : Reach env w) (idle : w.handle.cmd = cmdIdle) :
    Idle w := by
  cases (CommandInvariant.ofAllObservations (phaseObservation env)).running_of_reach reach with
  | idle idle => exact idle
  | memory h memory _ between =>
    obtain ⟨st, -, i⟩ := between
    have same : w.handle.cmd = h.cmd := i.1.field Handle.cmd fun _ => rfl
    rw [← same, idle] at memory
    cases memory
  | other _ _ busy => exact (busy idle).elim

theorem loop_of_idle {w : World} (idle : w.handle.cmd = cmdIdle) :
    loop env w = receiveCommand env w := by
  unfold loop
  rw [bind_run, look_run]
  dsimp only
  rw [if_pos (by simpa using idle)]

/-- The command of a firmware that is busy was parsed and set up, and nothing has happened since. -/
theorem parsed_of_busy {R : Readiness env} {w₀ w₁ : World} (reach : Reach env w₀) (rest : R.rest w₀)
    (idle : w₀.handle.cmd = cmdIdle) (received : loop env w₀ = (some (), w₁))
    (busy : w₁.handle.cmd ≠ cmdIdle) :
    ∃ w, w₁ = { w with trace := .accepted w.handle :: w.trace } ∧ Parsed R w := by
  rw [loop_of_idle idle] at received
  have attended := (ends_iff.mp
    (ends_receiveCommand (idle_of_reach reach idle) rest)).1 () w₁ received
  cases attended with
  | nothing link =>
    have cmd := congrArg (fun w : World => w.handle.cmd) link.kept
    exact (busy (cmd.trans idle)).elim
  | refused refused => exact (busy refused.cmd).elim
  | accepted parsed => exact ⟨_, rfl, parsed⟩

/-- A run of such a command switches nothing on: not while the frame is taken up, whatever command
it is, and not in any turn of the command, up to its end. -/
theorem five_volt_paths (layout : env.build.hardwareRevision = true) {w₀ : World}
    (reach : Reach env w₀) (idle : w₀.handle.cmd = cmdIdle)
    (off : NoHighVoltage env.build w₀.controlRegister) :
    StaysOff env.build w₀ (loop env w₀).2 ∧
    ∀ w₁, loop env w₀ = (some (), w₁) → w₁.handle.OnFiveVoltPath →
      ∀ w, SeenWhileRunning env w₁ w → StaysOff env.build w₀ w := by
  have taken : StaysOff env.build w₀ (loop env w₀).2 := by
    rw [loop_of_idle idle]
    exact (within_receiveCommand_fiveVolt layout).moves w₀ off
  refine ⟨taken, fun w₁ received path => ?_⟩
  rw [received] at taken
  have taken : StaysOff env.build w₀ w₁ := taken
  have runs : RunsOnFiveVolts w₁ := by
    obtain ⟨v, rfl, parsed⟩ := parsed_of_busy (R := Readiness.free env) reach trivial idle received
      fun idle => not_onFiveVoltPath_of_idle idle path
    have running := runsOnFiveVolts_of_parsed parsed path
    exact running
  have := FiveVoltStep.addressFrame layout
  intro w seen
  have step : FiveVoltStep env.build w₁ w := within_seenWhileRunning RunsOnFiveVolts.talk
    (within_commandDone env env.build) ends_runCommand_fiveVolt runs seen
  exact trans_of (FiveVoltStep env.build) (fun _ => taken) step off

/-- A Leonardo whose host reads an SRAM of four bytes; the frame names a switch as the write line
and another one as a line held high. -/
def switchLineReadEnv : Env :=
  (Env.still ⟨.leonardo, false⟩ 200).sends <|
    memoryFrame { cmd := cmdRead, memSize := 4, protocol := protoSram32Pin, pins := 32, vppMv := 5000,
                  busConfig := { addressLines := [], rwLine := 17, vppLine := 0xFF
                                 staticHighMask := 0x800000 } } ++
      [asciiO, asciiK, asciiO, asciiK]

theorem five_volt_paths_sram_read : ∃ w₀ w₁ : World, w₁.handle.cmd = cmdRead ∧
    loop switchLineReadEnv w₀ = (some (), w₁) ∧
      StaysOff switchLineReadEnv.build w₀ (loop switchLineReadEnv w₁).2 := by
  have ran : ((stateAfter switchLineReadEnv .blank 0).bind fun w₀ =>
      (loop switchLineReadEnv w₀).1.map fun _ => (w₀.handle.cmd, w₀.controlRegister,
        (loop switchLineReadEnv w₀).2.handle.cmd)) = some (cmdIdle, 0, cmdRead) := by
    decide +kernel
  obtain ⟨w₀, after, ran⟩ := Option.bind_eq_some_iff.mp ran
  obtain ⟨_, ended, ran⟩ := Option.map_eq_some_iff.mp ran
  obtain ⟨idle, ran⟩ := Prod.mk.inj ran
  obtain ⟨control, read⟩ := Prod.mk.inj ran
  have received : loop switchLineReadEnv w₀ = (some (), (loop switchLineReadEnv w₀).2) :=
    Prod.ext ended rfl
  have reach := (reach_stateAfter World.blank_poweredUp after).1
  have off : NoHighVoltage switchLineReadEnv.build w₀.controlRegister := by
    rw [control]
    decide
  have busy : (loop switchLineReadEnv w₀).2.handle.cmd ≠ cmdIdle := by
    rw [read]
    decide
  have silent := (@five_volt_paths switchLineReadEnv rfl w₀ reach idle off).2 _ received
    (.inl read) _ (.inside .start busy)
  exact ⟨w₀, _, read, received, silent⟩

end Firestarter
