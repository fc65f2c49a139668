import Firestarter.CommandSetup
import Firestarter.HostFrames

/-! Relations that allow a conversation and some ways to work on the chip, with the callbacks they
have. One that looks at nothing of the handle but the command and allows the shield to be driven has
every callback and every command of the firmware. -/
namespace Firestarter

open Interactive Interactive.Prog

set_option synthInstance.maxSize 4000

/-! ## The callbacks -/

section
variable {env : Env} {R : World → World → Prop} [HostFrame R] [FetchFrame env R]

/-- The buffer is the transfer's. -/
instance : Within env R memoryReadExecute := by
  have (i : Nat) (data : U8) := TalkStep.setHandle env
    (fun h => { h with dataBuffer := storeByte h.dataBuffer i data }) fun _ => rfl
  have (n : U32) := TalkStep.setHandle env (fun h => { h with dataSize := n }) fun _ => rfl
  unfold memoryReadExecute
  infer_instance

/-- A callback that configures nothing leaves the parameters of the handle alone. -/
theorem within_settled [DepositFrame env R] [HomeFrame env R] [MeasureFrame R] [LowerFrame env R]
    [RaiseFrame env R] {callback : Callback} (settled : callback ≠ .configureMemory) :
    Within env R (dispatch callback) := by
  by_cases reads : callback = .memoryReadExecute
  · subst reads
    exact (inferInstance : Within env R memoryReadExecute)
  exact within_dispatch callback settled reads

end

/-- Any change of the handle that keeps the command, and of the access pointer saved beside it. -/
class HandleFrame (R : World → World → Prop) : Prop where
  handle : ∀ (s : World) (h : Handle), h.cmd = s.handle.cmd → R s { s with handle := h }
  pointer : ∀ (s : World) (saved : Option ControlSetter),
    R s { s with epSetControlRegister := saved }

variable {env : Env} {R : World → World → Prop} [HandleFrame R]

theorem HandleFrame.set (env : Env) (R : World → World → Prop) [HandleFrame R]
    (f : Handle → Handle) (cmd : ∀ h, (f h).cmd = h.cmd) : Within env R (setHandle f) :=
  Within.update _ fun w => HandleFrame.handle w (f w.handle) (cmd w.handle)

variable [HostFrame R]

/-! ## Configuring the memory -/

/-- A driver keeps the command it is configured for. -/
theorem Driver.configured_cmd (driver : Driver) (h : Handle) :
    (driver.configured h).cmd = h.cmd := (driver.configured_parameters h).2.2

instance : Within env R memUtilSetReadHighMask := by
  have (f : Handle → BusConfig) : Within env R (setHandle fun h => { h with busConfig := f h }) :=
    HandleFrame.set env R _ fun _ => rfl
  unfold memUtilSetReadHighMask
  infer_instance

instance : Within env R configureEprom := by
  have callbacks : Within env R (setHandle Handle.withEpromCallbacks) := by
    refine HandleFrame.set env R _ fun h => ?_
    unfold Handle.withEpromCallbacks
    split_ifs <;> rfl
  have : Within env R (update fun w =>
      { w with epSetControlRegister := w.handle.firestarterSetControlRegister } : Fw Unit) :=
    Within.update _ fun w => HandleFrame.pointer w _
  have (f : Handle → U32) : Within env R (setHandle fun h =>
      { h with
        firestarterSetControlRegister := some .epromInternalSetControlRegister
        pulseDelay := f h }) := HandleFrame.set env R _ fun _ => rfl
  unfold configureEprom
  refine within_bind inferInstance fun _ => within_bind inferInstance fun _ =>
    within_bind inferInstance fun _ => within_bind inferInstance fun h => ?_
  cases epromParamsFor h.protocol <;> infer_instance

instance (driver : Driver) : Within env R (configureDriver driver) := by
  cases driver with
  | sram => exact ⟨fun s => refl_of R s⟩
  | flashIntel => exact HandleFrame.set env R _ (Driver.configured_cmd .flashIntel)
  | eeprom28c => exact HandleFrame.set env R _ (Driver.configured_cmd .eeprom28c)
  | flashNorUnlock => exact HandleFrame.set env R _ (Driver.configured_cmd .flashNorUnlock)
  | flash5vPage => exact HandleFrame.set env R _ (Driver.configured_cmd .flash5vPage)
  | eprom => exact (inferInstance : Within env R configureEprom)

/-- Whatever command a frame brings, configuring the memory for it only puts the bus at rest. -/
instance [HomeFrame env R] : Within env R configureMemory := by
  have := HandleFrame.set env R Handle.withoutCallbacks fun _ => rfl
  have := HandleFrame.set env R Handle.withMemoryCallbacks fun _ => rfl
  have (f : Handle → Option Callback) : Within env R (setHandle fun h =>
      { h with firestarterOperationMain := f h }) := HandleFrame.set env R _ fun _ => rfl
  have : Within env R prepareBus := by
    unfold prepareBus
    infer_instance
  unfold configureMemory
  refine within_bind inferInstance fun _ => within_bind inferInstance fun h =>
    within_bind inferInstance fun b => ?_
  split
  · infer_instance
  · refine within_bind inferInstance fun _ => ?_
    cases driverFor h.protocol with
    | none =>
      unfold configureNotImplemented
      infer_instance
    | some driver => infer_instance

/-! ## Addressing by hand -/

instance : Within env R dtHold := by
  have enable (state : Bool) : Within env R (rurpSetControlPin chipEnable state) :=
    Within.bus _ (fun _ => Nat.le_refl _) fun _ => rfl
  have output (state : Bool) : Within env R (rurpSetControlPin outputEnable state) :=
    Within.bus _ (fun _ => Nat.le_refl _) fun _ => rfl
  unfold dtHold
  infer_instance

instance [AddressFrame env R] : Within env R dtSetAddress := by
  unfold dtSetAddress
  refine within_bind inferInstance fun _ => within_bind inferInstance fun _ =>
    within_bind inferInstance fun _ => within_bind inferInstance fun _ =>
    within_bind inferInstance fun _ => within_bind inferInstance fun _ => ?_
  infer_instance

section
variable [SenseFrame R] [StoreFrame R] [RegisterFrame env R]

instance (callback : Callback) : Within env R (dispatch callback) := by
  by_cases configures : callback = .configureMemory
  · subst configures
    exact (inferInstance : Within env R configureMemory)
  exact within_settled configures

/-! ## The commands about the programmer -/

instance : Within env R hwReadVoltage := by
  have := HandleFrame.set env R (fun h => { h with operationState := 1 }) fun _ => rfl
  unfold hwReadVoltage hwStartVoltage hwSampleVoltage
  infer_instance

instance : Within env R fwGetVersion := by
  unfold fwGetVersion
  infer_instance

instance : Within env R hwGetVersion := by
  unfold hwGetVersion
  infer_instance

instance : Within env R hwGetConfig := by
  unfold hwGetConfig sampleBandgap
  infer_instance

/-- The one command that also strobes a latch past its cache. -/
instance [LatchFrame R] : Within env R dtSetRegisters := by
  have (msb lsb high low : U8) : Within env R (dtApplyRegisters msb lsb high low) := by
    unfold dtApplyRegisters
    infer_instance
  unfold dtSetRegisters
  infer_instance

instance : Within env R dtReadAdc := by
  have (ctrl : Reg) : Within env R (dtSampleAdc ctrl) := by
    unfold dtSampleAdc
    infer_instance
  unfold dtReadAdc dtEmitAdcFrame
  infer_instance

/-- The turn of any command. -/
theorem within_anyCommand (cmd : U8)
    (registers : cmd = cmdDevRegister → Within env R dtSetRegisters) :
    Within env R (runCommand cmd) := by
  by_cases memory : isMemoryCmd cmd = true
  · have guarded (c : Callback) (_ : True) :
        Within env (Guarded (Handle.CallbacksIn fun _ => True) R) (dispatch c) :=
      ⟨fun s _ => ⟨fun _ _ => trivial, (inferInstance : Within env R (dispatch c)).moves s⟩⟩
    exact (within_memoryTurn guarded memory).weaken fun s s' step => (step fun _ _ => trivial).2
  · unfold runCommand
    simp only [isMemoryCmd, Bool.or_eq_true, not_or, Bool.not_eq_true] at memory
    obtain ⟨⟨⟨⟨⟨⟨read, write⟩, erase⟩, chipId⟩, unlock⟩, lock⟩, status⟩ := memory
    rw [read, write, erase, chipId, unlock, lock, status]
    by_cases here : cmd = cmdDevRegister
    · have := registers here
      simp only [Bool.false_eq_true, if_false]
      infer_instance
    · rw [beq_false_of_ne here]
      simp only [Bool.false_eq_true, Bool.false_and, if_false]
      infer_instance

instance [LatchFrame R] (cmd : U8) : Within env R (runCommand cmd) :=
  within_anyCommand cmd fun _ => inferInstance

end

end Firestarter
