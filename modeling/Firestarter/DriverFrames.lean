import Firestarter.Memory

/-! What the chip drivers leave alone. A relation between states that is closed under the few ways
a driver touches the world is kept by every driver function; each kind of touch is a class, so
that a relation which forbids one of them still has the functions that do without it. -/
namespace Firestarter

open Interactive Interactive.Prog

set_option synthInstance.maxSize 4000

/-! ## Touches -/

/-- The world but for the data bus, the chip's control lines, the clock and the outside's mind. -/
def World.withoutBus (w : World) : World :=
  { w with
    asked := 0, now := 0, dataBus := 0, dataOutput := false, chipEnable := true,
    outputEnable := true }

/-- Notes about a chip access that changes nothing on the chip. -/
def Event.isPassive : Event → Bool
  | .read .. | .measured .. => true
  | _ => false

/-- Notes about a byte the chip was given. -/
def Event.isStore : Event → Bool
  | .wrote .. | .flipped .. => true
  | _ => false

/-- Every frame but the five that carry a transfer: the request for data, the three ends of a
phase, and the chunk of a read. -/
def isReport (id : U8) : Bool :=
  id != msgOkReqData && id != msgInitDone && id != msgMainDone && id != msgEndDone &&
    id != msgDataChunk

def isRangeRefusal (id : U8) : Bool := id == msgErrOutOfRange

def isProgress (id : U8) : Bool := id == msgDataProgress

/-- The two reports that are told apart: the refusal of an address outside the range of the
operation, and the progress of a write. -/
def isSetApart (id : U8) : Bool := isRangeRefusal id || isProgress id

/-- The other reports. -/
def isNotice (id : U8) : Bool := isReport id && !isSetApart id

theorem isReport_of_isNotice {id : U8} (notice : isNotice id = true) : isReport id = true :=
  (Bool.and_eq_true_iff.mp notice).1

theorem notSetApart_of_isNotice {id : U8} (notice : isNotice id = true) : isSetApart id = false := by
  simpa using (Bool.and_eq_true_iff.mp notice).2

class ReportId (id : U8) : Prop where
  isReport : isReport id = true

class NoticeId (id : U8) : Prop where
  isNotice : isNotice id = true

instance (id : U8) [h : NoticeId id] : ReportId id := ⟨isReport_of_isNotice h.isNotice⟩

instance : ReportId msgErrOutOfRange := ⟨by decide⟩
instance : ReportId msgDataProgress := ⟨by decide⟩

/-! The notices of the drivers, and then those of the commands and the engine. -/

instance : NoticeId msgErrNotSupported := ⟨by decide⟩
instance : NoticeId msgErrVerify := ⟨by decide⟩
instance : NoticeId msgErrNotBlank := ⟨by decide⟩
instance : NoticeId msgErrEepromTimeout := ⟨by decide⟩
instance : NoticeId msgErrFl4VerifyTimeout := ⟨by decide⟩
instance : NoticeId msgErrOpTimeout := ⟨by decide⟩
instance : NoticeId msgErrChipIdMismatch := ⟨by decide⟩
instance : NoticeId msgErrMemSizeTooSmall := ⟨by decide⟩
instance : NoticeId msgErrProtocolNotImplemented := ⟨by decide⟩
instance : NoticeId msgErrMaxPulses := ⟨by decide⟩
instance : NoticeId msgErrEnergyCap := ⟨by decide⟩
instance : NoticeId msgErrFl4PageSize := ⟨by decide⟩
instance : NoticeId msgErrFl4PageAlign := ⟨by decide⟩
instance : NoticeId msgErrCalibration := ⟨by decide⟩
instance : NoticeId msgErrVppHighMv := ⟨by decide⟩
instance : NoticeId msgErrPulseTooWide := ⟨by decide⟩
instance : NoticeId msgWarnVppHighMv := ⟨by decide⟩
instance : NoticeId msgWarnVppLowMv := ⟨by decide⟩
instance : NoticeId msgWarnNotCalibrated := ⟨by decide⟩
instance : NoticeId msgWarnRev0VppUnsupported := ⟨by decide⟩
instance : NoticeId msgWarnChipIdMismatch := ⟨by decide⟩
instance : NoticeId msgWarnMemSizeTooSmall := ⟨by decide⟩
instance : NoticeId msgWarnSdpUnlockSkipped := ⟨by decide⟩
instance : NoticeId msgWarnSdpTblcExceeded := ⟨by decide⟩
instance : NoticeId msgInfoSkippingErase := ⟨by decide⟩
instance : NoticeId msgInfoSkippingEraseMem := ⟨by decide⟩
instance : NoticeId msgInfoSdpUnlock := ⟨by decide⟩
instance : NoticeId msgInfoSdpUnlockDoneUs := ⟨by decide⟩
instance : NoticeId msgInfoSdpLock := ⟨by decide⟩
instance : NoticeId msgInfoSdpLockDoneUs := ⟨by decide⟩
instance : NoticeId msgInfoPageLoadWorstUs := ⟨by decide⟩
instance : NoticeId msgDataProtectionStatus := ⟨by decide⟩
instance : NoticeId msgErrTimeout := ⟨by decide⟩
instance : NoticeId msgErrCmd := ⟨by decide⟩
instance : NoticeId msgErrDataErrN := ⟨by decide⟩
instance : NoticeId msgErrNoChipId := ⟨by decide⟩
instance : NoticeId msgErrCmdTimeout := ⟨by decide⟩
instance : NoticeId msgErrUnknownCmd := ⟨by decide⟩
instance : NoticeId msgErrRev0VppRd := ⟨by decide⟩
instance : NoticeId msgInfoInitStart := ⟨by decide⟩
instance : NoticeId msgInfoMainStart := ⟨by decide⟩
instance : NoticeId msgInfoMainDone := ⟨by decide⟩
instance : NoticeId msgInfoEndStart := ⟨by decide⟩
instance : NoticeId msgInfoRegisters := ⟨by decide⟩
instance : NoticeId msgInfoCeOe := ⟨by decide⟩
instance : NoticeId msgInfoAddr := ⟨by decide⟩
instance : NoticeId msgInfoAddrRemap := ⟨by decide⟩
instance : NoticeId msgDataSending := ⟨by decide⟩
instance : NoticeId msgDataAdcRaw := ⟨by decide⟩
instance : NoticeId msgDataVppMv := ⟨by decide⟩
instance : NoticeId msgDataVpeMv := ⟨by decide⟩
instance : NoticeId msgOkReady := ⟨by decide⟩
instance : NoticeId msgOkRev := ⟨by decide⟩
instance : NoticeId msgOkCfg := ⟨by decide⟩
instance : NoticeId msgInfoFw := ⟨by decide⟩
instance : NoticeId msgInfoHw := ⟨by decide⟩
instance : NoticeId msgInfoPhysicalHw := ⟨by decide⟩
instance : NoticeId msgInfoCmd := ⟨by decide⟩
instance : NoticeId msgErrBadFrame := ⟨by decide⟩
instance : NoticeId msgErrFrameVersion := ⟨by decide⟩
instance : NoticeId msgErrBadCommand := ⟨by decide⟩
instance : NoticeId msgErrSetup := ⟨by decide⟩
instance : NoticeId msgErrParseCfg := ⟨by decide⟩
instance : NoticeId msgErrEmptyInput := ⟨by decide⟩

instance (c : Prop) [Decidable c] (id id' : U8) [NoticeId id] [NoticeId id'] :
    NoticeId (if c then id else id') := by
  split <;> infer_instance

/-- Waiting, sensing and driving the bus. -/
class BusFrame (env : Env) (R : World → World → Prop) : Prop extends IsPreorder World R where
  bus : ∀ s s' : World, s.now ≤ s'.now → s'.withoutBus = s.withoutBus → R s s'

class MeasureFrame (R : World → World → Prop) : Prop where
  measure : ∀ (s : World) (millivolts : U16) (latches : Latches),
    R s { s with trace := .measured millivolts latches :: s.trace }

class ReadFrame (R : World → World → Prop) : Prop where
  read : ∀ (s : World) (address : U32) (data : U8) (latches : Latches),
    R s { s with trace := .read address data latches :: s.trace }

class SenseFrame (R : World → World → Prop) : Prop where
  sense : ∀ (s : World) (e : Event), e.isPassive = true → R s { s with trace := e :: s.trace }

class AddressFrame (env : Env) (R : World → World → Prop) : Prop where
  address : ∀ a, Within env R (memUtilSetAddress a)

/-- Reading the chip at any address. -/
class FetchFrame (env : Env) (R : World → World → Prop) : Prop where
  fetch : ∀ address, Within env R (memoryGetData address)

/-- Giving the chip any byte at any address, with its write pulse or a bare strobe. -/
class DepositFrame (env : Env) (R : World → World → Prop) : Prop where
  deposit : ∀ address data, Within env R (memorySetData address data)
  flip : ∀ address data, Within env R (fuFlashFlipData address data)

/-- Putting the bus at rest. -/
class HomeFrame (env : Env) (R : World → World → Prop) : Prop where
  home : Within env R (memUtilSetAddress 0)

class StoreFrame (R : World → World → Prop) : Prop where
  store : ∀ (s : World) (e : Event), e.isStore = true → R s { s with trace := e :: s.trace }

class ReportFrame (env : Env) (R : World → World → Prop) : Prop where
  report : ∀ id params, isReport id = true → Within env R (rurpLogId id params)
  respond : ∀ code, Within env R (setResponseCode code)

/-- As far as the notices go. -/
class NoticeFrame (env : Env) (R : World → World → Prop) : Prop where
  notice : ∀ id params, isNotice id = true → Within env R (rurpLogId id params)
  respond : ∀ code, Within env R (setResponseCode code)

/-- The progress of a write, wherever it goes. -/
class ProgressFrame (env : Env) (R : World → World → Prop) : Prop where
  progress : ∀ params, Within env R (rurpLogId msgDataProgress params)

class LowerFrame (env : Env) (R : World → World → Prop) : Prop where
  lower : ∀ bit, Within env R (setControlRegister bit false)

class RaiseFrame (env : Env) (R : World → World → Prop) : Prop where
  raise : ∀ bit, Within env R (setControlRegister bit true)

class RegisterFrame (env : Env) (R : World → World → Prop) : Prop where
  write : ∀ reg data, Within env R (rurpWriteToRegister reg data)
  addressed : ∀ (s : World) (control : Reg) (latches : Latches) (offFor : Nat),
    R s { s with trace := .addressed control latches offFor :: s.trace }

/-- Strobing any byte into any latch. -/
class LatchFrame (R : World → World → Prop) : Prop where
  strobe : ∀ (s : World) (reg byte : U8) (latches : Latches) (offAt : Nat),
    R s { s with
      latches := latches, regulatorOffAt := offAt, trace := .strobe reg byte :: s.trace }

/-- Any change of the cached registers. -/
class CacheFrame (R : World → World → Prop) : Prop where
  cache : ∀ (s : World) (lsb msb : U8) (control : Reg) (offMs : U32),
    R s { s with
      lsbAddress := lsb, msbAddress := msb, controlRegister := control, regulatorOffMs := offMs }
  control : ∀ (s : World) (data : Reg), R s { s with trace := .control data :: s.trace }
  addressed : ∀ (s : World) (control : Reg) (latches : Latches) (offFor : Nat),
    R s { s with trace := .addressed control latches offFor :: s.trace }

/-- The relation as far as states whose handle has this property are concerned; it keeps it. -/
def Guarded (P : Handle → Prop) (R : World → World → Prop) (s s' : World) : Prop :=
  P s.handle → P s'.handle ∧ R s s'

attribute [instance] RegisterFrame.write AddressFrame.address FetchFrame.fetch
  DepositFrame.deposit DepositFrame.flip HomeFrame.home NoticeFrame.respond
  ProgressFrame.progress LowerFrame.lower RaiseFrame.raise

variable {env : Env} {R : World → World → Prop} {α : Type}

/-! ## A relation between guarded states -/

section
variable {P : Handle → Prop}

instance [IsPreorder World R] : IsPreorder World (Guarded P R) where
  refl s there := ⟨there, refl_of R s⟩
  trans s₁ s₂ s₃ first rest there := by
    obtain ⟨there, moved⟩ := first there
    obtain ⟨there, moved'⟩ := rest there
    exact ⟨there, trans_of R moved moved'⟩

/-- Only a handle with the property has to be looked at. -/
theorem within_guardedHandle {f : Handle → Fw α}
    (rest : ∀ h : Handle, P h → Within env (Guarded P R) (f h)) :
    Within env (Guarded P R) (getHandle >>= f) :=
  ⟨fun s there => (rest s.handle there).moves s there⟩

/-! Nothing but the drivers' own steps touches the handle. -/

instance [BusFrame env R] : BusFrame env (Guarded P R) where
  bus s s' later same there := by
    have handle := congrArg World.handle same
    have handle : s'.handle = s.handle := handle
    exact ⟨handle ▸ there, BusFrame.bus env s s' later same⟩

instance [LatchFrame R] : LatchFrame (Guarded P R) where
  strobe s reg byte latches offAt there := ⟨there, LatchFrame.strobe s reg byte latches offAt⟩

instance [CacheFrame R] : CacheFrame (Guarded P R) where
  cache s lsb msb control offMs there := ⟨there, CacheFrame.cache s lsb msb control offMs⟩
  control s data there := ⟨there, CacheFrame.control s data⟩
  addressed s control latches offFor there :=
    ⟨there, CacheFrame.addressed s control latches offFor⟩

instance [MeasureFrame R] : MeasureFrame (Guarded P R) where
  measure s millivolts latches there := ⟨there, MeasureFrame.measure s millivolts latches⟩

instance [SenseFrame R] : SenseFrame (Guarded P R) where
  sense s e passive there := ⟨there, SenseFrame.sense s e passive⟩

instance [StoreFrame R] : StoreFrame (Guarded P R) where
  store s e store there := ⟨there, StoreFrame.store s e store⟩

end

/-! ## Waiting and the bus -/

section
variable [BusFrame env R]

theorem Within.bus (f : World → World) (later : ∀ s, s.now ≤ (f s).now)
    (same : ∀ s, (f s).withoutBus = s.withoutBus) : Within env R (update f : Fw Unit) :=
  Within.update f fun s => BusFrame.bus env s (f s) (later s) (same s)

instance (question : Env → World → α) : Within env R (ask question) := by
  have : Within env R (update fun w => { w with asked := w.asked + 1 } : Fw Unit) :=
    Within.bus _ (fun _ => Nat.le_refl _) fun _ => rfl
  unfold ask
  infer_instance

instance : Within env R build := by
  unfold build
  infer_instance

omit [BusFrame env R] in
/-- The build is always the same one, so only its branches count. -/
theorem within_build {f : Build → Fw α} (rest : Within env R (f env.build)) :
    Within env R (build >>= f) := ⟨rest.moves⟩

instance (priority := high) (f : Build → Fw α) [h : Within env R (f env.build)] :
    Within env R (build >>= f) := ⟨h.moves⟩

instance : Within env R getHandle := by
  unfold getHandle
  infer_instance

instance : Within env R rurpReadControlRegister := by
  unfold rurpReadControlRegister
  infer_instance

instance : Within env R rurpGetRegulatorOffMs := by
  unfold rurpGetRegulatorOffMs
  infer_instance

instance : Within env R rurpGetHardwareRevision := by
  unfold rurpGetHardwareRevision
  infer_instance

instance Within.passTime (ms : Nat) :
    Within env R (update fun w => { w with now := w.now + ms } : Fw Unit) :=
  Within.bus _ (fun _ => Nat.le_add_right _ _) fun _ => rfl

instance : Within env R millis := by
  unfold millis
  infer_instance

instance (ms : U32) : Within env R (delay ms) := by
  have (passed : Nat) :
      Within env R (update fun w => { w with now := w.now + ms.toNat + passed } : Fw Unit) :=
    Within.bus _ (fun w => by simp only; omega) fun _ => rfl
  unfold delay
  infer_instance

instance (us : U16) : Within env R (delayMicroseconds us) := by
  unfold delayMicroseconds
  infer_instance

instance : Within env R micros := by
  unfold micros
  infer_instance

instance : Within env R rurpSetDataOutput := Within.bus _ (fun _ => Nat.le_refl _) fun _ => rfl

instance : Within env R rurpSetDataInput := by
  have (b : Build) : Within env R (update fun w =>
      { w with dataOutput := false, dataBus := if b.board == .py32f071 then w.dataBus else 0 } :
      Fw Unit) := Within.bus _ (fun _ => Nat.le_refl _) fun _ => rfl
  unfold rurpSetDataInput
  infer_instance

instance (data : U8) : Within env R (rurpWriteDataBuffer data) := by
  have : Within env R (update fun w => { w with dataBus := data } : Fw Unit) :=
    Within.bus _ (fun _ => Nat.le_refl _) fun _ => rfl
  unfold rurpWriteDataBuffer
  infer_instance

instance : Within env R rurpReadDataBuffer := by
  unfold rurpReadDataBuffer
  infer_instance

instance : Within env R rurpChipEnable := Within.bus _ (fun _ => Nat.le_refl _) fun _ => rfl
instance : Within env R rurpChipDisable := Within.bus _ (fun _ => Nat.le_refl _) fun _ => rfl
instance : Within env R rurpChipOutput := Within.bus _ (fun _ => Nat.le_refl _) fun _ => rfl
instance : Within env R rurpChipInput := Within.bus _ (fun _ => Nat.le_refl _) fun _ => rfl

instance (us : U32) : Within env R (memUtilDelayUs us) := by
  unfold memUtilDelayUs
  infer_instance

instance : Within env R memUtilWaitVpeDischarged := by
  unfold memUtilWaitVpeDischarged
  infer_instance

omit [BusFrame env R] in
instance [SenseFrame R] : ReadFrame R := ⟨fun s _ _ _ => SenseFrame.sense s _ rfl⟩

omit [BusFrame env R] in
instance [SenseFrame R] : MeasureFrame R := ⟨fun s _ _ => SenseFrame.sense s _ rfl⟩

instance [ReadFrame R] (address : U32) (data : U8) (latches : Latches) :
    Within env R (note (.read address data latches)) :=
  Within.update _ fun s => ReadFrame.read s address data latches

instance [MeasureFrame R] (millivolts : U16) (latches : Latches) :
    Within env R (note (.measured millivolts latches)) :=
  Within.update _ fun s => MeasureFrame.measure s millivolts latches

instance : Within env R rurpGetBandgapAdcReading := by
  unfold rurpGetBandgapAdcReading
  infer_instance

instance : Within env R rurpReadDividerAdc := by
  unfold rurpReadDividerAdc
  infer_instance

instance : Within env R rurpReadVccMv := by
  unfold rurpReadVccMv
  infer_instance

instance [MeasureFrame R] : Within env R rurpReadVoltageMv := by
  unfold rurpReadVoltageMv
  infer_instance

/-! ## Registers -/

section
variable [LatchFrame R]

instance (pin : U8) (state : Bool) : Within env R (rurpSetControlPin pin state) := by
  refine Within.update _ fun w => ?_
  split
  · exact BusFrame.bus env _ _ (Nat.le_refl _) rfl
  · split
    · exact BusFrame.bus env _ _ (Nat.le_refl _) rfl
    · split
      · have strobe := LatchFrame.strobe (R := R) w pin w.dataBus
        unfold World.strobed
        split
        · exact strobe _ _
        · split
          · exact strobe _ _
          · exact strobe _ _
      · exact refl_of R w

instance (reg : U8) (data : Reg) : Within env R (rurpInternalWriteToRegister reg data) := by
  unfold rurpInternalWriteToRegister
  infer_instance

variable [CacheFrame R]

instance (old data : Reg) : Within env R (writeControlRegister old data) := by
  have (now : U32) :
      Within env R (update fun w => { w with regulatorOffMs := now } : Fw Unit) :=
    Within.update _ fun w => CacheFrame.cache w w.lsbAddress w.msbAddress w.controlRegister now
  have : Within env R (update fun w => { w with controlRegister := data } : Fw Unit) :=
    Within.update _ fun w => CacheFrame.cache w w.lsbAddress w.msbAddress data w.regulatorOffMs
  have : Within env R (note (.control data)) := Within.update _ fun w => CacheFrame.control w data
  unfold writeControlRegister
  infer_instance

instance : RegisterFrame env R where
  write reg data := by
    have : Within env R (update fun w => { w with lsbAddress := data.setWidth 8 } : Fw Unit) :=
      Within.update _ fun w => CacheFrame.cache w _ w.msbAddress w.controlRegister w.regulatorOffMs
    have : Within env R (update fun w => { w with msbAddress := data.setWidth 8 } : Fw Unit) :=
      Within.update _ fun w => CacheFrame.cache w w.lsbAddress _ w.controlRegister w.regulatorOffMs
    unfold rurpWriteToRegister
    infer_instance
  addressed := CacheFrame.addressed

end

section
variable [RegisterFrame env R]

instance (control : Reg) (latches : Latches) (offFor : Nat) :
    Within env R (note (.addressed control latches offFor)) :=
  Within.update _ fun s => RegisterFrame.addressed env s control latches offFor

instance (bit : Reg) (state : Bool) : Within env R (memorySetControlRegister bit state) := by
  unfold memorySetControlRegister
  infer_instance

instance (bit : Reg) (state : Bool) : Within env R (epromInternalSetControlRegister bit state) := by
  unfold epromInternalSetControlRegister
  infer_instance

instance (bit : Reg) (state : Bool) : Within env R (setControlRegister bit state) := by
  unfold setControlRegister
  infer_instance

/-- Registers that may be written at all may be written by every route. -/
instance : AddressFrame env R where
  address a := by
    unfold memUtilSetAddress
    infer_instance

instance : LowerFrame env R := ⟨fun _ => inferInstance⟩

instance : RaiseFrame env R := ⟨fun _ => inferInstance⟩

end

/-! ## Chip accesses -/

/-! A chip may be accessed wherever it may be addressed. -/

instance [AddressFrame env R] : HomeFrame env R := ⟨inferInstance⟩

instance [ReadFrame R] [AddressFrame env R] : FetchFrame env R where
  fetch _ := by
    unfold memoryGetData
    infer_instance

instance [StoreFrame R] (address : U32) (data : U8) (latches : Latches) :
    Within env R (note (.wrote address data latches)) :=
  Within.update _ fun s => StoreFrame.store s _ rfl

instance [StoreFrame R] (address : U32) (data : U8) (latches : Latches) :
    Within env R (note (.flipped address data latches)) :=
  Within.update _ fun s => StoreFrame.store s _ rfl

instance [AddressFrame env R] [StoreFrame R] : DepositFrame env R where
  deposit _ _ := by
    unfold memorySetData
    infer_instance
  flip _ _ := by
    unfold fuFlashFlipData
    infer_instance

instance [FetchFrame env R] (address : U32) (expected : U8) (timeoutMs : U32) :
    Within env R (flashUtilWaitReady address expected timeoutMs) := by
  unfold flashUtilWaitReady waitReadyTurn whileLoop
  infer_instance

/-! ## Reports -/

instance [ReportFrame env R] : NoticeFrame env R where
  notice id params notice := ReportFrame.report id params (isReport_of_isNotice notice)
  respond := ReportFrame.respond

instance [ReportFrame env R] : ProgressFrame env R where
  progress params := ReportFrame.report msgDataProgress params (ReportId.isReport)

section
variable [NoticeFrame env R]

instance (id : U8) [h : NoticeId id] (params : List U8) : Within env R (rurpLogId id params) :=
  NoticeFrame.notice id params h.isNotice

instance (id : U8) [NoticeId id] : Within env R (logId id) := by
  unfold logId
  infer_instance

instance (id : U8) [NoticeId id] (v : U32) : Within env R (logIdU32 id v) := by
  unfold logIdU32
  infer_instance

instance (id : U8) [NoticeId id] (params : List U8) : Within env R (logInfo id params) := by
  unfold logInfo
  infer_instance

instance (id : U8) [NoticeId id] (params : List U8) : Within env R (refuse id params) := by
  unfold refuse
  infer_instance

instance (measuredMv expectedMv : U16) (id code : U8) [NoticeId id] :
    Within env R (memUtilReportVoltage measuredMv expectedMv id code) := by
  unfold memUtilReportVoltage
  infer_instance

instance (vppMv : U16) : Within env R (memUtilCheckVppWindow vppMv) := by
  unfold memUtilCheckVppWindow
  infer_instance

instance : Within env R memUtilWarnIfUncalibrated := by
  unfold memUtilWarnIfUncalibrated
  infer_instance

instance : Within env R memUtilRefuseBadCalibration := by
  unfold memUtilRefuseBadCalibration
  infer_instance

instance (actual : U16) (warnOnly : Bool) : Within env R (memUtilReportChipId actual warnOnly) := by
  unfold memUtilReportChipId
  infer_instance

end

/-! ## Blocks -/

section
variable [FetchFrame env R] [ReportFrame env R]

instance (id : U8) [h : ReportId id] (params : List U8) : Within env R (rurpLogId id params) :=
  ReportFrame.report id params h.isReport

instance (id : U8) [ReportId id] (params : List U8) : Within env R (refuse id params) := by
  unfold refuse
  infer_instance

instance [DepositFrame env R] : Within env R memoryWriteExecute := by
  unfold memoryWriteExecute
  infer_instance

instance : Within env R memoryVerifyExecute := by
  unfold memoryVerifyExecute
  infer_instance

end

/-! ## EPROM driver -/

section
variable [LowerFrame env R]

instance : Within env R epromHvAllOff := by
  unfold epromHvAllOff
  infer_instance

variable [NoticeFrame env R]

instance (address : U32) (pulses id : U8) [NoticeId id] :
    Within env R (epromInternalReportBudgetFailure address pulses id) := by
  unfold epromInternalReportBudgetFailure
  infer_instance

instance [ProgressFrame env R] (h : Handle) (address : U32) (pulses : U8) (lastEmitMs : U32) :
    Within env R (emitProgress h address pulses lastEmitMs) := by
  unfold emitProgress
  infer_instance

instance : Within env R epromOffOnError := by
  unfold epromOffOnError
  infer_instance

variable [RaiseFrame env R]

instance [MeasureFrame R] : Within env R epromMeasureVpp := by
  unfold epromMeasureVpp
  infer_instance

instance [MeasureFrame R] : Within env R epromCheckVpp := by
  unfold epromCheckVpp
  infer_instance

instance (b : Build) (h : Handle) : Within env R (epromRegulatorUp b h) := by
  unfold epromRegulatorUp
  infer_instance

instance [HomeFrame env R] : Within env R epromInternalErase := by
  unfold epromInternalErase
  infer_instance

end

section
variable [FetchFrame env R] [LowerFrame env R] [NoticeFrame env R]

instance [ProgressFrame env R] (h : Handle) (base : Nat) (pulses : U8) (scan : Scan) (i : Nat) :
    Within env R (scanByte h base pulses scan i) := by
  unfold scanByte
  infer_instance

variable [RaiseFrame env R]

instance : Within env R epromGetChipId := by
  unfold epromGetChipId
  infer_instance

instance (code : U8) : Within env R (epromInternalCheckChipId code) := by
  unfold epromInternalCheckChipId
  infer_instance

instance : Within env R epromCheckChipIdExecute := by
  unfold epromCheckChipIdExecute
  infer_instance

instance [HomeFrame env R] : Within env R epromEraseExecute := by
  unfold epromEraseExecute
  infer_instance

section
variable [MeasureFrame R]

instance : Within env R epromGenericInit := by
  unfold epromGenericInit
  infer_instance

instance : Within env R epromCheckChipIdInit := by
  unfold epromCheckChipIdInit
  infer_instance

instance [HomeFrame env R] : Within env R epromInternalWriteInitBody := by
  unfold epromInternalWriteInitBody
  infer_instance

instance [HomeFrame env R] : Within env R epromWriteInit := by
  unfold epromWriteInit
  infer_instance

end

variable [DepositFrame env R]

instance (h : Handle) (base groupLen : Nat) (pending : Nat → Bool) :
    Within env R (pulsePass h base groupLen pending) := by
  unfold pulsePass
  infer_instance

variable [ProgressFrame env R]

instance (h : Handle) (row : EpromParams) (base groupLen : Nat) (pass : Pass) :
    Within env R (passTurn h row base groupLen pass) := by
  unfold passTurn
  infer_instance

instance (h : Handle) (row : EpromParams) (lastEmitMs : U32) (base : Nat) :
    Within env R (programGroup h row lastEmitMs base) := by
  unfold programGroup
  infer_instance

variable [Within env R memoryVerifyExecute]

instance : Within env R epromInternalWriteExecuteBody := by
  unfold epromInternalWriteExecuteBody
  refine within_bind inferInstance fun b => within_bind inferInstance fun h => ?_
  cases epromParamsFor h.protocol <;> infer_instance

instance : Within env R epromWriteExecute := by
  unfold epromWriteExecute
  infer_instance

end

/-! ## Intel flash driver -/

section
variable [NoticeFrame env R] [LowerFrame env R]

instance : Within env R flashIntelRefuseOnError := by
  unfold flashIntelRefuseOnError
  infer_instance

variable [RaiseFrame env R] [MeasureFrame R]

instance : Within env R flashIntelMeasureVpp := by
  unfold flashIntelMeasureVpp
  infer_instance

instance : Within env R flashIntelVppUp := by
  unfold flashIntelVppUp
  infer_instance

instance : Within env R flashIntelEraseInit := by
  unfold flashIntelEraseInit
  infer_instance

end

section
variable [FetchFrame env R] [DepositFrame env R] [NoticeFrame env R]

instance (timeoutMs : U32) : Within env R (flashIntelAwaitReady timeoutMs) := by
  unfold flashIntelAwaitReady pollSrTurn whileLoop
  infer_instance

/-- The failure of a ready part is one of three reports. -/
theorem isNotice_of_intelStatusError {sr id : U8} (failed : intelStatusError sr = some id) :
    isNotice id = true := by
  unfold intelStatusError at failed
  dsimp only at failed
  split at failed
  · obtain rfl := Option.some.inj failed
    decide
  · split at failed
    · obtain rfl := Option.some.inj failed
      decide
    · split at failed
      · obtain rfl := Option.some.inj failed
        decide
      · cases failed

theorem flashIntelAwaitReady_notices (timeoutMs : U32) (s : World) :
    Ends (flashIntelAwaitReady timeoutMs) env s
      (fun failure _ => ∀ id, failure = some id → isNotice id = true) (fun _ => True) := by
  unfold flashIntelAwaitReady pollSrTurn whileLoop
  simp only [ends_bind, ends_outside]
  refine ends_any _ (fun startedMs s => ?_) fun _ => trivial
  refine ends_repeatUntil (fun _ _ => True) (fun _ s _ => ?_) (fun _ _ _ => trivial) _ _ s trivial
  rw [ends_bind]
  refine ends_any _ (fun now s => ?_) fun _ => trivial
  split
  · intro id failed
    obtain rfl := Option.some.inj failed
    decide
  · rw [ends_bind]
    refine ends_any _ (fun sr s => ?_) fun _ => trivial
    split
    · rw [ends_bind]
      exact ends_any _ (fun _ _ id failed => isNotice_of_intelStatusError failed) fun _ => trivial
    · exact trivial

instance (timeoutMs : U32) : Within env R (flashIntelPollSr timeoutMs) := by
  unfold flashIntelPollSr
  refine within_bind_of_ends (fun failure => ∀ id, failure = some id → isNotice id = true)
    inferInstance (flashIntelAwaitReady_notices timeoutMs) fun failure notices => ?_
  cases failure with
  | none => infer_instance
  | some id =>
    have : NoticeId id := ⟨notices id rfl⟩
    infer_instance

instance : Within env R flashIntelCheckChipId := by
  unfold flashIntelCheckChipId
  infer_instance

instance : Within env R flashIntelEraseExecute := by
  unfold flashIntelEraseExecute
  infer_instance

instance : Within env R flashIntelWriteExecute := by
  unfold flashIntelWriteExecute
  infer_instance

variable [LowerFrame env R]

instance : Within env R flashIntelCleanup := by
  unfold flashIntelCleanup
  infer_instance

instance [RaiseFrame env R] [MeasureFrame R] : Within env R flashIntelWriteInit := by
  unfold flashIntelWriteInit
  infer_instance

end

/-! ## Command-sequence flash drivers -/

section
variable [FetchFrame env R] [DepositFrame env R] [LowerFrame env R]

instance (byteFlips : List ByteFlip) : Within env R (flashUtilByteFlipping byteFlips) := by
  unfold flashUtilByteFlipping
  infer_instance

instance : Within env R flashUtilGetChipId := by
  unfold flashUtilGetChipId
  infer_instance

instance (address : U32) : Within env R (flashUtilReadInIdMode address) := by
  unfold flashUtilReadInIdMode
  infer_instance

variable [NoticeFrame env R]

instance : Within env R flashUtilFail := by
  unfold flashUtilFail
  infer_instance

instance (address : U32) (expected : U8) : Within env R (flashUtilWaitProgram address expected) := by
  unfold flashUtilWaitProgram
  infer_instance

instance (address : U32) : Within env R (flashUtilWaitErase address) := by
  unfold flashUtilWaitErase
  infer_instance

instance : Within env R flashUtilChipErase := by
  unfold flashUtilChipErase
  infer_instance

instance : Within env R flashUtilCheckChipIdExecute := by
  unfold flashUtilCheckChipIdExecute
  infer_instance

instance : Within env R flashUtilCheckChipIdInit := by
  unfold flashUtilCheckChipIdInit
  infer_instance

instance (address : U32) (unprotected isProtected : U8) :
    Within env R (reportProtection address unprotected isProtected) := by
  unfold reportProtection
  infer_instance

instance : Within env R flashNorUnlockEraseExecute := by
  unfold flashNorUnlockEraseExecute flashNorUnlockSectorErase
  infer_instance

instance : Within env R flashNorUnlockCheckChipIdExecute := by
  unfold flashNorUnlockCheckChipIdExecute
  infer_instance

instance : Within env R flashNorUnlockEraseFirst := by
  unfold flashNorUnlockEraseFirst
  infer_instance

instance : Within env R flashNorUnlockWriteInit := by
  unfold flashNorUnlockWriteInit
  infer_instance

instance : Within env R flashNorUnlockWriteExecute := by
  unfold flashNorUnlockWriteExecute
  infer_instance

instance : Within env R flashNorUnlockReadProtectionExecute := by
  unfold flashNorUnlockReadProtectionExecute
  infer_instance

instance : Within env R flash5vPageWriteInit := by
  unfold flash5vPageWriteInit
  infer_instance

instance (address : U32) (expected : U8) :
    Within env R (flash5vPageWaitForPageWrite address expected) := by
  unfold flash5vPageWaitForPageWrite
  infer_instance

instance (h : Handle) (pageMask i : U32) : Within env R (flash5vPageWriteByte h pageMask i) := by
  unfold flash5vPageWriteByte
  infer_instance

instance : Within env R flash5vPageWriteExecute := by
  unfold flash5vPageWriteExecute
  refine within_bind inferInstance fun h => ?_
  cases flash5vPageMask h.pageSize <;> infer_instance

instance : Within env R flash5vPageCheckChipIdExecute := by
  unfold flash5vPageCheckChipIdExecute
  infer_instance

instance : Within env R flash5vPageReadProtectionExecute := by
  unfold flash5vPageReadProtectionExecute
  infer_instance

end

/-! ## EEPROM driver -/

section
variable [FetchFrame env R] [NoticeFrame env R]

instance (address : U32) (expected : U8) :
    Within env R (eeprom28cWaitForPageWrite address expected) := by
  unfold eeprom28cWaitForPageWrite
  refine within_bind inferInstance fun polled => ?_
  cases polled <;> infer_instance

instance (h : Handle) (firstIndex lastIndex : Nat) :
    Within env R (eeprom28cVerifyPageReadback h firstIndex lastIndex) := by
  unfold eeprom28cVerifyPageReadback
  infer_instance

instance (devTools : Bool) (load : PageLoad) : Within env R (measurePageLoad devTools load) := by
  unfold measurePageLoad
  infer_instance

instance : Within env R eeprom28cWaitForSdpCompletion := by
  unfold eeprom28cWaitForSdpCompletion
  infer_instance

section
variable [DepositFrame env R]

instance (sequence : List ByteFlip) : Within env R (eeprom28cEmitCommandSequence sequence) := by
  unfold eeprom28cEmitCommandSequence
  infer_instance

instance (sequence : List ByteFlip) (emittedMsgId doneUsMsgId : U8) [NoticeId emittedMsgId]
    [NoticeId doneUsMsgId] :
    Within env R (eeprom28cEmitSdpSequenceTimed sequence emittedMsgId doneUsMsgId) := by
  unfold eeprom28cEmitSdpSequenceTimed
  infer_instance

instance : Within env R eeprom28cSdpUnlockExecute := by
  unfold eeprom28cSdpUnlockExecute
  infer_instance

instance : Within env R eeprom28cSdpLockExecute := by
  unfold eeprom28cSdpLockExecute
  infer_instance

instance : Within env R eeprom28cEraseExecute := by
  unfold eeprom28cEraseExecute
  infer_instance

instance : Within env R eeprom28cUnlockForWrite := by
  unfold eeprom28cUnlockForWrite
  infer_instance

instance (h : Handle) (devTools : Bool) (pageMask : U32) (load : PageLoad) (i : Nat) :
    Within env R (eeprom28cWriteByte h devTools pageMask load i) := by
  unfold eeprom28cWriteByte
  infer_instance

instance : Within env R eeprom28cWriteExecute := by
  unfold eeprom28cWriteExecute
  infer_instance

end

variable [LowerFrame env R] [RaiseFrame env R]

instance : Within env R eeprom28cReadChipId := by
  unfold eeprom28cReadChipId
  infer_instance

variable [MeasureFrame R]

instance (measure : Bool) : Within env R (eeprom28cRaiseAndRead measure) := by
  unfold eeprom28cRaiseAndRead
  infer_instance

instance : Within env R eeprom28cCheckChipId := by
  unfold eeprom28cCheckChipId
  infer_instance

instance [DepositFrame env R] : Within env R eeprom28cWriteInit := by
  unfold eeprom28cWriteInit
  infer_instance

end

end

/-! ## Every callback -/

/-- Setting a command up changes the handle, and a read fills its buffer; every other callback is
made of the touches above. -/
theorem within_dispatch [BusFrame env R] [MeasureFrame R] [FetchFrame env R] [DepositFrame env R]
    [HomeFrame env R] [NoticeFrame env R] [ProgressFrame env R] [LowerFrame env R]
    [RaiseFrame env R] [Within env R memoryWriteExecute] [Within env R memoryVerifyExecute]
    (callback : Callback) (configures : callback ≠ .configureMemory)
    (reads : callback ≠ .memoryReadExecute) : Within env R (dispatch callback) := by
  cases callback <;> first | contradiction | (unfold dispatch; infer_instance)

end Firestarter
