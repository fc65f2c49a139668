import Firestarter.MemoryUtils

/-! The 27C driver: the parameter rows of the three protocols, the voltage check, the pass-batched
program loop, erase and chip ID (`eprom.cpp`, `eprom_params.cpp`, `eprom_rows.h`). -/
namespace Firestarter

open Interactive.Prog

/-! ## Parameter rows -/

inductive VerifyMode where
  | perPulse | perPulsePlusFinal
  deriving DecidableEq, Repr

inductive VppPath where
  | dropResistor | directVpe
  deriving DecidableEq, Repr

/-- `eprom_params_t`; an energy cap of 0 means uncapped. -/
structure EpromParams where
  energyCapUs : U32
  maxPulses : U8
  verifyMode : VerifyMode
  vppPath : VppPath
  deriving DecidableEq, Repr

/-- A protocol without a row gets none: there is no default. -/
def epromParamsFor (protocol : U8) : Option EpromParams :=
  if protocol == protoEprom28Pin then some ⟨0, 25, .perPulsePlusFinal, .dropResistor⟩
  else if protocol == protoEprom32Pin then some ⟨0, 25, .perPulsePlusFinal, .dropResistor⟩
  else if protocol == protoEprom24Pin then some ⟨50000, 255, .perPulse, .directVpe⟩
  else none

def epromRow07FallbackPulseUs : U32 := 1000
def epromRow08FallbackPulseUs : U32 := 100
def epromRow0BFallbackPulseUs : U32 := 500

def epromPulseMaxUs : U32 := 65535
def epromProgressEmitIntervalMs : U32 := 1000
def epromProgramGroup : Nat := 512
def epromVppSetupUs : U16 := 1000
def epromVppHoldUs : U16 := 100
def epromErasePulseUs : U32 := 100000

/-! ## Configuration -/

/-- The pulse width the driver programs with when the host sends none. -/
def epromFallbackPulse (protocol : U8) : U32 :=
  if protocol == protoEprom32Pin then epromRow08FallbackPulseUs
  else if protocol == protoEprom24Pin then epromRow0BFallbackPulseUs
  else epromRow07FallbackPulseUs

/-- The callbacks the driver installs; other commands keep what they have. -/
def Handle.withEpromCallbacks (h : Handle) : Handle :=
  if h.cmd == cmdWrite then
    { h with
      firestarterOperationInit := some .epromWriteInit
      firestarterOperationMain := some .epromWriteExecute }
  else if h.cmd == cmdErase then
    { h with
      firestarterOperationInit := some .epromGenericInit
      firestarterOperationMain := some .epromEraseExecute }
  else if h.cmd == cmdCheckChipId then
    { h with
      firestarterOperationInit := some .epromCheckChipIdInit
      firestarterOperationMain := some .epromCheckChipIdExecute }
  else h

def configureEprom : Fw Unit := do
  setHandle Handle.withEpromCallbacks
  update fun w => { w with epSetControlRegister := w.handle.firestarterSetControlRegister }
  setHandle fun h =>
    { h with
      firestarterSetControlRegister := some .epromInternalSetControlRegister
      pulseDelay := if h.pulseDelay == 0 then epromFallbackPulse h.protocol else h.pulseDelay }
  let h ← getHandle
  match epromParamsFor h.protocol with
  | none => refuse msgErrProtocolNotImplemented [h.protocol]
  | some row =>
    when (h.pulseDelay > epromPulseMaxUs ||
        (row.energyCapUs > 0 && h.pulseDelay > row.energyCapUs)) do
      refuse msgErrPulseTooWide (bytes32 h.pulseDelay)

/-! ## Program voltage -/

/-- `eprom_hv_route_mask`: which rail the part is programmed from. -/
def epromHvRouteMask (b : Build) (h : Handle) : Reg :=
  if h.isFlagSet flagVpeAsVpp then ctrlVppRegulatorEnable
  else
    match epromParamsFor h.protocol with
    | none => epromHvRouteBits b
    | some row =>
      if row.vppPath = .directVpe then ctrlVppRegulatorEnable
      else if h.vppMv > rurpVppDropPathMaxDeliverableMv then ctrlVppRegulatorEnable
      else epromHvRouteBits b

def epromHvAllOff : Fw Unit := do
  setControlRegister (epromHvAllOffMask (← build)) false

/-- The measuring part of `eprom_check_vpp`, after the revision and the calibration passed. -/
def epromMeasureVpp : Fw Unit := do
  memUtilWarnIfUncalibrated
  setControlRegister (epromHvRouteMask (← build) (← getHandle)) true
  delay 100
  memUtilCheckVppWindow (← rurpReadVoltageMv)
  epromHvAllOff

def isRevision0 (b : Build) (hw : U8) : Bool := b.hardwareRevision && hw == revision0

def epromCheckVpp : Fw Unit := do
  if isRevision0 (← build) (← rurpGetHardwareRevision) then
    logId msgWarnRev0VppUnsupported
    setResponseCode responseCodeWarning
  else
    let refused ← memUtilRefuseBadCalibration
    when (!refused) epromMeasureVpp

/-! ## Chip ID and erase -/

def epromGetChipId : Fw U16 := do
  setControlRegister ctrlVppRegulatorEnable true
  delay 50
  setControlRegister ctrlVppA9Enable true
  delay 100
  let high ← memoryGetData 0x0000
  let low ← memoryGetData 0x0001
  epromHvAllOff
  return word high low

def epromInternalCheckChipId (errorCode : U8) : Fw Unit := do
  let chipId ← epromGetChipId
  memUtilReportChipId chipId (errorCode == responseCodeWarning)

def epromInternalErase : Fw Unit := do
  rurpChipInput
  setControlRegister ctrlVppRegulatorEnable true
  delay 100
  memUtilSetAddress 0x0000
  setControlRegister (ctrlVppA9Enable ||| ctrlVpeEnable) true
  delay 100
  rurpChipEnable
  memUtilDelayUs epromErasePulseUs
  rurpChipDisable
  epromHvAllOff

def epromGenericInit : Fw Unit := do
  epromCheckVpp
  let h ← getHandle
  when (h.responseCode != responseCodeError && h.chipId > 0) do
    epromInternalCheckChipId
      (if h.isFlagSet flagForce then responseCodeWarning else responseCodeError)

def epromCheckChipIdInit : Fw Unit := epromCheckVpp

def epromCheckChipIdExecute : Fw Unit := epromInternalCheckChipId responseCodeError

def epromEraseExecute : Fw Unit := epromInternalErase

def epromInternalWriteInitBody : Fw Unit := do
  epromGenericInit
  let h ← getHandle
  when (h.responseCode != responseCodeError && h.isFlagSet flagCanErase) do
    if h.isFlagSet flagSkipErase then logInfo msgInfoSkippingErase []
    else epromInternalErase

/-- The one place that decides whether a failed body leaves high voltage on: it does not. -/
def epromOffOnError : Fw Unit := do
  when ((← getHandle).responseCode == responseCodeError) epromHvAllOff

def epromWriteInit : Fw Unit := do
  epromInternalWriteInitBody
  epromOffOnError

/-! ## Program loop -/

def epromInternalReportBudgetFailure (address : U32) (pulseCount : U8) (msgId : U8) : Fw Unit := do
  epromHvAllOff
  refuse msgId (bytes24 address ++ [pulseCount])

/-- `block_len` -/
def Handle.blockLen (h : Handle) : Nat := (h.dataSize.setWidth 16 : U16).toNat

/-- The locals of one scan; `pending` is the bitmask of bytes still short of their target. -/
structure Scan where
  pending : Nat → Bool
  remaining : Nat
  firstBad : U32
  lastEmitMs : U32

def flagPending (pending : Nat → Bool) (i : Nat) (flagged : Bool) : Nat → Bool :=
  fun j => if j = i then flagged else pending j

/-- Progress goes out in the first pass only, and not where the wire is the data bus. -/
def emitProgress (h : Handle) (address : U32) (pulses : U8) (lastEmitMs : U32) : Fw U32 := do
  let b ← build
  if !b.serialOnIo && pulses == 0 then
    let now ← millis
    if now - lastEmitMs ≥ epromProgressEmitIntervalMs then
      let emitted ← millis
      rurpLogId msgDataProgress (bytes32 address ++ bytes32 h.operationEnd)
      return emitted
    else return lastEmitMs
  else return lastEmitMs

/-- One byte of a scan: only the first pass looks at bytes that were never flagged, and a byte
whose target is erased is never read. -/
def scanByte (h : Handle) (base : Nat) (pulses : U8) (scan : Scan) (i : Nat) : Fw Scan := do
  if pulses != 0 && !scan.pending i then return scan
  else
    let expected := h.dataBuffer (base + i)
    let address := h.address + BitVec.ofNat 32 (base + i)
    let lastEmitMs ← emitProgress h address pulses scan.lastEmitMs
    let scan := { scan with lastEmitMs := lastEmitMs }
    if expected == 0xFF then return scan
    else
      let data ← memoryGetData address
      if data == expected then
        return { scan with pending := flagPending scan.pending i false }
      else
        return {
          scan with
          pending := flagPending scan.pending i true
          firstBad := if scan.remaining == 0 then address else scan.firstBad
          remaining := scan.remaining + 1 }

/-- The locals of a group's pass loop. -/
structure Pass where
  pulses : U8
  accumulated : U32
  pending : Nat → Bool
  lastEmitMs : U32

/-- The route is up for the whole pulse pass and down again for the next scan. -/
def pulsePass (h : Handle) (base groupLen : Nat) (pending : Nat → Bool) : Fw Unit := do
  setControlRegister ctrlVpeEnable true
  delayMicroseconds epromVppSetupUs
  (List.range groupLen).forM fun i => do
    when (pending i) do
      memorySetData (h.address + BitVec.ofNat 32 (base + i)) (h.dataBuffer (base + i))
  delayMicroseconds epromVppHoldUs
  setControlRegister ctrlVpeEnable false

/-- One scan and, if bytes are short and the budgets allow, one pulse for each of them. The group
ends with the time of the last progress frame, or with nothing after a budget failure. -/
def passTurn (h : Handle) (row : EpromParams) (base groupLen : Nat) (pass : Pass) :
    Fw (Pass ⊕ Option U32) := do
  let scan ← (List.range groupLen).foldlM (scanByte h base pass.pulses)
    { pending := pass.pending, remaining := 0, firstBad := h.address + BitVec.ofNat 32 base,
      lastEmitMs := pass.lastEmitMs }
  if scan.remaining == 0 then return .inr (some scan.lastEmitMs)
  else if pass.pulses ≥ row.maxPulses then
    epromInternalReportBudgetFailure scan.firstBad pass.pulses msgErrMaxPulses
    return .inr none
  else if row.energyCapUs != 0 && pass.accumulated ≥ row.energyCapUs then
    epromInternalReportBudgetFailure scan.firstBad pass.pulses msgErrEnergyCap
    return .inr none
  else
    pulsePass h base groupLen scan.pending
    return .inl {
      pulses := pass.pulses + 1, accumulated := pass.accumulated + h.pulseDelay,
      pending := scan.pending, lastEmitMs := scan.lastEmitMs }

/-- One group of the block. Every turn but the last raises the pulse count, which `max_pulses`
bounds, so that many turns and one more are always enough. -/
def programGroup (h : Handle) (row : EpromParams) (lastEmitMs : U32) (base : Nat) :
    Fw (U32 ⊕ Unit) := do
  let groupLen := min (h.blockLen - base) epromProgramGroup
  let ended ← repeatUntil (passTurn h row base groupLen) (row.maxPulses.toNat + 1)
    { pulses := 0, accumulated := 0, pending := fun _ => false, lastEmitMs := lastEmitMs }
  return match ended with
    | some lastEmitMs => .inl lastEmitMs
    | none => .inr ()

/-- Where the groups of a block start. -/
def groupBases (blockLen : Nat) : List Nat :=
  (List.range ((blockLen + epromProgramGroup - 1) / epromProgramGroup)).map (· * epromProgramGroup)

/-- The block's regulator goes up once and stays up after a block that succeeds. -/
def epromRegulatorUp (b : Build) (h : Handle) : Fw Unit := do
  when ((← rurpReadControlRegister) &&& ctrlVppRegulatorEnable == 0) do
    setControlRegister (epromHvRouteMask b h) true
    delay 500

def epromInternalWriteExecuteBody : Fw Unit := do
  let b ← build
  let h ← getHandle
  match epromParamsFor h.protocol with
  | none => refuse msgErrProtocolNotImplemented [h.protocol]
  | some row =>
    epromRegulatorUp b h
    let lastEmitMs ← (if b.serialOnIo then pure 0 else millis)
    let programmed ← forLoop (programGroup h row) (groupBases h.blockLen) lastEmitMs
    when (programmed.isLeft && row.verifyMode = .perPulsePlusFinal &&
        !h.isFlagSet flagSkipFinalVerify) memoryVerifyExecute

def epromWriteExecute : Fw Unit := do
  epromInternalWriteExecuteBody
  epromOffOnError

end Firestarter
