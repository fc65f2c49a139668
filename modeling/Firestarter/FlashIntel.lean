import Firestarter.Eprom

/-! The Intel command-set flash driver (`flash_intel.cpp`): the program voltage goes to socket pin 1,
commands are plain data writes, and the part answers them with its status register. -/
namespace Firestarter

open Interactive.Prog

def flashIntelHvMask : Reg := ctrlVppRegulatorEnable ||| ctrlVppP1Enable

/-! Commands of the part, and the bits of its status register. -/
def intelCmdProgramSetup : U8 := 0x40
def intelCmdEraseSetup : U8 := 0x20
def intelCmdEraseConfirm : U8 := 0xD0
def intelCmdClearStatus : U8 := 0x50
def intelCmdReadId : U8 := 0x90
def intelCmdReadArray : U8 := 0xFF
def intelSrReady : U8 := 0x80
def intelSrEraseError : U8 := 0x20
def intelSrProgramError : U8 := 0x10
def intelSrVppLow : U8 := 0x08

def Handle.withFlashIntelCallbacks (h : Handle) : Handle :=
  if h.cmd == cmdWrite then
    { h with
      firestarterOperationInit := some .flashIntelWriteInit
      firestarterOperationMain := some .flashIntelWriteExecute
      firestarterOperationEnd := some .flashIntelCleanup }
  else if h.cmd == cmdErase then
    { h with
      firestarterOperationInit := some .flashIntelEraseInit
      firestarterOperationMain := some .flashIntelEraseExecute
      firestarterOperationEnd := some .flashIntelCleanup }
  else if h.cmd == cmdCheckChipId then
    { h with
      firestarterOperationInit := none
      firestarterOperationMain := some .flashIntelCheckChipId
      firestarterOperationEnd := none }
  else { h with firestarterOperationEnd := some .flashIntelCleanup }

def configureFlashIntel : Fw Unit := setHandle Handle.withFlashIntelCallbacks

/-- The measured part of `flash_intel_vpp_up`: the regulator alone first, pin 1 only for a rail
inside the window. True when the caller may go on. -/
def flashIntelMeasureVpp : Fw Bool := do
  memUtilWarnIfUncalibrated
  setControlRegister ctrlVppRegulatorEnable true
  delay 500
  memUtilCheckVppWindow (← rurpReadVoltageMv)
  if (← getHandle).responseCode == responseCodeError then
    setControlRegister flashIntelHvMask false
    return false
  else
    setControlRegister ctrlVppP1Enable true
    return true

def flashIntelVppUp : Fw Bool := do
  if isRevision0 (← build) (← rurpGetHardwareRevision) then
    logId msgWarnRev0VppUnsupported
    setResponseCode responseCodeWarning
    setControlRegister flashIntelHvMask true
    delay 500
    return true
  else
    let refused ← memUtilRefuseBadCalibration
    if refused then return false else flashIntelMeasureVpp

/-- The failure a ready status register stands for, if it stands for one; VPP low is the cause when
it is set with the others. -/
def intelStatusError (sr : U8) : Option U8 :=
  let errors := intelSrEraseError ||| intelSrProgramError
  if sr &&& intelSrVppLow != 0 then some msgErrIntelVpp
  else if sr &&& errors == errors then some msgErrCmd
  else if sr &&& errors != 0 then some msgErrIntelProgram
  else none

/-- The turn of `flash_intel_poll_sr`. -/
def pollSrTurn (timeoutMs startedMs : U32) (_ : Unit) : Fw (Unit ⊕ Option U8) := do
  if fsTimeoutExpired startedMs timeoutMs (← millis) then
    return .inr (some msgErrIntelSrTimeout)
  else
    let sr ← memoryGetData 0
    if sr &&& intelSrReady != 0 then
      when (intelStatusError sr).isSome (memorySetData 0 intelCmdClearStatus)
      return .inr (intelStatusError sr)
    else return .inl ()

/-- The loop of `flash_intel_poll_sr`: no message when the part became ready without an error. -/
def flashIntelAwaitReady (timeoutMs : U32) : Fw (Option U8) := do
  let startedMs ← millis
  whileLoop (pollSrTurn timeoutMs startedMs) ()

/-- On a failure the part is returned to read-array mode here. -/
def flashIntelPollSr (timeoutMs : U32) : Fw Bool := do
  match ← flashIntelAwaitReady timeoutMs with
  | none => return true
  | some msgId =>
    refuse msgId []
    memorySetData 0 intelCmdReadArray
    return false

def flashIntelCheckChipId : Fw Unit := do
  memorySetData 0 intelCmdReadId
  let high ← memoryGetData 0x0000
  let low ← memoryGetData 0x0001
  memorySetData 0 intelCmdReadArray
  memUtilReportChipId (word high low) ((← getHandle).isFlagSet flagForce)

def flashIntelEraseExecute : Fw Unit := do
  memorySetData 0 intelCmdEraseSetup
  memorySetData 0 intelCmdEraseConfirm
  discard (flashIntelPollSr 15000)

def flashIntelRefuseOnError : Fw Unit := do
  when ((← getHandle).responseCode == responseCodeError) do
    setControlRegister flashIntelHvMask false

def flashIntelWriteInit : Fw Unit := do
  when (← flashIntelVppUp) do
    when ((← getHandle).chipId > 0) do
      flashIntelCheckChipId
      flashIntelRefuseOnError
    let h ← getHandle
    -- The chip-ID mismatch returns before the erase.
    when (!(h.chipId > 0 && h.responseCode == responseCodeError) &&
        h.isFlagSet flagCanErase && !h.isFlagSet flagSkipErase) do
      flashIntelEraseExecute
      flashIntelRefuseOnError

def flashIntelEraseInit : Fw Unit := discard flashIntelVppUp

def flashIntelWriteExecute : Fw Unit := do
  let h ← getHandle
  discard <| forLoop (fun _ i => do
    memorySetData (h.address + i) intelCmdProgramSetup
    memorySetData (h.address + i) (h.dataBuffer i.toNat)
    if ← flashIntelPollSr 150 then return .inl () else return .inr ())
    (offsets h.dataSize.toNat) ()

def flashIntelCleanup : Fw Unit := do
  memorySetData 0 intelCmdReadArray
  setControlRegister flashIntelHvMask false

end Firestarter
