import Firestarter.OperationUtils
import Firestarter.Eprom

/-! The commands about the programmer itself: rail voltages, versions and the stored configuration
(`hardware_operations.cpp`), and the development commands (`dev_tools.cpp`). -/
namespace Firestarter

open Interactive.Prog

def logReady : Fw Unit := do logIdU16 msgOkReady (BitVec.ofNat 16 (← build).dataBufferSize)

/-- The first call of a voltage command puts the rail up and asks for the first ACK. -/
def hwStartVoltage : Fw Bool := do
  let b ← build
  if isRevision0 b (← rurpGetHardwareRevision) then
    logId msgErrRev0VppRd
    return true
  else
    rurpSetProgrammerMode
    let cmd := (← getHandle).cmd
    if cmd == cmdReadVpp || cmd == cmdReadVpe then
      rurpWriteToRegister controlRegister
        (if cmd == cmdReadVpp then epromHvRouteBits b else ctrlVppRegulatorEnable)
      delay 100
      rurpSetCommunicationMode
      setHandle fun h => { h with operationState := 1 }
      logReady
      return false
    else
      rurpSetCommunicationMode
      logId msgErrCmd
      return true

/-- Each later ACK draws a reading, and DONE ends the command. -/
def hwSampleVoltage : Fw Bool := do
  let msg ← opGetMessage
  if msg = .done then return true
  else if msg != .ack then return false
  else
    delay 500
    let vccMv ← rurpReadVccMv
    let voltageMv ← rurpReadVoltageMv
    let cmd := (← getHandle).cmd
    rurpLogId (if cmd == cmdReadVpe then msgDataVpeMv else msgDataVppMv)
      (bytes16 voltageMv ++ bytes16 vccMv)
    opResetTimeout
    return false

def hwReadVoltage : Fw Bool := do
  if (← getHandle).operationState == 0 then hwStartVoltage else hwSampleVoltage

/-- "OK: FW: ", the only text the firmware sends, and the line end after the version. -/
def fwVersionPrefix : List U8 := [0x4F, 0x4B, 0x3A, 0x20, 0x46, 0x57, 0x3A, 0x20]

def fwGetVersion : Fw Bool := do
  note (.printed (fwVersionPrefix ++ (← outside).version ++ [0x0D, 0x0A]))
  return true

def hwGetVersion : Fw Bool := do
  let w ← look
  rurpLogId msgOkRev [w.revision, w.config.hardwareRevision]
  return true

/-- The reference is sampled in the mode every measurement is taken in. -/
def sampleBandgap : Fw U16 := do
  rurpSetProgrammerMode
  let bandgapAdc ← rurpGetBandgapAdcReading
  rurpSetCommunicationMode
  return bandgapAdc

def hwGetConfig : Fw Bool := do
  let b ← build
  let bandgapAdc ← (if b.hasBandgapCal then sampleBandgap else pure 0)
  let config := (← look).config
  rurpLogId msgOkCfg (bytes32 config.r1 ++ bytes32 config.r2 ++ [config.hardwareRevision] ++
    bytes16 config.bandgapMv ++ bytes16 bandgapAdc)
  return true

/-! ## Development commands -/

def dtButtonWaitMs : U32 := 30000
def dtViewRegRaw : U8 := 0
def dtViewRegFirestarter : U8 := 1
def dtViewAddr : U8 := 2

def dtWaitForButton : Fw Bool := do
  let start ← millis
  whileLoop (fun _ => do
    if ← rurpUserButtonPressed then return .inr true
    else if (← millis) - start ≥ dtButtonWaitMs then return .inr false
    else
      delay 200
      return .inl ()) ()

def dtReportRegisters (msb lsb : U8) (ctrl : U16) (remapped view : U8) : Fw Unit :=
  rurpLogId msgInfoRegisters ([msb, lsb] ++ bytes16 ctrl ++ [remapped, view])

def flagByte (flag : Bool) : U8 := if flag then 1 else 0

/-- Both development commands report the two chip control flags, leave the chip lines as asked, and
hold everything until the button or the end of the wait. -/
def dtReportChipFlags : Fw Unit := do
  let h ← getHandle
  logInfo msgInfoCeOe [flagByte (h.isFlagSet flagChipEnable), flagByte (h.isFlagSet flagOutputEnable)]

def dtHold : Fw Unit := do
  let h ← getHandle
  rurpSetControlPin chipEnable (!h.isFlagSet flagChipEnable)
  rurpSetControlPin outputEnable (!h.isFlagSet flagOutputEnable)
  let pressed ← dtWaitForButton
  rurpSetCommunicationMode
  when (!pressed) (logId msgErrTimeout)

/-- The wait for the four bytes after the ACK. -/
def dtAwaitPayload : Fw Bool := do
  let deadline := (← millis) + timeoutMs
  whileLoop (fun _ => do
    if (← rurpCommunicationAvailable) < 4 then
      if (← millis) - deadline < 0x80000000 then return .inr false else return .inl ()
    else return .inr true) ()

/-- A byte of the payload; four are waiting. -/
def dtReadByte : Fw U8 := do return (← rurpCommunicationRead).getD 0xFF

/-- The nine register bits of a `dt_set_registers` payload. -/
def dtCtrlReg (high low : U8) : U16 := (high.setWidth 16 <<< 8 ||| low.setWidth 16) &&& 0x01FF

/-- The payload names a logical register value, which goes through the cache and the revision's
mapping; otherwise its low byte is strobed as it is. -/
def dtFirestarterReg (high : U8) : Bool := high &&& 0x80 != 0

def dtApplyRegisters (msb lsb high low : U8) : Fw Unit := do
  let b ← build
  let ctrl := dtCtrlReg high low
  let mapped := physicalControl b (← rurpGetHardwareRevision) ctrl
  dtReportRegisters msb lsb ctrl (if dtFirestarterReg high then mapped else ctrl.setWidth 8)
    (if dtFirestarterReg high then dtViewRegFirestarter else dtViewRegRaw)
  logReady
  rurpSetProgrammerMode
  rurpWriteToRegister leastSignificantByte (lsb.setWidth 16)
  rurpWriteToRegister mostSignificantByte (msb.setWidth 16)
  -- A build without revision support has an eight-bit register.
  let data := if b.hardwareRevision then ctrl else (ctrl.setWidth 8 : U8).setWidth 16
  if dtFirestarterReg high then rurpWriteToRegister controlRegister data
  else rurpInternalWriteToRegister controlRegister data
  dtHold

def dtSetRegisters : Fw Bool := do
  if (← opGetMessage) = .ack then
    if ← dtAwaitPayload then
      let msb ← dtReadByte
      let lsb ← dtReadByte
      let high ← dtReadByte
      let low ← dtReadByte
      dtReportChipFlags
      dtApplyRegisters msb lsb high low
      return true
    else return false
  else return false

def dtSetAddress : Fw Bool := do
  dtReportChipFlags
  logInfo msgInfoAddr (bytes24 (← getHandle).address)
  memUtilSetReadHighMask
  let h ← getHandle
  let b ← build
  let readWrite := if h.isFlagSet flagOutputEnable then readFlag else writeFlag
  let address := memUtilRemapAddressBus h h.address readWrite (← rurpReadControlRegister)
  logInfo msgInfoAddrRemap (bytes24 address)
  let hw ← rurpGetHardwareRevision
  let top : U8 := (memUtilCalculateTopAddressRegister b hw h.pins (← rurpReadControlRegister)
    address).setWidth 8
  dtReportRegisters (address >>> 8 &&& 0xFF |>.setWidth 8) (address &&& 0xFF |>.setWidth 8)
    (top.setWidth 16) (physicalControl b hw (top.setWidth 16)) dtViewAddr
  logReady
  rurpSetProgrammerMode
  memUtilSetAddress address
  dtHold
  return true

/-- `dt_adc_sample_t` -/
structure DtAdcSample where
  dividerAdc : U16
  bandgapAdc : U16
  voltageMv : U16
  vccMv : U16

def dtSampleAdc (ctrl : Reg) : Fw DtAdcSample := do
  rurpWriteToRegister controlRegister ctrl
  when (ctrl != 0) (delay 100)
  let dividerAdc ← rurpReadDividerAdc
  let bandgapAdc ← rurpGetBandgapAdcReading
  let b ← build
  let config := (← look).config
  return {
    dividerAdc, bandgapAdc
    vccMv := rurpScaleVccMv b (bandgapAdc.setWidth 32) (config.bandgapMv.setWidth 32)
    voltageMv := rurpScaleVoltageMv b (dividerAdc.setWidth 32) (bandgapAdc.setWidth 32) config.r1
      config.r2 (config.bandgapMv.setWidth 32) }

def dtEmitAdcFrame (mode : U8) (sample : DtAdcSample) : Fw Unit := do
  let config := (← look).config
  rurpLogId msgDataAdcRaw (mode :: bytes16 sample.dividerAdc ++ bytes16 sample.bandgapAdc ++
    bytes16 sample.voltageMv ++ bytes16 sample.vccMv ++ bytes32 config.r1 ++ bytes32 config.r2)

def dtReadAdc : Fw Bool := do
  let b ← build
  if isRevision0 b (← rurpGetHardwareRevision) then
    logId msgErrRev0VppRd
    return true
  else
    rurpSetProgrammerMode
    let railsOff ← dtSampleAdc 0
    let vpp ← dtSampleAdc (epromHvRouteBits b)
    let vpe ← dtSampleAdc ctrlVppRegulatorEnable
    rurpWriteToRegister controlRegister 0
    rurpSetCommunicationMode
    dtEmitAdcFrame 0 railsOff
    dtEmitAdcFrame 1 vpp
    dtEmitAdcFrame 2 vpe
    return true

end Firestarter
