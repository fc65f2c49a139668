import Firestarter.Voltage

/-! The shield as the firmware drives it: the clock, the data bus, the latches and the register
cache in front of them, the revision and the voltage readings. From `rurp_register_utils.h`,
`rurp_hw_rev_utils.h`, `rurp_common.cpp` and the three board files. -/
namespace Firestarter

open Interactive.Prog

/-! ## Time -/

def millis : Fw U32 := do
  let passed ← ask Env.elapse
  update fun w => { w with now := w.now + passed }
  return BitVec.ofNat 32 (← look).now

def delay (ms : U32) : Fw Unit := do
  let passed ← ask Env.elapse
  update fun w => { w with now := w.now + ms.toNat + passed }

def delayMicroseconds (us : U16) : Fw Unit := delay (us.setWidth 32 / 1000)

def micros : Fw U32 := ask Env.micros

/-- `fs_timeout_expired` -/
def fsTimeoutExpired (startMs durationMs nowMs : U32) : Bool := durationMs ≤ nowMs - startMs

/-! ## Data bus and control pins -/

def rurpSetDataOutput : Fw Unit := update fun w => { w with dataOutput := true }

/-- The AVR boards drop their pull-ups with the port bits; the PY32 board leaves its port as is. -/
def rurpSetDataInput : Fw Unit := do
  let b ← build
  update fun w =>
    { w with dataOutput := false, dataBus := if b.board == .py32f071 then w.dataBus else 0 }

def rurpWriteDataBuffer (data : U8) : Fw Unit := do
  rurpSetDataOutput
  update fun w => { w with dataBus := data }

def rurpReadDataBuffer : Fw U8 := ask Env.chip

namespace World

/-- A latch takes what is on the data bus when its strobe rises. -/
def strobed (w : World) (reg : U8) : World :=
  let w := { w with trace := .strobe reg w.dataBus :: w.trace }
  if reg == leastSignificantByte then { w with latches := { w.latches with lsb := w.dataBus } }
  else if reg == mostSignificantByte then
    { w with latches := { w.latches with msb := w.dataBus } }
  else
    let falls := w.latches.control &&& 0x80 != 0 && w.dataBus &&& 0x80 == 0
    { w with
      latches := { w.latches with control := w.dataBus }
      regulatorOffAt := if falls then w.now else w.regulatorOffAt }

end World

/-- The five lines of the control port: two chip controls and the three latch strobes. -/
def rurpSetControlPin (pin : U8) (state : Bool) : Fw Unit :=
  update fun w =>
    if pin == chipEnable then { w with chipEnable := state }
    else if pin == outputEnable then { w with outputEnable := state }
    else if state then w.strobed pin
    else w

/-- Chip enable and output enable are active low. -/
def rurpChipEnable : Fw Unit := rurpSetControlPin chipEnable false
def rurpChipDisable : Fw Unit := rurpSetControlPin chipEnable true
def rurpChipOutput : Fw Unit := rurpSetControlPin outputEnable false
def rurpChipInput : Fw Unit := rurpSetControlPin outputEnable true

/-! ## Revision -/

/-- `rurp_get_hardware_revision`: the stored override, or what was detected at power-up. -/
def World.hardwareRevision (w : World) : U8 :=
  if w.config.hardwareRevision < 0xFF then w.config.hardwareRevision else w.revision

def rurpGetHardwareRevision : Fw U8 := do return (← look).hardwareRevision

def isRevision2 (hw : U8) : Bool :=
  hw == revision20 || hw == revision21 || hw == revision22 || hw == revision23

/-- `rurp_map_ctrl_reg_for_hardware_revision`, for a given revision. -/
def mapCtrlReg (hw : U8) (data : Reg) : U8 :=
  if isRevision2 hw then
    (data &&& (ctrlVppA9Enable ||| ctrlVpeEnable ||| ctrlVppP1Enable ||| ctrlAddressLine17 |||
        ctrlReadWrite ||| ctrlVppRegulatorEnable)).setWidth 8
      ||| (if data &&& 0x100 != 0 then 0x01 else 0)
      ||| (if data &&& ctrlAddressLine16 != 0 then 0x20 else 0)
      ||| (if data &&& ctrlAddressLine18 != 0 then 0x08 else 0)
  else if hw == revision0 || hw == revision1 then
    data.setWidth 8 ||| (if data &&& 0x100 != 0 then 0x01 else 0)
  else 0

/-- The byte a build latches for a logical control register. -/
def physicalControl (b : Build) (hw : U8) (data : Reg) : U8 :=
  if b.hardwareRevision then mapCtrlReg hw data else data.setWidth 8

/-! ## Registers -/

/-- On the Uno class the data bus is cleared before the most significant byte is put on it. -/
def rurpInternalWriteToRegister (reg : U8) (data : Reg) : Fw Unit := do
  let b ← build
  when (b.serialOnIo && reg == mostSignificantByte) (rurpWriteDataBuffer 0)
  rurpWriteDataBuffer (data.setWidth 8)
  rurpSetControlPin reg true
  delayMicroseconds 1
  rurpSetControlPin reg false

/-- The control register's arm of `rurp_write_to_register`, once the value is known to differ. -/
def writeControlRegister (old data : Reg) : Fw Unit := do
  when (old &&& ctrlVppRegulatorEnable > data &&& ctrlVppRegulatorEnable) do
    let now ← millis
    update fun w => { w with regulatorOffMs := now }
  update fun w => { w with controlRegister := data }
  note (.control data)
  let physical := physicalControl (← build) (← rurpGetHardwareRevision) data
  rurpInternalWriteToRegister controlRegister (physical.setWidth 16)
  when (old &&& ctrlVppP1Enable > data &&& ctrlVppP1Enable) (delayMicroseconds 4)

/-- The cache decides: a register that already holds the value is not strobed again. -/
def rurpWriteToRegister (reg : U8) (data : Reg) : Fw Unit := do
  let w ← look
  if reg == leastSignificantByte then
    when (w.lsbAddress != data.setWidth 8) do
      update fun w => { w with lsbAddress := data.setWidth 8 }
      rurpInternalWriteToRegister reg data
  else if reg == mostSignificantByte then
    when (w.msbAddress != data.setWidth 8) do
      update fun w => { w with msbAddress := data.setWidth 8 }
      rurpInternalWriteToRegister reg data
  else
    when (reg == controlRegister && w.controlRegister != data) do
      writeControlRegister w.controlRegister data

/-- `rurp_read_from_register(CONTROL_REGISTER)`: the cache is the firmware's only record of it. -/
def rurpReadControlRegister : Fw Reg := do return (← look).controlRegister

def rurpGetRegulatorOffMs : Fw U32 := do return (← look).regulatorOffMs

/-! ## Measurements -/

/-- The reference channel needs 2 ms to settle on the AVR boards. -/
def rurpGetBandgapAdcReading : Fw U16 := do
  let b ← build
  when (b.board != .py32f071) (delay 2)
  ask Env.bandgapAdc

def rurpReadDividerAdc : Fw U16 := ask Env.dividerAdc

def rurpReadVccMv : Fw U16 := do
  let b ← build
  let bandgapAdc ← rurpGetBandgapAdcReading
  let config := (← look).config
  if b.board == .py32f071 then
    return py32VccMv (bandgapAdc.setWidth 32)
  else
    return rurpScaleVccMv b (bandgapAdc.setWidth 32) (config.bandgapMv.setWidth 32)

def rurpReadVoltageMv : Fw U16 := do
  let b ← build
  if b.board == .py32f071 then
    let vccMv ← rurpReadVccMv
    let adcReading ← rurpReadDividerAdc
    let w ← look
    let millivolts := py32VoltageMv vccMv adcReading w.config.r1 w.config.r2
    note (.measured millivolts w.latches)
    return millivolts
  else
    let adcReading ← rurpReadDividerAdc
    let bandgapAdc ← rurpGetBandgapAdcReading
    let w ← look
    let millivolts := rurpScaleVoltageMv b (adcReading.setWidth 32) (bandgapAdc.setWidth 32)
      w.config.r1 w.config.r2 (w.config.bandgapMv.setWidth 32)
    note (.measured millivolts w.latches)
    return millivolts

/-- `rurp_user_button_pressed`; only the Uno class has the button wired. -/
def rurpUserButtonPressed : Fw Bool := do
  let b ← build
  if b.hasUserButton then ask Env.button else return false

end Firestarter
