import Firestarter.Messages
import Firestarter.Serial

/-! What the chip drivers share: the address bus, byte reads and writes, the voltage window and the
chip-ID report (`memory.cpp`, `memory_utils.h`). -/
namespace Firestarter

open Interactive.Prog

def writeFlag : U32 := 0
def readFlag : U32 := 1

/-! ## Reports -/

def setResponseCode (code : U8) : Fw Unit := setHandle fun h => { h with responseCode := code }

/-- Most refusals: one frame and the error response. -/
def refuse (id : U8) (params : List U8) : Fw Unit := do
  rurpLogId id params
  setResponseCode responseCodeError

def memUtilReportVoltage (measuredMv expectedMv : U16) (msgId responseCode : U8) : Fw Unit := do
  rurpLogId msgId (bytes16 measuredMv ++ bytes16 expectedMv)
  setResponseCode responseCode

/-- The highest rail the window takes as good for a target. -/
def vppHighLimit (targetMv : U16) : U32 :=
  let target : U32 := targetMv.setWidth 32
  let headroom := target * rurpVppHighHeadroomPct / 100
  target + if headroom < rurpVppHighHeadroomFloorMv then rurpVppHighHeadroomFloorMv else headroom

/-- The lowest rail that draws no warning. -/
def vppLowLimit (targetMv : U16) : U32 :=
  targetMv.setWidth 32 * (100 - rurpVppLowTolerancePct) / 100

/-- A high rail is an error unless forced; a low rail is only ever a warning. -/
def memUtilCheckVppWindow (vppMv : U16) : Fw Unit := do
  let h ← getHandle
  if vppMv.setWidth 32 > vppHighLimit h.vppMv then
    let force := h.isFlagSet flagForce
    memUtilReportVoltage vppMv h.vppMv (if force then msgWarnVppHighMv else msgErrVppHighMv)
      (if force then responseCodeWarning else responseCodeError)
  else
    when (vppMv.setWidth 32 < vppLowLimit h.vppMv) do
      memUtilReportVoltage vppMv h.vppMv msgWarnVppLowMv responseCodeWarning

def memUtilWarnIfUncalibrated : Fw Unit := do
  let b ← build
  let w ← look
  when (b.hasBandgapCal && w.config.bandgapMv == rurpBandgapNominalMv) do
    logId msgWarnNotCalibrated
    setResponseCode responseCodeWarning

/-- The live calibration is one the scaler evaluates. -/
def calibrationIsPlausible (b : Build) (config : Configuration) : Bool :=
  rurpCalibrationIsPlausible b config.r1 config.r2 (config.bandgapMv.setWidth 32)

/-- True when it refused. -/
def memUtilRefuseBadCalibration : Fw Bool := do
  let b ← build
  let config := (← look).config
  if calibrationIsPlausible b config then return false
  else
    refuse msgErrCalibration (bytes32 config.r1 ++ bytes32 config.r2)
    return true

/-- Two bytes of an identifier, the first one high. -/
def word (high low : U8) : U16 := high.setWidth 16 <<< 8 ||| low.setWidth 16

/-- Matching ids report nothing; the severity of a mismatch is the caller's choice. -/
def memUtilReportChipId (actual : U16) (warnOnly : Bool) : Fw Unit := do
  let h ← getHandle
  when (actual != h.chipId) do
    rurpLogId (if warnOnly then msgWarnChipIdMismatch else msgErrChipIdMismatch)
      (bytes16 actual ++ bytes16 h.chipId)
    setResponseCode (if warnOnly then responseCodeWarning else responseCodeError)

/-! ## Ranges and delays -/

/-- `mem_util_operation_end` -/
def Handle.operationEnd (h : Handle) : U32 :=
  if h.regionEnd == 0 || h.regionEnd > h.memSize then h.memSize else h.regionEnd

def memUtilRangeFits (address size last : U32) : Bool := address ≤ last && size ≤ last - address

def memUtilDelayUsMax : U32 := 16383

/-- Whole milliseconds and the rest in microseconds. -/
def memUtilSplitDelay (us : U32) : U32 × U16 :=
  if us ≤ memUtilDelayUsMax then (0, us.setWidth 16)
  else (us / 1000, (us % 1000).setWidth 16)

def memUtilDelayUs (us : U32) : Fw Unit := do
  let split := memUtilSplitDelay us
  when (split.1 != 0) (delay split.1)
  when (split.2 != 0) (delayMicroseconds split.2)

/-! ## Address bus -/

/-- `using_p1_as_vpp` -/
def Handle.usingP1AsVpp (h : Handle) : Bool :=
  h.pins == 32 && h.busConfig.vppLine == vppP132Dip ||
    h.pins == 28 && h.busConfig.vppLine == vppP128Dip ||
    h.pins == 24 && h.busConfig.vppLine == vppP2124Dip

/-- `vpp_line_switches_vpp` -/
def vppLineSwitchesVpp (b : Build) (hw : U8) (line : U8) : Bool :=
  if line.toNat < rurpCtrlAddressShift then false
  else
    let bit : Reg := 1 <<< (line.toNat - rurpCtrlAddressShift)
    physicalControl b hw bit &&& rurpSocketVppRouteBits.setWidth 8 != 0

/-- The loop of the remap over the lines past the identity prefix, `i` being the line's number. -/
def remapLines (address : U32) : List U8 → (i : Nat) → (reorg : U32) → U32
  | [], _, reorg => reorg
  | line :: rest, i, reorg =>
    if line == 0xFF then reorg
    else
      let cleared := reorg &&& ~~~(lineBit line)
      remapLines address rest (i + 1)
        (if address.getLsbD i then cleared ||| lineBit line else cleared)

/-- A read holds the pin-1 supply high, unless the control register says a programming voltage
could reach it. -/
def readHighBits (config : BusConfig) (readWrite : U32) (control : Reg) : U32 :=
  let blocking :=
    if config.readHighNeedsRegOff then ctrlVppP1Enable ||| ctrlVppRegulatorEnable
    else ctrlVppP1Enable
  if readWrite == readFlag && control &&& blocking == 0 then config.readHighMask else 0

/-- `mem_util_remap_address_bus`, given the cached control register. -/
def memUtilRemapAddressBus (h : Handle) (address readWrite : U32) (control : Reg) : U32 :=
  let config := h.busConfig
  let masked := config.addressMask &&& address
  let lines :=
    if config.addressLines.getD 0 0xFF != 0xFF then
      remapLines address (config.addressLines.drop config.matchingLines.toNat)
        config.matchingLines.toNat masked
    else masked
  let rw := if config.rwLine != 0xFF then readWrite <<< config.rwLine.toNat else 0
  let vpp : U32 :=
    if config.vppLine != 0xFF && !h.usingP1AsVpp then 1 <<< config.vppLine.toNat else 0
  lines ||| rw ||| vpp ||| readHighBits config readWrite control ||| config.staticHighMask

/-- The bits of the control register an address write carries over. For 32-pin parts the drop
resistor stays selected only where it does not share a latch bit with address line 16. -/
def topAddressPreserveMask (b : Build) (hw : U8) (pins : U8) : Reg :=
  let mask := ctrlVppA9Enable ||| ctrlVpeEnable ||| ctrlVppP1Enable ||| ctrlVppRegulatorEnable
  if pins < 32 then mask ||| ctrlVppVpeDropEnable b
  else if b.hardwareRevision && isRevision2 hw then mask ||| ctrlVppVpeDropEnable b
  else mask

/-- `mem_util_calculate_top_address_register` -/
def memUtilCalculateTopAddressRegister (b : Build) (hw : U8) (pins : U8) (control : Reg)
    (address : U32) : Reg :=
  let top := (address >>> rurpCtrlAddressShift).setWidth 16 &&&
    (ctrlAddressLine16 ||| ctrlAddressLine17 ||| ctrlAddressLine18 ||| ctrlReadWrite)
  let top := top ||| (control &&& topAddressPreserveMask b hw pins)
  if pins == 28 then top ||| ctrlAddressLine17 else top

/-- `mem_util_set_address`, for an address already mapped to bus lines. -/
def memUtilSetAddress (address : U32) : Fw Unit := do
  rurpWriteToRegister leastSignificantByte ((address &&& 0xFF).setWidth 16)
  rurpWriteToRegister mostSignificantByte ((address >>> 8 &&& 0xFF).setWidth 16)
  let top := memUtilCalculateTopAddressRegister (← build) (← rurpGetHardwareRevision)
    (← getHandle).pins (← rurpReadControlRegister) address
  rurpWriteToRegister controlRegister top
  let w ← look
  note (.addressed w.controlRegister w.latches (w.now - w.regulatorOffAt))

def memUtilSetReadHighMask : Fw Unit := do
  let b ← build
  let hw ← rurpGetHardwareRevision
  setHandle fun h =>
    let line := h.busConfig.vppLine
    let p1Vpp := line != 0xFF && h.usingP1AsVpp
    { h with
      busConfig :=
        { h.busConfig with
          readHighMask := if p1Vpp then 1 <<< line.toNat else 0
          readHighNeedsRegOff := p1Vpp && vppLineSwitchesVpp b hw line } }

def memUtilWaitVpeDischarged : Fw Unit := do
  let elapsed := (← millis) - (← rurpGetRegulatorOffMs)
  when (elapsed < rurpVpeDischargeMs) (delay (rurpVpeDischargeMs - elapsed))

/-! ## Control register -/

def memorySetControlRegister (bit : Reg) (state : Bool) : Fw Unit := do
  let control ← rurpReadControlRegister
  rurpWriteToRegister controlRegister (if state then control ||| bit else control &&& ~~~bit)

/-- `eprom_internal_set_control_register` puts a pin-1 supply in the place of VPE. -/
def Handle.vpeRoute (h : Handle) (bit : Reg) : Reg :=
  if bit &&& ctrlVpeEnable != 0 && h.usingP1AsVpp then
    bit &&& ~~~ctrlVpeEnable ||| ctrlVppP1Enable
  else bit

/-- The setter below the EPROM driver's is the one `configure_memory` had installed. -/
def epromInternalSetControlRegister (bit : Reg) (state : Bool) : Fw Unit := do
  let bit := (← getHandle).vpeRoute bit
  if (← look).epSetControlRegister = some .memorySetControlRegister then
    memorySetControlRegister bit state
  else cut

/-- `handle->firestarter_set_control_register(handle, bit, state)` -/
def setControlRegister (bit : Reg) (state : Bool) : Fw Unit := do
  let setter := (← getHandle).firestarterSetControlRegister
  if setter = some .memorySetControlRegister then memorySetControlRegister bit state
  else if setter = some .epromInternalSetControlRegister then
    epromInternalSetControlRegister bit state
  else cut

/-! ## Bytes -/

/-- The strobe and settling times a frame may ask for are capped once more here. -/
def readTimingCap (us : U32) : U16 := (if us > 1000 then 1000 else us).setWidth 16

def memoryGetData (address : U32) : Fw U8 := do
  rurpChipOutput
  let h ← getHandle
  memUtilSetAddress (memUtilRemapAddressBus h address readFlag (← rurpReadControlRegister))
  rurpSetDataInput
  when (h.readSettlingUs != 0) (delayMicroseconds (readTimingCap h.readSettlingUs))
  rurpChipEnable
  delayMicroseconds (readTimingCap (if h.readStrobeUs != 0 then h.readStrobeUs else 3))
  let data ← rurpReadDataBuffer
  note (.read address data (← look).latches)
  rurpChipDisable
  return data

def memorySetData (address : U32) (data : U8) : Fw Unit := do
  rurpChipInput
  let h ← getHandle
  memUtilSetAddress (memUtilRemapAddressBus h address writeFlag (← rurpReadControlRegister))
  rurpWriteDataBuffer data
  delayMicroseconds 3
  rurpChipEnable
  note (.wrote address data (← look).latches)
  memUtilDelayUs h.pulseDelay
  rurpChipDisable

/-! ## Blocks -/

/-- The offsets of a transfer of this length. -/
def offsets (size : Nat) : List U32 := (List.range size).map (BitVec.ofNat 32)

def memoryReadExecute : Fw Unit := do
  let h ← getHandle
  let b ← build
  if h.address > h.memSize then
    setHandle fun h => { h with dataSize := 0 }
    refuse msgErrOutOfRange []
  else
    let bufSize := min (h.memSize - h.address).toNat b.dataBufferSize
    (offsets bufSize).forM fun i => do
      let data ← memoryGetData (h.address + i)
      setHandle fun h => { h with dataBuffer := storeByte h.dataBuffer i.toNat data }
    setHandle fun h => { h with dataSize := BitVec.ofNat 32 bufSize }

def memoryWriteExecute : Fw Unit := do
  let h ← getHandle
  let b ← build
  if h.dataSize.toNat > b.dataBufferSize ||
      !memUtilRangeFits h.address h.dataSize h.operationEnd then
    refuse msgErrOutOfRange []
  else
    (offsets h.dataSize.toNat).forM fun i =>
      memorySetData (h.address + i) (h.dataBuffer i.toNat)

/-- The final read-and-compare pass; it stops at the first byte that differs. -/
def memoryVerifyExecute : Fw Unit := do
  let h ← getHandle
  let b ← build
  if h.dataSize.toNat > b.dataBufferSize || !memUtilRangeFits h.address h.dataSize h.memSize then
    refuse msgErrOutOfRange []
  else
    discard <| forLoop (fun _ i => do
      let byte ← memoryGetData (h.address + i)
      let expected := h.dataBuffer i.toNat
      if byte != expected then
        refuse msgErrVerify (expected :: byte :: bytes24 (h.address + i))
        return .inr ()
      else return .inl ())
      (offsets h.dataSize.toNat) ()

end Firestarter
