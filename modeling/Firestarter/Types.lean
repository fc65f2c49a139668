import Firestarter.Interactive

/-! The data the firmware works on: its build options, the handle of the running command, the
stored configuration, and the world around the processor as far as the firmware can see or drive
it. Sizes and constants are those of `firestarter.h`, `rurp_shield.h`, `rurp_pinout.h`,
`proto_constants.h`, `messages.h` and `platformio.ini`. -/
namespace Firestarter

abbrev U8 := BitVec 8
abbrev U16 := BitVec 16
abbrev U32 := BitVec 32

/-- Lists of bytes can be searched. -/
instance : LawfulBEq U8 := inferInstance

/-- `rurp_register_t`: the logical control register has nine bits. -/
abbrev Reg := BitVec 16

/-! ## Builds -/

inductive Board where
  | uno | uno328pb | leonardo | py32f071
  deriving DecidableEq, Repr

/-- One of the images the build files describe. -/
structure Build where
  board : Board
  devTools : Bool
  deriving DecidableEq, Repr

namespace Build

/-- `SERIAL_ON_IO`: the data bus and the serial port share their pins. -/
def serialOnIo (b : Build) : Bool := b.board == .uno || b.board == .uno328pb

/-- `HARDWARE_REVISION`: every AVR environment defines it, the PY32 build does not. -/
def hardwareRevision (b : Build) : Bool := b.board != .py32f071

/-- `RURP_PINMAP_PROVISIONAL` -/
def pinmapProvisional (b : Build) : Bool := b.board == .py32f071

/-- `RURP_HAS_BANDGAP_CAL` -/
def hasBandgapCal (b : Build) : Bool := b.board != .py32f071

/-- The user button is wired on the Uno class only. -/
def hasUserButton (b : Build) : Bool := b.serialOnIo

def dataBufferSize (b : Build) : Nat :=
  match b.board with
  | .uno | .uno328pb => 1024
  | .leonardo => 1536
  | .py32f071 => 512

/-- `RURP_ADC_FULL_SCALE` -/
def adcFullScale (b : Build) : U32 := if b.board == .py32f071 then 4096 else 1024

end Build

/-! ## Commands, flags and responses -/

def cmdIdle : U8 := 0
def cmdRead : U8 := 1
def cmdWrite : U8 := 2
def cmdErase : U8 := 3
def cmdCheckChipId : U8 := 5
def cmdDevAddress : U8 := 7
def cmdDevRegister : U8 := 8
def cmdSdpUnlock : U8 := 9
def cmdSdpLock : U8 := 10
def cmdReadVpp : U8 := 11
def cmdReadVpe : U8 := 12
def cmdFwVersion : U8 := 13
def cmdConfig : U8 := 14
def cmdHwVersion : U8 := 15
def cmdLockStatus : U8 := 16
def cmdDevAdc : U8 := 17

/-- The commands that may configure the hardware bus. -/
def isMemoryCmd (cmd : U8) : Bool :=
  cmd == cmdRead || cmd == cmdWrite || cmd == cmdErase || cmd == cmdCheckChipId ||
    cmd == cmdSdpUnlock || cmd == cmdSdpLock || cmd == cmdLockStatus

def responseCodeError : U8 := 0
def responseCodeOk : U8 := 1
def responseCodeWarning : U8 := 2
def responseCodeData : U8 := 3

def flagForce : U16 := 0x01
def flagCanErase : U16 := 0x02
def flagSkipErase : U16 := 0x04
def flagVpeAsVpp : U16 := 0x10
def flagOutputEnable : U16 := 0x20
def flagChipEnable : U16 := 0x40
def flagVerbose : U16 := 0x80
def flagSkipSdpUnlock : U16 := 0x100
def flagSkipFinalVerify : U16 := 0x200

/-- `TIMEOUT_MS` -/
def timeoutMs : U32 := 1000

def protoFlash5vPage : U8 := 0x05
def protoFlashNorUnlock : U8 := 0x06
def protoEprom28Pin : U8 := 0x07
def protoEprom32Pin : U8 := 0x08
def protoEprom24Pin : U8 := 0x0B
def protoEepromParallel : U8 := 0x0D
def protoSram32Pin : U8 := 0x0E
def protoFlashIntel : U8 := 0x10
def protoSram24Pin : U8 := 0x27
def protoSram28Pin : U8 := 0x28
def protoSram32PinNvram : U8 := 0x29
def protoPhantom0x35 : U8 := 0x35
def protoPhantom0x39 : U8 := 0x39

/-! ## Control-register bits -/

def ctrlAddressLine16 : Reg := 0x01
def ctrlVppA9Enable : Reg := 0x02
def ctrlVpeEnable : Reg := 0x04
def ctrlVppP1Enable : Reg := 0x08
def ctrlAddressLine17 : Reg := 0x10
def ctrlAddressLine18 : Reg := 0x20
def ctrlReadWrite : Reg := 0x40
def ctrlVppRegulatorEnable : Reg := 0x80

/-- A build without revision support has one bit for the drop resistor and address line 16. -/
def ctrlVppVpeDropEnable (b : Build) : Reg := if b.hardwareRevision then 0x100 else 0x01

def rurpSocketVppRouteBits : Reg := ctrlVppA9Enable ||| ctrlVpeEnable ||| ctrlVppP1Enable

/-- The macro `EPROM_HV_ROUTE_MASK`; the driver's function of that name starts from it. -/
def epromHvRouteBits (b : Build) : Reg := ctrlVppRegulatorEnable ||| ctrlVppVpeDropEnable b

/-- `EPROM_HV_ALL_OFF_MASK`: the pin-1 route is left out on purpose, the EPROM driver's own
register setter puts it in. -/
def epromHvAllOffMask (b : Build) : Reg :=
  ctrlVppRegulatorEnable ||| ctrlVppVpeDropEnable b ||| ctrlVppA9Enable ||| ctrlVpeEnable

def rurpCtrlAddressShift : Nat := 16
def rurpVpeDischargeMs : U32 := 200
def rurpVppDropPathMaxDeliverableMv : U16 := 17380
def rurpVppHighHeadroomPct : U32 := 3
def rurpVppHighHeadroomFloorMv : U32 := 500
def rurpVppLowTolerancePct : U32 := 5

def revision0 : U8 := 0
def revision1 : U8 := 1
def revision20 : U8 := 2
def revision21 : U8 := 3
def revision22 : U8 := 4
def revision23 : U8 := 5
def revisionUnknown : U8 := 0xFE

def vppP132Dip : U8 := 0x15
def vppP128Dip : U8 := 0x0F
def vppP2124Dip : U8 := 0x0B

/-- Latch strobes and chip control lines, as bits of the control port. -/
def leastSignificantByte : U8 := 0x01
def mostSignificantByte : U8 := 0x02
def outputEnable : U8 := 0x04
def controlRegister : U8 := 0x08
def chipEnable : U8 := 0x20

/-! ## The handle -/

def addressLinesSize : Nat := 20

/-- One bus line as a mask. -/
def lineBit (line : U8) : U32 := 1 <<< line.toNat

/-- `bus_config_t` -/
structure BusConfig where
  addressLines : List U8 := List.replicate addressLinesSize 0
  addressMask : U32 := 0
  matchingLines : U8 := 0
  rwLine : U8 := 0
  vppLine : U8 := 0
  readHighNeedsRegOff : Bool := false
  staticHighMask : U32 := 0
  readHighMask : U32 := 0
  deriving DecidableEq, Repr

/-- The functions the handle's three operation pointers can point to, and `configure_memory`,
which the command parser runs in the same way. -/
inductive Callback where
  | configureMemory
  | memoryReadExecute | memoryWriteExecute
  | epromWriteInit | epromWriteExecute | epromGenericInit | epromEraseExecute
  | epromCheckChipIdInit | epromCheckChipIdExecute
  | flashIntelWriteInit | flashIntelWriteExecute | flashIntelEraseInit | flashIntelEraseExecute
  | flashIntelCleanup | flashIntelCheckChipId
  | eeprom28cWriteInit | eeprom28cWriteExecute | eeprom28cEraseExecute
  | eeprom28cSdpUnlockExecute | eeprom28cSdpLockExecute
  | flashUtilCheckChipIdInit | flashUtilChipErase
  | flashNorUnlockWriteInit | flashNorUnlockWriteExecute | flashNorUnlockEraseExecute
  | flashNorUnlockCheckChipIdExecute | flashNorUnlockReadProtectionExecute
  | flash5vPageWriteInit | flash5vPageWriteExecute | flash5vPageCheckChipIdExecute
  | flash5vPageReadProtectionExecute
  deriving DecidableEq, Repr

/-- The functions `firestarter_set_control_register` can point to. The other four access pointers
only ever take one value, so the model calls those functions by name. -/
inductive ControlSetter where
  | memorySetControlRegister | epromInternalSetControlRegister
  deriving DecidableEq, Repr

/-- `firestarter_handle_t`, zeroed as a global is. -/
structure Handle where
  cmd : U8 := 0
  operationState : U8 := 0
  responseCode : U8 := 0
  protocol : U8 := 0
  pins : U8 := 0
  memSize : U32 := 0
  address : U32 := 0
  vppMv : U16 := 0
  pulseDelay : U32 := 0
  readSettlingUs : U32 := 0
  readStrobeUs : U32 := 0
  ctrlFlags : U16 := 0
  chipId : U16 := 0
  pageSize : U16 := 0
  regionEnd : U32 := 0
  dataBuffer : Nat → U8 := fun _ => 0
  dataSize : U32 := 0
  busConfig : BusConfig := {}
  firestarterOperationInit : Option Callback := none
  firestarterOperationMain : Option Callback := none
  firestarterOperationEnd : Option Callback := none
  firestarterSetControlRegister : Option ControlSetter := none

namespace Handle

/-- `is_flag_set` -/
def isFlagSet (h : Handle) (flag : U16) : Bool := h.ctrlFlags &&& flag == flag

/-- The bytes the buffer holds for the current transfer. -/
def payload (h : Handle) : List U8 := (List.range h.dataSize.toNat).map h.dataBuffer

@[simp] theorem payload_length (h : Handle) : h.payload.length = h.dataSize.toNat := by
  simp [payload]

end Handle

/-! ## Stored configuration -/

/-- `rurp_configuration_t`. The two resistances are signed 32-bit numbers. -/
structure Configuration where
  version : List U8
  r1 : U32
  r2 : U32
  hardwareRevision : U8
  bandgapMv : U16
  deriving DecidableEq, Repr

/-! ## The world around the processor -/

/-- The three 8-bit address and control latches of the shield. -/
structure Latches where
  lsb : U8
  msb : U8
  control : U8
  deriving DecidableEq, Repr

/-- `op_message_type` -/
inductive OpMessageType where
  | ack | done | data | incomplete | error
  deriving DecidableEq, Repr

/-- One queued frame of the Uno's deferred log. -/
structure DeferredFrame where
  id : U8
  params : List U8
  deriving DecidableEq, Repr

/-- What an observer of a run writes down. No function of the firmware reads it. -/
inductive Event where
  /-- A frame was received while no command was running: a command begins. -/
  | received
  /-- The command of that frame was set up and acknowledged. -/
  | accepted (h : Handle)
  /-- A log or response frame went out on the wire. -/
  | emitted (id : U8) (params : List U8)
  /-- Plain text went out on the wire. -/
  | printed (text : List U8)
  /-- A whole message of the host was taken from the receive queue. -/
  | message (kind : OpMessageType) (payload : List U8)
  /-- The operation's state number took this value. -/
  | advanced (number : U8)
  /-- A callback was entered with the handle as it then was. -/
  | called (callback : Callback) (h : Handle)
  /-- It returned with this response code. -/
  | returned (callback : Callback) (responseCode : U8)
  /-- The cached logical control register took a new value. -/
  | control (data : Reg)
  /-- A byte was strobed into a physical latch. -/
  | strobe (reg : U8) (byte : U8)
  /-- An address write ended, with the logical register and the latches as they then were and the
  time since the regulator bit last fell in the latch. -/
  | addressed (control : Reg) (latches : Latches) (regulatorOffFor : Nat)
  /-- A chip address was read, with the latches at the read strobe. -/
  | read (address : U32) (data : U8) (latches : Latches)
  /-- A byte was written with the chip's write pulse. -/
  | wrote (address : U32) (data : U8) (latches : Latches)
  /-- A byte of a flash command sequence was written with a bare strobe. -/
  | flipped (address : U32) (data : U8) (latches : Latches)
  /-- The rail was measured, with the latches at the measurement. -/
  | measured (millivolts : U16) (latches : Latches)
  /-- `command_done` returned the firmware to idle. -/
  | finished

/-- The firmware's variables, and the hardware and the host as they stand. -/
structure World where
  handle : Handle := {}
  timeoutStartedMs : U32 := 0
  lsbAddress : U8 := 0xFF
  msbAddress : U8 := 0xFF
  controlRegister : Reg := 0xFF
  regulatorOffMs : U32 := 0
  epSetControlRegister : Option ControlSetter := none
  config : Configuration := ⟨List.replicate 6 0, 0, 0, 0xFF, 0⟩
  revision : U8 := 0xFF
  comMode : Bool := true
  deferredLog : List DeferredFrame := []
  /-- What the storage would load; `none` when it holds no record. -/
  stored : Option Configuration
  latches : Latches
  /-- When the regulator bit of the control latch last fell. -/
  regulatorOffAt : Nat := 0
  chipEnable : Bool := true
  outputEnable : Bool := true
  /-- What the board drives onto the eight data lines, and whether it drives them. -/
  dataBus : U8 := 0
  dataOutput : Bool := false
  /-- Bytes the host has sent and the firmware has not taken. -/
  rx : List U8 := []
  /-- Milliseconds since power-up, never wrapping. -/
  now : Nat := 0
  /-- How often the outside has been asked; it lets the outside change its mind. -/
  asked : Nat := 0
  /-- Newest first. -/
  trace : List Event := []

/-- Everything outside the firmware, as answers that may depend on all that has happened. -/
structure Env where
  build : Build
  /-- The text of `FW_VERSION`. -/
  version : List U8
  /-- Milliseconds that pass before the clock is next looked at. -/
  elapse : World → Nat
  micros : World → U32
  /-- Bytes that reach the receive queue before it is next looked at. -/
  arrive : World → List U8
  /-- The serial port is open. -/
  portOpen : World → Bool
  /-- The level of the eight data lines when the chip drives them. -/
  chip : World → U8
  /-- Averaged conversions of the divider and of the reference channel. -/
  dividerAdc : World → U16
  bandgapAdc : World → U16
  /-- Conversions of the two channels that tell the shield revision. -/
  revisionAdc : World → U16
  vppPinAdc : World → U16
  button : World → Bool
  /-- Whether a configuration save reaches the storage. -/
  saveOk : World → Bool
  /-- Turns a `while` loop may take before the observer stops watching. -/
  turns : Nat

/-- An outside where nothing happens by itself: no time passes, no byte comes, the chip reads
erased, and every measurement is the same count. -/
def Env.still (build : Build) (turns : Nat) : Env where
  build := build
  version := []
  elapse _ := 0
  micros _ := 0
  arrive _ := []
  portOpen _ := true
  chip _ := 0xFF
  dividerAdc _ := 400
  bandgapAdc _ := 225
  revisionAdc _ := 0
  vppPinAdc _ := 0
  button _ := true
  saveOk _ := true
  turns := turns

abbrev Fw := Interactive.Prog Env World

open Interactive.Prog in
/-- One question to the outside. -/
def ask {α : Type} (question : Env → World → α) : Fw α := do
  let env ← outside
  let w ← look
  update fun w => { w with asked := w.asked + 1 }
  return question env w

open Interactive.Prog in
/-- Evaluate a board option of the running build. -/
def build : Fw Build := do return (← outside).build

open Interactive.Prog in
def note (e : Event) : Fw Unit := update fun w => { w with trace := e :: w.trace }

open Interactive.Prog in
def getHandle : Fw Handle := do return (← look).handle

open Interactive.Prog in
def setHandle (f : Handle → Handle) : Fw Unit := update fun w => { w with handle := f w.handle }

section
open Interactive
variable {env : Env} {s : World} {cutOff : World → Prop}

@[simp] theorem ends_build {ended : Build → World → Prop} :
    Ends build env s ended cutOff ↔ ended env.build s := Iff.rfl

@[simp] theorem ends_note {ended : Unit → World → Prop} (e : Event) :
    Ends (note e) env s ended cutOff ↔ ended () { s with trace := e :: s.trace } := Iff.rfl

@[simp] theorem ends_getHandle {ended : Handle → World → Prop} :
    Ends getHandle env s ended cutOff ↔ ended s.handle s := Iff.rfl

@[simp] theorem ends_setHandle {ended : Unit → World → Prop} (f : Handle → Handle) :
    Ends (setHandle f) env s ended cutOff ↔ ended () { s with handle := f s.handle } := Iff.rfl

end

open Interactive.Prog in
/-- A `while` loop of the source, with its local variables. -/
def whileLoop {β α : Type} (body : β → Fw (β ⊕ α)) (locals : β) : Fw α := do
  repeatUntil body (← outside).turns locals

end Firestarter
