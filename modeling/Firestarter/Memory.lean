import Firestarter.Eeprom28c
import Firestarter.FlashIntel

/-! `configure_memory` picks the driver of a memory command (`memory.cpp`), and the callbacks get
their functions. -/
namespace Firestarter

open Interactive.Prog

/-- The drivers; static memory needs none of its own. -/
inductive Driver where
  | flashIntel | eeprom28c | flashNorUnlock | flash5vPage | eprom | sram
  deriving DecidableEq, Repr

/-- The handler of a protocol, or none: then the bus is not touched. -/
def driverFor (protocol : U8) : Option Driver :=
  if protocol == protoFlashIntel then some .flashIntel
  else if protocol == protoEepromParallel then some .eeprom28c
  else if protocol == protoFlashNorUnlock then some .flashNorUnlock
  else if protocol == protoFlash5vPage || protocol == protoPhantom0x35 ||
      protocol == protoPhantom0x39 then some .flash5vPage
  else if protocol == protoEprom28Pin || protocol == protoEprom32Pin ||
      protocol == protoEprom24Pin then some .eprom
  else if protocol == protoSram32Pin || protocol == protoSram24Pin ||
      protocol == protoSram28Pin || protocol == protoSram32PinNvram then some .sram
  else none

def configureSram : Fw Unit := pure ()

/-- `configure(handle)`, through the pointer `configure_memory` chose. -/
def configureDriver : Driver → Fw Unit
  | .flashIntel => configureFlashIntel
  | .eeprom28c => configureEeprom28c
  | .flashNorUnlock => configureFlashNorUnlock
  | .flash5vPage => configureFlash5vPage
  | .eprom => configureEprom
  | .sram => configureSram

def Handle.withoutCallbacks (h : Handle) : Handle :=
  { h with
    firestarterOperationInit := none
    firestarterOperationMain := none
    firestarterOperationEnd := none }

/-- The generic callbacks of a read and a write, and the generic access function. -/
def Handle.withMemoryCallbacks (h : Handle) : Handle :=
  { h with
    firestarterOperationMain :=
      if h.cmd == cmdRead then some .memoryReadExecute
      else if h.cmd == cmdWrite then some .memoryWriteExecute
      else h.firestarterOperationMain
    firestarterSetControlRegister := some .memorySetControlRegister }

def configureNotImplemented : Fw Unit := do
  setHandle Handle.withoutCallbacks
  refuse msgErrProtocolNotImplemented [(← getHandle).protocol]

/-- `rurp_pinmap_refuses` -/
def rurpPinmapRefuses (b : Build) (cmd : U8) : Bool := b.pinmapProvisional && isMemoryCmd cmd

/-- The bus is put in order before the driver configures itself. -/
def prepareBus : Fw Unit := do
  memUtilSetReadHighMask
  let h ← getHandle
  when (h.cmd == cmdRead && h.busConfig.readHighNeedsRegOff) memUtilWaitVpeDischarged
  memUtilSetAddress 0

def configureMemory : Fw Unit := do
  setHandle Handle.withoutCallbacks
  let h ← getHandle
  if rurpPinmapRefuses (← build) h.cmd then
    refuse msgErrNotSupported [h.cmd]
  else
    setHandle Handle.withMemoryCallbacks
    match driverFor h.protocol with
    | none => configureNotImplemented
    | some driver =>
      prepareBus
      configureDriver driver

/-- The function a callback names. -/
def dispatch : Callback → Fw Unit
  | .configureMemory => configureMemory
  | .memoryReadExecute => memoryReadExecute
  | .memoryWriteExecute => memoryWriteExecute
  | .epromWriteInit => epromWriteInit
  | .epromWriteExecute => epromWriteExecute
  | .epromGenericInit => epromGenericInit
  | .epromEraseExecute => epromEraseExecute
  | .epromCheckChipIdInit => epromCheckChipIdInit
  | .epromCheckChipIdExecute => epromCheckChipIdExecute
  | .flashIntelWriteInit => flashIntelWriteInit
  | .flashIntelWriteExecute => flashIntelWriteExecute
  | .flashIntelEraseInit => flashIntelEraseInit
  | .flashIntelEraseExecute => flashIntelEraseExecute
  | .flashIntelCleanup => flashIntelCleanup
  | .flashIntelCheckChipId => flashIntelCheckChipId
  | .eeprom28cWriteInit => eeprom28cWriteInit
  | .eeprom28cWriteExecute => eeprom28cWriteExecute
  | .eeprom28cEraseExecute => eeprom28cEraseExecute
  | .eeprom28cSdpUnlockExecute => eeprom28cSdpUnlockExecute
  | .eeprom28cSdpLockExecute => eeprom28cSdpLockExecute
  | .flashUtilCheckChipIdInit => flashUtilCheckChipIdInit
  | .flashUtilChipErase => flashUtilChipErase
  | .flashNorUnlockWriteInit => flashNorUnlockWriteInit
  | .flashNorUnlockWriteExecute => flashNorUnlockWriteExecute
  | .flashNorUnlockEraseExecute => flashNorUnlockEraseExecute
  | .flashNorUnlockCheckChipIdExecute => flashNorUnlockCheckChipIdExecute
  | .flashNorUnlockReadProtectionExecute => flashNorUnlockReadProtectionExecute
  | .flash5vPageWriteInit => flash5vPageWriteInit
  | .flash5vPageWriteExecute => flash5vPageWriteExecute
  | .flash5vPageCheckChipIdExecute => flash5vPageCheckChipIdExecute
  | .flash5vPageReadProtectionExecute => flash5vPageReadProtectionExecute

end Firestarter
