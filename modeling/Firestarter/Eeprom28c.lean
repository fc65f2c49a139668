import Firestarter.Eprom
import Firestarter.FlashUtils

/-! The 28C EEPROM driver: the A9 chip-ID check, the software data protection sequences, the erase
and the page write (`eeprom_28c.cpp`). -/
namespace Firestarter

open Interactive.Prog

def at28cPageSizeFallback : U32 := 64
def at28cPageSizeMax : U16 := 512
def at28cTwcMaxMs : U32 := 10
def at28cTecMaxMs : U32 := 20
def at28cTblcMaxUs : U32 := 100
def at28cDq6ToggleMask : U8 := 0x40
def at28cTogglePollMaxReads : Nat := 32
def eeprom28cTogglePollAddress : U32 := 0x5555
def at28cDq7Mask : U8 := 0x80
def at28cPagePollMaxReads : Nat := 2000

def eepromSdpDisable : List ByteFlip :=
  [⟨0x5555, 0xAA⟩, ⟨0x2AAA, 0x55⟩, ⟨0x5555, 0x80⟩, ⟨0x5555, 0xAA⟩, ⟨0x2AAA, 0x55⟩, ⟨0x5555, 0x20⟩]
def eepromSdpEnable : List ByteFlip := [⟨0x5555, 0xAA⟩, ⟨0x2AAA, 0x55⟩, ⟨0x5555, 0xA0⟩]

/-- The six bytes the erase writes after its SDP-disable prefix. -/
def eepromChipErase : List ByteFlip :=
  [⟨0x5555, 0xAA⟩, ⟨0x2AAA, 0x55⟩, ⟨0x5555, 0x80⟩, ⟨0x5555, 0xAA⟩, ⟨0x2AAA, 0x55⟩, ⟨0x5555, 0x10⟩]

/-- Commands the driver does not know keep the generic callbacks of `configure_memory`. -/
def Handle.withEeprom28cCallbacks (h : Handle) : Handle :=
  if h.cmd == cmdWrite then
    { h with
      pulseDelay := 0
      firestarterOperationInit := some .eeprom28cWriteInit
      firestarterOperationMain := some .eeprom28cWriteExecute }
  else if h.cmd == cmdErase then
    { h with pulseDelay := 0, firestarterOperationMain := some .eeprom28cEraseExecute }
  else if h.cmd == cmdSdpUnlock then
    { h with pulseDelay := 0, firestarterOperationMain := some .eeprom28cSdpUnlockExecute }
  else if h.cmd == cmdSdpLock then
    { h with pulseDelay := 0, firestarterOperationMain := some .eeprom28cSdpLockExecute }
  else { h with pulseDelay := 0 }

def configureEeprom28c : Fw Unit := setHandle Handle.withEeprom28cCallbacks

/-! ## Chip ID -/

/-- The read of the identifier under 12 V on A9, with the regulator already up. -/
def eeprom28cReadChipId : Fw Unit := do
  setControlRegister ctrlVppA9Enable true
  delay 100
  let h ← getHandle
  let mfrAddr := h.memSize - 64
  let high ← memoryGetData mfrAddr
  let low ← memoryGetData (mfrAddr + 1)
  setControlRegister (ctrlVppRegulatorEnable ||| ctrlVppA9Enable) false
  memUtilReportChipId (word high low) (h.isFlagSet flagForce)

/-- The regulator is raised alone; a measured rail outside the window goes no further. -/
def eeprom28cRaiseAndRead (measure : Bool) : Fw Unit := do
  setControlRegister ctrlVppRegulatorEnable true
  delay 50
  if measure then
    memUtilCheckVppWindow (← rurpReadVoltageMv)
    if (← getHandle).responseCode == responseCodeError then
      setControlRegister ctrlVppRegulatorEnable false
    else eeprom28cReadChipId
  else eeprom28cReadChipId

/-- Revision 0 cannot measure the rail, and without a target there is nothing to compare with. -/
def eeprom28cCheckChipId : Fw Unit := do
  let h ← getHandle
  if h.memSize < 64 then
    if h.isFlagSet flagForce then
      logIdU32 msgWarnMemSizeTooSmall h.memSize
      setResponseCode responseCodeWarning
    else refuse msgErrMemSizeTooSmall (bytes32 h.memSize)
  else
    let measure := h.vppMv != 0 && !isRevision0 (← build) (← rurpGetHardwareRevision)
    let refused ← (if measure then memUtilRefuseBadCalibration else pure false)
    when (!refused) (eeprom28cRaiseAndRead measure)

/-! ## Software data protection -/

def eeprom28cEmitCommandSequence (sequence : List ByteFlip) : Fw Unit := do
  rurpSetDataOutput
  sequence.forM fun flip => memorySetData flip.address flip.byte

/-- Ends silently whether the toggle bit settles or the reads run out. -/
def eeprom28cWaitForSdpCompletion : Fw Unit := do
  delay at28cTwcMaxMs
  let first ← memoryGetData eeprom28cTogglePollAddress
  discard <| forLoop (fun previous _ => do
    delayMicroseconds 10
    let observed ← memoryGetData eeprom28cTogglePollAddress
    if observed &&& at28cDq6ToggleMask == previous &&& at28cDq6ToggleMask then return .inr ()
    else return .inl observed)
    (List.range at28cTogglePollMaxReads) first

def eeprom28cEmitSdpSequenceTimed (sequence : List ByteFlip) (emittedMsgId doneUsMsgId : U8) :
    Fw Unit := do
  logId emittedMsgId
  let startUs ← micros
  eeprom28cEmitCommandSequence sequence
  let emitUs := (← micros) - startUs
  logIdU32 doneUsMsgId emitUs
  when (emitUs > BitVec.ofNat 32 sequence.length * at28cTblcMaxUs) do
    logIdU32 msgWarnSdpTblcExceeded emitUs

def eeprom28cSdpUnlockExecute : Fw Unit := do
  eeprom28cEmitSdpSequenceTimed eepromSdpDisable msgInfoSdpUnlock msgInfoSdpUnlockDoneUs
  eeprom28cWaitForSdpCompletion

/-- No read and no data follow the three writes. -/
def eeprom28cSdpLockExecute : Fw Unit := do
  eeprom28cEmitSdpSequenceTimed eepromSdpEnable msgInfoSdpLock msgInfoSdpLockDoneUs
  delay at28cTwcMaxMs

def eeprom28cEraseExecute : Fw Unit := do
  eeprom28cSdpUnlockExecute
  eeprom28cEmitCommandSequence eepromChipErase
  delay at28cTecMaxMs

def eeprom28cUnlockForWrite : Fw Unit := do
  if (← getHandle).isFlagSet flagSkipSdpUnlock then logId msgWarnSdpUnlockSkipped
  else eeprom28cSdpUnlockExecute

def eeprom28cWriteInit : Fw Unit := do
  if (← getHandle).chipId > 0 then
    eeprom28cCheckChipId
    when ((← getHandle).responseCode != responseCodeError) eeprom28cUnlockForWrite
  else eeprom28cUnlockForWrite

/-! ## Page write -/

/-- Any page size that is not a power of two within the maximum takes the fallback. -/
def eeprom28cPageMask (requested : U16) : U32 :=
  if requested == 0 then at28cPageSizeFallback - 1
  else if requested ≤ at28cPageSizeMax && requested &&& (requested - 1) == 0 then
    requested.setWidth 32 - 1
  else at28cPageSizeFallback - 1

/-- Completion only: DQ7 has to match on two reads in a row. -/
def eeprom28cWaitForPageWrite (address : U32) (expected : U8) : Fw Bool := do
  let wanted := expected &&& at28cDq7Mask
  let polled ← forLoop (fun _ _ => do
    delayMicroseconds 10
    let observed ← memoryGetData address
    if observed &&& at28cDq7Mask == wanted then
      let confirm ← memoryGetData address
      if confirm &&& at28cDq7Mask == wanted then return .inr () else return .inl confirm
    else return .inl observed)
    (List.range at28cPagePollMaxReads) (0 : U8)
  match polled with
  | .inr _ => return true
  | .inl observed =>
    refuse msgErrEepromTimeout (bytes24 address ++ [expected, observed])
    return false

/-- Data landed: the bytes of the window are read back and compared whole. -/
def eeprom28cVerifyPageReadback (h : Handle) (firstIndex lastIndex : Nat) : Fw Bool := do
  let checked ← forLoop (fun _ k => do
    let expected := h.dataBuffer k
    let address := h.address + BitVec.ofNat 32 k
    let observed ← memoryGetData address
    if observed != expected then
      refuse msgErrVerify (expected :: observed :: bytes24 address)
      return .inr ()
    else return .inl ())
    (List.range' firstIndex (lastIndex + 1 - firstIndex)) ()
  return checked.isLeft

/-- The locals of the page loop; the two times are kept by development builds only. -/
structure PageLoad where
  windowStart : Nat := 0
  worstUs : U32 := 0
  previousUs : U32 := 0

def measurePageLoad (devTools : Bool) (load : PageLoad) : Fw PageLoad := do
  if devTools then
    let now ← micros
    let interval := now - load.previousUs
    return {
      load with
      worstUs := if interval > load.worstUs then interval else load.worstUs
      previousUs := now }
  else return load

/-- One byte of the page loop; the loop is left with the worst interval when a page failed. -/
def eeprom28cWriteByte (h : Handle) (devTools : Bool) (pageMask : U32) (load : PageLoad) (i : Nat) :
    Fw (PageLoad ⊕ U32) := do
  let address := h.address + BitVec.ofNat 32 i
  let data := h.dataBuffer i
  memorySetData address data
  let load ← measurePageLoad devTools load
  if (address + 1) &&& pageMask == 0 || i + 1 == h.dataSize.toNat then
    if ← eeprom28cWaitForPageWrite address data then
      if ← eeprom28cVerifyPageReadback h load.windowStart i then
        return .inl { load with windowStart := i + 1 }
      else return .inr load.worstUs
    else return .inr load.worstUs
  else return .inl load

def eeprom28cWriteExecute : Fw Unit := do
  let h ← getHandle
  let devTools := (← build).devTools
  let startUs ← (if devTools then micros else pure 0)
  let loaded ← forLoop (eeprom28cWriteByte h devTools (eeprom28cPageMask h.pageSize))
    (List.range h.dataSize.toNat) { previousUs := startUs }
  when devTools do
    logIdU32 msgInfoPageLoadWorstUs (loaded.elim (fun load => load.worstUs) id)

end Firestarter
