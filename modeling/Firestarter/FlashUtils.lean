import Firestarter.OperationUtils

/-! The 5 V command-sequence flash parts: the shared sequences and waits (`flash_utils.cpp`), the
NOR-unlock driver (`flash_nor_unlock.cpp`) and the page-flash driver (`flash_5v_page.cpp`). -/
namespace Firestarter

open Interactive.Prog

/-! ## Command sequences -/

/-- `byte_flip_t` -/
structure ByteFlip where
  address : U32
  byte : U8
  deriving DecidableEq, Repr

def flashEnableId : List ByteFlip := [⟨0x5555, 0xAA⟩, ⟨0x2AAA, 0x55⟩, ⟨0x5555, 0x90⟩]
def flashDisableId : List ByteFlip := [⟨0x5555, 0xAA⟩, ⟨0x2AAA, 0x55⟩, ⟨0x5555, 0xF0⟩]
def flashErase : List ByteFlip :=
  [⟨0x5555, 0xAA⟩, ⟨0x2AAA, 0x55⟩, ⟨0x5555, 0x80⟩, ⟨0x5555, 0xAA⟩, ⟨0x2AAA, 0x55⟩, ⟨0x5555, 0x10⟩]
def flashEnableWrite : List ByteFlip := [⟨0x5555, 0xAA⟩, ⟨0x2AAA, 0x55⟩, ⟨0x5555, 0xA0⟩]

def flashDq7 : U8 := 0x80
def flashProgramTimeoutMs : U32 := 150
def flashEraseTimeoutMs : U32 := 9000
def flashChipEraseMinMs : U32 := 50

/-- A command cycle takes the address path of a data write; only its strobe is bare. -/
def fuFlashFlipData (address : U32) (data : U8) : Fw Unit := do
  rurpSetDataOutput
  let h ← getHandle
  memUtilSetAddress (memUtilRemapAddressBus h address writeFlag (← rurpReadControlRegister))
  rurpWriteDataBuffer data
  rurpChipInput
  rurpChipEnable
  note (.flipped address data (← look).latches)
  rurpChipDisable

/-- `flash_execute_command` copies its table and plays it in the same way. -/
def flashUtilByteFlipping (byteFlips : List ByteFlip) : Fw Unit := do
  setControlRegister ctrlReadWrite false
  byteFlips.forM fun flip => fuFlashFlipData flip.address flip.byte
  setControlRegister ctrlReadWrite false

/-! ## Waits -/

/-- The turn of `flash_util_wait_ready`: the time is looked at after the read. -/
def waitReadyTurn (address : U32) (expected : U8) (timeoutMs startedMs : U32) (matched : Bool) :
    Fw (Bool ⊕ Bool) := do
  let data ← memoryGetData address
  let hit := (data ^^^ expected) &&& flashDq7 == 0
  if hit && matched then return .inr true
  else if fsTimeoutExpired startedMs timeoutMs (← millis) then return .inr false
  else return .inl hit

/-- DQ7 has to match on two reads in a row. -/
def flashUtilWaitReady (address : U32) (expected : U8) (timeoutMs : U32) : Fw Bool := do
  let startedMs ← millis
  whileLoop (waitReadyTurn address expected timeoutMs startedMs) false

def flashUtilFail : Fw Unit := do
  setResponseCode responseCodeError
  flashUtilByteFlipping flashDisableId

def flashUtilWaitProgram (address : U32) (expected : U8) : Fw Bool := do
  if ← flashUtilWaitReady address expected flashProgramTimeoutMs then return true
  else
    logId msgErrOpTimeout
    flashUtilFail
    return false

/-- The polled byte must also read erased: DQ7 only says the algorithm ended. -/
def flashUtilWaitErase (address : U32) : Fw Bool := do
  if ← flashUtilWaitReady address 0xFF flashEraseTimeoutMs then
    let value ← memoryGetData address
    if value == 0xFF then return true
    else
      rurpLogId msgErrNotBlank (bytes24 address ++ [value])
      flashUtilFail
      return false
  else
    logId msgErrOpTimeout
    flashUtilFail
    return false

def flashUtilChipErase : Fw Unit := do
  flashUtilByteFlipping flashErase
  delay flashChipEraseMinMs
  discard (flashUtilWaitErase 0)

/-! ## ID mode -/

def flashUtilGetChipId : Fw U16 := do
  flashUtilByteFlipping flashEnableId
  let high ← memoryGetData 0x0000
  let low ← memoryGetData 0x0001
  flashUtilByteFlipping flashDisableId
  return word high low

def flashUtilReadInIdMode (address : U32) : Fw U8 := do
  flashUtilByteFlipping flashEnableId
  let data ← memoryGetData address
  flashUtilByteFlipping flashDisableId
  return data

def flashUtilCheckChipIdExecute : Fw Unit := do
  let chipId ← flashUtilGetChipId
  memUtilReportChipId chipId ((← getHandle).isFlagSet flagForce)

def flashUtilCheckChipIdInit : Fw Unit := do
  when ((← getHandle).chipId > 0) flashUtilCheckChipIdExecute

/-- Both protection reads report the raw byte and its decoding, 0xFF for a byte they do not know. -/
def reportProtection (address : U32) (unprotected isProtected : U8) : Fw Unit := do
  let raw ← flashUtilReadInIdMode address
  let decoded : U8 := if raw == unprotected then 0x00 else if raw == isProtected then 0x01 else 0xFF
  setResponseCode (if decoded == 0xFF then responseCodeWarning else responseCodeOk)
  rurpLogId msgDataProtectionStatus [raw, decoded]

/-! ## NOR unlock -/

def Handle.withFlashNorUnlockCallbacks (h : Handle) : Handle :=
  if h.cmd == cmdWrite then
    { h with
      firestarterOperationInit := some .flashNorUnlockWriteInit
      firestarterOperationMain := some .flashNorUnlockWriteExecute }
  else if h.cmd == cmdErase then
    { h with
      firestarterOperationInit := some .flashUtilCheckChipIdInit
      firestarterOperationMain := some .flashNorUnlockEraseExecute }
  else if h.cmd == cmdCheckChipId then
    { h with
      firestarterOperationInit := none
      firestarterOperationMain := some .flashNorUnlockCheckChipIdExecute }
  else if h.cmd == cmdLockStatus then
    { h with
      firestarterOperationInit := none
      firestarterOperationMain := some .flashNorUnlockReadProtectionExecute }
  else { h with firestarterOperationInit := some .flashUtilCheckChipIdInit }

def configureFlashNorUnlock : Fw Unit := setHandle Handle.withFlashNorUnlockCallbacks

def flashNorUnlockSectorErase (sectorAddress : U32) : Fw Unit :=
  flashUtilByteFlipping
    [⟨0x5555, 0xAA⟩, ⟨0x2AAA, 0x55⟩, ⟨0x5555, 0x80⟩, ⟨0x5555, 0xAA⟩, ⟨0x2AAA, 0x55⟩,
      ⟨sectorAddress, 0x30⟩]

/-- A start address other than 0 erases the one sector it lies in. -/
def flashNorUnlockEraseExecute : Fw Unit := do
  let h ← getHandle
  if h.address != 0 then
    flashNorUnlockSectorErase h.address
    discard (flashUtilWaitErase h.address)
  else flashUtilChipErase

def flashNorUnlockCheckChipIdExecute : Fw Unit := flashUtilCheckChipIdExecute

/-- The erase of a write that starts at 0; any other write erases nothing. -/
def flashNorUnlockEraseFirst : Fw Unit := do
  let h ← getHandle
  when (h.isFlagSet flagCanErase) do
    if !h.isFlagSet flagSkipErase && h.address == 0 then flashNorUnlockEraseExecute
    else logInfo msgInfoSkippingEraseMem []

def flashNorUnlockWriteInit : Fw Unit := do
  when (!(← getHandle).isOperationInProgress) do
    if (← getHandle).chipId > 0 then
      flashNorUnlockCheckChipIdExecute
      when ((← getHandle).responseCode != responseCodeError) flashNorUnlockEraseFirst
    else flashNorUnlockEraseFirst

def flashNorUnlockWriteExecute : Fw Unit := do
  let h ← getHandle
  discard <| forLoop (fun _ i => do
    flashUtilByteFlipping flashEnableWrite
    memorySetData (h.address + i) (h.dataBuffer i.toNat)
    if ← flashUtilWaitProgram (h.address + i) (h.dataBuffer i.toNat) then return .inl ()
    else return .inr ())
    (offsets h.dataSize.toNat) ()

def flashNorUnlockReadProtectionExecute : Fw Unit := reportProtection 0x0002 0x00 0x01

/-! ## Page flash -/

def flash5vPageSizeMax : U16 := 512
def flash5vPageWriteTimeoutMs : U32 := 50
def flash5vPageTblcUs : U16 := 300

/-- Nothing for a page size that is not a power of two within the maximum. -/
def flash5vPageMask (requested : U16) : Option U32 :=
  if requested == 0 then none
  else if requested ≤ flash5vPageSizeMax && requested &&& (requested - 1) == 0 then
    some (requested.setWidth 32 - 1)
  else none

def Handle.withFlash5vPageCallbacks (h : Handle) : Handle :=
  if h.cmd == cmdWrite then
    { h with
      firestarterOperationInit := some .flash5vPageWriteInit
      firestarterOperationMain := some .flash5vPageWriteExecute }
  else if h.cmd == cmdCheckChipId then
    { h with
      firestarterOperationInit := none
      firestarterOperationMain := some .flash5vPageCheckChipIdExecute }
  else if h.cmd == cmdErase then
    { h with
      firestarterOperationInit := some .flashUtilCheckChipIdInit
      firestarterOperationMain := some .flashUtilChipErase }
  else if h.cmd == cmdLockStatus then
    { h with firestarterOperationMain := some .flash5vPageReadProtectionExecute }
  else h

def configureFlash5vPage : Fw Unit := setHandle Handle.withFlash5vPageCallbacks

/-- The part erases each page by itself; there is nothing to do before a write. -/
def flash5vPageWriteInit : Fw Unit := pure ()

def flash5vPageWaitForPageWrite (address : U32) (expected : U8) : Fw Bool := do
  delayMicroseconds flash5vPageTblcUs
  if ← flashUtilWaitReady address expected flash5vPageWriteTimeoutMs then return true
  else
    let data ← memoryGetData address
    refuse msgErrFl4VerifyTimeout (expected :: bytes24 address ++ [data])
    return false

/-- One byte of the page loop: the unlock before the page's first byte, the wait after its last. -/
def flash5vPageWriteByte (h : Handle) (pageMask i : U32) : Fw (Unit ⊕ Unit) := do
  let address := h.address + i
  let expected := h.dataBuffer i.toNat
  when (address &&& pageMask == 0 || i == 0) (flashUtilByteFlipping flashEnableWrite)
  memorySetData address expected
  if (address + 1) &&& pageMask == 0 || i == h.dataSize - 1 then
    if ← flash5vPageWaitForPageWrite address expected then return .inl () else return .inr ()
  else return .inl ()

def flash5vPageWriteExecute : Fw Unit := do
  let h ← getHandle
  match flash5vPageMask h.pageSize with
  | none => refuse msgErrFl4PageSize (bytes16 h.pageSize)
  | some pageMask =>
    if h.address &&& pageMask != 0 || h.dataSize &&& pageMask != 0 then
      refuse msgErrFl4PageAlign (bytes24 h.address ++ bytes16 (h.dataSize.setWidth 16))
    else
      discard <| forLoop (fun _ => flash5vPageWriteByte h pageMask) (offsets h.dataSize.toNat) ()

def flash5vPageCheckChipIdExecute : Fw Unit := flashUtilCheckChipIdExecute

def flash5vPageReadProtectionExecute : Fw Unit := reportProtection 0x0002 0xFF 0xFE

end Firestarter
