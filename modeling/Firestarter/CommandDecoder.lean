import Firestarter.Config

/-! The binary command frame (`command_frame.h`, `command_decoder.c`). -/
namespace Firestarter

def cfMagic : U8 := 0xF5
def cfVersion : U8 := 1
def cfHeaderSize : Nat := 7
def cfAddressLines : Nat := 20
def cfBusLines : U8 := 24
def cfLineAbsent : U8 := 0xFF
def cfReadTimingMaxUs : U32 := 1000
def cfFlagsMask : U16 := 0x03F7
def cfVppMaxMv : U16 := 25000
def cfRevisionMax : U8 := 5
def cfMemorySize : Nat := 58
def cfConfigSize : Nat := 14

/-! Offsets in the memory payload. -/
def cfMemoryOffMemSize : Nat := 0
def cfMemoryOffAddress : Nat := 4
def cfMemoryOffRegionEnd : Nat := 8
def cfMemoryOffProtocol : Nat := 12
def cfMemoryOffPins : Nat := 13
def cfMemoryOffVppMv : Nat := 14
def cfMemoryOffPulseDelay : Nat := 16
def cfMemoryOffChipId : Nat := 20
def cfMemoryOffPageSize : Nat := 22
def cfMemoryOffReadSettlingUs : Nat := 24
def cfMemoryOffReadStrobeUs : Nat := 28
def cfMemoryOffAddressLines : Nat := 32
def cfMemoryOffRwLine : Nat := 52
def cfMemoryOffVppLine : Nat := 53
def cfMemoryOffStaticHighMask : Nat := 54

/-! Offsets in the configuration payload, and its present bits. -/
def cfConfigOffPresent : Nat := 0
def cfConfigOffR1 : Nat := 1
def cfConfigOffR2 : Nat := 5
def cfConfigOffRev : Nat := 9
def cfConfigOffBg : Nat := 12
def cfConfigPresentR1 : U8 := 0x01
def cfConfigPresentR2 : U8 := 0x02
def cfConfigPresentRev : U8 := 0x04
def cfConfigPresentBg : U8 := 0x10
def cfConfigPresentMask : U8 := 0x17

/-! Results of the decoder; the numbers from 1 on are reasons to refuse. -/
def cmdDecodeOk : U8 := 0
def cmdDecodeBadFrame : U8 := 0xFF
def cmdDecodeBadVersion : U8 := 0xFE
def cfRefuseLength : U8 := 1
def cfRefuseFlags : U8 := 2
def cfRefuseAddressLine : U8 := 3
def cfRefuseAddressDuplicate : U8 := 4
def cfRefuseAddressGap : U8 := 5
def cfRefuseControlLine : U8 := 6
def cfRefuseStaticHigh : U8 := 7
def cfRefuseReadTiming : U8 := 8
def cfRefuseConfigField : U8 := 9
def cfRefuseMissingField : U8 := 10
def cfRefuseAddressRange : U8 := 11
def cfRefuseVppRange : U8 := 12
def cfRefuseRevision : U8 := 14

inductive PayloadKind where
  | none | memory | config
  deriving DecidableEq, Repr

/-- `cf_payload_kind` -/
def cfPayloadKind (cmd : U8) : PayloadKind :=
  if cmd ∈ ([1, 2, 3, 5, 7, 8, 9, 10, 16] : List U8) then .memory
  else if cmd == 14 then .config
  else .none

def be16 (p : Nat → U8) (off : Nat) : U16 :=
  (p off).setWidth 16 <<< 8 ||| (p (off + 1)).setWidth 16

def be32 (p : Nat → U8) (off : Nat) : U32 :=
  (p off).setWidth 32 <<< 24 ||| (p (off + 1)).setWidth 32 <<< 16 |||
    (p (off + 2)).setWidth 32 <<< 8 ||| (p (off + 3)).setWidth 32

def busLineValid (line : U8) : Bool := line == cfLineAbsent || line < cfBusLines

/-- The loop of `validate_memory` over the address lines. -/
def validateAddressLines : List U8 → (seen : U32) → (ended : Bool) → U8
  | [], _, _ => cmdDecodeOk
  | line :: rest, seen, ended =>
    if line == cfLineAbsent then validateAddressLines rest seen true
    else if ended then cfRefuseAddressGap
    else if line ≥ cfBusLines then cfRefuseAddressLine
    else if seen &&& lineBit line != 0 then cfRefuseAddressDuplicate
    else validateAddressLines rest (seen ||| lineBit line) ended

/-- The address lines of a memory payload. -/
def payloadAddressLines (p : Nat → U8) : List U8 :=
  (List.range cfAddressLines).map fun i => p (cfMemoryOffAddressLines + i)

/-- Where a command's cursor has to stop, as the decoder reads it from the payload. -/
def payloadEnd (cmd : U8) (p : Nat → U8) : U32 :=
  let memSize := be32 p cfMemoryOffMemSize
  let regionEnd := be32 p cfMemoryOffRegionEnd
  if cmd == cmdWrite && regionEnd != 0 && regionEnd < memSize then regionEnd else memSize

def validateMemory (cmd : U8) (p : Nat → U8) : U8 :=
  let lines := validateAddressLines (payloadAddressLines p) 0 false
  if lines != cmdDecodeOk then lines
  else if !busLineValid (p cfMemoryOffRwLine) || !busLineValid (p cfMemoryOffVppLine) then
    cfRefuseControlLine
  else if be32 p cfMemoryOffStaticHighMask >>> cfBusLines.toNat != 0 then cfRefuseStaticHigh
  else if be32 p cfMemoryOffReadSettlingUs > cfReadTimingMaxUs ||
      be32 p cfMemoryOffReadStrobeUs > cfReadTimingMaxUs then cfRefuseReadTiming
  else if isMemoryCmd cmd && (be32 p cfMemoryOffMemSize == 0 || p cfMemoryOffProtocol == 0 ||
      p cfMemoryOffPins == 0 || be16 p cfMemoryOffVppMv == 0) then cfRefuseMissingField
  else if be16 p cfMemoryOffVppMv > cfVppMaxMv then cfRefuseVppRange
  else if (cmd == cmdRead || cmd == cmdWrite) && be32 p cfMemoryOffAddress > payloadEnd cmd p then
    cfRefuseAddressRange
  else cmdDecodeOk

/-- What `apply_memory`'s loop derives from the table: the mask of the lines it lists, how long the
identity prefix is, and how many lines there are. -/
def deriveLines : List U8 → (mask : U32) → (matching count : Nat) → U32 × Nat × Nat
  | [], mask, matching, count => (mask, matching, count)
  | line :: rest, mask, matching, count =>
    if line == cfLineAbsent then (mask, matching, count)
    else
      deriveLines rest (mask ||| lineBit line)
        (if matching == count && line.toNat == count then count + 1 else matching) (count + 1)

/-- Every command parameter comes from the payload. -/
def applyMemory (h : Handle) (p : Nat → U8) : Handle :=
  let lines := payloadAddressLines p
  let (mask, matching, count) := deriveLines lines 0 0 0
  { h with
    memSize := be32 p cfMemoryOffMemSize
    address := be32 p cfMemoryOffAddress
    regionEnd := be32 p cfMemoryOffRegionEnd
    protocol := p cfMemoryOffProtocol
    pins := p cfMemoryOffPins
    vppMv := be16 p cfMemoryOffVppMv
    pulseDelay := be32 p cfMemoryOffPulseDelay
    chipId := be16 p cfMemoryOffChipId
    pageSize := be16 p cfMemoryOffPageSize
    readSettlingUs := be32 p cfMemoryOffReadSettlingUs
    readStrobeUs := be32 p cfMemoryOffReadStrobeUs
    busConfig :=
      { h.busConfig with
        addressLines := lines
        rwLine := p cfMemoryOffRwLine
        vppLine := p cfMemoryOffVppLine
        staticHighMask := be32 p cfMemoryOffStaticHighMask
        addressMask := if count == 0 then 0xFFFF else mask
        matchingLines := BitVec.ofNat 8 matching } }

def validateConfig (b : Build) (p : Nat → U8) : U8 :=
  let present := p cfConfigOffPresent
  let rev := p cfConfigOffRev
  if present &&& ~~~cfConfigPresentMask != 0 then cfRefuseConfigField
  else if !b.hardwareRevision && present &&& cfConfigPresentRev != 0 then cfRefuseConfigField
  else if !b.hasBandgapCal && present &&& cfConfigPresentBg != 0 then cfRefuseConfigField
  else if present &&& cfConfigPresentRev != 0 && rev != 0xFF && rev > cfRevisionMax then
    cfRefuseRevision
  else cmdDecodeOk

/-- `cmd_decode`: a refused frame writes no field of the handle. -/
def cmdDecode (b : Build) (h : Handle) : Handle × U8 :=
  let frame := h.dataBuffer
  let size := h.dataSize.toNat
  if size < cfHeaderSize || frame 0 != cfMagic then (h, cmdDecodeBadFrame)
  else if frame 1 != cfVersion then (h, cmdDecodeBadVersion)
  else
    let cmd := frame 2
    let flags := be16 frame 3
    let kind := cfPayloadKind cmd
    let expected : Nat :=
      match kind with
      | .memory => cfMemorySize
      | .config => cfConfigSize
      | .none => 0
    let length := (be16 frame 5).toNat
    let payload := fun i => frame (cfHeaderSize + i)
    if flags &&& ~~~cfFlagsMask != 0 then (h, cfRefuseFlags)
    else if length != expected || size != cfHeaderSize + length then (h, cfRefuseLength)
    else if kind = .memory then
      let res := validateMemory cmd payload
      if res != cmdDecodeOk then (h, res)
      else (applyMemory { h with cmd := cmd, ctrlFlags := flags } payload, cmdDecodeOk)
    else
      let res := if kind = .config then validateConfig b payload else cmdDecodeOk
      if res != cmdDecodeOk then (h, res)
      else
        ({ h with cmd := cmd, ctrlFlags := flags, protocol := 0, pulseDelay := 0 }, cmdDecodeOk)

/-- `cmd_apply_config`; the flag tells whether any field changed. -/
def cmdApplyConfig (b : Build) (h : Handle) (config : Configuration) : Configuration × Bool :=
  let p := fun i => h.dataBuffer (cfHeaderSize + i)
  let present := p cfConfigOffPresent
  let setR1 := present &&& cfConfigPresentR1 != 0
  let setR2 := present &&& cfConfigPresentR2 != 0
  let setRev := b.hardwareRevision && present &&& cfConfigPresentRev != 0
  let setBg := present &&& cfConfigPresentBg != 0
  ({ config with
      r1 := if setR1 then be32 p cfConfigOffR1 else config.r1
      r2 := if setR2 then be32 p cfConfigOffR2 else config.r2
      hardwareRevision := if setRev then p cfConfigOffRev else config.hardwareRevision
      bandgapMv := if setBg then be16 p cfConfigOffBg else config.bandgapMv },
    setR1 || setR2 || setRev || setBg)

end Firestarter
