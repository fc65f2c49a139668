import Firestarter.CommandDecoder
import Firestarter.Serial
import Mathlib.Algebra.Group.Nat.Defs
import Mathlib.Data.List.Flatten
import Mathlib.Order.Bounds.Basic

/-! The grammar of the command frame, told without the decoder: what a frame is made of, which
frames are well formed, and what an accepted one does to the handle. The decoder accepts exactly
the well-formed frames, and refuses without a trace. -/
namespace Firestarter

/-! ## The grammar -/

structure MemoryFrame where
  cmd : U8
  flags : U16
  memSize : U32
  address : U32
  regionEnd : U32
  protocol : U8
  pins : U8
  vppMv : U16
  pulseDelay : U32
  chipId : U16
  pageSize : U16
  readSettlingUs : U32
  readStrobeUs : U32
  /-- The bus lines of the address lines, A0 first. -/
  lines : List U8
  rwLine : U8
  vppLine : U8
  staticHighMask : U32

structure ConfigFrame where
  cmd : U8
  flags : U16
  present : U8
  r1 : U32
  r2 : U32
  revision : U8
  retired : U16
  bandgapMv : U16

inductive CommandFrame
  | memory (f : MemoryFrame)
  | config (f : ConfigFrame)
  | bare (cmd : U8) (flags : U16)

/-- The header, with the length of the payload. -/
def headerChunks (cmd : U8) (flags : U16) (length : Nat) : List (List U8) :=
  [[cfMagic, cfVersion, cmd], bytes16 flags, bytes16 (BitVec.ofNat 16 length)]

namespace MemoryFrame

variable (f : MemoryFrame)

/-- The table of address lines, filled up with absent ones. -/
def table : List U8 := f.lines ++ List.replicate (cfAddressLines - f.lines.length) cfLineAbsent

def chunks : List (List U8) :=
  headerChunks f.cmd f.flags cfMemorySize ++
    [bytes32 f.memSize, bytes32 f.address, bytes32 f.regionEnd, [f.protocol, f.pins],
      bytes16 f.vppMv, bytes32 f.pulseDelay, bytes16 f.chipId, bytes16 f.pageSize,
      bytes32 f.readSettlingUs, bytes32 f.readStrobeUs, f.table, [f.rwLine, f.vppLine],
      bytes32 f.staticHighMask]

/-- Where a read or a write ends. -/
def operationEnd : U32 :=
  if f.cmd = cmdWrite ∧ f.regionEnd ≠ 0 ∧ f.regionEnd < f.memSize then f.regionEnd else f.memSize

structure WellFormed : Prop where
  kind : cfPayloadKind f.cmd = .memory
  flags : f.flags &&& ~~~cfFlagsMask = 0
  lineCount : f.lines.length ≤ cfAddressLines
  onBus : ∀ line ∈ f.lines, line < cfBusLines
  distinct : f.lines.Nodup
  rwLine : f.rwLine = cfLineAbsent ∨ f.rwLine < cfBusLines
  vppLine : f.vppLine = cfLineAbsent ∨ f.vppLine < cfBusLines
  staticHigh : f.staticHighMask >>> cfBusLines.toNat = 0
  settling : f.readSettlingUs ≤ cfReadTimingMaxUs
  strobe : f.readStrobeUs ≤ cfReadTimingMaxUs
  mandatory : isMemoryCmd f.cmd = true →
    f.memSize ≠ 0 ∧ f.protocol ≠ 0 ∧ f.pins ≠ 0 ∧ f.vppMv ≠ 0
  vpp : f.vppMv ≤ cfVppMaxMv
  cursor : f.cmd = cmdRead ∨ f.cmd = cmdWrite → f.address ≤ f.operationEnd

end MemoryFrame

namespace ConfigFrame

variable (f : ConfigFrame)

def chunks : List (List U8) :=
  headerChunks f.cmd f.flags cfConfigSize ++
    [[f.present], bytes32 f.r1, bytes32 f.r2, [f.revision], bytes16 f.retired, bytes16 f.bandgapMv]

structure WellFormed (b : Build) : Prop where
  kind : cfPayloadKind f.cmd = .config
  flags : f.flags &&& ~~~cfFlagsMask = 0
  known : f.present &&& ~~~cfConfigPresentMask = 0
  /-- Only a build with the fields takes them. -/
  hasRevision : f.present &&& cfConfigPresentRev ≠ 0 → b.hardwareRevision = true
  hasBandgap : f.present &&& cfConfigPresentBg ≠ 0 → b.hasBandgapCal = true
  revision : f.present &&& cfConfigPresentRev ≠ 0 → f.revision = 0xFF ∨ f.revision ≤ cfRevisionMax

end ConfigFrame

/-- How many of the leading address lines lie on the bus line of their own number. -/
def identityFrom (i : Nat) : List U8 → Nat
  | [] => 0
  | line :: rest => if line.toNat = i then identityFrom (i + 1) rest + 1 else 0

def identityPrefix (lines : List U8) : Nat := identityFrom 0 lines

/-- The bus lines a table lists. -/
def lineMask (lines : List U8) : U32 := lines.foldl (fun mask line => mask ||| lineBit line) 0

namespace CommandFrame

def chunks : CommandFrame → List (List U8)
  | memory f => f.chunks
  | config f => f.chunks
  | bare cmd flags => headerChunks cmd flags 0

def bytes (f : CommandFrame) : List U8 := f.chunks.flatten

def WellFormed (b : Build) : CommandFrame → Prop
  | memory f => f.WellFormed
  | config f => f.WellFormed b
  | bare cmd flags => cfPayloadKind cmd = .none ∧ flags &&& ~~~cfFlagsMask = 0

/-- What an accepted frame makes of the handle. -/
def apply (h : Handle) : CommandFrame → Handle
  | memory f =>
    { h with
      cmd := f.cmd, ctrlFlags := f.flags, memSize := f.memSize, address := f.address
      regionEnd := f.regionEnd, protocol := f.protocol, pins := f.pins, vppMv := f.vppMv
      pulseDelay := f.pulseDelay, chipId := f.chipId, pageSize := f.pageSize
      readSettlingUs := f.readSettlingUs, readStrobeUs := f.readStrobeUs
      busConfig :=
        { h.busConfig with
          addressLines := f.table, rwLine := f.rwLine, vppLine := f.vppLine
          staticHighMask := f.staticHighMask
          addressMask := if f.lines = [] then 0xFFFF else lineMask f.lines
          matchingLines := BitVec.ofNat 8 (identityPrefix f.lines) } }
  | config f => { h with cmd := f.cmd, ctrlFlags := f.flags, protocol := 0, pulseDelay := 0 }
  | bare cmd flags => { h with cmd := cmd, ctrlFlags := flags, protocol := 0, pulseDelay := 0 }

end CommandFrame

/-! ## Numbers in bytes -/

theorem bytes16_be16 (p : Nat → U8) (off : Nat) : bytes16 (be16 p off) = [p off, p (off + 1)] := by
  have high : (be16 p off >>> 8).setWidth 8 = p off := by
    unfold be16
    ext i bound
    have wide : 8 + i < 16 := by omega
    have narrow : i < 16 := by omega
    simp [wide, narrow, BitVec.getLsbD_eq_getElem bound]
  have low : (be16 p off).setWidth 8 = p (off + 1) := by
    unfold be16
    ext i bound
    simp
  rw [bytes16, high, low]

theorem bytes32_be32 (p : Nat → U8) (off : Nat) :
    bytes32 (be32 p off) = [p off, p (off + 1), p (off + 2), p (off + 3)] := by
  have above (b : U8) (i : Nat) (high : 8 ≤ i) : b.getLsbD i = false := BitVec.getLsbD_of_ge b i high
  have first : (be32 p off >>> 24).setWidth 8 = p off := by
    unfold be32
    ext i bound
    have wide : 24 + i < 32 := by omega
    have narrow : i < 32 := by omega
    simp [wide, narrow, BitVec.getLsbD_eq_getElem bound, above _ (24 + i - 16) (by omega),
      above _ (24 + i - 8) (by omega), above _ (24 + i) (by omega)]
  have second : (be32 p off >>> 16).setWidth 8 = p (off + 1) := by
    unfold be32
    ext i bound
    have wide : 16 + i < 32 := by omega
    have narrow : i < 32 := by omega
    have below : 16 + i < 24 := by omega
    simp [wide, narrow, below, BitVec.getLsbD_eq_getElem bound, above _ (16 + i - 8) (by omega),
      above _ (16 + i) (by omega)]
  have third : (be32 p off >>> 8).setWidth 8 = p (off + 2) := by
    unfold be32
    ext i bound
    have wide : 8 + i < 32 := by omega
    have narrow : i < 32 := by omega
    have below : 8 + i < 16 := by omega
    have lower : 8 + i < 24 := by omega
    simp [wide, narrow, below, lower, BitVec.getLsbD_eq_getElem bound]
  have last : (be32 p off).setWidth 8 = p (off + 3) := by
    unfold be32
    ext i bound
    simp
  rw [bytes32, bytes24, first, second, third, last]

theorem bytes16_inj {v w : U16} (same : bytes16 v = bytes16 w) : v = w := by
  obtain ⟨high, same⟩ := List.cons.inj same
  have low := (List.cons.inj same).1
  have high := congrArg BitVec.toNat high
  have low := congrArg BitVec.toNat low
  simp only [BitVec.toNat_setWidth, BitVec.toNat_ushiftRight, Nat.shiftRight_eq_div_pow] at high low
  apply BitVec.eq_of_toNat_eq
  omega

theorem bytes32_inj {v w : U32} (same : bytes32 v = bytes32 w) : v = w := by
  obtain ⟨first, same⟩ := List.cons.inj same
  obtain ⟨second, same⟩ := List.cons.inj same
  obtain ⟨third, same⟩ := List.cons.inj same
  have last := (List.cons.inj same).1
  have first := congrArg BitVec.toNat first
  have second := congrArg BitVec.toNat second
  have third := congrArg BitVec.toNat third
  have last := congrArg BitVec.toNat last
  simp only [BitVec.toNat_setWidth, BitVec.toNat_ushiftRight, Nat.shiftRight_eq_div_pow] at *
  apply BitVec.eq_of_toNat_eq
  omega

theorem bytes16_eq_iff {v : U16} {p : Nat → U8} {off : Nat} :
    bytes16 v = [p off, p (off + 1)] ↔ v = be16 p off := by
  rw [← bytes16_be16]
  exact ⟨bytes16_inj, fun same => by rw [same]⟩

theorem bytes32_eq_iff {v : U32} {p : Nat → U8} {off : Nat} :
    bytes32 v = [p off, p (off + 1), p (off + 2), p (off + 3)] ↔ v = be32 p off := by
  rw [← bytes32_be32]
  exact ⟨bytes32_inj, fun same => by rw [same]⟩

/-! ## The bytes of a frame -/

/-- Chunks of the same lengths are told from their bytes. -/
theorem flatten_eq_iff {xs ys : List (List U8)} (lengths : xs.map List.length = ys.map List.length) :
    xs.flatten = ys.flatten ↔ xs = ys := by
  constructor
  · intro same
    exact List.eq_iff_flatten_eq.mpr ⟨same, lengths⟩
  · intro same
    rw [same]

/-- The payload of the frame in the handle's buffer. -/
def Handle.framePayload (h : Handle) : Nat → U8 := fun i => h.dataBuffer (cfHeaderSize + i)

/-- What the header of the frame in the buffer says. -/
structure HeaderIs (h : Handle) (cmd : U8) (flags : U16) (length : Nat) : Prop where
  size : h.dataSize.toNat = cfHeaderSize + length
  magic : h.dataBuffer 0 = cfMagic
  version : h.dataBuffer 1 = cfVersion
  cmd : h.dataBuffer 2 = cmd
  flags : be16 h.dataBuffer 3 = flags
  length : be16 h.dataBuffer 5 = BitVec.ofNat 16 length

def bufferHeader (h : Handle) : List (List U8) :=
  [[h.dataBuffer 0, h.dataBuffer 1, h.dataBuffer 2], [h.dataBuffer 3, h.dataBuffer 4],
    [h.dataBuffer 5, h.dataBuffer 6]]

theorem headerChunks_eq_iff {h : Handle} {cmd : U8} {flags : U16} {length : Nat}
    (size : h.dataSize.toNat = cfHeaderSize + length) :
    headerChunks cmd flags length = bufferHeader h ↔ HeaderIs h cmd flags length := by
  have atFlags : bytes16 flags = [h.dataBuffer 3, h.dataBuffer 4] ↔ flags = be16 h.dataBuffer 3 :=
    bytes16_eq_iff
  have atLength : bytes16 (BitVec.ofNat 16 length) = [h.dataBuffer 5, h.dataBuffer 6] ↔
      BitVec.ofNat 16 length = be16 h.dataBuffer 5 := bytes16_eq_iff
  unfold headerChunks bufferHeader
  simp only [List.cons.injEq, atFlags, atLength, and_true]
  constructor
  · rintro ⟨⟨magic, version, cmd⟩, flags, length⟩
    exact ⟨size, magic.symm, version.symm, cmd.symm, flags.symm, length.symm⟩
  · rintro ⟨-, magic, version, cmd, flags, length⟩
    exact ⟨⟨magic.symm, version.symm, cmd.symm⟩, flags.symm, length.symm⟩

/-- The fields of a memory frame as they lie in the buffer. -/
structure MemoryFrame.ReadFrom (f : MemoryFrame) (p : Nat → U8) : Prop where
  memSize : f.memSize = be32 p cfMemoryOffMemSize
  address : f.address = be32 p cfMemoryOffAddress
  regionEnd : f.regionEnd = be32 p cfMemoryOffRegionEnd
  protocol : f.protocol = p cfMemoryOffProtocol
  pins : f.pins = p cfMemoryOffPins
  vppMv : f.vppMv = be16 p cfMemoryOffVppMv
  pulseDelay : f.pulseDelay = be32 p cfMemoryOffPulseDelay
  chipId : f.chipId = be16 p cfMemoryOffChipId
  pageSize : f.pageSize = be16 p cfMemoryOffPageSize
  readSettlingUs : f.readSettlingUs = be32 p cfMemoryOffReadSettlingUs
  readStrobeUs : f.readStrobeUs = be32 p cfMemoryOffReadStrobeUs
  table : f.table = payloadAddressLines p
  rwLine : f.rwLine = p cfMemoryOffRwLine
  vppLine : f.vppLine = p cfMemoryOffVppLine
  staticHighMask : f.staticHighMask = be32 p cfMemoryOffStaticHighMask

structure ConfigFrame.ReadFrom (f : ConfigFrame) (p : Nat → U8) : Prop where
  present : f.present = p cfConfigOffPresent
  r1 : f.r1 = be32 p cfConfigOffR1
  r2 : f.r2 = be32 p cfConfigOffR2
  revision : f.revision = p cfConfigOffRev
  retired : f.retired = be16 p 10
  bandgapMv : f.bandgapMv = be16 p cfConfigOffBg

theorem MemoryFrame.table_length {f : MemoryFrame} (short : f.lines.length ≤ cfAddressLines) :
    f.table.length = cfAddressLines := by
  rw [table, List.length_append, List.length_replicate]
  omega

theorem MemoryFrame.bytes_length {f : MemoryFrame} (short : f.lines.length ≤ cfAddressLines) :
    (CommandFrame.memory f).bytes.length = cfHeaderSize + cfMemorySize := by
  have table := f.table_length short
  unfold CommandFrame.bytes
  rw [List.length_flatten]
  show (3 + (2 + (2 + (4 + (4 + (4 + (2 + (2 + (4 + (2 + (2 + (4 + (4 + (f.table.length + _))))))))))))))
    = _
  rw [table]
  rfl

/-- The payload of the buffer, cut as a memory frame is. -/
def bufferMemory (p : Nat → U8) : List (List U8) :=
  [[p 0, p 1, p 2, p 3], [p 4, p 5, p 6, p 7], [p 8, p 9, p 10, p 11], [p 12, p 13], [p 14, p 15],
    [p 16, p 17, p 18, p 19], [p 20, p 21], [p 22, p 23], [p 24, p 25, p 26, p 27],
    [p 28, p 29, p 30, p 31], payloadAddressLines p, [p 52, p 53], [p 54, p 55, p 56, p 57]]

theorem payload_memory {h : Handle} (size : h.dataSize.toNat = cfHeaderSize + cfMemorySize) :
    h.payload = (bufferHeader h ++ bufferMemory h.framePayload).flatten := by
  rw [Handle.payload, size]
  rfl

theorem MemoryFrame.readFrom_iff {f : MemoryFrame} {p : Nat → U8} :
    [bytes32 f.memSize, bytes32 f.address, bytes32 f.regionEnd, [f.protocol, f.pins],
      bytes16 f.vppMv, bytes32 f.pulseDelay, bytes16 f.chipId, bytes16 f.pageSize,
      bytes32 f.readSettlingUs, bytes32 f.readStrobeUs, f.table, [f.rwLine, f.vppLine],
      bytes32 f.staticHighMask] = bufferMemory p ↔ f.ReadFrom p := by
  have at16 (v : U16) (off : Nat) : bytes16 v = [p off, p (off + 1)] ↔ v = be16 p off :=
    bytes16_eq_iff
  have at32 (v : U32) (off : Nat) :
      bytes32 v = [p off, p (off + 1), p (off + 2), p (off + 3)] ↔ v = be32 p off := bytes32_eq_iff
  unfold bufferMemory
  simp only [List.cons.injEq, and_true]
  constructor
  · rintro ⟨memSize, address, regionEnd, ⟨protocol, pins⟩, vppMv, pulseDelay, chipId, pageSize,
      settling, strobe, table, ⟨rwLine, vppLine⟩, staticHigh⟩
    exact ⟨(at32 _ 0).mp memSize, (at32 _ 4).mp address, (at32 _ 8).mp regionEnd, protocol, pins,
      (at16 _ 14).mp vppMv, (at32 _ 16).mp pulseDelay, (at16 _ 20).mp chipId,
      (at16 _ 22).mp pageSize, (at32 _ 24).mp settling, (at32 _ 28).mp strobe, table, rwLine,
      vppLine, (at32 _ 54).mp staticHigh⟩
  · intro read
    exact ⟨(at32 _ 0).mpr read.memSize, (at32 _ 4).mpr read.address, (at32 _ 8).mpr read.regionEnd,
      ⟨read.protocol, read.pins⟩, (at16 _ 14).mpr read.vppMv, (at32 _ 16).mpr read.pulseDelay,
      (at16 _ 20).mpr read.chipId, (at16 _ 22).mpr read.pageSize,
      (at32 _ 24).mpr read.readSettlingUs, (at32 _ 28).mpr read.readStrobeUs, read.table,
      ⟨read.rwLine, read.vppLine⟩, (at32 _ 54).mpr read.staticHighMask⟩

/-- The bytes in the handle's buffer are the frame exactly when all its fields are read from there. -/
theorem MemoryFrame.bytes_eq_payload_iff {f : MemoryFrame} {h : Handle}
    (short : f.lines.length ≤ cfAddressLines) :
    (CommandFrame.memory f).bytes = h.payload ↔
      HeaderIs h f.cmd f.flags cfMemorySize ∧ f.ReadFrom h.framePayload := by
  have table := f.table_length short
  have cut (size : h.dataSize.toNat = cfHeaderSize + cfMemorySize) :
      (CommandFrame.memory f).bytes = h.payload ↔
        HeaderIs h f.cmd f.flags cfMemorySize ∧ f.ReadFrom h.framePayload := by
    have lengths : f.chunks.map List.length =
        (bufferHeader h ++ bufferMemory h.framePayload).map List.length := by
      show [3, 2, 2, 4, 4, 4, 2, 2, 4, 2, 2, 4, 4, f.table.length, 2, 4] = _
      rw [table]
      rfl
    rw [payload_memory size, CommandFrame.bytes, CommandFrame.chunks, flatten_eq_iff lengths,
      ← headerChunks_eq_iff size, ← MemoryFrame.readFrom_iff]
    exact ⟨fun same => List.append_inj same rfl, fun same => congrArg₂ _ same.1 same.2⟩
  constructor
  · intro same
    have size := congrArg List.length same
    rw [f.bytes_length short, Handle.payload_length] at size
    exact (cut size.symm).mp same
  · intro read
    exact (cut read.1.size).mpr read

/-- The payload of the buffer, cut as a configuration frame is. -/
def bufferConfig (p : Nat → U8) : List (List U8) :=
  [[p 0], [p 1, p 2, p 3, p 4], [p 5, p 6, p 7, p 8], [p 9], [p 10, p 11], [p 12, p 13]]

theorem ConfigFrame.readFrom_iff {f : ConfigFrame} {p : Nat → U8} :
    [[f.present], bytes32 f.r1, bytes32 f.r2, [f.revision], bytes16 f.retired,
      bytes16 f.bandgapMv] = bufferConfig p ↔ f.ReadFrom p := by
  have at16 (v : U16) (off : Nat) : bytes16 v = [p off, p (off + 1)] ↔ v = be16 p off :=
    bytes16_eq_iff
  have at32 (v : U32) (off : Nat) :
      bytes32 v = [p off, p (off + 1), p (off + 2), p (off + 3)] ↔ v = be32 p off := bytes32_eq_iff
  unfold bufferConfig
  simp only [List.cons.injEq, and_true]
  constructor
  · rintro ⟨present, r1, r2, revision, retired, bandgap⟩
    exact ⟨present, (at32 _ 1).mp r1, (at32 _ 5).mp r2, revision, (at16 _ 10).mp retired,
      (at16 _ 12).mp bandgap⟩
  · intro read
    exact ⟨read.present, (at32 _ 1).mpr read.r1, (at32 _ 5).mpr read.r2, read.revision,
      (at16 _ 10).mpr read.retired, (at16 _ 12).mpr read.bandgapMv⟩

theorem ConfigFrame.bytes_eq_payload_iff {f : ConfigFrame} {h : Handle} :
    (CommandFrame.config f).bytes = h.payload ↔
      HeaderIs h f.cmd f.flags cfConfigSize ∧ f.ReadFrom h.framePayload := by
  have cut (size : h.dataSize.toNat = cfHeaderSize + cfConfigSize) :
      (CommandFrame.config f).bytes = h.payload ↔
        HeaderIs h f.cmd f.flags cfConfigSize ∧ f.ReadFrom h.framePayload := by
    have lengths : f.chunks.map List.length =
        (bufferHeader h ++ bufferConfig h.framePayload).map List.length := rfl
    have payload : h.payload = (bufferHeader h ++ bufferConfig h.framePayload).flatten := by
      rw [Handle.payload, size]
      rfl
    rw [payload, CommandFrame.bytes, CommandFrame.chunks, flatten_eq_iff lengths,
      ← headerChunks_eq_iff size, ← ConfigFrame.readFrom_iff]
    exact ⟨fun same => List.append_inj same rfl, fun same => congrArg₂ _ same.1 same.2⟩
  constructor
  · intro same
    have size := congrArg List.length same
    rw [Handle.payload_length] at size
    exact (cut size.symm).mp same
  · intro read
    exact (cut read.1.size).mpr read

theorem bare_bytes_eq_payload_iff {cmd : U8} {flags : U16} {h : Handle} :
    (CommandFrame.bare cmd flags).bytes = h.payload ↔ HeaderIs h cmd flags 0 := by
  have cut (size : h.dataSize.toNat = cfHeaderSize + 0) :
      (CommandFrame.bare cmd flags).bytes = h.payload ↔ HeaderIs h cmd flags 0 := by
    have lengths : (headerChunks cmd flags 0).map List.length = (bufferHeader h).map List.length := rfl
    have payload : h.payload = (bufferHeader h).flatten := by
      rw [Handle.payload, size]
      rfl
    rw [payload, CommandFrame.bytes, CommandFrame.chunks, flatten_eq_iff lengths,
      ← headerChunks_eq_iff size]
  constructor
  · intro same
    have size := congrArg List.length same
    rw [Handle.payload_length] at size
    exact (cut size.symm).mp same
  · intro read
    exact (cut read.size).mpr read

/-! ## The table of address lines -/

theorem lineBit_getLsbD {line : U8} (onBus : line < cfBusLines) (i : Nat) :
    (lineBit line).getLsbD i = decide (i = line.toNat) := by
  have small : line.toNat < 24 := onBus
  show (BitVec.ofNat 32 (1 <<< line.toNat)).getLsbD i = _
  rw [BitVec.getLsbD_ofNat, Nat.one_shiftLeft, Nat.testBit_two_pow, Bool.eq_iff_iff]
  simp only [Bool.and_eq_true, decide_eq_true_eq]
  omega

theorem and_lineBit_eq_zero_iff {seen : U32} {line : U8} (onBus : line < cfBusLines) :
    seen &&& lineBit line = 0 ↔ seen.getLsbD line.toNat = false := by
  constructor
  · intro none
    have bit := congrArg (fun v => v.getLsbD line.toNat) none
    simp only [BitVec.getLsbD_and, lineBit_getLsbD onBus, decide_true, Bool.and_true] at bit
    exact bit.trans BitVec.getLsbD_zero
  · intro unseen
    apply BitVec.eq_of_getLsbD_eq
    intro i _
    have zero : (0 : U32).getLsbD i = false := BitVec.getLsbD_zero
    rw [BitVec.getLsbD_and, lineBit_getLsbD onBus, zero]
    by_cases same : i = line.toNat
    · rw [same, unseen, Bool.false_and]
    · rw [decide_eq_false same, Bool.and_false]

/-- Once a line is absent the loop takes only absent ones. -/
theorem validateAddressLines_ended (lines : List U8) (seen : U32) :
    validateAddressLines lines seen true = cmdDecodeOk ↔
      lines = List.replicate lines.length cfLineAbsent := by
  induction lines with
  | nil => simp [validateAddressLines]
  | cons line rest ih =>
    unfold validateAddressLines
    by_cases absent : line = cfLineAbsent
    · rw [if_pos (beq_iff_eq.mpr absent), ih, absent, List.length_cons, List.replicate_succ,
        List.cons.injEq]
      simp
    · rw [if_neg (mt beq_iff_eq.mp absent), if_pos rfl]
      constructor
      · intro refused
        cases refused
      · intro same
        exact (absent (List.cons.inj same).1).elim

/-- The lines a table may list when some are taken already. -/
structure Listable (seen : U32) (table : List U8) : Prop where
  onBus : ∀ line ∈ table, line < cfBusLines
  unseen : ∀ line ∈ table, seen.getLsbD line.toNat = false
  distinct : table.Nodup

theorem listable_cons_iff {seen : U32} {line : U8} {rest : List U8} :
    Listable seen (line :: rest) ↔
      line < cfBusLines ∧ seen.getLsbD line.toNat = false ∧ Listable (seen ||| lineBit line) rest := by
  constructor
  · intro table
    have onBus := table.onBus line List.mem_cons_self
    obtain ⟨absent, distinct⟩ := List.nodup_cons.mp table.distinct
    refine ⟨onBus, table.unseen line List.mem_cons_self, ?_, ?_, distinct⟩
    · intro other member
      exact table.onBus other (List.mem_cons_of_mem _ member)
    · intro other member
      rw [BitVec.getLsbD_or, table.unseen other (List.mem_cons_of_mem _ member),
        lineBit_getLsbD onBus, Bool.false_or, decide_eq_false]
      intro same
      rw [BitVec.eq_of_toNat_eq same] at member
      exact absent member
  · rintro ⟨onBus, unseen, table⟩
    have free (other : U8) (member : other ∈ rest) :
        seen.getLsbD other.toNat = false ∧ other ≠ line := by
      have later := table.unseen other member
      rw [BitVec.getLsbD_or, lineBit_getLsbD onBus, Bool.or_eq_false_iff] at later
      refine ⟨later.1, ?_⟩
      rintro rfl
      exact of_decide_eq_false later.2 rfl
    refine ⟨?_, ?_, ?_⟩
    · intro other member
      rcases List.mem_cons.mp member with rfl | member
      · exact onBus
      · exact table.onBus other member
    · intro other member
      rcases List.mem_cons.mp member with rfl | member
      · exact unseen
      · exact (free other member).1
    · refine List.nodup_cons.mpr ⟨?_, table.distinct⟩
      intro member
      exact (free line member).2 rfl

theorem absent_off_bus : ¬ cfLineAbsent < cfBusLines := by decide

/-- A table that starts with a present line lists that line first. -/
theorem table_cons {line : U8} {rest table : List U8} (present : line ≠ cfLineAbsent)
    (same : line :: rest =
      table ++ List.replicate ((line :: rest).length - table.length) cfLineAbsent) :
    ∃ later, table = line :: later ∧
      rest = later ++ List.replicate (rest.length - later.length) cfLineAbsent := by
  cases table with
  | nil =>
    have same : line :: rest = List.replicate (rest.length + 1) cfLineAbsent := same
    rw [List.replicate_succ] at same
    exact (present (List.cons.inj same).1).elim
  | cons first later =>
    obtain ⟨rfl, same⟩ := List.cons.inj same
    rw [List.length_cons, List.length_cons, Nat.add_sub_add_right] at same
    exact ⟨later, rfl, same⟩

/-- The loop takes a table of distinct lines followed by absent ones. -/
theorem validateAddressLines_iff (lines : List U8) (seen : U32) :
    validateAddressLines lines seen false = cmdDecodeOk ↔
      ∃ table, Listable seen table ∧ table.length ≤ lines.length ∧
        lines = table ++ List.replicate (lines.length - table.length) cfLineAbsent := by
  have nothing (seen : U32) : Listable seen [] := ⟨nofun, nofun, List.nodup_nil⟩
  induction lines generalizing seen with
  | nil =>
    constructor
    · intro _
      exact ⟨[], nothing seen, Nat.le_refl _, rfl⟩
    · intro _
      rfl
  | cons line rest ih =>
    unfold validateAddressLines
    by_cases absent : line = cfLineAbsent
    · rw [if_pos (beq_iff_eq.mpr absent), validateAddressLines_ended, absent]
      constructor
      · intro same
        refine ⟨[], nothing seen, Nat.zero_le _, ?_⟩
        show cfLineAbsent :: rest = List.replicate (rest.length + 1) cfLineAbsent
        rw [List.replicate_succ, ← same]
      · rintro ⟨table, listable, -, same⟩
        cases table with
        | nil =>
          have same : cfLineAbsent :: rest = List.replicate (rest.length + 1) cfLineAbsent := same
          rw [List.replicate_succ] at same
          exact (List.cons.inj same).2
        | cons first _ =>
          have onBus := listable.onBus first List.mem_cons_self
          rw [← (List.cons.inj same).1] at onBus
          exact (absent_off_bus onBus).elim
    · rw [if_neg (mt beq_iff_eq.mp absent), if_neg Bool.false_ne_true]
      have refuses {res : U8} (bad : res ≠ cmdDecodeOk)
          (unlisted : ∀ later, ¬ Listable seen (line :: later)) :
          res = cmdDecodeOk ↔ ∃ table, Listable seen table ∧ table.length ≤ (line :: rest).length ∧
            line :: rest =
              table ++ List.replicate ((line :: rest).length - table.length) cfLineAbsent := by
        constructor
        · intro accepted
          exact (bad accepted).elim
        · rintro ⟨table, listable, -, same⟩
          obtain ⟨later, rfl, -⟩ := table_cons absent same
          exact (unlisted later listable).elim
      by_cases onBus : line < cfBusLines
      · rw [if_neg (by simpa using onBus)]
        by_cases unseen : seen.getLsbD line.toNat = false
        · have free : ¬ (seen &&& lineBit line != 0) = true := by
            simp [(and_lineBit_eq_zero_iff onBus).mpr unseen]
          rw [if_neg free]
          refine (ih _).trans ?_
          constructor
          · rintro ⟨table, listable, short, same⟩
            refine ⟨line :: table, listable_cons_iff.mpr ⟨onBus, unseen, listable⟩,
              Nat.succ_le_succ short, ?_⟩
            rw [List.length_cons, List.length_cons, Nat.add_sub_add_right, List.cons_append, ← same]
          · rintro ⟨table, listable, short, same⟩
            obtain ⟨later, rfl, tail⟩ := table_cons absent same
            exact ⟨later, (listable_cons_iff.mp listable).2.2, Nat.le_of_succ_le_succ short, tail⟩
        · have taken : (seen &&& lineBit line != 0) = true := by
            rw [bne_iff_ne, Ne, and_lineBit_eq_zero_iff onBus]
            exact unseen
          rw [if_pos taken]
          exact refuses (by decide) fun _ listable => unseen (listable_cons_iff.mp listable).2.1
      · rw [if_pos (by simpa using onBus)]
        exact refuses (by decide) fun _ listable => onBus (listable_cons_iff.mp listable).1

/-! ## What is derived from the table -/

theorem deriveLines_table (table : List U8) (k : Nat) (mask : U32) {matching count : Nat}
    (onBus : ∀ line ∈ table, line < cfBusLines) (prefix_le : matching ≤ count) :
    deriveLines (table ++ List.replicate k cfLineAbsent) mask matching count =
      (table.foldl (fun mask line => mask ||| lineBit line) mask,
        if matching = count then count + identityFrom count table else matching,
        count + table.length) := by
  induction table generalizing mask matching count with
  | nil =>
    have stops : deriveLines ([] ++ List.replicate k cfLineAbsent) mask matching count =
        (mask, matching, count) := by
      cases k with
      | zero => rfl
      | succ k => exact if_pos rfl
    rw [stops]
    by_cases same : matching = count
    · simp [identityFrom, same]
    · simp [same]
  | cons line rest ih =>
    have first := onBus line List.mem_cons_self
    have present : line ≠ cfLineAbsent := by
      rintro rfl
      exact absent_off_bus first
    have later := fun line member => onBus line (List.mem_cons_of_mem _ member)
    rw [List.cons_append, deriveLines, if_neg (mt beq_iff_eq.mp present), List.foldl_cons,
      List.length_cons]
    by_cases same : matching = count
    · subst same
      by_cases own : line.toNat = matching
      · rw [if_pos (by simp [own]), ih _ later (Nat.le_refl _), if_pos rfl, if_pos rfl, identityFrom,
          if_pos own, Nat.add_assoc, Nat.add_assoc, Nat.add_comm 1, Nat.add_comm 1]
      · rw [if_neg (by simp [own]), ih _ later (by omega), if_neg (by omega), if_pos rfl,
          identityFrom, if_neg own, Nat.add_assoc, Nat.add_comm 1]
        rfl
    · rw [if_neg (by simp [same]), ih _ later (by omega), if_neg (by omega), if_neg same,
        Nat.add_assoc, Nat.add_comm 1]

theorem identityFrom_spec (i : Nat) (lines : List U8) :
    identityFrom i lines ≤ lines.length ∧
      (∀ k (inside : k < lines.length), k < identityFrom i lines → (lines[k]).toNat = i + k) ∧
      ∀ n, n ≤ lines.length →
        (∀ k (inside : k < lines.length), k < n → (lines[k]).toNat = i + k) →
          n ≤ identityFrom i lines := by
  induction lines generalizing i with
  | nil => exact ⟨Nat.le_refl _, nofun, fun n short _ => short⟩
  | cons line rest ih =>
    obtain ⟨short, identity, greatest⟩ := ih (i + 1)
    unfold identityFrom
    by_cases own : line.toNat = i
    · rw [if_pos own]
      refine ⟨Nat.succ_le_succ short, ?_, ?_⟩
      · intro k inside below
        cases k with
        | zero => exact own
        | succ k =>
          have next := identity k (Nat.lt_of_succ_lt_succ inside) (Nat.lt_of_succ_lt_succ below)
          rw [List.getElem_cons_succ]
          omega
      · intro n fits all
        cases n with
        | zero => exact Nat.zero_le _
        | succ n =>
          refine Nat.succ_le_succ (greatest n (Nat.le_of_succ_le_succ fits) ?_)
          intro k inside below
          have next := all (k + 1) (Nat.succ_lt_succ inside) (Nat.succ_lt_succ below)
          rw [List.getElem_cons_succ] at next
          omega
    · rw [if_neg own]
      refine ⟨Nat.zero_le _, fun _ _ below => absurd below (Nat.not_lt_zero _), ?_⟩
      intro n fits all
      cases n with
      | zero => exact Nat.zero_le _
      | succ n => exact (own (all 0 (Nat.zero_lt_succ _) (Nat.zero_lt_succ _))).elim

/-- The prefix is the longest one whose lines lie on the bus lines of their own numbers. -/
theorem identityPrefix_isGreatest (lines : List U8) :
    IsGreatest {n | n ≤ lines.length ∧
      ∀ k (_ : k < lines.length), k < n → (lines[k]).toNat = k} (identityPrefix lines) := by
  obtain ⟨short, identity, greatest⟩ := identityFrom_spec 0 lines
  simp only [Nat.zero_add] at identity greatest
  exact ⟨⟨short, identity⟩, fun n known => greatest n known.1 known.2⟩

/-! ## The decoder -/

theorem ite_refuse_iff {c : Prop} [Decidable c] {refusal res : U8} (bad : refusal ≠ cmdDecodeOk) :
    (if c then refusal else res) = cmdDecodeOk ↔ ¬ c ∧ res = cmdDecodeOk := by
  by_cases holds : c
  · simp [holds, bad]
  · simp [holds]

theorem ite_pass_iff {first res : U8} :
    (if (first != cmdDecodeOk) = true then first else res) = cmdDecodeOk ↔
      first = cmdDecodeOk ∧ res = cmdDecodeOk := by
  by_cases holds : first = cmdDecodeOk
  · simp [holds]
  · simp [holds]

theorem payloadEnd_eq {f : MemoryFrame} {p : Nat → U8} (read : f.ReadFrom p) :
    payloadEnd f.cmd p = f.operationEnd := by
  unfold payloadEnd MemoryFrame.operationEnd
  rw [← read.memSize, ← read.regionEnd]
  simp [Bool.and_eq_true, and_assoc]

theorem busLineValid_iff {line : U8} :
    busLineValid line = true ↔ line = cfLineAbsent ∨ line < cfBusLines := by
  unfold busLineValid
  rw [Bool.or_eq_true, beq_iff_eq, decide_eq_true_iff]

/-- The checks of the payload are those of the grammar. -/
theorem validateMemory_iff {f : MemoryFrame} {p : Nat → U8} (read : f.ReadFrom p) :
    validateMemory f.cmd p = cmdDecodeOk ↔
      validateAddressLines f.table 0 false = cmdDecodeOk ∧
      ((f.rwLine = cfLineAbsent ∨ f.rwLine < cfBusLines) ∧
        (f.vppLine = cfLineAbsent ∨ f.vppLine < cfBusLines)) ∧
      f.staticHighMask >>> cfBusLines.toNat = 0 ∧
      (f.readSettlingUs ≤ cfReadTimingMaxUs ∧ f.readStrobeUs ≤ cfReadTimingMaxUs) ∧
      (isMemoryCmd f.cmd = true → f.memSize ≠ 0 ∧ f.protocol ≠ 0 ∧ f.pins ≠ 0 ∧ f.vppMv ≠ 0) ∧
      f.vppMv ≤ cfVppMaxMv ∧
      (f.cmd = cmdRead ∨ f.cmd = cmdWrite → f.address ≤ f.operationEnd) := by
  unfold validateMemory
  rw [payloadEnd_eq read, ← read.table, ← read.rwLine, ← read.vppLine, ← read.staticHighMask,
    ← read.readSettlingUs, ← read.readStrobeUs, ← read.memSize, ← read.protocol, ← read.pins,
    ← read.vppMv, ← read.address, ite_pass_iff, ite_refuse_iff (by decide), ite_refuse_iff (by decide),
    ite_refuse_iff (by decide), ite_refuse_iff (by decide), ite_refuse_iff (by decide),
    ite_refuse_iff (by decide), ← busLineValid_iff, ← busLineValid_iff]
  simp only [Bool.or_eq_true, Bool.and_eq_true, Bool.not_eq_true', beq_iff_eq, bne_iff_ne, ne_eq,
    decide_eq_true_eq, gt_iff_lt, BitVec.not_lt, not_or, not_and, Bool.not_eq_false, not_not,
    and_true]
  tauto

theorem validateConfig_iff {b : Build} {f : ConfigFrame} {p : Nat → U8} (read : f.ReadFrom p) :
    validateConfig b p = cmdDecodeOk ↔
      f.present &&& ~~~cfConfigPresentMask = 0 ∧
      (f.present &&& cfConfigPresentRev ≠ 0 → b.hardwareRevision = true) ∧
      (f.present &&& cfConfigPresentBg ≠ 0 → b.hasBandgapCal = true) ∧
      (f.present &&& cfConfigPresentRev ≠ 0 → f.revision = 0xFF ∨ f.revision ≤ cfRevisionMax) := by
  unfold validateConfig
  rw [← read.present, ← read.revision, ite_refuse_iff (by decide), ite_refuse_iff (by decide),
    ite_refuse_iff (by decide), ite_refuse_iff (by decide)]
  simp only [Bool.and_eq_true, Bool.not_eq_true', bne_iff_ne, ne_eq, decide_eq_true_eq, gt_iff_lt,
    BitVec.not_lt, not_and, not_not, and_true]
  cases b.hardwareRevision <;> cases b.hasBandgapCal <;> tauto

/-- The payload a command carries. -/
def payloadSize (cmd : U8) : Nat :=
  match cfPayloadKind cmd with
  | .memory => cfMemorySize
  | .config => cfConfigSize
  | .none => 0

/-- The frame in the handle's buffer passes the decoder's checks. -/
structure Admitted (b : Build) (h : Handle) : Prop where
  header : HeaderIs h (h.dataBuffer 2) (be16 h.dataBuffer 3) (payloadSize (h.dataBuffer 2))
  flags : be16 h.dataBuffer 3 &&& ~~~cfFlagsMask = 0
  memory : cfPayloadKind (h.dataBuffer 2) = .memory →
    validateMemory (h.dataBuffer 2) h.framePayload = cmdDecodeOk
  config : cfPayloadKind (h.dataBuffer 2) = .config → validateConfig b h.framePayload = cmdDecodeOk

/-- What the decoder makes of the handle when it accepts. -/
def Handle.decoded (h : Handle) : Handle :=
  let cmd := h.dataBuffer 2
  let flags := be16 h.dataBuffer 3
  if cfPayloadKind cmd = .memory then
    applyMemory { h with cmd := cmd, ctrlFlags := flags } h.framePayload
  else { h with cmd := cmd, ctrlFlags := flags, protocol := 0, pulseDelay := 0 }

theorem payloadSize_lt (cmd : U8) : payloadSize cmd < 2 ^ 16 := by
  unfold payloadSize
  cases cfPayloadKind cmd <;> decide

/-- The decoder accepts and writes everything, or refuses and writes nothing. -/
theorem cmdDecode_cases (b : Build) (h : Handle) :
    Admitted b h ∧ cmdDecode b h = (h.decoded, cmdDecodeOk) ∨
      ¬ Admitted b h ∧ ∃ res, res ≠ cmdDecodeOk ∧ cmdDecode b h = (h, res) := by
  generalize result : cmdDecode b h = r
  unfold cmdDecode at result
  dsimp only at result
  have refuses {res : U8} (bad : res ≠ cmdDecodeOk) (why : ¬ Admitted b h) (same : r = (h, res)) :
      Admitted b h ∧ r = (h.decoded, cmdDecodeOk) ∨
        ¬ Admitted b h ∧ ∃ res, res ≠ cmdDecodeOk ∧ r = (h, res) := .inr ⟨why, res, bad, same⟩
  by_cases start : (h.dataSize.toNat < cfHeaderSize || h.dataBuffer 0 != cfMagic) = true
  · rw [if_pos start] at result
    refine refuses (by decide) (fun admitted => ?_) result.symm
    have size := admitted.header.size
    have magic := admitted.header.magic
    simp [magic] at start
    omega
  rw [if_neg start] at result
  by_cases version : (h.dataBuffer 1 != cfVersion) = true
  · rw [if_pos version] at result
    refine refuses (by decide) (fun admitted => ?_) result.symm
    simp [admitted.header.version] at version
  rw [if_neg version] at result
  by_cases flags : (be16 h.dataBuffer 3 &&& ~~~cfFlagsMask != 0) = true
  · rw [if_pos flags] at result
    refine refuses (by decide) (fun admitted => ?_) result.symm
    simp [admitted.flags] at flags
  rw [if_neg flags] at result
  have bound := payloadSize_lt (h.dataBuffer 2)
  by_cases lengths : ((be16 h.dataBuffer 5).toNat != payloadSize (h.dataBuffer 2) ||
      h.dataSize.toNat != cfHeaderSize + (be16 h.dataBuffer 5).toNat) = true
  · refine refuses (by decide) (fun admitted => ?_) ((if_pos lengths).symm.trans result).symm
    have length := congrArg BitVec.toNat admitted.header.length
    rw [BitVec.toNat_ofNat, Nat.mod_eq_of_lt bound] at length
    have size := admitted.header.size
    simp [length, size] at lengths
  have result := (if_neg lengths).symm.trans result
  simp only [Bool.or_eq_true, decide_eq_true_eq, bne_iff_ne, ne_eq, not_or, not_not] at start version flags lengths
  have header : HeaderIs h (h.dataBuffer 2) (be16 h.dataBuffer 3) (payloadSize (h.dataBuffer 2)) := by
    refine ⟨by omega, start.2, version, rfl, rfl, ?_⟩
    rw [← lengths.1, BitVec.ofNat_toNat, BitVec.setWidth_eq]
  have accepts (memory : cfPayloadKind (h.dataBuffer 2) = .memory →
        validateMemory (h.dataBuffer 2) h.framePayload = cmdDecodeOk)
      (config : cfPayloadKind (h.dataBuffer 2) = .config → validateConfig b h.framePayload = cmdDecodeOk)
      (same : (h.decoded, cmdDecodeOk) = r) :
      Admitted b h ∧ r = (h.decoded, cmdDecodeOk) ∨
        ¬ Admitted b h ∧ ∃ res, res ≠ cmdDecodeOk ∧ r = (h, res) :=
    .inl ⟨⟨header, flags, memory, config⟩, same.symm⟩
  by_cases memory : cfPayloadKind (h.dataBuffer 2) = .memory
  · rw [if_pos memory] at result
    by_cases bad : (validateMemory (h.dataBuffer 2) h.framePayload != cmdDecodeOk) = true
    · refine refuses (bne_iff_ne.mp bad) (fun admitted => ?_) ((if_pos bad).symm.trans result).symm
      exact bne_iff_ne.mp bad (admitted.memory memory)
    · have result := (if_neg bad).symm.trans result
      refine accepts (fun _ => by simpa using bad) (fun config => ?_) ?_
      · rw [memory] at config
        cases config
      · rw [← result, Handle.decoded, if_pos memory]
        rfl
  · rw [if_neg memory] at result
    by_cases bad : ((if cfPayloadKind (h.dataBuffer 2) = .config then
        validateConfig b h.framePayload else cmdDecodeOk) != cmdDecodeOk) = true
    · refine refuses (bne_iff_ne.mp bad) (fun admitted => ?_) ((if_pos bad).symm.trans result).symm
      by_cases config : cfPayloadKind (h.dataBuffer 2) = .config
      · rw [if_pos config, admitted.config config] at bad
        cases bad
      · rw [if_neg config] at bad
        cases bad
    · have result := (if_neg bad).symm.trans result
      refine accepts (fun kind => (memory kind).elim) (fun config => ?_) ?_
      · rw [if_pos config] at bad
        simpa using bad
      · rw [← result, Handle.decoded, if_neg memory]

/-! ## The decoder accepts the grammar -/

section
variable {b : Build} {h : Handle}

theorem payloadSize_of_kind (cmd : U8) :
    (cfPayloadKind cmd = .memory → payloadSize cmd = cfMemorySize) ∧
      (cfPayloadKind cmd = .config → payloadSize cmd = cfConfigSize) ∧
      (cfPayloadKind cmd = .none → payloadSize cmd = 0) := by
  unfold payloadSize
  refine ⟨fun kind => ?_, fun kind => ?_, fun kind => ?_⟩ <;> rw [kind]

theorem payloadKind_of_memory {cmd : U8} (memory : isMemoryCmd cmd = true) :
    cfPayloadKind cmd = .memory := by
  simp only [isMemoryCmd, Bool.or_eq_true, beq_iff_eq] at memory
  obtain ((((((rfl | rfl) | rfl) | rfl) | rfl) | rfl) | rfl) := memory <;> rfl

/-- Two of the development commands have a memory's payload as well. -/
theorem devCommand_of_payloadKind {cmd : U8} (kind : cfPayloadKind cmd = .memory)
    (other : isMemoryCmd cmd = false) : cmd = cmdDevAddress ∨ cmd = cmdDevRegister := by
  unfold cfPayloadKind at kind
  split_ifs at kind with listed
  simp only [List.mem_cons, List.not_mem_nil, or_false] at listed
  rcases listed with rfl | rfl | rfl | rfl | rfl | rfl | rfl | rfl | rfl
  all_goals first | exact .inl rfl | exact .inr rfl | cases other

/-- The table of a frame is what the loop takes, and only that. -/
theorem MemoryFrame.table_valid_iff {f : MemoryFrame} (lineCount : f.lines.length ≤ cfAddressLines)
    (onBus : ∀ line ∈ f.lines, line < cfBusLines) (distinct : f.lines.Nodup) :
    validateAddressLines f.table 0 false = cmdDecodeOk := by
  refine (validateAddressLines_iff _ _).mpr ⟨f.lines, ⟨onBus, ?_, distinct⟩, ?_, ?_⟩
  · intro line _
    exact BitVec.getLsbD_zero
  · rw [f.table_length lineCount]
    exact lineCount
  · rw [f.table_length lineCount]
    rfl

theorem applyMemory_eq {f : MemoryFrame} (wellFormed : f.WellFormed) {p : Nat → U8}
    (read : f.ReadFrom p) :
    applyMemory { h with cmd := f.cmd, ctrlFlags := f.flags } p = (CommandFrame.memory f).apply h := by
  have derived : deriveLines (payloadAddressLines p) 0 0 0 =
      (lineMask f.lines, identityPrefix f.lines, f.lines.length) := by
    rw [← read.table]
    refine (deriveLines_table f.lines _ 0 wellFormed.onBus (Nat.le_refl 0)).trans ?_
    rw [if_pos rfl, Nat.zero_add, Nat.zero_add]
    rfl
  have empty : (f.lines.length == 0) = decide (f.lines = []) := by
    cases f.lines <;> simp
  unfold applyMemory CommandFrame.apply
  dsimp only
  rw [derived]
  dsimp only
  rw [← read.table, ← read.memSize, ← read.address, ← read.regionEnd, ← read.protocol, ← read.pins,
    ← read.vppMv, ← read.pulseDelay, ← read.chipId, ← read.pageSize, ← read.readSettlingUs,
    ← read.readStrobeUs, ← read.rwLine, ← read.vppLine, ← read.staticHighMask, empty]
  simp only [decide_eq_true_eq]

theorem admitted_of_frame {f : CommandFrame} (wellFormed : f.WellFormed b)
    (same : f.bytes = h.payload) : Admitted b h ∧ h.decoded = f.apply h := by
  obtain ⟨memorySize, configSize, noSize⟩ := payloadSize_of_kind (h.dataBuffer 2)
  cases f with
  | memory f =>
    have wellFormed : f.WellFormed := wellFormed
    obtain ⟨header, read⟩ := (f.bytes_eq_payload_iff wellFormed.lineCount).mp same
    have kind : cfPayloadKind (h.dataBuffer 2) = .memory := by
      rw [header.cmd]
      exact wellFormed.kind
    refine ⟨⟨?_, ?_, fun _ => ?_, fun config => ?_⟩, ?_⟩
    · rw [memorySize kind, header.cmd, header.flags]
      exact header
    · rw [header.flags]
      exact wellFormed.flags
    · rw [header.cmd]
      refine (validateMemory_iff read).mpr ⟨f.table_valid_iff wellFormed.lineCount wellFormed.onBus
        wellFormed.distinct, ⟨wellFormed.rwLine, wellFormed.vppLine⟩, wellFormed.staticHigh,
        ⟨wellFormed.settling, wellFormed.strobe⟩, wellFormed.mandatory, wellFormed.vpp,
        wellFormed.cursor⟩
    · rw [kind] at config
      cases config
    · rw [Handle.decoded, if_pos kind, header.cmd, header.flags]
      exact applyMemory_eq wellFormed read
  | config f =>
    have wellFormed : f.WellFormed b := wellFormed
    obtain ⟨header, read⟩ := f.bytes_eq_payload_iff.mp same
    have kind : cfPayloadKind (h.dataBuffer 2) = .config := by
      rw [header.cmd]
      exact wellFormed.kind
    refine ⟨⟨?_, ?_, fun memory => ?_, fun _ => ?_⟩, ?_⟩
    · rw [configSize kind, header.cmd, header.flags]
      exact header
    · rw [header.flags]
      exact wellFormed.flags
    · rw [kind] at memory
      cases memory
    · exact (validateConfig_iff read).mpr ⟨wellFormed.known, wellFormed.hasRevision,
        wellFormed.hasBandgap, wellFormed.revision⟩
    · rw [Handle.decoded, if_neg (by rw [kind]; nofun), header.cmd, header.flags]
      rfl
  | bare cmd flags =>
    have wellFormed : cfPayloadKind cmd = .none ∧ flags &&& ~~~cfFlagsMask = 0 := wellFormed
    have header := bare_bytes_eq_payload_iff.mp same
    have kind : cfPayloadKind (h.dataBuffer 2) = .none := by
      rw [header.cmd]
      exact wellFormed.1
    refine ⟨⟨?_, ?_, fun memory => ?_, fun config => ?_⟩, ?_⟩
    · rw [noSize kind, header.cmd, header.flags]
      exact header
    · rw [header.flags]
      exact wellFormed.2
    · rw [kind] at memory
      cases memory
    · rw [kind] at config
      cases config
    · rw [Handle.decoded, if_neg (by rw [kind]; nofun), header.cmd, header.flags]
      rfl

theorem exists_frame (admitted : Admitted b h) :
    ∃ f : CommandFrame, f.WellFormed b ∧ f.bytes = h.payload := by
  obtain ⟨memorySize, configSize, noSize⟩ := payloadSize_of_kind (h.dataBuffer 2)
  have header := admitted.header
  let p := h.framePayload
  cases kind : cfPayloadKind (h.dataBuffer 2) with
  | memory =>
    have valid := admitted.memory kind
    have table : validateAddressLines (payloadAddressLines p) 0 false = cmdDecodeOk := by
      unfold validateMemory at valid
      exact (ite_pass_iff.mp valid).1
    obtain ⟨lines, listable, short, padded⟩ := (validateAddressLines_iff _ _).mp table
    have short : lines.length ≤ cfAddressLines := short
    let f : MemoryFrame := {
      cmd := h.dataBuffer 2, flags := be16 h.dataBuffer 3
      memSize := be32 p cfMemoryOffMemSize, address := be32 p cfMemoryOffAddress
      regionEnd := be32 p cfMemoryOffRegionEnd, protocol := p cfMemoryOffProtocol
      pins := p cfMemoryOffPins, vppMv := be16 p cfMemoryOffVppMv
      pulseDelay := be32 p cfMemoryOffPulseDelay, chipId := be16 p cfMemoryOffChipId
      pageSize := be16 p cfMemoryOffPageSize, readSettlingUs := be32 p cfMemoryOffReadSettlingUs
      readStrobeUs := be32 p cfMemoryOffReadStrobeUs, lines := lines
      rwLine := p cfMemoryOffRwLine, vppLine := p cfMemoryOffVppLine
      staticHighMask := be32 p cfMemoryOffStaticHighMask }
    have read : f.ReadFrom p := ⟨rfl, rfl, rfl, rfl, rfl, rfl, rfl, rfl, rfl, rfl, rfl, padded.symm,
      rfl, rfl, rfl⟩
    obtain ⟨-, control, staticHigh, timing, mandatory, vpp, cursor⟩ :=
      (validateMemory_iff read).mp valid
    have wellFormed : f.WellFormed := ⟨kind, admitted.flags, short, listable.onBus,
      listable.distinct, control.1, control.2, staticHigh, timing.1, timing.2, mandatory, vpp, cursor⟩
    rw [memorySize kind] at header
    exact ⟨.memory f, wellFormed, (f.bytes_eq_payload_iff short).mpr ⟨header, read⟩⟩
  | config =>
    let f : ConfigFrame := {
      cmd := h.dataBuffer 2, flags := be16 h.dataBuffer 3, present := p cfConfigOffPresent
      r1 := be32 p cfConfigOffR1, r2 := be32 p cfConfigOffR2, revision := p cfConfigOffRev
      retired := be16 p 10, bandgapMv := be16 p cfConfigOffBg }
    have read : f.ReadFrom p := ⟨rfl, rfl, rfl, rfl, rfl, rfl⟩
    obtain ⟨known, revision, bandgap, range⟩ := (validateConfig_iff read).mp (admitted.config kind)
    have wellFormed : f.WellFormed b := ⟨kind, admitted.flags, known, revision, bandgap, range⟩
    rw [configSize kind] at header
    exact ⟨.config f, wellFormed, f.bytes_eq_payload_iff.mpr ⟨header, read⟩⟩
  | none =>
    rw [noSize kind] at header
    exact ⟨.bare (h.dataBuffer 2) (be16 h.dataBuffer 3), ⟨kind, admitted.flags⟩,
      bare_bytes_eq_payload_iff.mpr header⟩

end

/-- The decoder accepts exactly the bytes of a well-formed frame; a refused frame changes nothing,
and an accepted one writes what the frame says and nothing else. -/
theorem command_frame_grammar (b : Build) (h : Handle) :
    ((cmdDecode b h).2 = cmdDecodeOk ↔
      ∃ f : CommandFrame, f.WellFormed b ∧ f.bytes = h.payload) ∧
    ((cmdDecode b h).2 ≠ cmdDecodeOk → (cmdDecode b h).1 = h) ∧
    ∀ f : CommandFrame, f.WellFormed b → f.bytes = h.payload →
      (cmdDecode b h).1 = f.apply h := by
  rcases cmdDecode_cases b h with ⟨admitted, same⟩ | ⟨refused, res, bad, same⟩
  · rw [same]
    refine ⟨⟨fun _ => exists_frame admitted, fun _ => rfl⟩, fun refused => (refused rfl).elim, ?_⟩
    intro f wellFormed bytes
    exact (admitted_of_frame wellFormed bytes).2
  · rw [same]
    have none (f : CommandFrame) (wellFormed : f.WellFormed b) : f.bytes ≠ h.payload :=
      fun bytes => refused (admitted_of_frame wellFormed bytes).1
    refine ⟨⟨fun ok => (bad ok).elim, ?_⟩, fun _ => rfl, ?_⟩
    · rintro ⟨f, wellFormed, bytes⟩
      exact (none f wellFormed bytes).elim
    · intro f wellFormed bytes
      exact (none f wellFormed bytes).elim

end Firestarter
