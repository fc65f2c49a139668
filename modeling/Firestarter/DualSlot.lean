import Firestarter.Types
import Mathlib.Algebra.Group.Nat.Defs
import Mathlib.Data.List.Induction

/-! The configuration store of the PY32 (`config_storage_dualslot.cpp`): two flash pages, each with
a record that its CRC protects. A save goes to the page that does not hold the newest record, so
that it can be cut off anywhere. -/
namespace Firestarter.DualSlot

/-! ## Words in bytes -/

/-- The low bytes of a number, the lowest first. -/
def leBytes : (count : Nat) → Nat → List U8
  | 0, _ => []
  | count + 1, n => BitVec.ofNat 8 n :: leBytes count (n / 256)

def leNat : List U8 → Nat
  | [] => 0
  | b :: rest => b.toNat + 256 * leNat rest

@[simp] theorem leBytes_length (count n : Nat) : (leBytes count n).length = count := by
  induction count generalizing n with
  | zero => rfl
  | succ count ih => rw [leBytes, List.length_cons, ih]

theorem leNat_leBytes (count n : Nat) (fits : n < 256 ^ count) : leNat (leBytes count n) = n := by
  induction count generalizing n with
  | zero => simp [leBytes, leNat] at *; omega
  | succ count ih =>
    rw [Nat.pow_succ] at fits
    rw [leBytes, leNat, ih (n / 256) (by omega), BitVec.toNat_ofNat]
    omega

/-! ## The record -/

/-- `sizeof(rurp_configuration_t)` on this board. -/
def configSize : Nat := 20

def configMagic : Nat := 0x52555250

/-- `offsetof(StoredConfiguration, crc32)`; the record has no padding here. -/
def crcOffset : Nat := 12 + configSize

def pageSize : Nat := 256

structure Page where
  bytes : List U8
  full : bytes.length = pageSize
  deriving DecidableEq

namespace Page

/-- A field of the record at the start of the page. -/
def field (p : Page) (offset size : Nat) : List U8 := (p.bytes.drop offset).take size

def magic (p : Page) : Nat := leNat (p.field 0 4)
def length (p : Page) : Nat := leNat (p.field 6 2)
def configuration (p : Page) : List U8 := p.field 8 configSize
def sequence (p : Page) : Nat := leNat (p.field (8 + configSize) 4)
def crc32 (p : Page) : Nat := leNat (p.field crcOffset 4)

/-- An erased page. -/
def erased : Page := ⟨List.replicate pageSize 0xFF, List.length_replicate⟩

end Page

def crcBit (crc : U32) : U32 :=
  if crc &&& 1 ≠ 0 then (crc >>> 1) ^^^ 0xEDB88320 else crc >>> 1

/-- `rurp_config_crc32`: bitwise and reflected. -/
def rurpConfigCrc32 (data : List U8) : U32 :=
  ~~~ data.foldl (fun crc b => (List.range 8).foldl (fun crc _ => crcBit crc) (crc ^^^ b.setWidth 32))
    0xFFFFFFFF

/-- Magic first, then the length against the caller's buffer, then the CRC. -/
def validateRecord (p : Page) (len : Nat) : Bool :=
  p.magic == configMagic && p.length ≤ len &&
    p.crc32 == (rurpConfigCrc32 (p.bytes.take crcOffset)).toNat

/-- The fields of a new record before its CRC; the version is 1. -/
def recordHead (blob : List U8) (sequence : Nat) : List U8 :=
  leBytes 4 configMagic ++ leBytes 2 1 ++ leBytes 2 blob.length ++
    (blob.take configSize ++ List.replicate (configSize - blob.length) 0) ++ leBytes 4 sequence

theorem recordHead_length (blob : List U8) (sequence : Nat) :
    (recordHead blob sequence).length = crcOffset := by
  simp [recordHead, crcOffset, configSize]
  omega

/-- The whole page of a new record, filled up with 0xFF. -/
def recordPage (blob : List U8) (sequence : Nat) : Page where
  bytes := recordHead blob sequence ++ leBytes 4 (rurpConfigCrc32 (recordHead blob sequence)).toNat ++
    List.replicate (pageSize - crcOffset - 4) 0xFF
  full := by
    rw [List.length_append, List.length_append, recordHead_length, leBytes_length,
      List.length_replicate]
    rfl

/-! ## Load and save -/

inductive Slot
  | a | b
  deriving DecidableEq, Repr

def Slot.other : Slot → Slot
  | .a => .b
  | .b => .a

abbrev Flash := Slot → Page

def Flash.set (f : Flash) (slot : Slot) (p : Page) : Flash := fun s => if s = slot then p else f s

/-- `scan_slots`: the record that validates with the strictly higher sequence, the first slot's on
a tie. -/
def scanSlots (f : Flash) (len : Nat) : Option Slot :=
  let first := if validateRecord (f .a) len then some Slot.a else none
  if validateRecord (f .b) len then
    match first with
    | none => some .b
    | some slot => if (f .b).sequence > (f slot).sequence then some .b else some slot
  else first

/-- `rurp_dualslot_load`: the caller's buffer with the configuration over it. -/
def rurpDualslotLoad (f : Flash) (buffer : List U8) : Option (List U8) :=
  (scanSlots f buffer.length).map fun slot =>
    let copied := min (f slot).length buffer.length
    (f slot).configuration.take copied ++ buffer.drop copied

/-- How a flash operation ends: as it should, with a report of failure, or with the power cut. In
the last two cases the page holds some image. -/
inductive FlashResult
  | done
  | failed (image : Page)
  | cut (image : Page)

inductive FlashOp
  | erase (slot : Slot)
  | program (slot : Slot) (page : Page)

def FlashOp.slot : FlashOp → Slot
  | .erase slot | .program slot _ => slot

/-- What a save leaves behind; it reports nothing when the power was cut. -/
structure Saved where
  flash : Flash
  reported : Option Bool
  ops : List FlashOp

def savesTo (f : Flash) : Slot :=
  match scanSlots f configSize with
  | some slot => slot.other
  | none => .a

/-- There is no branch for a wrap-around. -/
def nextSequence (f : Flash) : Nat :=
  match scanSlots f configSize with
  | some slot => ((f slot).sequence + 1) % 2 ^ 32
  | none => 1

/-- `rurp_dualslot_save` -/
def rurpDualslotSave (f : Flash) (blob : List U8) (erase program : FlashResult) : Saved :=
  let slot := savesTo f
  let page := recordPage blob (nextSequence f)
  match erase with
  | .failed image => ⟨f.set slot image, some false, [.erase slot]⟩
  | .cut image => ⟨f.set slot image, none, [.erase slot]⟩
  | .done =>
    let ops := [.erase slot, .program slot page]
    match program with
    | .done => ⟨(f.set slot .erased).set slot page, some true, ops⟩
    | .failed image => ⟨(f.set slot .erased).set slot image, some false, ops⟩
    | .cut image => ⟨(f.set slot .erased).set slot image, none, ops⟩

/-! ## Runs of saves -/

/-- What a page can hold when an operation on it did not end well: what it held before the save, an
image that does not validate, or the whole new record. -/
def Torn (before new image : Page) : Prop :=
  image = before ∨ validateRecord image configSize = false ∨ image = new

def FlashResult.Possible (before new : Page) : FlashResult → Prop
  | .done => True
  | .failed image | .cut image => Torn before new image

/-- One save of a run. -/
structure Save where
  before : Flash
  blob : List U8
  erase : FlashResult
  program : FlashResult

namespace Save

variable (s : Save)

def outcome : Saved := rurpDualslotSave s.before s.blob s.erase s.program

def slot : Slot := savesTo s.before

def sequence : Nat := nextSequence s.before

def page : Page := recordPage s.blob s.sequence

/-- The record was completely written. -/
def written : Bool := s.outcome.flash s.slot = s.page

def succeeded : Bool := s.outcome.reported = some true

structure Possible : Prop where
  blob : s.blob.length = configSize
  erase : s.erase.Possible (s.before s.slot) s.page
  program : s.program.Possible (s.before s.slot) s.page

end Save

/-- The saves of a run, oldest first, and the flash they lead to. -/
inductive Run (start : Flash) : List Save → Flash → Prop
  | start : Run start [] start
  | save {saves : List Save} {s : Save} (before : Run start saves s.before) (possible : s.Possible) :
    Run start (saves ++ [s]) s.outcome.flash

def Page.sequenceIfValid (p : Page) : Nat := if validateRecord p configSize then p.sequence else 0

/-- The highest sequence of a record that validates. -/
def highest (f : Flash) : Nat := max (f .a).sequenceIfValid (f .b).sequenceIfValid

/-- The last save whose record was completely written. -/
def lastWritten (saves : List Save) : Option Save := (saves.filter Save.written).getLast?

/-- A power cut or a failure at any point of any save costs nothing but that save. -/
structure PowerFailSafe (start : Flash) (saves : List Save) (f : Flash) : Prop where
  loads : (∃ s ∈ saves, s.succeeded = true) → ∃ last, lastWritten saves = some last ∧
    ∀ buffer : List U8, buffer.length = configSize → rurpDualslotLoad f buffer = some last.blob
  /-- The page of the newest record is not touched by the next save. -/
  spared : ∀ earlier s later, saves = earlier ++ s :: later →
    (∃ t ∈ earlier, t.succeeded = true) → ∃ last, lastWritten earlier = some last ∧
      s.before last.slot = last.page ∧ ∀ op ∈ s.outcome.ops, op.slot ≠ last.slot
  increasing : (highest start :: (saves.filter Save.written).map Save.sequence).Pairwise (· < ·)
  erasedFirst : ∀ s ∈ saves, ∀ earlier slot page later,
    s.outcome.ops = earlier ++ .program slot page :: later → .erase slot ∈ earlier
  success : ∀ s ∈ saves, s.succeeded = true → ∀ buffer : List U8, buffer.length = configSize →
    rurpDualslotLoad s.outcome.flash buffer = some s.blob

/-! ## A new record -/

theorem field_of_prefix {p : Page} {before part : List U8} (starts : before ++ part <+: p.bytes)
    {offset size : Nat} (start : before.length = offset) (length : part.length = size) :
    p.field offset size = part := by
  obtain ⟨after, bytes⟩ := starts
  rw [Page.field, ← bytes, List.append_assoc, ← start, List.drop_left, ← length, List.take_left]

/-- The page of a new record, field by field. -/
structure Holds (p : Page) (blob : List U8) (sequence : Nat) : Prop where
  magic : p.magic = configMagic
  length : p.length = configSize
  configuration : p.configuration = blob
  sequence : p.sequence = sequence
  valid : validateRecord p configSize = true

theorem recordPage_holds {blob : List U8} {sequence : Nat} (length : blob.length = configSize)
    (bound : sequence < 2 ^ 32) : Holds (recordPage blob sequence) blob sequence := by
  let crc := rurpConfigCrc32 (recordHead blob sequence)
  have head : recordHead blob sequence =
      leBytes 4 configMagic ++ leBytes 2 1 ++ leBytes 2 configSize ++ blob ++ leBytes 4 sequence := by
    unfold recordHead
    rw [length, Nat.sub_self, List.replicate_zero, List.append_nil, ← length, List.take_length]
  have whole : recordHead blob sequence ++ leBytes 4 crc.toNat <+: (recordPage blob sequence).bytes :=
    List.prefix_append _ _
  have upToHead := (List.prefix_append _ _).trans whole
  rw [head] at upToHead
  have upToBlob := (List.prefix_append _ _).trans upToHead
  have upToLength := (List.prefix_append _ _).trans upToBlob
  have upToVersion := (List.prefix_append _ _).trans upToLength
  have magic : (recordPage blob sequence).magic = configMagic := by
    have upToMagic : [] ++ leBytes 4 configMagic <+: (recordPage blob sequence).bytes :=
      (List.prefix_append _ _).trans upToVersion
    have field : (recordPage blob sequence).field 0 4 = leBytes 4 configMagic :=
      field_of_prefix upToMagic rfl (leBytes_length _ _)
    rw [Page.magic, field]
    exact leNat_leBytes 4 configMagic (by decide)
  have size : (recordPage blob sequence).length = configSize := by
    rw [Page.length, field_of_prefix upToLength (by simp) (leBytes_length _ _)]
    exact leNat_leBytes 2 configSize (by decide)
  have stored : (recordPage blob sequence).crc32 = crc.toNat := by
    rw [Page.crc32, field_of_prefix whole (recordHead_length _ _) (leBytes_length _ _)]
    exact leNat_leBytes 4 crc.toNat (by have := crc.isLt; omega)
  have covered : (recordPage blob sequence).bytes.take crcOffset = recordHead blob sequence := by
    obtain ⟨after, bytes⟩ := whole
    rw [← bytes, List.append_assoc, ← recordHead_length blob sequence, List.take_left]
  refine ⟨magic, size, ?_, ?_, ?_⟩
  · exact field_of_prefix upToBlob (by simp) length
  · rw [Page.sequence, field_of_prefix upToHead (by simp [length, configSize]) (leBytes_length _ _)]
    exact leNat_leBytes 4 sequence (by omega)
  · rw [validateRecord, magic, size, stored, covered]
    simp [crc]

theorem erased_invalid : validateRecord .erased configSize = false := by decide +kernel

/-! ## The scan -/

/-- The scan finds a record exactly when one validates, and it is one of the highest. -/
theorem scanSlots_spec (f : Flash) :
    match scanSlots f configSize with
    | some slot => validateRecord (f slot) configSize = true ∧ (f slot).sequence = highest f
    | none => (∀ slot, validateRecord (f slot) configSize = false) ∧ highest f = 0 := by
  unfold scanSlots highest Page.sequenceIfValid
  cases validA : validateRecord (f .a) configSize with
  | false =>
    cases validB : validateRecord (f .b) configSize with
    | false =>
      refine ⟨?_, rfl⟩
      rintro (_ | _)
      · exact validA
      · exact validB
    | true => simp [validB]
  | true =>
    cases validB : validateRecord (f .b) configSize with
    | false => simp [validA]
    | true =>
      by_cases newer : (f .b).sequence > (f .a).sequence
      · simp [validB, newer]
        omega
      · simp [validA, newer]
        omega

/-- A record with the strictly highest sequence is the one found. -/
theorem scanSlots_top {f : Flash} {slot : Slot} (valid : validateRecord (f slot) configSize = true)
    (top : validateRecord (f slot.other) configSize = true →
      (f slot.other).sequence < (f slot).sequence) :
    scanSlots f configSize = some slot := by
  unfold scanSlots
  cases slot with
  | a =>
    rw [valid]
    cases other : validateRecord (f .b) configSize with
    | false => rfl
    | true =>
      have lower : (f .b).sequence < (f .a).sequence := top other
      simp
      omega
  | b =>
    rw [valid]
    cases other : validateRecord (f .a) configSize with
    | false => rfl
    | true =>
      have lower : (f .a).sequence < (f .b).sequence := top other
      simp [lower]

/-! ## One save -/

@[simp] theorem Flash.set_same (f : Flash) (slot : Slot) (p : Page) : f.set slot p slot = p := if_pos rfl

theorem Flash.set_set (f : Flash) (slot : Slot) (p q : Page) : (f.set slot p).set slot q = f.set slot q := by
  funext s
  unfold Flash.set
  by_cases same : s = slot
  · rw [if_pos same, if_pos same]
  · rw [if_neg same, if_neg same, if_neg same]

theorem Slot.other_ne (slot : Slot) : slot.other ≠ slot := by cases slot <;> decide

@[simp] theorem Slot.other_other (slot : Slot) : slot.other.other = slot := by cases slot <;> rfl

@[simp] theorem Flash.set_other (f : Flash) (slot : Slot) (p : Page) :
    f.set slot p slot.other = f slot.other := if_neg slot.other_ne

theorem Slot.eq_or_other (slot s : Slot) : s = slot ∨ s = slot.other := by
  cases slot <;> cases s <;> simp [Slot.other]

theorem sequence_le_highest {f : Flash} {slot : Slot}
    (valid : validateRecord (f slot) configSize = true) : (f slot).sequence ≤ highest f := by
  have own : (f slot).sequenceIfValid = (f slot).sequence := if_pos valid
  rw [← own]
  cases slot
  · exact Nat.le_max_left _ _
  · exact Nat.le_max_right _ _

theorem highest_le {f : Flash} {bound : Nat} (slot : Slot)
    (own : validateRecord (f slot) configSize = true → (f slot).sequence ≤ bound)
    (other : validateRecord (f slot.other) configSize = true → (f slot.other).sequence ≤ bound) :
    highest f ≤ bound := by
  have below (s : Slot) : (f s).sequenceIfValid ≤ bound := by
    unfold Page.sequenceIfValid
    by_cases valid : validateRecord (f s) configSize = true
    · rw [if_pos valid]
      rcases slot.eq_or_other s with rfl | rfl
      · exact own valid
      · exact other valid
    · rw [if_neg valid]
      exact Nat.zero_le _
  exact Nat.max_le.mpr ⟨below .a, below .b⟩

/-- A new record gets the next sequence. -/
theorem nextSequence_eq {f : Flash} (bound : highest f + 1 < 2 ^ 32) :
    nextSequence f = highest f + 1 := by
  have scan := scanSlots_spec f
  unfold nextSequence
  cases found : scanSlots f configSize with
  | none =>
    rw [found] at scan
    rw [scan.2]
  | some slot =>
    rw [found] at scan
    show ((f slot).sequence + 1) % 2 ^ 32 = _
    rw [scan.2, Nat.mod_eq_of_lt bound]

/-- A page that validates and is not the newest is where the next save goes. -/
theorem savesTo_of_scan {f : Flash} {slot : Slot} (found : scanSlots f configSize = some slot) :
    savesTo f = slot.other := by
  unfold savesTo
  rw [found]

namespace Save

variable {s : Save}

/-- What a save does: it changes one page, to what the operations left there, which on success is
the new record, and it programs that page only once it has erased it. -/
structure Spec (s : Save) (image : Page) : Prop where
  flash : s.outcome.flash = s.before.set s.slot image
  torn : Torn (s.before s.slot) s.page image
  succeeded : s.succeeded = true → image = s.page
  spares : ∀ op ∈ s.outcome.ops, op.slot = s.slot
  erasedFirst : ∀ earlier slot page later,
    s.outcome.ops = earlier ++ .program slot page :: later → .erase slot ∈ earlier

theorem spec_of_erase {image : Page} (flash : s.outcome.flash = s.before.set s.slot image)
    (torn : Torn (s.before s.slot) s.page image) (unsuccessful : s.outcome.reported ≠ some true)
    (ops : s.outcome.ops = [.erase s.slot]) : Spec s image where
  flash := flash
  torn := torn
  succeeded success := (unsuccessful (of_decide_eq_true success)).elim
  spares op member := by
    rw [ops] at member
    rw [List.mem_singleton.mp member]
    rfl
  erasedFirst earlier slot page later split := by
    rw [ops] at split
    cases earlier with
    | nil => cases split
    | cons first rest =>
      have none := (List.cons.inj split).2
      simp at none

theorem spec_of_program {image : Page} (flash : s.outcome.flash = s.before.set s.slot image)
    (torn : Torn (s.before s.slot) s.page image) (succeeded : s.succeeded = true → image = s.page)
    (ops : s.outcome.ops = [.erase s.slot, .program s.slot s.page]) : Spec s image where
  flash := flash
  torn := torn
  succeeded := succeeded
  spares op member := by
    rw [ops] at member
    rcases List.mem_cons.mp member with rfl | member
    · rfl
    · rw [List.mem_singleton.mp member]
      rfl
  erasedFirst earlier slot page later split := by
    rw [ops] at split
    cases earlier with
    | nil => cases (List.cons.inj split).1
    | cons first rest =>
      obtain ⟨rfl, second⟩ := List.cons.inj split
      cases rest with
      | nil =>
        obtain ⟨rfl, -⟩ := FlashOp.program.inj (List.cons.inj second).1
        exact List.mem_cons_self
      | cons _ rest =>
        have none := (List.cons.inj second).2
        simp at none

theorem exists_spec (possible : s.Possible) : ∃ image, Spec s image := by
  have outcome : s.outcome = rurpDualslotSave s.before s.blob s.erase s.program := rfl
  have erase := possible.erase
  have program := possible.program
  unfold rurpDualslotSave at outcome
  cases erased : s.erase with
  | failed image =>
    rw [erased] at outcome erase
    exact ⟨image, spec_of_erase (by rw [outcome]; rfl) erase (by rw [outcome]; nofun) (by rw [outcome]; rfl)⟩
  | cut image =>
    rw [erased] at outcome erase
    exact ⟨image, spec_of_erase (by rw [outcome]; rfl) erase (by rw [outcome]; nofun) (by rw [outcome]; rfl)⟩
  | done =>
    rw [erased] at outcome
    have twice (image : Page) := s.before.set_set s.slot .erased image
    cases programmed : s.program with
    | failed image =>
      rw [programmed] at outcome program
      refine ⟨image, spec_of_program ?_ program ?_ (by rw [outcome]; rfl)⟩
      · rw [outcome]
        exact twice image
      · intro success
        have reported := of_decide_eq_true success
        rw [outcome] at reported
        cases reported
    | cut image =>
      rw [programmed] at outcome program
      refine ⟨image, spec_of_program ?_ program ?_ (by rw [outcome]; rfl)⟩
      · rw [outcome]
        exact twice image
      · intro success
        have reported := of_decide_eq_true success
        rw [outcome] at reported
        cases reported
    | done =>
      rw [programmed] at outcome
      refine ⟨s.page, spec_of_program ?_ (.inr (.inr rfl)) (fun _ => rfl) (by rw [outcome]; rfl)⟩
      rw [outcome]
      exact twice s.page

variable {image : Page}

theorem Spec.written_iff (spec : Spec s image) : s.written = true ↔ image = s.page := by
  rw [written, spec.flash, Flash.set_same, decide_eq_true_iff]

end Save

/-! ## Every run -/

theorem lastWritten_snoc (saves : List Save) (s : Save) :
    lastWritten (saves ++ [s]) = if s.written then some s else lastWritten saves := by
  unfold lastWritten
  rw [List.filter_append]
  cases written : s.written with
  | true => simp [written]
  | false => simp [written]

/-- The newest record is where it was written, and it is the highest. -/
structure Newest (f : Flash) (last : Save) : Prop where
  place : f last.slot = last.page
  holds : Holds last.page last.blob last.sequence
  top : validateRecord (f last.slot.other) configSize = true →
    (f last.slot.other).sequence < last.sequence

theorem Newest.found {f : Flash} {last : Save} (newest : Newest f last) :
    scanSlots f configSize = some last.slot := by
  apply scanSlots_top
  · rw [newest.place]
    exact newest.holds.valid
  · rw [newest.place, newest.holds.sequence]
    exact newest.top

theorem Newest.loads {f : Flash} {last : Save} (newest : Newest f last) {buffer : List U8}
    (length : buffer.length = configSize) (blob : last.blob.length = configSize) :
    rurpDualslotLoad f buffer = some last.blob := by
  unfold rurpDualslotLoad
  rw [length, newest.found, Option.map_some, newest.place, newest.holds.length,
    newest.holds.configuration, Nat.min_self]
  dsimp only
  rw [← blob, List.take_length, blob, ← length, List.drop_length, List.append_nil]

namespace Save.Spec

variable {s : Save} {image : Page}

theorem at_slot (spec : Spec s image) : s.outcome.flash s.slot = image := by
  rw [spec.flash, Flash.set_same]

theorem at_other (spec : Spec s image) : s.outcome.flash s.slot.other = s.before s.slot.other := by
  rw [spec.flash, Flash.set_other]

/-- The page that a save does not touch holds the newest record, if there is one. -/
theorem other_valid (s : Save) (some : highest s.before ≠ 0) :
    validateRecord (s.before s.slot.other) configSize = true ∧
      (s.before s.slot.other).sequence = highest s.before := by
  have scan := scanSlots_spec s.before
  cases found : scanSlots s.before configSize with
  | none =>
    rw [found] at scan
    exact (some scan.2).elim
  | some slot =>
    rw [found] at scan
    have same : s.slot.other = slot := by rw [Save.slot, savesTo_of_scan found, Slot.other_other]
    rw [same]
    exact scan

theorem highest_mono (spec : Spec s image) : highest s.before ≤ highest s.outcome.flash := by
  by_cases some : highest s.before = 0
  · omega
  · obtain ⟨valid, sequence⟩ := other_valid s some
    rw [← spec.at_other] at valid sequence
    rw [← sequence]
    exact sequence_le_highest valid

theorem other_le (s : Save) (valid : validateRecord (s.before s.slot.other) configSize = true) :
    (s.before s.slot.other).sequence ≤ highest s.before := sequence_le_highest valid

theorem newest (spec : Spec s image) (possible : s.Possible) (bound : highest s.before + 1 < 2 ^ 32)
    (written : s.written = true) :
    Newest s.outcome.flash s ∧ s.sequence = highest s.before + 1 ∧
      highest s.outcome.flash = s.sequence := by
  have next : s.sequence = highest s.before + 1 := nextSequence_eq bound
  have holds : Holds s.page s.blob s.sequence :=
    recordPage_holds possible.blob (by rw [next]; exact bound)
  have place : s.outcome.flash s.slot = s.page := spec.at_slot.trans (spec.written_iff.mp written)
  have top (valid : validateRecord (s.outcome.flash s.slot.other) configSize = true) :
      (s.outcome.flash s.slot.other).sequence < s.sequence := by
    rw [spec.at_other] at valid ⊢
    have below := other_le s valid
    omega
  refine ⟨⟨place, holds, top⟩, next, Nat.le_antisymm ?_ ?_⟩
  · apply highest_le s.slot
    · intro _
      exact Nat.le_of_eq ((congrArg Page.sequence place).trans holds.sequence)
    · intro valid
      exact Nat.le_of_lt (top valid)
  · rw [← holds.sequence, ← place]
    apply sequence_le_highest
    rw [place]
    exact holds.valid

/-- A save that did not write its record adds none. -/
theorem unwritten (spec : Spec s image) (unwritten : s.written = false) :
    (validateRecord image configSize = true → image = s.before s.slot) := by
  intro valid
  rcases spec.torn with before | invalid | new
  · exact before
  · rw [invalid] at valid
    cases valid
  · rw [spec.written_iff.mpr new] at unwritten
    cases unwritten

theorem highest_unwritten (spec : Spec s image) (unwritten : s.written = false) :
    highest s.outcome.flash ≤ highest s.before := by
  apply highest_le s.slot
  · intro valid
    rw [spec.at_slot] at valid ⊢
    have same := spec.unwritten unwritten valid
    rw [same] at valid ⊢
    exact sequence_le_highest valid
  · intro valid
    rw [spec.at_other] at valid ⊢
    exact other_le s valid

theorem newest_unwritten {last : Save} (spec : Spec s image) (unwritten : s.written = false)
    (newest : Newest s.before last) : Newest s.outcome.flash last := by
  have elsewhere : s.slot = last.slot.other := savesTo_of_scan newest.found
  have same : s.slot.other = last.slot := by rw [elsewhere, Slot.other_other]
  have place : s.outcome.flash last.slot = s.before last.slot := by
    rw [← same]
    exact spec.at_other
  refine ⟨place.trans newest.place, newest.holds, ?_⟩
  rw [← elsewhere, spec.at_slot]
  intro valid
  have before := spec.unwritten unwritten valid
  rw [before] at valid ⊢
  rw [elsewhere] at valid ⊢
  exact newest.top valid

end Save.Spec

/-- What holds after every run. -/
structure Inv (start : Flash) (saves : List Save) (f : Flash) : Prop where
  bound : highest f ≤ highest start + saves.length
  started : highest start ≤ highest f
  increasing : (highest start :: (saves.filter Save.written).map Save.sequence).Pairwise (· < ·)
  below : ∀ s ∈ saves, s.written = true → s.sequence ≤ highest f
  newest : ∀ last, lastWritten saves = some last → Newest f last ∧ last.blob.length = configSize
  written : ∀ s ∈ saves, s.succeeded = true → ∃ last, lastWritten saves = some last

theorem Inv.save {start : Flash} {saves : List Save} {s : Save} (inv : Inv start saves s.before)
    (possible : s.Possible) (room : highest start + saves.length + 1 < 2 ^ 32) :
    Inv start (saves ++ [s]) s.outcome.flash := by
  obtain ⟨image, spec⟩ := Save.exists_spec possible
  have bound := inv.bound
  have mono := spec.highest_mono
  have last := lastWritten_snoc saves s
  cases written : s.written with
  | true =>
    obtain ⟨newest, next, top⟩ := spec.newest possible (by omega) written
    rw [written, if_pos rfl] at last
    have seen : (saves ++ [s]).filter Save.written = saves.filter Save.written ++ [s] := by
      simp [written]
    refine ⟨?_, ?_, ?_, ?_, ?_, fun _ _ _ => ⟨s, last⟩⟩
    · rw [top, next, List.length_append]
      exact Nat.add_le_add_right bound 1
    · have started := inv.started
      omega
    · rw [seen, List.map_append, ← List.cons_append, List.pairwise_append]
      refine ⟨inv.increasing, List.pairwise_singleton _ _, ?_⟩
      intro sequence member later single
      rw [List.mem_singleton.mp single, next]
      rcases List.mem_cons.mp member with rfl | member
      · have started := inv.started
        omega
      · obtain ⟨t, found, rfl⟩ := List.mem_map.mp member
        obtain ⟨earlier, was⟩ := List.mem_filter.mp found
        have below := inv.below t earlier was
        omega
    · intro t member was
      rcases List.mem_append.mp member with earlier | single
      · have below := inv.below t earlier was
        omega
      · obtain rfl := List.mem_singleton.mp single
        exact Nat.le_of_eq top.symm
    · intro other found
      obtain rfl := Option.some.inj (last.symm.trans found)
      exact ⟨newest, possible.blob⟩
  | false =>
    have still := spec.highest_unwritten written
    rw [written, if_neg Bool.false_ne_true] at last
    have seen : (saves ++ [s]).filter Save.written = saves.filter Save.written := by
      simp [written]
    refine ⟨?_, ?_, ?_, ?_, ?_, ?_⟩
    · rw [List.length_append]
      omega
    · have started := inv.started
      omega
    · rw [seen]
      exact inv.increasing
    · intro t member was
      rcases List.mem_append.mp member with earlier | single
      · have below := inv.below t earlier was
        omega
      · rw [List.mem_singleton.mp single, written] at was
        cases was
    · intro other found
      obtain ⟨newest, length⟩ := inv.newest other (last.symm.trans found)
      exact ⟨spec.newest_unwritten written newest, length⟩
    · intro t member success
      rw [last]
      rcases List.mem_append.mp member with earlier | single
      · exact inv.written t earlier success
      · rw [List.mem_singleton.mp single] at success
        rw [spec.written_iff.mpr (spec.succeeded success)] at written
        cases written

theorem Run.inv {start f : Flash} {saves : List Save} (run : Run start saves f)
    (room : highest start + saves.length < 2 ^ 32) : Inv start saves f := by
  induction run with
  | start =>
    refine ⟨Nat.le_refl _, Nat.le_refl _, List.pairwise_singleton _ _, ?_, ?_, ?_⟩
    · intro s member
      cases member
    · intro last found
      cases found
    · intro s member
      cases member
  | save before possible ih =>
    rw [List.length_append] at room
    exact (ih (by omega)).save possible (by exact room)

namespace Run

variable {start f : Flash} {saves earlier later : List Save} {s : Save}

theorem snoc_inv (run : Run start (earlier ++ [s]) f) :
    Run start earlier s.before ∧ s.Possible ∧ f = s.outcome.flash := by
  generalize all : earlier ++ [s] = saves at run
  cases run with
  | start => simp at all
  | save before possible =>
    obtain ⟨rfl, same⟩ := List.append_inj' all rfl
    obtain rfl := (List.cons.inj same).1
    exact ⟨before, possible, rfl⟩

/-- A run up to one of its saves. -/
theorem upTo (run : Run start (earlier ++ s :: later) f) :
    Run start (earlier ++ [s]) s.outcome.flash := by
  induction later using List.reverseRecOn generalizing f with
  | nil =>
    obtain ⟨-, -, rfl⟩ := run.snoc_inv
    exact run
  | append_singleton later last ih =>
    rw [← List.cons_append, ← List.append_assoc] at run
    exact ih run.snoc_inv.1

end Run

/-- Whatever the flash holds at first and wherever saves fail or are cut off, the store keeps the
newest complete record. -/
theorem power_fail_safe {start f : Flash} {saves : List Save} (run : Run start saves f)
    (room : highest start + saves.length < 2 ^ 32) : PowerFailSafe start saves f where
  loads := by
    rintro ⟨s, member, success⟩
    have inv := run.inv room
    obtain ⟨last, found⟩ := inv.written s member success
    obtain ⟨newest, blob⟩ := inv.newest last found
    exact ⟨last, found, fun buffer length => newest.loads length blob⟩
  spared := by
    rintro earlier s later rfl ⟨t, member, success⟩
    obtain ⟨before, possible, -⟩ := run.upTo.snoc_inv
    rw [List.length_append, List.length_cons] at room
    have inv := before.inv (by omega)
    obtain ⟨last, found⟩ := inv.written t member success
    have newest := (inv.newest last found).1
    obtain ⟨image, spec⟩ := Save.exists_spec possible
    refine ⟨last, found, newest.place, fun op member same => ?_⟩
    have elsewhere : s.slot = last.slot.other := savesTo_of_scan newest.found
    rw [spec.spares op member, elsewhere] at same
    exact last.slot.other_ne same
  increasing := (run.inv room).increasing
  erasedFirst := by
    intro s member
    obtain ⟨earlier, later, rfl⟩ := List.append_of_mem member
    obtain ⟨-, possible, -⟩ := run.upTo.snoc_inv
    obtain ⟨image, spec⟩ := Save.exists_spec possible
    exact spec.erasedFirst
  success := by
    intro s member success buffer length
    obtain ⟨earlier, later, rfl⟩ := List.append_of_mem member
    obtain ⟨-, possible, -⟩ := run.upTo.snoc_inv
    obtain ⟨image, spec⟩ := Save.exists_spec possible
    have written := spec.written_iff.mpr (spec.succeeded success)
    have bound : (earlier ++ [s]).length ≤ (earlier ++ s :: later).length := by
      simp
    have inv := run.upTo.inv (by omega)
    have last : lastWritten (earlier ++ [s]) = some s := by
      rw [lastWritten_snoc, written, if_pos rfl]
    obtain ⟨newest, blob⟩ := inv.newest s last
    exact newest.loads length blob

/-- A first save into blank flash, and a second one whose program is cut off. -/
def blankFlash : Flash := fun _ => .erased

def firstSave : Save where
  before := blankFlash
  blob := List.replicate configSize 7
  erase := .done
  program := .done

def cutSave : Save where
  before := firstSave.outcome.flash
  blob := List.replicate configSize 8
  erase := .done
  program := .cut .erased

/-- The first blob is still loaded. -/
theorem power_fail_safe_cut_save : PowerFailSafe blankFlash [firstSave, cutSave] cutSave.outcome.flash ∧
    rurpDualslotLoad cutSave.outcome.flash (List.replicate configSize 0) =
      some (List.replicate configSize 7) := by
  have first : firstSave.Possible := ⟨List.length_replicate, trivial, trivial⟩
  have second : cutSave.Possible := ⟨List.length_replicate, trivial, .inr (.inl erased_invalid)⟩
  have begun : Run blankFlash [] firstSave.before := .start
  have once : Run blankFlash [firstSave] cutSave.before := .save begun first
  have twice : Run blankFlash [firstSave, cutSave] cutSave.outcome.flash := .save once second
  have empty : highest blankFlash = 0 := by decide +kernel
  refine ⟨power_fail_safe twice (by rw [empty]; decide), ?_⟩
  decide +kernel

end Firestarter.DualSlot
