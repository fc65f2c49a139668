import Firestarter.PageWindows
import Firestarter.WriteProgress

/-! The transfer of a read: the chunks the host is sent are consecutive pieces of the chip, and they
are all of it once the host is told so. The pump keeps the length of a chunk in the handle while it
waits for the ACK, and a data frame that comes instead overwrites it; what the cursor then does is
told as well. -/
namespace Firestarter

open Interactive Interactive.Prog

/-! ## What the events tell -/

def chunkOf : Event → List U8
  | .emitted id bytes => if id = msgDataChunk then bytes else []
  | _ => []

/-- The bytes of the chip the host has been sent. -/
def sentBytes (es : List Event) : List U8 := es.flatMap chunkOf

def mainReadOf (n : Nat) : Event → List (U32 × U8)
  | .read address data _ => if n = 3 then [(address, data)] else []
  | _ => []

/-- The bytes read from the chip in the main phase. -/
def mainReads (es : List Event) : List (U32 × U8) := readOff numberAfter mainReadOf 0 es

/-- The state number, and the bytes read in the main phase since a callback was last entered. -/
def freshAfter (s : Nat × List (U32 × U8)) (e : Event) : Nat × List (U32 × U8) :=
  (numberAfter s.1 e, match e with
    | .called _ _ => []
    | e => s.2 ++ mainReadOf s.1 e)

def freshReads (es : List Event) : List (U32 × U8) := (es.foldl freshAfter (0, [])).2

/-- These bytes, as they are read from a place on. -/
def readsFrom (start : U32) (bytes : List U8) : List (U32 × U8) :=
  bytes.mapIdx fun i byte => (start + BitVec.ofNat 32 i, byte)

/-- As far as the main phase looked, this is what the chip holds. -/
def ChipHolds (mem : U32 → U8) (es : List Event) : Prop := ∀ r ∈ mainReads es, r.2 = mem r.1

/-- The chip's bytes from an address on. -/
def image (mem : U32 → U8) (start : U32) (count : Nat) : List U8 :=
  (List.range count).map fun i => mem (start + BitVec.ofNat 32 i)

/-- The cursor, and by how much the next ACK moves it while one is due. A chunk sets that, and so
does a data frame that arrives in place of the ACK. -/
def cursorAfter (s : U32 × Option U32) : Event → U32 × Option U32
  | .emitted id bytes => if id = msgDataChunk then (s.1, some (BitVec.ofNat 32 bytes.length)) else s
  | .message .data payload => (s.1, s.2.map fun _ => BitVec.ofNat 32 payload.length)
  | .message .ack _ => (s.1 + s.2.getD 0, none)
  | _ => s

/-- Where the read stands after these events. -/
def readCursor (start : U32) (es : List Event) : U32 := (es.foldl cursorAfter (start, none)).1

/-- The events of one read command move the chip's content to the host. -/
structure ReadTransfer (b : Build) (h : Handle) (es : List Event) : Prop where
  /-- A chunk is what the callback has just read from the cursor on: a whole buffer, or up to the
  end of the region. -/
  chunk : ∀ pre bytes post, es = pre ++ .emitted msgDataChunk bytes :: post →
    readCursor h.address pre < h.operationEnd ∧
      bytes.length = min b.dataBufferSize (h.operationEnd - readCursor h.address pre).toNat ∧
      (freshReads pre).take bytes.length = readsFrom (readCursor h.address pre) bytes ∧
      ∀ mem, ChipHolds mem pre → bytes = image mem (readCursor h.address pre) bytes.length
  /-- Between two chunks the first one was acknowledged. -/
  acknowledged : ∀ pre bytes mid bytes' post,
    es = pre ++ .emitted msgDataChunk bytes :: (mid ++ .emitted msgDataChunk bytes' :: post) →
      ∃ payload, .message .ack payload ∈ mid
  /-- The host is told that the main phase is done when the cursor has come to the end. -/
  done : ∀ pre params post, es = pre ++ .emitted msgMainDone params :: post →
    h.operationEnd ≤ readCursor h.address pre
  /-- Unless the host sent data of its own, it has a first piece of the region. -/
  piece : mainData es = [] → ∀ mem, ChipHolds mem es →
    sentBytes es <+: image mem h.address (h.operationEnd - h.address).toNat
  /-- And then it has all of the region when it is told that the main phase is done. -/
  whole : ∀ pre params post, es = pre ++ .emitted msgMainDone params :: post → mainData pre = [] →
    ∀ mem, ChipHolds mem pre →
      sentBytes pre = image mem h.address (h.operationEnd - h.address).toNat

/-- A chunk that waits for its ACK: its length, and that of the last data frame that came since. -/
structure Awaited where
  chunk : Nat
  data : Option Nat := none
  deriving DecidableEq, Repr

def awaitedAfter (s : Option Awaited) : Event → Option Awaited
  | .emitted id bytes => if id = msgDataChunk then some { chunk := bytes.length } else s
  | .message .data payload => s.map fun a => { a with data := some payload.length }
  | .message .ack _ => none
  | _ => s

/-- The chunk that waits for its ACK after these events. -/
def awaited (es : List Event) : Option Awaited := es.foldl awaitedAfter none

def Event.isAck : Event → Bool
  | .message .ack _ => true
  | _ => false

/-- An ACK comes to a chunk itself, or after a data frame of the chunk's length. -/
def AckFits (s : Option Awaited) (e : Event) : Prop :=
  e.isAck = true → ∀ a ∈ s, ∀ length ∈ a.data, length = a.chunk

instance (s : Option Awaited) (e : Event) : Decidable (AckFits s e) :=
  inferInstanceAs (Decidable (_ → _))

def AcksFitFrom : Option Awaited → List Event → Prop
  | _, [] => True
  | s, e :: es => AckFits s e ∧ AcksFitFrom (awaitedAfter s e) es

/-- Wherever the host sent a data frame while a chunk waited, the last one before the ACK is as long
as the chunk. -/
def AcksFit (es : List Event) : Prop := AcksFitFrom none es

def AcksFitFrom.decide : (s : Option Awaited) → (es : List Event) → Decidable (AcksFitFrom s es)
  | _, [] => .isTrue trivial
  | s, e :: es =>
    have := AcksFitFrom.decide (awaitedAfter s e) es
    inferInstanceAs (Decidable (AckFits s e ∧ _))

instance (es : List Event) : Decidable (AcksFit es) := AcksFitFrom.decide none es

/-- What one read command sends is the region: a first piece of it at any time, and all of it when
the host is told that the main phase is done. -/
structure ExactRead (h : Handle) (es : List Event) : Prop where
  piece : ∀ mem, ChipHolds mem es →
    sentBytes es <+: image mem h.address (h.operationEnd - h.address).toNat
  whole : ∀ params, .emitted msgMainDone params ∈ es → ∀ mem, ChipHolds mem es →
    sentBytes es = image mem h.address (h.operationEnd - h.address).toNat

/-! ## The observer -/

/-- What an observer of a read keeps in mind. -/
structure ReadView where
  number : Nat := 0
  cursor : U32
  due : Option U32 := none
  /-- What was read since the last callback was entered. -/
  reads : List (U32 × U8) := []
  sent : Nat := 0

namespace ReadView

def observe (b : Build) (h : Handle) (p : ReadView) : Event → Option ReadView
  | .advanced n => if p.due = none then some { p with number := n.toNat } else none
  | .called _ _ => some { p with reads := [] }
  | .emitted id bytes =>
    if id = msgDataChunk then
      if p.number = 3 ∧ p.due = none ∧ p.cursor < h.operationEnd ∧
          bytes.length = min b.dataBufferSize (h.operationEnd - p.cursor).toNat ∧
          p.reads.take bytes.length = readsFrom p.cursor bytes then
        some { p with due := some (BitVec.ofNat 32 bytes.length), sent := p.sent + bytes.length }
      else none
    else if id = msgMainDone then
      if p.due = none ∧ h.operationEnd ≤ p.cursor ∧ (p.sent = 0 → p.cursor = h.operationEnd) then
        some p
      else none
    else some p
  | .message .data payload =>
    some { p with due := p.due.map fun _ => BitVec.ofNat 32 payload.length }
  | .message .ack _ => some { p with cursor := p.cursor + p.due.getD 0, due := none }
  | _ => some p

/-- Only the main phase reads for the host. -/
def touch (p : ReadView) : Access → Option ReadView
  | .read address data =>
    some (if p.number = 3 then { p with reads := p.reads ++ [(address, data)] } else p)
  | _ => some p

theorem observe_noise (b : Build) (h : Handle) (p : ReadView) {e : Event}
    (noise : e.isNoise = true) : p.observe b h e = some p := by
  cases e with
  | emitted id bytes =>
    have report : isReport id = true := by
      simpa [Event.isNoise, Event.isReportNoise, Event.isShieldNoise] using noise
    have apart : id ≠ msgDataChunk ∧ id ≠ msgMainDone := by
      constructor
      · rintro rfl
        cases report
      · rintro rfl
        cases report
    simp [observe, apart]
  | _ => first | rfl | cases noise

end ReadView

/-- The observer of a read. -/
def readObserver (b : Build) (h : Handle) : Observer ReadView :=
  .ofAccesses { cursor := h.address } (ReadView.observe b h) ReadView.touch
    fun p _ noise _ => p.observe_noise b h noise

/-- What a chunk the observer admits must be, and what it then knows. -/
theorem ReadView.observe_chunk {b : Build} {h : Handle} {p q : ReadView} {bytes : List U8}
    (heard : (readObserver b h).observe p (.emitted msgDataChunk bytes) = some q) :
    (p.number = 3 ∧ p.due = none ∧ p.cursor < h.operationEnd ∧
      bytes.length = min b.dataBufferSize (h.operationEnd - p.cursor).toNat ∧
      p.reads.take bytes.length = readsFrom p.cursor bytes) ∧
    { p with due := some (BitVec.ofNat 32 bytes.length), sent := p.sent + bytes.length } = q := by
  have heard : p.observe b h (.emitted msgDataChunk bytes) = some q := heard
  simp only [observe, if_true] at heard
  obtain ⟨admitted, same⟩ := Option.ite_none_right_eq_some.mp heard
  exact ⟨admitted, Option.some.inj same⟩

/-! ## What the observer has seen -/

section
variable (es : List Event) (e : Event)

theorem sentBytes_snoc : sentBytes (es ++ [e]) = sentBytes es ++ chunkOf e := by
  simp [sentBytes]

theorem mainReads_snoc :
    mainReads (es ++ [e]) = mainReads es ++ mainReadOf (stateNumber es) e := by
  unfold mainReads
  rw [readOff_append]
  exact congrArg _ (List.append_nil _)

theorem image_append (mem : U32 → U8) (start : U32) (count more : Nat) :
    image mem start (count + more) =
      image mem start count ++ image mem (start + BitVec.ofNat 32 count) more := by
  simp [image, List.range_add, BitVec.ofNat_add, BitVec.add_assoc]

@[simp] theorem image_length (mem : U32 → U8) (start : U32) (count : Nat) :
    (image mem start count).length = count := by
  simp [image]

/-- Bytes that were read as the chip holds them are a piece of its image. -/
theorem image_of_reads {mem : U32 → U8} {start : U32} {bytes : List U8}
    (holds : ∀ r ∈ readsFrom start bytes, r.2 = mem r.1) :
    bytes = image mem start bytes.length := by
  apply List.ext_getElem
  · simp
  · intro i inside inside'
    have here := holds (start + BitVec.ofNat 32 i, bytes[i]) (by
      simpa [readsFrom] using ⟨i, rfl, inside, rfl⟩)
    simpa [image] using here

end

theorem freshAfter_number (es : List Event) :
    (es.foldl freshAfter (0, [])).1 = stateNumber es := by
  induction es using List.reverseRecOn with
  | nil => rfl
  | append_singleton es e ih => rw [List.foldl_append, stateNumber_snoc, ← ih]; rfl

theorem mem_mainReads_of_fresh {es : List Event} {r : U32 × U8} (fresh : r ∈ freshReads es) :
    r ∈ mainReads es := by
  induction es using List.reverseRecOn with
  | nil => cases fresh
  | append_singleton es e ih =>
    unfold freshReads at fresh
    rw [List.foldl_append, ← Prod.eta (es.foldl _ _), freshAfter_number] at fresh
    have parts : r ∈ freshReads es ∨ r ∈ mainReadOf (stateNumber es) e := by
      cases e with
      | called => cases fresh
      | _ => exact List.mem_append.mp fresh
    rw [mainReads_snoc]
    exact List.mem_append.mpr (parts.imp_left ih)

theorem ChipHolds.earlier {mem : U32 → U8} {es : List Event} {e : Event}
    (holds : ChipHolds mem (es ++ [e])) : ChipHolds mem es := by
  intro r member
  apply holds
  rw [mainReads_snoc]
  exact List.mem_append_left _ member

theorem awaited_snoc (es : List Event) (e : Event) :
    awaited (es ++ [e]) = awaitedAfter (awaited es) e := by
  unfold awaited
  rw [List.foldl_append]
  rfl

theorem AcksFitFrom.snoc {s : Option Awaited} {es : List Event} {e : Event} :
    AcksFitFrom s (es ++ [e]) ↔ AcksFitFrom s es ∧ AckFits (es.foldl awaitedAfter s) e := by
  induction es generalizing s with
  | nil => exact ⟨fun both => ⟨trivial, both.1⟩, fun both => ⟨both.2, trivial⟩⟩
  | cons first es ih =>
    show AckFits s first ∧ AcksFitFrom _ (es ++ [e]) ↔ (AckFits s first ∧ AcksFitFrom _ es) ∧ _
    rw [ih, and_assoc]
    rfl

theorem AcksFit.snoc {es : List Event} {e : Event} :
    AcksFit (es ++ [e]) ↔ AcksFit es ∧ AckFits (awaited es) e := AcksFitFrom.snoc

theorem AcksFitFrom.before {s : Option Awaited} {pre post : List Event}
    (fits : AcksFitFrom s (pre ++ post)) : AcksFitFrom s pre := by
  induction pre generalizing s with
  | nil => trivial
  | cons e pre ih => exact ⟨fits.1, ih fits.2⟩

theorem ChipHolds.before {mem : U32 → U8} {pre post : List Event}
    (holds : ChipHolds mem (pre ++ post)) : ChipHolds mem pre := by
  intro r member
  apply holds
  unfold mainReads
  rw [readOff_append]
  exact List.mem_append_left _ member

/-- What an observer that knows `p` has seen. -/
structure ReadView.Known (h : Handle) (es : List Event) (p : ReadView) : Prop where
  number : stateNumber es = p.number
  cursor : es.foldl cursorAfter (h.address, none) = (p.cursor, p.due)
  waiting : p.due ≠ none → p.number = 3
  fresh : es.foldl freshAfter (0, []) = (p.number, p.reads)
  sent : (sentBytes es).length = p.sent
  wait : p.due = (awaited es).map fun a => BitVec.ofNat 32 (a.data.getD a.chunk)
  /-- A data frame while a chunk waits is one of the main phase. -/
  quiet : mainData es = [] → AcksFit es ∧ ∀ a ∈ awaited es, a.data = none
  /-- While the ACKs fit, the cursor counts what was sent. -/
  counts : AcksFit es →
    p.cursor.toNat + (awaited es).elim 0 Awaited.chunk = h.address.toNat + p.sent ∧
      (p.sent = 0 ∨ h.address.toNat + p.sent ≤ h.operationEnd.toNat)
  piece : AcksFit es → ∀ mem, ChipHolds mem es → sentBytes es = image mem h.address p.sent

namespace ReadView.Known

variable {h : Handle} {b : Build} {es : List Event} {p q : ReadView} {e : Event}

theorem start (h : Handle) : Known h [] { cursor := h.address } where
  number := rfl
  cursor := rfl
  waiting none := absurd rfl none
  fresh := rfl
  sent := rfl
  wait := rfl
  quiet _ := ⟨trivial, nofun⟩
  counts _ := ⟨rfl, .inl rfl⟩
  piece _ _ _ := rfl

/-- An event that sends nothing, moves no cursor and is no data frame of the main phase. -/
theorem other (k : Known h es p) (quiet : chunkOf e = [])
    (still : cursorAfter (p.cursor, p.due) e = (p.cursor, p.due))
    (same : awaitedAfter (awaited es) e = awaited es) (noAck : e.isAck = false)
    (data : mainDataOf p.number e = [])
    (steps : p.due ≠ none → numberAfter p.number e = p.number)
    {reads : List (U32 × U8)} (fresh : (freshAfter (p.number, p.reads) e).2 = reads) :
    Known h (es ++ [e]) { p with number := numberAfter p.number e, reads := reads } where
  number := by rw [stateNumber_snoc, k.number]
  cursor := by
    rw [List.foldl_append, k.cursor]
    exact still
  waiting due := (steps due).trans (k.waiting due)
  fresh := by
    rw [List.foldl_append, k.fresh, ← fresh]
    rfl
  sent := by
    rw [sentBytes_snoc, quiet, List.append_nil]
    exact k.sent
  wait := by
    rw [awaited_snoc, same]
    exact k.wait
  quiet none := by
    rw [mainData_snoc, k.number, data, List.append_nil] at none
    obtain ⟨fits, free⟩ := k.quiet none
    rw [AcksFit.snoc, awaited_snoc, same]
    exact ⟨⟨fits, fun isAck => Bool.noConfusion (noAck.symm.trans isAck)⟩, free⟩
  counts fits := by
    rw [awaited_snoc, same]
    exact k.counts (AcksFit.snoc.mp fits).1
  piece fits mem holds := by
    rw [sentBytes_snoc, quiet, List.append_nil]
    exact k.piece (AcksFit.snoc.mp fits).1 mem holds.earlier

/-- The chunk was read as the chip holds it. -/
theorem chunk_image (k : Known h es p) {bytes : List U8}
    (read : p.reads.take bytes.length = readsFrom p.cursor bytes) {mem : U32 → U8}
    (holds : ChipHolds mem es) : bytes = image mem p.cursor bytes.length := by
  apply image_of_reads
  intro r member
  rw [← read] at member
  have same : freshReads es = p.reads := congrArg Prod.snd k.fresh
  exact holds r (mem_mainReads_of_fresh (same ▸ List.mem_of_mem_take member))

theorem chunk (k : Known h es p) {bytes : List U8} (main : p.number = 3) (free : p.due = none)
    (short : p.cursor < h.operationEnd)
    (size : bytes.length = min b.dataBufferSize (h.operationEnd - p.cursor).toNat)
    (read : p.reads.take bytes.length = readsFrom p.cursor bytes) :
    Known h (es ++ [.emitted msgDataChunk bytes])
      { p with due := some (BitVec.ofNat 32 bytes.length), sent := p.sent + bytes.length } := by
  have inside := BitVec.lt_def.mp short
  have room : (h.operationEnd - p.cursor).toNat = h.operationEnd.toNat - p.cursor.toNat :=
    BitVec.toNat_sub_of_le (BitVec.le_of_lt short)
  have bound := h.operationEnd.isLt
  have none : awaited es = none := Option.map_eq_none_iff.mp (k.wait.symm.trans free)
  have counted (fits : AcksFit es) : p.cursor.toNat = h.address.toNat + p.sent := by
    simpa [none] using (k.counts fits).1
  have waits : awaited (es ++ [.emitted msgDataChunk bytes]) = some { chunk := bytes.length } := by
    rw [awaited_snoc, awaitedAfter, if_pos rfl]
  constructor
  case number => rw [stateNumber_snoc, k.number]; rfl
  case cursor => simp [k.cursor, cursorAfter]
  case waiting => exact fun _ => main
  case fresh =>
    rw [List.foldl_append, k.fresh]
    exact congrArg (Prod.mk p.number) (List.append_nil p.reads)
  case sent => simp [sentBytes_snoc, k.sent, chunkOf]
  case wait => rw [waits]; rfl
  case quiet =>
    intro noData
    rw [mainData_snoc] at noData
    obtain ⟨fits, -⟩ := k.quiet (List.append_eq_nil_iff.mp noData).1
    rw [AcksFit.snoc, waits]
    exact ⟨⟨fits, nofun⟩, by rintro _ ⟨⟩; rfl⟩
  case counts =>
    intro fits
    have counted := counted (AcksFit.snoc.mp fits).1
    rw [waits]
    refine ⟨?_, .inr ?_⟩
    · show p.cursor.toNat + bytes.length = h.address.toNat + (p.sent + bytes.length)
      omega
    · show h.address.toNat + (p.sent + bytes.length) ≤ _
      omega
  case piece =>
    intro fits mem holds
    have fits := (AcksFit.snoc.mp fits).1
    have counted := counted fits
    have same : p.cursor = h.address + BitVec.ofNat 32 p.sent := by
      apply BitVec.eq_of_toNat_eq
      rw [BitVec.toNat_add, BitVec.toNat_ofNat, counted]
      omega
    rw [sentBytes_snoc, k.piece fits mem holds.earlier, image_append, ← same]
    exact congrArg _ (k.chunk_image read holds.earlier)

theorem data (k : Known h es p) (payload : List U8) :
    Known h (es ++ [.message .data payload])
      { p with due := p.due.map fun _ => BitVec.ofNat 32 payload.length } := by
  have heard : mainData (es ++ [.message .data payload]) =
      mainData es ++ if p.number = 3 then [payload] else [] := by
    rw [mainData_snoc, k.number]
    rfl
  have waits : awaited (es ++ [.message .data payload]) =
      (awaited es).map fun a => { a with data := some payload.length } := awaited_snoc es _
  constructor
  case number => rw [stateNumber_snoc, k.number]; rfl
  case cursor =>
    rw [List.foldl_append, k.cursor]
    rfl
  case waiting =>
    intro due
    apply k.waiting
    intro none
    simp [none] at due
  case fresh =>
    rw [List.foldl_append, k.fresh]
    exact congrArg (Prod.mk p.number) (List.append_nil p.reads)
  case sent =>
    rw [sentBytes_snoc]
    simpa [chunkOf] using k.sent
  case wait =>
    rw [waits, k.wait]
    cases awaited es <;> rfl
  case quiet =>
    intro noData
    rw [heard, List.append_eq_nil_iff] at noData
    obtain ⟨fits, -⟩ := k.quiet noData.1
    -- Outside the main phase no chunk waits.
    have free : p.due = none := by
      by_contra due
      rw [if_pos (k.waiting due)] at noData
      cases noData.2
    have none : awaited es = none := Option.map_eq_none_iff.mp (k.wait.symm.trans free)
    rw [AcksFit.snoc, waits, none]
    exact ⟨⟨fits, nofun⟩, nofun⟩
  case counts =>
    intro fits
    have counted := k.counts (AcksFit.snoc.mp fits).1
    rw [waits]
    cases awaiting : awaited es with
    | none => rwa [awaiting] at counted
    | some a => rwa [awaiting] at counted
  case piece =>
    intro fits mem holds
    rw [sentBytes_snoc]
    simpa [chunkOf] using k.piece (AcksFit.snoc.mp fits).1 mem holds.earlier

theorem acked (k : Known h es p) (payload : List U8) :
    Known h (es ++ [.message .ack payload])
      { p with cursor := p.cursor + p.due.getD 0, due := none } := by
  have waits : awaited (es ++ [.message .ack payload]) = none := awaited_snoc es _
  constructor
  case number => rw [stateNumber_snoc, k.number]; rfl
  case cursor =>
    rw [List.foldl_append, k.cursor]
    rfl
  case waiting => exact fun none => absurd rfl none
  case fresh =>
    rw [List.foldl_append, k.fresh]
    exact congrArg (Prod.mk p.number) (List.append_nil p.reads)
  case sent =>
    rw [sentBytes_snoc]
    simpa [chunkOf] using k.sent
  case wait => rw [waits]; rfl
  case quiet =>
    intro noData
    rw [mainData_snoc] at noData
    obtain ⟨fits, free⟩ := k.quiet (List.append_eq_nil_iff.mp noData).1
    rw [AcksFit.snoc, waits]
    refine ⟨⟨fits, fun _ a member length came => ?_⟩, nofun⟩
    rw [free a member] at came
    cases came
  case counts =>
    intro fits
    obtain ⟨fits, fit⟩ := AcksFit.snoc.mp fits
    obtain ⟨count, inside⟩ := k.counts fits
    -- By what the cursor moves, the chunk is long.
    have moves : (p.due.getD 0).toNat = (awaited es).elim 0 Awaited.chunk := by
      rw [k.wait]
      cases awaiting : awaited es with
      | none => rfl
      | some a =>
        rw [awaiting] at count
        have count : p.cursor.toNat + a.chunk = h.address.toNat + p.sent := count
        have bound := h.operationEnd.isLt
        have start := h.address.isLt
        have length : a.data.getD a.chunk = a.chunk := by
          cases came : a.data with
          | none => rfl
          | some length => exact fit rfl a awaiting length came
        show (BitVec.ofNat 32 (a.data.getD a.chunk)).toNat = a.chunk
        rw [length, BitVec.toNat_ofNat]
        exact Nat.mod_eq_of_lt (by omega)
    refine ⟨?_, inside⟩
    rw [waits]
    show (p.cursor + p.due.getD 0).toNat + 0 = _
    rw [BitVec.toNat_add, moves, count]
    have bound := h.operationEnd.isLt
    have start := h.address.isLt
    rw [Nat.mod_eq_of_lt]
    · rfl
    · omega
  case piece =>
    intro fits mem holds
    rw [sentBytes_snoc]
    simpa [chunkOf] using k.piece (AcksFit.snoc.mp fits).1 mem holds.earlier

theorem observe (k : Known h es p) (heard : (readObserver b h).observe p e = some q) :
    Known h (es ++ [e]) q := by
  cases e with
  | read address data latches =>
    obtain rfl := Option.some.inj heard
    have same : (if p.number = 3 then { p with reads := p.reads ++ [(address, data)] } else p) =
        { p with reads := p.reads ++ mainReadOf p.number (.read address data latches) } := by
      by_cases main : p.number = 3 <;> simp [mainReadOf, main]
    rw [same]
    exact k.other rfl rfl rfl rfl rfl (fun _ => rfl) rfl
  | advanced n =>
    obtain ⟨free, same⟩ := Option.ite_none_right_eq_some.mp heard
    obtain rfl := Option.some.inj same
    exact k.other rfl rfl rfl rfl rfl (absurd free) (List.append_nil _)
  | called callback entry =>
    obtain rfl := Option.some.inj heard
    exact k.other rfl rfl rfl rfl rfl (fun _ => rfl) rfl
  | emitted id bytes =>
    have heard : ReadView.observe b h p (.emitted id bytes) = some q := heard
    dsimp only [ReadView.observe] at heard
    split at heard
    · rename_i isChunk
      subst isChunk
      obtain ⟨⟨main, free, short, size, read⟩, rfl⟩ := ReadView.observe_chunk heard
      exact k.chunk main free short size read
    · rename_i isOther
      have quiet : chunkOf (.emitted id bytes) = [] := if_neg isOther
      have still : cursorAfter (p.cursor, p.due) (.emitted id bytes) = (p.cursor, p.due) :=
        if_neg isOther
      have waits : awaitedAfter (awaited es) (.emitted id bytes) = awaited es := if_neg isOther
      have same := k.other quiet still waits rfl rfl (fun _ => rfl) (List.append_nil _)
      split at heard
      · obtain ⟨-, rfl⟩ : _ ∧ p = q := by simpa using heard
        exact same
      · obtain rfl := Option.some.inj heard
        exact same
  | message kind payload =>
    cases kind with
    | data =>
      obtain rfl := Option.some.inj heard
      exact k.data payload
    | ack =>
      obtain rfl := Option.some.inj heard
      exact k.acked payload
    | _ =>
      obtain rfl := Option.some.inj heard
      exact k.other rfl rfl rfl rfl rfl (fun _ => rfl) (List.append_nil _)
  | _ =>
    obtain rfl := Option.some.inj heard
    exact k.other rfl rfl rfl rfl rfl (fun _ => rfl) (List.append_nil _)

theorem of_follows (follows : (readObserver b h).Follows es p) : Known h es p := by
  induction es using List.reverseRecOn generalizing p with
  | nil =>
    obtain rfl := Option.some.inj follows
    exact start h
  | append_singleton es e ih =>
    obtain ⟨q, before, heard⟩ := (readObserver b h).follows_snoc.mp follows
    exact (ih before).observe heard

end ReadView.Known

/-- The ACK that is due comes before the next chunk. -/
theorem ReadView.acked_between {b : Build} {h : Handle} {p q : ReadView} {es : List Event}
    (due : p.due ≠ none) (sees : (readObserver b h).Sees p es q) (free : q.due = none) :
    ∃ payload, .message .ack payload ∈ es := by
  induction es generalizing p with
  | nil =>
    obtain rfl := Option.some.inj sees
    exact absurd free due
  | cons e es ih =>
    obtain ⟨p', heard, rest⟩ := (readObserver b h).sees_uncons sees
    by_cases due' : p'.due = none
    · suffices ∃ payload, e = .message .ack payload by
        obtain ⟨payload, rfl⟩ := this
        exact ⟨payload, List.mem_cons_self⟩
      by_contra notAck
      apply due
      cases e with
      | read address data latches =>
        obtain rfl := Option.some.inj heard
        revert due'
        split <;> exact id
      | advanced n => exact (Option.ite_none_right_eq_some.mp heard).1
      | emitted id bytes =>
        have heard : ReadView.observe b h p (.emitted id bytes) = some p' := heard
        dsimp only [ReadView.observe] at heard
        split at heard
        · obtain ⟨-, same⟩ := Option.ite_none_right_eq_some.mp heard
          obtain rfl := Option.some.inj same
          cases due'
        · split at heard
          · obtain ⟨-, rfl⟩ : _ ∧ p = p' := by simpa using heard
            exact due'
          · obtain rfl := Option.some.inj heard
            exact due'
      | message kind payload =>
        cases kind with
        | ack => exact absurd ⟨payload, rfl⟩ notAck
        | data =>
          obtain rfl := Option.some.inj heard
          exact Option.map_eq_none_iff.mp due'
        | _ =>
          obtain rfl := Option.some.inj heard
          exact due'
      | _ =>
        obtain rfl := Option.some.inj heard
        exact due'
    · obtain ⟨payload, member⟩ := ih due' rest
      exact ⟨payload, List.mem_cons_of_mem _ member⟩

namespace ReadView.Known

variable {b : Build} {h : Handle} {es : List Event} {p q : ReadView}

/-- What was sent is a first part of the region. -/
theorem first (k : Known h es p) (fits : AcksFit es) (mem : U32 → U8) (holds : ChipHolds mem es) :
    sentBytes es <+: image mem h.address (h.operationEnd - h.address).toNat := by
  rw [k.piece fits mem holds]
  have short : p.sent ≤ (h.operationEnd - h.address).toNat := by
    rcases (k.counts fits).2 with none | inside
    · omega
    · rw [BitVec.toNat_sub_of_le (BitVec.le_def.mpr (by omega))]
      omega
  obtain ⟨more, all⟩ := Nat.exists_eq_add_of_le short
  rw [all, image_append]
  exact List.prefix_append _ _

/-- When the host is told that the main phase is done, all of the region was sent. -/
theorem all (k : Known h es p) (fits : AcksFit es) {params : List U8}
    (heard : (readObserver b h).observe p (.emitted msgMainDone params) = some q) (mem : U32 → U8)
    (holds : ChipHolds mem es) :
    sentBytes es = image mem h.address (h.operationEnd - h.address).toNat := by
  obtain ⟨⟨free, reached, empty⟩, -⟩ := Option.ite_none_right_eq_some.mp heard
  obtain ⟨count, inside⟩ := k.counts fits
  have none : awaited es = none := Option.map_eq_none_iff.mp (k.wait.symm.trans free)
  rw [none] at count
  have reached := BitVec.le_def.mp reached
  rw [k.piece fits mem holds]
  have all : p.sent = (h.operationEnd - h.address).toNat := by
    have count : p.cursor.toNat + 0 = h.address.toNat + p.sent := count
    rcases inside with none | inside
    · have ends := congrArg BitVec.toNat (empty none)
      have same : h.operationEnd = h.address := BitVec.eq_of_toNat_eq (by omega)
      rw [none, same]
      simp
    · rw [BitVec.toNat_sub_of_le (BitVec.le_def.mpr (by omega))]
      omega
  rw [all]

end ReadView.Known

/-- Events that can be followed move the chip's content to the host. -/
theorem ReadTransfer.of_follows {b : Build} {h : Handle} {es : List Event} {p : ReadView}
    (follows : (readObserver b h).Follows es p) : ReadTransfer b h es where
  chunk := by
    rintro pre bytes post rfl
    obtain ⟨q, q', before, heard, -⟩ := (readObserver b h).follows_split follows
    have known := ReadView.Known.of_follows before
    have cursor : readCursor h.address pre = q.cursor := congrArg Prod.fst known.cursor
    have fresh : freshReads pre = q.reads := congrArg Prod.snd known.fresh
    rw [cursor, fresh]
    obtain ⟨⟨-, -, short, size, read⟩, -⟩ := ReadView.observe_chunk heard
    exact ⟨short, size, read, fun mem holds => known.chunk_image read holds⟩
  acknowledged := by
    rintro pre bytes mid bytes' post rfl
    obtain ⟨q, q', -, heard, after⟩ := (readObserver b h).follows_split follows
    obtain ⟨-, rfl⟩ := ReadView.observe_chunk heard
    unfold Observer.Sees at after
    rw [List.foldlM_append] at after
    obtain ⟨r, between, rest⟩ := Option.bind_eq_some_iff.mp after
    obtain ⟨r', again, -⟩ := (readObserver b h).sees_uncons rest
    obtain ⟨⟨-, free, -⟩, -⟩ := ReadView.observe_chunk again
    exact ReadView.acked_between (by simp) between free
  done := by
    rintro pre params post rfl
    obtain ⟨q, q', before, heard, -⟩ := (readObserver b h).follows_split follows
    have known := ReadView.Known.of_follows before
    have cursor : readCursor h.address pre = q.cursor := congrArg Prod.fst known.cursor
    obtain ⟨⟨-, reached, -⟩, -⟩ := Option.ite_none_right_eq_some.mp heard
    exact cursor ▸ reached
  piece quiet := by
    have known := ReadView.Known.of_follows follows
    exact known.first (known.quiet quiet).1
  whole := by
    rintro pre params post rfl quiet
    obtain ⟨q, q', before, heard, -⟩ := (readObserver b h).follows_split follows
    have known := ReadView.Known.of_follows before
    exact known.all (known.quiet quiet).1 heard

/-- While the ACKs fit, what was sent is the region. -/
theorem ExactRead.of_follows {b : Build} {h : Handle} {es : List Event} {p : ReadView}
    (follows : (readObserver b h).Follows es p) (fits : AcksFit es) : ExactRead h es where
  piece := (ReadView.Known.of_follows follows).first fits
  whole := by
    intro params told mem holds
    have first := (ReadView.Known.of_follows follows).first fits mem holds
    obtain ⟨pre, post, rfl⟩ := List.append_of_mem told
    obtain ⟨q, q', before, heard, -⟩ := (readObserver b h).follows_split follows
    have known := ReadView.Known.of_follows before
    have all := known.all fits.before heard mem holds.before
    have earlier : sentBytes pre <+: sentBytes (pre ++ .emitted msgMainDone params :: post) := by
      unfold sentBytes
      rw [List.flatMap_append]
      exact List.prefix_append _ _
    rw [← all] at first ⊢
    exact first.eq_of_length_le earlier.length_le

/-! ## The callback that reads -/

variable {env : Env} {h : Handle} {w w' : World}

/-- What a run of the read callback does while the cursor is inside the chip: the buffer is filled
with what is read from the cursor on. -/
structure ReadRun (b : Build) (w w' : World) : Prop where
  step : CallbackStep w w'
  size : w.handle.address ≤ w.handle.memSize → w'.handle.dataSize.toNat =
    min b.dataBufferSize (w.handle.memSize - w.handle.address).toNat
  read : w.handle.address ≤ w.handle.memSize →
    Logged (w'.handle.readBack 0 w'.handle.dataSize.toNat) w w'

/-- A byte more was read into the buffer. -/
theorem Handle.readBack_store (h : Handle) (k : Nat) (data : U8) :
    { h with dataBuffer := storeByte h.dataBuffer k data }.readBack 0 (k + 1) =
      h.readBack 0 k ++ [.read (h.byteAddress k) data] := by
  rw [Handle.readBack_succ]
  have earlier : { h with dataBuffer := storeByte h.dataBuffer k data }.readBack 0 k =
      h.readBack 0 k := by
    apply List.map_congr_left
    intro i member
    have below := (List.mem_range'_1.mp member).2
    have apart : i ≠ k := by omega
    simp [storeByte, apart, Handle.byteAddress]
  rw [earlier]
  simp [storeByte, Handle.byteAddress]

theorem ends_memoryReadExecute (inside : w.handle.address ≤ w.handle.memSize) :
    Ends memoryReadExecute env w
      (fun _ w' => w'.handle.dataSize.toNat =
          min env.build.dataBufferSize (w.handle.memSize - w.handle.address).toNat ∧
        Logged (w'.handle.readBack 0 w'.handle.dataSize.toNat) w w') (fun _ => False) := by
  unfold memoryReadExecute offsets
  rw [ends_bind, ends_getHandle, ends_bind, ends_build, if_neg (BitVec.not_lt.mpr inside)]
  have small : env.build.dataBufferSize < 2 ^ 32 := by
    unfold Build.dataBufferSize
    cases env.build.board <;> decide
  generalize count : min (w.handle.memSize - w.handle.address).toNat env.build.dataBufferSize = n
  have short : n < 2 ^ 32 := by omega
  rw [ends_bind, List.forM_eq_forM, List.forM_map]
  refine (ends_forM_range (s := w) (fun k s => s.handle.parameters = w.handle.parameters ∧
      s.handle.address = w.handle.address ∧ Logged (s.handle.readBack 0 k) w s)
    (fun k below s kept => ?_) ⟨rfl, rfl, [], rfl, rfl⟩).mono (fun _ s kept => ?_) fun _ => id
  · obtain ⟨parameters, address, logged⟩ := kept
    rw [ends_bind]
    refine (memoryGetData_log s _).mono (fun data s' read => ?_) fun _ => id
    rw [ends_setHandle]
    have same : s'.handle = s.handle := read.handle
    have place : (BitVec.ofNat 32 k).toNat = k := by
      rw [BitVec.toNat_ofNat]
      omega
    refine ⟨?_, ?_, ?_⟩
    · show { s'.handle with dataBuffer := _ }.parameters = _
      rw [same]
      exact parameters
    · show s'.handle.address = _
      rw [same]
      exact address
    · have both := logged.trans read.logged
      rw [← address] at both
      show Logged ({ s'.handle with dataBuffer := storeByte s'.handle.dataBuffer _ data }.readBack 0
        (k + 1)) w _
      rw [same, place, Handle.readBack_store]
      exact both
  · obtain ⟨-, address, logged⟩ := kept
    have size : (BitVec.ofNat 32 n).toNat = n := by
      rw [BitVec.toNat_ofNat]
      omega
    rw [ends_setHandle]
    show (BitVec.ofNat 32 n).toNat = _ ∧ Logged (s.handle.readBack 0 (BitVec.ofNat 32 n).toNat) w _
    rw [size]
    exact ⟨by omega, logged⟩

theorem readRuns : CallbackRuns env .memoryReadExecute (ReadRun env.build) CallbackStep := by
  refine ⟨fun w => ?_, fun _ _ run => run.step⟩
  have step : Ends (dispatch .memoryReadExecute) env w (fun _ w' => CallbackStep w w')
      (CallbackStep w) := (within_callback .memoryReadExecute nofun).ends w
  have read : Ends (dispatch .memoryReadExecute) env w
      (fun _ w' => w.handle.address ≤ w.handle.memSize →
        w'.handle.dataSize.toNat =
          min env.build.dataBufferSize (w.handle.memSize - w.handle.address).toNat ∧
        Logged (w'.handle.readBack 0 w'.handle.dataSize.toNat) w w')
      (fun _ => w.handle.address ≤ w.handle.memSize → False) :=
    ends_imp ends_memoryReadExecute
  exact (step.and read).mono
    (fun _ _ both => ⟨both.1, fun inside => (both.2 inside).1, fun inside => (both.2 inside).2⟩)
    fun _ both => both.1

/-! ## The engine and the pump keep to it -/

namespace ReadView

variable {b : Build} {p q : ReadView}

theorem touches_away (away : p.number ≠ 3) (log : List Access) :
    (readObserver b h).Touches p log p := by
  induction log with
  | nil => rfl
  | cons a log ih =>
    have same : (readObserver b h).touch p a = some p := by
      cases a <;> simp [readObserver, Observer.ofAccesses, touch, away]
    simpa [Observer.Touches, same] using ih

theorem touches_total (log : List Access) : ∃ q, (readObserver b h).Touches p log q := by
  induction log generalizing p with
  | nil => exact ⟨p, rfl⟩
  | cons a log ih =>
    obtain ⟨q, touched⟩ : ∃ q, (readObserver b h).touch p a = some q := by
      cases a <;> exact ⟨_, rfl⟩
    obtain ⟨r, touches⟩ := ih (p := q)
    exact ⟨r, by simpa [Observer.Touches, touched] using touches⟩

/-- Bytes read into the buffer are heard as they are read. -/
theorem touches_readBack (main : p.number = 3) (f : Handle) (count : Nat) :
    (readObserver b h).Touches p (f.readBack 0 count)
      { p with reads := p.reads ++ (List.range count).map fun i =>
          (f.byteAddress i, f.dataBuffer i) } := by
  induction count with
  | zero => simp [Observer.Touches, Handle.readBack]
  | succ count ih =>
    unfold Observer.Touches at *
    rw [Handle.readBack_succ, List.foldlM_append, ih]
    simp [readObserver, Observer.ofAccesses, touch, main, List.range_succ]

theorem observe_data (p : ReadView) (payload : List U8) :
    (readObserver b h).observe p (.message .data payload) = some { p with
      due := p.due.map fun _ => BitVec.ofNat 32 payload.length } := rfl

theorem observe_ack (p : ReadView) (payload : List U8) :
    (readObserver b h).observe p (.message .ack payload) =
      some { p with cursor := p.cursor + p.due.getD 0, due := none } := rfl

theorem observe_mainDone (due : p.due = none) (reached : h.operationEnd ≤ p.cursor)
    (empty : p.sent = 0 → p.cursor = h.operationEnd) :
    (readObserver b h).observe p (.emitted msgMainDone []) = some p := by
  have apart : msgMainDone ≠ msgDataChunk := by decide
  show p.observe b h (.emitted msgMainDone []) = some p
  dsimp only [observe]
  rw [if_neg apart, if_pos rfl, if_pos ⟨due, reached, empty⟩]

theorem observe_sending (p : ReadView) :
    (readObserver b h).observe p (.emitted msgDataSending []) = some p := by
  have apart : msgDataSending ≠ msgDataChunk ∧ msgDataSending ≠ msgMainDone := by decide
  show p.observe b h (.emitted msgDataSending []) = some p
  simp [observe, apart]

/-- What the observer knows in a stage. -/
structure Fits (h : Handle) (st : Stage) (w : World) (p : ReadView) : Prop where
  number : p.number = st.number.toNat
  cursor : p.cursor = w.handle.address
  due : p.due = none
  reading : h.firestarterOperationMain = some .memoryReadExecute

namespace Fits

variable {st next served : Stage}

theorem link (fits : p.Fits h st w) (link : LinkStep w w') : p.Fits h st w' :=
  { fits with cursor := fits.cursor.trans link.address.symm }

theorem message (fits : p.Fits h st w) (outside : st ≠ .inMain) (kind : OpMessageType)
    (payload : List U8) : p.observe b h (.message kind payload) = some p := by
  have away : p.number ≠ 3 := by
    rw [fits.number]
    cases st <;> first | decide | exact (outside rfl).elim
  have due := fits.due
  cases p
  cases kind <;> simp_all [observe]

theorem advances (fits : p.Fits h st w) (next : Stage) :
    p.observe b h (.advanced next.number) = some { p with number := next.number.toNat } :=
  if_pos fits.due

theorem inStage (fits : p.Fits h st w) (next : Stage) :
    Fits h next (w.inStage next) { p with number := next.number.toNat } where
  number := rfl
  cursor := fits.cursor
  due := fits.due
  reading := fits.reading

/-- A housekeeping callback is no part of the transfer. -/
theorem serve (fits : p.Fits h st w) {callback : Callback} {frame : U8}
    (settled : h.Settled) (house : st.housekeeping = some (served, next, frame))
    (found : h.housekeeper st = some callback) (t : (readObserver b h).Tracks h p w) :
    Ends (executeOperation dispatch (some callback)) env w
      (fun r w' => ∃ q, (readObserver b h).Tracks h q w' ∧ (r ≠ .error → q.Fits h served w'))
      (fun w' => ∃ q, (readObserver b h).Tracks h q w') := by
  have known : callback ≠ .configureMemory := settled.serves found
  have same : served.number = st.number := by cases st <;> cases house <;> rfl
  have away : p.number ≠ 3 := by
    rw [fits.number]
    cases st <;> first | decide | cases house
  have hears : (readObserver b h).Hears callback CallbackStep w.handle { p with reads := [] }
      (fun _ q => q = { p with reads := [] }) := by
    intro s s' queue _ step
    obtain ⟨log, logged⟩ := step.logged queue
    exact ⟨log, _, _, logged, touches_away (p := { p with reads := [] }) away log, rfl, rfl⟩
  refine (ends_callback known w).mono (fun r w' ran => ?_) fun w' cut => ?_
  · obtain ⟨-, q, tracks, rfl, -⟩ := t.executed ran (fun _ _ step => step) rfl hears
    have address : w'.handle.address = w.handle.address :=
      ran.handle Handle.address (fun _ _ step => by
        have kept := congrArg (fun w : World => w.handle.address) step.kept
        exact kept) fun _ _ => rfl
    refine ⟨_, tracks, fun _ => ⟨?_, fits.cursor.trans address.symm, fits.due, fits.reading⟩⟩
    exact fits.number.trans (congrArg BitVec.toNat same).symm
  · refine t.cutShort cut (fun _ _ step => step) (fun _ _ step => step) rfl hears ?_
    intro s s' queue _ step
    obtain ⟨log, logged⟩ := step.logged queue
    exact ⟨log, _, logged, touches_away (p := { p with reads := [] }) away log⟩

theorem close (fits : p.Fits h served w) {frame : U8}
    (house : st.housekeeping = some (served, next, frame)) :
    p.observe b h (.emitted frame []) = some p ∧
      Fits h next (w.closed next frame) { p with number := next.number.toNat } := by
  have other : frame ≠ msgDataChunk ∧ frame ≠ msgMainDone := by
    cases st <;> cases house <;> exact ⟨by decide, by decide⟩
  refine ⟨by simp [observe, other], ?_⟩
  have sent : p.Fits h served { w with trace := .emitted frame [] :: w.trace } :=
    { fits with cursor := fits.cursor }
  exact sent.inStage next

end Fits

/-- While the ACK for a chunk is due, the handle's length is by how much it will move the cursor. -/
structure Waits (h : Handle) (w : World) (p : ReadView) : Prop where
  number : p.number = 3
  cursor : p.cursor = w.handle.address
  due : p.due = some w.handle.dataSize
  sent : p.sent ≠ 0
  reading : h.firestarterOperationMain = some .memoryReadExecute

namespace Waits

theorem heard (waits : p.Waits h w) (t : (readObserver b h).Tracks h p w) (heard : Heard w w') :
    ∃ q, (readObserver b h).Tracks h q w' ∧ q.Waits h w' := by
  induction heard with
  | start => exact ⟨p, t, waits⟩
  | link _ link ih =>
    obtain ⟨q, tracks, waits⟩ := ih
    have kept := congrArg (fun w : World => w.handle.dataSize) link.kept
    exact ⟨q, tracks.moves link, { waits with
      cursor := waits.cursor.trans link.address.symm
      due := waits.due.trans (congrArg some kept.symm) }⟩
  | @message kind w₁ w₂ _ notAck heard ih =>
    obtain ⟨q, tracks, waits⟩ := ih
    have address := heard.address
    cases heard with
    | incomplete link =>
      have kept := congrArg (fun w : World => w.handle.dataSize) link.kept
      exact ⟨q, tracks.moves link, { waits with
        cursor := waits.cursor.trans address.symm
        due := waits.due.trans (congrArg some kept.symm) }⟩
    | @plain _ w₂ _ notData taken link =>
      have kept := congrArg (fun w : World => w.handle.dataSize) link.kept
      have seen : (readObserver b h).observe q (.message kind []) = some q := by
        cases kind <;> first | rfl | exact absurd rfl notAck | exact absurd rfl notData
      exact ⟨q, (tracks.moves link).note _ rfl seen rfl rfl, { waits with
        cursor := waits.cursor.trans address.symm
        due := waits.due.trans (congrArg some kept.symm) }⟩
    | @data _ w₂ size link =>
      -- the frame's length takes the place of the chunk's
      refine ⟨_, (tracks.moves link).note _ rfl (observe_data q _) rfl rfl, waits.number,
        waits.cursor.trans address.symm, ?_, waits.sent, waits.reading⟩
      show q.due.map _ = _
      rw [waits.due, Handle.payload_length, BitVec.ofNat_toNat, BitVec.setWidth_eq]
      rfl

/-- The ACK moves the cursor by what the handle holds. -/
theorem acked (waits : p.Waits h w) (t : (readObserver b h).Tracks h p w)
    (acked : Delivered .ack w w') :
    ∃ q, (readObserver b h).Tracks h q w'.movedOn ∧ q.Fits h .inMain w'.movedOn ∧ q.sent ≠ 0 := by
  cases acked with
  | @plain _ w₁ _ notData taken link =>
    have kept := congrArg (fun w : World => w.handle.dataSize) link.kept
    have kept : w₁.handle.dataSize = w.handle.dataSize := kept
    have tracks : (readObserver b h).Tracks h _ { w₁ with trace := .message .ack [] :: w₁.trace } :=
      (t.moves link).note _ rfl (observe_ack p []) rfl rfl
    refine ⟨_, tracks.handle _, ⟨waits.number, ?_, rfl, waits.reading⟩, waits.sent⟩
    show p.cursor + p.due.getD 0 = w₁.handle.address + w₁.handle.dataSize
    rw [waits.cursor, waits.due, link.address, kept]
    rfl

end Waits

/-- The host is told that the main phase is done. -/
theorem Fits.mainDone (fits : p.Fits h .inMain w) (t : (readObserver b h).Tracks h p w)
    (reached : h.operationEnd ≤ w.handle.address)
    (empty : p.sent = 0 → w.handle.address = h.operationEnd) :
    ∃ q, (readObserver b h).Tracks h q w.mainDone ∧ q.Fits h .beforeEnd w.mainDone := by
  have told : (readObserver b h).observe { p with number := 4 } (.emitted msgMainDone []) =
      some { p with number := 4 } := by
    refine observe_mainDone fits.due (fits.cursor ▸ reached) fun none => ?_
    exact fits.cursor.trans (empty none)
  exact ⟨_, t.mainDone (fits.advances (b := b) .beforeEnd) told, rfl, fits.cursor, fits.due,
    fits.reading⟩

/-- The read callback is entered from the cursor, and leaves what it read in the buffer. -/
theorem Fits.reads (fits : p.Fits h .inMain w) (more : w.handle.address < w.handle.operationEnd) :
    (readObserver b h).Hears .memoryReadExecute (ReadRun b) w.handle { p with reads := [] }
      fun f q => f.dataSize.toNat = min b.dataBufferSize (w.handle.memSize - w.handle.address).toNat ∧
        q = { p with reads := (List.range f.dataSize.toNat).map fun i =>
          (f.byteAddress i, f.dataBuffer i) } := by
  intro s s' _ entry run
  have inside : s.handle.address ≤ s.handle.memSize := by
    rw [entry]
    exact BitVec.le_trans (BitVec.le_of_lt more) (operationEnd_le w.handle)
  have size := run.size inside
  rw [entry] at size
  refine ⟨_, _, _, run.read inside, touches_readBack (by exact fits.number) s'.handle _, rfl, size, ?_⟩
  simp

/-- A chunk of what was read is heard as such. -/
theorem take_reads (f : Handle) {count size : Nat} (short : size ≤ count) :
    ((List.range count).map fun i => (f.byteAddress i, f.dataBuffer i)).take size =
      readsFrom f.address ((List.range size).map f.dataBuffer) := by
  apply List.ext_getElem
  · simp [readsFrom, short]
  · intro i inside inside'
    simp [readsFrom, Handle.byteAddress]

theorem observe_chunk_of {bytes : List U8} (main : p.number = 3) (due : p.due = none)
    (short : p.cursor < h.operationEnd)
    (size : bytes.length = min b.dataBufferSize (h.operationEnd - p.cursor).toNat)
    (read : p.reads.take bytes.length = readsFrom p.cursor bytes) :
    (readObserver b h).observe p (.emitted msgDataChunk bytes) =
      some { p with due := some (BitVec.ofNat 32 bytes.length), sent := p.sent + bytes.length } := by
  show p.observe b h (.emitted msgDataChunk bytes) = _
  dsimp only [observe]
  rw [if_pos rfl, if_pos ⟨main, due, short, size, read⟩]

theorem trimmed_size (opEnd : U32) (w : World) : (w.trimmed opEnd).handle.dataSize.toNat =
    min w.handle.dataSize.toNat (opEnd - w.handle.address).toNat := by
  show (if w.handle.dataSize > opEnd - w.handle.address then opEnd - w.handle.address
    else w.handle.dataSize).toNat = _
  split
  · rename_i long
    have long := BitVec.lt_def.mp long
    omega
  · rename_i short
    have short := BitVec.le_def.mp (BitVec.not_lt.mp short)
    omega

/-- The callback has read from the cursor on, a whole buffer or up to the end of the chip. -/
theorem Fits.loads (fits : p.Fits h .inMain w) (t : (readObserver b h).Tracks h p w)
    (more : w.handle.address < w.handle.operationEnd)
    (ran : Executed .memoryReadExecute (ReadRun b) w .stop w') :
    w'.handle.address = w.handle.address ∧
      w'.handle.dataSize.toNat = min b.dataBufferSize (w.handle.memSize - w.handle.address).toNat ∧
      (readObserver b h).Tracks h { p with
        reads := (List.range w'.handle.dataSize.toNat).map fun i =>
          (w'.handle.byteAddress i, w'.handle.dataBuffer i) } w' := by
  obtain ⟨f, q, tracks, ⟨size, rfl⟩, -, left⟩ :=
    t.executed ran (fun _ _ run => run.step) rfl (fits.reads more)
  refine ⟨?_, ?_, ?_⟩
  · exact ran.handle Handle.address (fun _ _ run => by
      have kept := congrArg (fun w : World => w.handle.address) run.step.kept
      exact kept) fun _ _ => rfl
  · rw [left rfl]
    exact size
  · rw [left rfl]
    exact tracks

/-- The chunk that was read goes out. -/
theorem Fits.sends (fits : p.Fits h .inMain w) (e : Engaged h .inMain w)
    (t : (readObserver b h).Tracks h p w) (more : w.handle.address < w.handle.operationEnd)
    {w₁ : World} (ran : Executed .memoryReadExecute (ReadRun b) w .stop w₁) :
    ∃ q, (readObserver b h).Tracks h q (w₁.trimmed w.handle.operationEnd).chunkSent ∧
      q.Waits h (w₁.trimmed w.handle.operationEnd).chunkSent := by
  obtain ⟨address, loaded, tracks⟩ := fits.loads t more ran
  have opEnd : w.handle.operationEnd = h.operationEnd := e.operationEnd
  have cut := trimmed_size w.handle.operationEnd w₁
  have within : (w₁.trimmed w.handle.operationEnd).handle.dataSize.toNat ≤
      w₁.handle.dataSize.toNat := cut ▸ Nat.min_le_left _ _
  have bytes : (w₁.trimmed w.handle.operationEnd).handle.payload =
      (List.range (w₁.trimmed w.handle.operationEnd).handle.dataSize.toNat).map
        w₁.handle.dataBuffer := rfl
  have place : (w₁.trimmed w.handle.operationEnd).handle.address = w₁.handle.address := rfl
  have trimmed := tracks.handle (w₁.trimmed w.handle.operationEnd).handle
  have trimmed : (readObserver b h).Tracks h _ (w₁.trimmed w.handle.operationEnd) := trimmed
  revert cut within bytes place trimmed
  generalize w₁.trimmed w.handle.operationEnd = v
  intro cut within bytes place trimmed
  have inside := BitVec.le_def.mp (operationEnd_le w.handle)
  have below := BitVec.lt_def.mp more
  rw [address, loaded, BitVec.toNat_sub_of_le (BitVec.le_of_lt more),
    BitVec.toNat_sub_of_le (BitVec.le_def.mpr (by omega))] at cut
  have size : v.handle.payload.length =
      min b.dataBufferSize (h.operationEnd - p.cursor).toNat := by
    rw [fits.cursor, ← opEnd, BitVec.toNat_sub_of_le (BitVec.le_of_lt more), Handle.payload_length]
    omega
  have buffer : b.dataBufferSize ≤ 65533 ∧ 0 < b.dataBufferSize := by
    unfold Build.dataBufferSize
    cases b.board <;> decide
  have announced : (readObserver b h).Tracks h _
      { v with trace := .emitted msgDataSending [] :: v.trace } :=
    trimmed.note (.emitted msgDataSending []) rfl (observe_sending _) rfl rfl
  have short : p.cursor < h.operationEnd := by
    rw [fits.cursor, ← opEnd]
    exact more
  have said : (readObserver b h).Tracks h _ v.chunkSent :=
    announced.note (.emitted msgDataChunk v.handle.payload) rfl
      (observe_chunk_of (by exact fits.number) (by exact fits.due) short size ?_) ?_ rfl
  · refine ⟨_, said, by exact fits.number, ?_, ?_, ?_, fits.reading⟩
    · exact fits.cursor.trans (address.symm.trans place.symm)
    · show some (BitVec.ofNat 32 v.handle.payload.length) = some v.handle.dataSize
      rw [Handle.payload_length, BitVec.ofNat_toNat, BitVec.setWidth_eq]
    · show p.sent + v.handle.payload.length ≠ 0
      rw [Handle.payload_length]
      omega
  · rw [Handle.payload_length, bytes, take_reads _ within, address, fits.cursor]
  · show (if v.handle.payload.length ≤ 65533 then _ else _) ++ _ = _
    rw [if_pos (by omega)]
    rfl

/-- A turn of the main phase. -/
theorem Fits.pumps (fits : p.Fits h .inMain w) (e : Engaged h .inMain w)
    (t : (readObserver env.build h).Tracks h p w) :
    Ends processOutgoingData env w
      (fun ok w' => (readObserver env.build h).Pumped (fun st w p => p.Fits h st w) h ok w')
      (fun w' => ∃ q, (readObserver env.build h).Tracks h q w') := by
  have opEnd : w.handle.operationEnd = h.operationEnd := e.operationEnd
  have answered {w₁ w₂ w₃ : World} (more : w.handle.address < w.handle.operationEnd)
      (ran : Executed .memoryReadExecute (ReadRun env.build) w .stop w₁)
      (heard : Heard (w₁.trimmed w.handle.operationEnd).chunkSent w₂)
      (acked : Delivered .ack w₂ w₃) :
      ∃ q, (readObserver env.build h).Tracks h q w₃.movedOn ∧ q.Fits h .inMain w₃.movedOn ∧
        q.sent ≠ 0 := by
    obtain ⟨q, tracks, waits⟩ := fits.sends e t more ran
    obtain ⟨q, tracks, waits⟩ := waits.heard tracks heard
    exact waits.acked tracks acked
  have asked {w₁ w₂ : World} (more : w.handle.address < w.handle.operationEnd)
      (ran : Executed .memoryReadExecute (ReadRun env.build) w .stop w₁)
      (heard : Heard (w₁.trimmed w.handle.operationEnd).chunkSent w₂) :
      ∃ q, (readObserver env.build h).Tracks h q w₂ := by
    obtain ⟨q, tracks, waits⟩ := fits.sends e t more ran
    obtain ⟨q, tracks, -⟩ := waits.heard tracks heard
    exact ⟨q, tracks⟩
  have stays {w' : World} {st : Stage} (known : ∃ q, (readObserver env.build h).Tracks h q w' ∧
      q.Fits h st w') : ∃ q, (readObserver env.build h).Tracks h q w' ∧
        ∀ st', some st = some st' → q.Fits h st' w' :=
    known.imp fun _ both => ⟨both.1, fun st' same => Option.some.inj same ▸ both.2⟩
  refine (ends_processOutgoingData readRuns fits.reading e).mono (fun ok w' turn => ?_)
    fun w' cut => ?_
  · obtain ⟨r, rfl, turn, turned⟩ := turn
    refine Observer.pumped_of_turned turned ?_
    cases turn with
    | overrun beyond => exact ⟨p, t.outOfRange, nofun⟩
    | @complete w₁ reached link =>
      have still := fits.link link
      have here : w₁.handle.address = h.operationEnd :=
        link.address.trans (reached.trans opEnd)
      exact stays (still.mainDone (t.moves link) (BitVec.le_of_eq here.symm) fun _ => here)
    | failed more ran =>
      obtain ⟨-, q, tracks, -⟩ := t.executed ran (fun _ _ run => run.step) rfl (fits.reads more)
      exact ⟨q, tracks, nofun⟩
    | unanswered more ran heard =>
      obtain ⟨q, tracks⟩ := asked more ran heard
      exact ⟨q, tracks, nofun⟩
    | sent more ran heard acked rest =>
      obtain ⟨q, tracks, fits, -⟩ := answered more ran heard acked
      exact stays ⟨q, tracks, fits⟩
    | @last w₁ w₂ w₃ w₄ more ran heard acked reached link =>
      obtain ⟨q, tracks, fits, sent⟩ := answered more ran heard acked
      have still := fits.link link
      have reached : h.operationEnd ≤ w₄.handle.address := by
        rw [link.address, ← opEnd]
        exact reached
      exact stays (still.mainDone (tracks.moves link) reached fun none => absurd none sent)
  · cases cut with
    | link link => exact ⟨p, t.moves link⟩
    | running more cut =>
      refine t.cutShort cut (fun _ _ run => run.step) (fun _ _ step => step) rfl (fits.reads more) ?_
      intro s s' queue _ step
      obtain ⟨log, logged⟩ := step.logged queue
      obtain ⟨q, touches⟩ := touches_total (b := env.build) (h := h) (p := { p with reads := [] }) log
      exact ⟨log, q, logged, touches⟩
    | hearing more ran heard => exact asked more ran heard
    | ending more ran heard acked link =>
      obtain ⟨q, tracks, -⟩ := answered more ran heard acked
      exact ⟨q, tracks.moves link⟩

end ReadView

/-- The observer of a read can follow every read. -/
def readObservation (env : Env) (h : Handle) (reads : (h.cmd == cmdRead) = true) :
    PhaseObservation env h (mainPump h.cmd) where
  View := ReadView
  observer := readObserver env.build h
  fits st w p := p.Fits h st w
  begins {w} memory accepted same := by
    subst same
    have granted := granted_of_accepted memory accepted
    exact ⟨rfl, rfl, rfl, (granted.reads (beq_iff_eq.mp reads)).1⟩
  waits fits link := ReadView.Fits.link fits link
  hears {st w p} kind payload size listens fits := by
    have outside : st ≠ .inMain := by
      rintro rfl
      cases listens
    exact ⟨p, ReadView.Fits.message (b := env.build) fits outside kind payload,
      { fits with cursor := fits.cursor }⟩
  opens {st next w p} opening fits := by
    have outside : st ≠ .inMain := by
      rintro rfl
      cases opening
    refine ⟨p, _, ReadView.Fits.message (b := env.build) fits outside .ack [],
      ReadView.Fits.advances (b := env.build) fits next, ?_⟩
    intro w' link
    have heard : ReadView.Fits h st { w with trace := .message .ack [] :: w.trace } p :=
      { fits with cursor := fits.cursor }
    exact (heard.link link).inStage next
  lacks {st served _ _ _ _} house _ fits := by
    have same : served.number = st.number := by cases st <;> cases house <;> rfl
    exact { fits with number := by rw [same]; exact fits.number }
  serves settled house found _ tracks fits := ReadView.Fits.serve fits settled house found tracks
  closes house fits := by
    obtain ⟨sent, closed⟩ := ReadView.Fits.close (b := env.build) fits house
    exact ⟨_, _, sent, ReadView.Fits.advances (b := env.build) fits _, closed⟩
  pumps _ _ e tracks fits := by
    have pump : mainPump h.cmd = processOutgoingData := if_pos reads
    rw [pump]
    exact ReadView.Fits.pumps fits e tracks
  finishes p := ⟨p, rfl⟩

/-! ## Every read -/

/-- Whatever the host sends, a read moves the chip's content to it chunk by chunk: each is read from
the cursor on, and unless the host sends data of its own the pieces are the region from its start,
all of it when the host is told that the main phase is done. -/
theorem read_transfer (seen : Seen env w) {es : List Event}
    (events : commandEvents w.trace = some (h, es)) (reads : h.cmd = cmdRead) :
    ReadTransfer env.build h es := by
  have memory : isMemoryCmd h.cmd = true := by
    rw [reads]
    rfl
  obtain ⟨p, follows⟩ := follows_of_picked (readObservation env) seen events memory
    (beq_iff_eq.mpr reads)
  exact ReadTransfer.of_follows follows

/-- A Leonardo whose host reads four bytes of an SRAM that holds the low byte of each address, and
then sends these bytes. -/
def regionReader (answers : List U8) : Env :=
  { Env.still ⟨.leonardo, false⟩ 200 with chip := fun w => w.latches.lsb }.sends <|
    memoryFrame { cmd := cmdRead, memSize := 8, address := 2, regionEnd := 6,
                  protocol := protoSram32Pin, pins := 32, vppMv := 5000,
                  busConfig := { addressLines := [], rwLine := 0xFF, vppLine := 0xFF } } ++ answers

/-- The host acknowledges each step. -/
def regionReadEnv : Env := regionReader [asciiO, asciiK, asciiO, asciiK, asciiO, asciiK]

/-- The region is sent, and the host is told so. -/
theorem read_transfer_region : ∃ (w : World) (h : Handle) (es : List Event),
    commandEvents w.trace = some (h, es) ∧ sentBytes es = [2, 3, 4, 5] ∧ mainData es = [] ∧
      (mainReads es).take 4 = readsFrom 2 [2, 3, 4, 5] ∧ ReadTransfer regionReadEnv.build h es := by
  have ran : commandAfter regionReadEnv 4 (fun _ h es =>
      (h.cmd, sentBytes es, mainData es, (mainReads es).take 4)) =
      some (cmdRead, [2, 3, 4, 5], [], readsFrom 2 [2, 3, 4, 5]) := by
    decide +kernel
  obtain ⟨w, h, es, -, seen, events, ran⟩ := exists_of_commandAfter ran
  obtain ⟨reads, ran⟩ := Prod.mk.inj ran
  obtain ⟨sent, ran⟩ := Prod.mk.inj ran
  obtain ⟨data, read⟩ := Prod.mk.inj ran
  exact ⟨w, h, es, events, sent, data, read, read_transfer seen events reads⟩

/-- A data frame in place of an ACK leaves its length where the chunk's was, and the ACK moves the
cursor by it. While such frames are as long as the chunk, the host is sent the region, each byte once
and in order. -/
theorem read_exact (seen : Seen env w) {es : List Event}
    (events : commandEvents w.trace = some (h, es)) (reads : h.cmd = cmdRead) (fits : AcksFit es) :
    ExactRead h es := by
  have memory : isMemoryCmd h.cmd = true := by
    rw [reads]
    rfl
  obtain ⟨p, follows⟩ := follows_of_picked (readObservation env) seen events memory
    (beq_iff_eq.mpr reads)
  exact ExactRead.of_follows follows fits

/-- The host sends a data frame before it acknowledges the chunk. -/
def strayDataEnv (payload : List U8) : Env :=
  regionReader <| [asciiO, asciiK, asciiO, asciiK] ++ asciiHash :: communicationFrame payload ++
    [asciiO, asciiK, asciiO, asciiK]

/-- A frame of the chunk's length does no harm. -/
theorem read_exact_stray : ∃ (w : World) (h : Handle) (es : List Event),
    commandEvents w.trace = some (h, es) ∧ sentBytes es = [2, 3, 4, 5] ∧
      mainData es = [[9, 9, 9, 9]] ∧ ExactRead h es := by
  have ran : commandAfter (strayDataEnv [9, 9, 9, 9]) 4 (fun _ h es =>
      (h.cmd, sentBytes es, mainData es, decide (AcksFit es))) =
      some (cmdRead, [2, 3, 4, 5], [[9, 9, 9, 9]], true) := by
    decide +kernel
  obtain ⟨w, h, es, -, seen, events, ran⟩ := exists_of_commandAfter ran
  obtain ⟨reads, ran⟩ := Prod.mk.inj ran
  obtain ⟨sent, ran⟩ := Prod.mk.inj ran
  obtain ⟨data, fits⟩ := Prod.mk.inj ran
  exact ⟨w, h, es, events, sent, data, read_exact seen events reads (of_decide_eq_true fits)⟩

/-- After a shorter one the cursor stays behind, and three of the four bytes are sent again. -/
theorem stray_data_repeats_bytes :
    ¬ ∀ (env : Env) (w : World) (h : Handle) (es : List Event), Seen env w →
      commandEvents w.trace = some (h, es) → h.cmd = cmdRead → ExactRead h es := by
  intro exact
  have ran : commandAfter (strayDataEnv [9]) 4 (fun _ h es =>
      (h.cmd, sentBytes es, (h.operationEnd - h.address).toNat,
        (mainReads es).all fun r => r.2 == r.1.setWidth 8)) =
      some (cmdRead, [2, 3, 4, 5, 3, 4, 5], 4, true) := by
    decide +kernel
  obtain ⟨w, h, es, -, seen, events, ran⟩ := exists_of_commandAfter ran
  obtain ⟨reads, ran⟩ := Prod.mk.inj ran
  obtain ⟨sent, ran⟩ := Prod.mk.inj ran
  obtain ⟨size, held⟩ := Prod.mk.inj ran
  have holds : ChipHolds (fun a => a.setWidth 8) es := fun r member =>
    beq_iff_eq.mp (List.all_eq_true.mp held r member)
  have short := ((exact _ w h es seen events reads).piece _ holds).length_le
  rw [sent, image_length, size] at short
  exact absurd short (by decide)

end Firestarter
