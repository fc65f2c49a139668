import Firestarter.UnlockedSessions
import Firestarter.WriteTransfer
import Mathlib.Data.List.Nodup

/-! What a write leaves in the part: the bytes the host has sent lie in the part's array from the
start address on, whatever the chunks they came in, and the rest of the array is as it was when the
main phase began. -/
namespace Firestarter

set_option synthInstance.maxSize 256

open Interactive Interactive.Prog MemoryPart

/-! ## The cells of the host's bytes -/

/-- Bytes and the cells they go to, one after another. -/
def cellsAt (start : U32) (data : List U8) : List (U32 × U8) :=
  data.mapIdx fun i b => (start + BitVec.ofNat 32 i, b)

theorem cellsAt_append (start : U32) (data more : List U8) :
    cellsAt start (data ++ more) =
      cellsAt start data ++ cellsAt (start + BitVec.ofNat 32 data.length) more := by
  unfold cellsAt
  rw [List.mapIdx_append]
  congr 2
  funext i b
  rw [Nat.add_comm, BitVec.ofNat_add, ← BitVec.add_assoc]

theorem cellsAt_nodup (start : U32) {data : List U8} (small : data.length ≤ 2 ^ 32) :
    ((cellsAt start data).map Prod.fst).Nodup := by
  have addresses : (cellsAt start data).map Prod.fst =
      (List.range data.length).map fun i => start + BitVec.ofNat 32 i := by
    refine List.ext_getElem (by simp [cellsAt]) fun i _ _ => ?_
    simp [cellsAt]
  rw [addresses]
  refine List.Nodup.map_on (fun i below j below' same => ?_) List.nodup_range
  have offsets := congrArg BitVec.toNat ((BitVec.add_right_inj start).mp same)
  rw [List.mem_range] at below below'
  rwa [BitVec.toNat_ofNat, BitVec.toNat_ofNat, Nat.mod_eq_of_lt (by omega),
    Nat.mod_eq_of_lt (by omega)] at offsets

theorem mem_cellsAt (start : U32) {data : List U8} {i : Nat} {byte : U8}
    (here : data[i]? = some byte) : (start + BitVec.ofNat 32 i, byte) ∈ cellsAt start data := by
  obtain ⟨inside, same⟩ := List.getElem?_eq_some_iff.mp here
  exact List.mem_mapIdx.mpr ⟨i, inside, by rw [same]⟩

/-- A chunk goes to the cells from its address on. -/
theorem Handle.cells_payload (h : Handle) :
    h.cells 0 h.dataSize.toNat = cellsAt h.address h.payload := by
  refine List.ext_getElem (by simp [Handle.cells, cellsAt, Handle.payload]) fun i _ _ => ?_
  simp [Handle.cells, cellsAt, Handle.payload, Handle.byteAddress]

/-- Chunks that lie one behind the other and end inside a bound. -/
theorem Consecutive.total {start bound : Nat} {calls : List Handle}
    (follows : Consecutive start calls)
    (inside : ∀ entry ∈ calls, entry.address.toNat + entry.payload.length ≤ bound) :
    calls = [] ∨ start + (calls.map Handle.payload).flatten.length ≤ bound := by
  induction calls generalizing start with
  | nil => exact .inl rfl
  | cons first rest ih =>
    right
    have here := inside first List.mem_cons_self
    rw [follows.1] at here
    rw [List.map_cons, List.flatten_cons, List.length_append, ← Nat.add_assoc]
    rcases ih follows.2 fun entry member => inside entry (List.mem_cons_of_mem _ member) with
      rfl | more
    · simpa using here
    · exact more

/-- The cursor of a write is an address. -/
theorem WriteView.Known.cursor_lt {h : Handle} {es : List Event} {q : WriteView}
    (known : WriteView.Known h es q) (free : q.writing = false) : q.cursor < 2 ^ 32 := by
  have passed := known.passed
  rw [free] at passed
  have passed : h.address.toNat + ((mainCalls es).map Handle.payload).flatten.length = q.cursor :=
    passed
  rcases known.consecutive.total known.inBounds with none | total
  · rw [none] at passed
    rw [← passed]
    exact h.address.isLt
  · exact Nat.lt_of_le_of_lt (passed ▸ total) h.operationEnd.isLt

/-! ## A write, followed -/

/-- A contract whose main callback moves its chunk to its cells, one by one. -/
structure PartContract.Moves {σ : Type} (K : PartContract σ) (h : Handle)
    (step : (U32 → U8) → U32 × U8 → U32 → U8) : Prop where
  serves : ∀ {callback : Callback} {entry : Handle} {code : U8} {s s' : σ},
    h.firestarterOperationMain = some callback → isGoodResponse code = true →
    K.served callback entry code s s' →
      K.part.array s' = (entry.cells 0 entry.dataSize.toNat).foldl step (K.part.array s)
  last : h.firestarterOperationEnd = none

section
variable {h : Handle} {σ : Type} {K : PartContract σ}
variable {step : (U32 → U8) → U32 × U8 → U32 → U8} {base : U32 → U8} {data : List U8}
variable {p p' : PartContract.View σ} {q q' : WriteView} {r r' : PhaseView}
variable {es : List Event} {e : Event}

/-- Where the main phase of a write stands that found `base` in the part: `data` is in it, and the
callback that runs is given the next chunk. -/
structure Filled (h : Handle) (K : PartContract σ) (step : (U32 → U8) → U32 × U8 → U32 → U8)
    (base : U32 → U8) (data : List U8) (p : PartContract.View σ) (q : WriteView) : Prop where
  settled : q.writing = false →
    p.call = none ∧ K.part.array p.state = (cellsAt h.address data).foldl step base
  busy : q.writing = true → q.stopped = false → ∃ callback entry found,
    p.call = some (callback, entry, found) ∧ h.firestarterOperationMain = some callback ∧
      entry.payload = q.chunk ∧ entry.address.toNat = q.cursor ∧
      K.part.array found = (cellsAt h.address data).foldl step base
  /-- A chunk that failed is not forgotten. -/
  lost : q.writing = true → q.stopped = true → p.call = none
  outside : q.number ≠ 3 → q.writing = false

/-- What the three observers of a write know together. -/
structure WriteKnown (h : Handle) (K : PartContract σ) (step : (U32 → U8) → U32 × U8 → U32 → U8)
    (es : List Event) (p : PartContract.View σ) (q : WriteView) (r : PhaseView) : Prop where
  number : r.number = q.number
  early : q.number < 3 → written es = [] ∧ q.writing = false
  passed : (mainCalls es).map Handle.payload = written es ++ if q.writing then [q.chunk] else []
  main : 3 ≤ q.number → ∃ pre mid s, es = pre ++ .advanced 3 :: mid ∧ K.after pre = some s ∧
    Filled h K step (K.part.array s) (written es).flatten p q

namespace WriteKnown

theorem start : WriteKnown h K step [] { state := K.start } { cursor := h.address.toNat } {} where
  number := rfl
  early _ := ⟨rfl, rfl⟩
  passed := rfl
  main late := absurd late (Nat.not_succ_le_zero 2)

/-- An event that is no part of the transfer. -/
theorem other (k : WriteKnown h K step es p q r) (sameNumber : r'.number = r.number)
    (number : q'.number = q.number) (writing : q'.writing = q.writing) (chunk : q'.chunk = q.chunk)
    (cursor : q'.cursor = q.cursor) (stopped : q.writing = true → q'.stopped = q.stopped)
    (call : p'.call = p.call) (state : p.call = none → p'.state = p.state)
    (none' : written (es ++ [e]) = written es) (calls : mainCalls (es ++ [e]) = mainCalls es) :
    WriteKnown h K step (es ++ [e]) p' q' r' where
  number := by rw [sameNumber, number, k.number]
  passed := by rw [none', calls, writing, chunk, k.passed]
  early before := by
    rw [none', writing]
    exact k.early (number ▸ before)
  main late := by
    obtain ⟨pre, mid, s, rfl, here, m⟩ := k.main (number ▸ late)
    refine ⟨pre, mid ++ [e], s, by simp, here, ?_⟩
    rw [none']
    refine ⟨fun idle => ?_, fun busy going => ?_, fun busy halted => ?_, fun away => ?_⟩
    · obtain ⟨none, same⟩ := m.settled (writing ▸ idle)
      rw [call, state none]
      exact ⟨none, same⟩
    · have busy := writing ▸ busy
      obtain ⟨callback, entry, found, running, named, payload, address, same⟩ :=
        m.busy busy (stopped busy ▸ going)
      exact ⟨callback, entry, found, call.trans running, named, payload.trans chunk.symm,
        address.trans cursor.symm, same⟩
    · have busy := writing ▸ busy
      rw [call]
      exact m.lost busy (stopped busy ▸ halted)
    · rw [writing]
      exact m.outside (number ▸ away)

/-- The main phase begins with what the part then holds. -/
theorem advanced (k : WriteKnown h K step es p q r) {n : U8} (after : K.after es = some p.state)
    (idle : p.call = none) (free : q.writing = false) (next : n.toNat = r.number + 1) :
    WriteKnown h K step (es ++ [.advanced n]) p { q with number := n.toNat }
      { r with number := n.toNat, acked := false, called := false } where
  number := rfl
  early before := by
    have before : n.toNat < 3 := before
    rw [written_quiet es rfl]
    exact ⟨(k.early (by rw [← k.number]; omega)).1, free⟩
  passed := by
    rw [written_quiet es rfl, mainCalls_quiet es rfl]
    exact k.passed
  main late := by
    have late : 3 ≤ n.toNat := late
    by_cases begins : n.toNat = 3
    · have none := (k.early (by rw [← k.number]; omega)).1
      refine ⟨es, [], p.state, ?_, after, fun _ => ⟨idle, ?_⟩, fun busy => ?_, fun busy => ?_,
        fun _ => free⟩
      · rw [show n = 3 from BitVec.eq_of_toNat_eq begins]
      · rw [written_quiet es rfl, none]
        rfl
      · exact Bool.noConfusion (free.symm.trans busy)
      · exact Bool.noConfusion (free.symm.trans busy)
    · obtain ⟨pre, mid, s, rfl, here, m⟩ := k.main (by rw [← k.number]; omega)
      refine ⟨pre, mid ++ [.advanced n], s, by simp, here, ?_⟩
      rw [written_quiet _ rfl]
      exact ⟨m.settled, m.busy, m.lost, fun _ => free⟩

/-- The next chunk is passed on. -/
theorem called (k : WriteKnown h K step es p q r) (known : WriteView.Known h es q)
    {callback : Callback} {entry : Handle} (main : q.number = 3)
    (named : h.phaseCallback r.number = some callback)
    (free : q.writing = false) (going : q.stopped = false)
    (address : entry.address.toNat = q.cursor) :
    WriteKnown h K step (es ++ [.called callback entry])
      { p with call := some (callback, entry, p.state) }
      { q with pending := none, chunk := entry.payload, writing := true }
      { r with called := true, mainCalled := r.mainCalled || r.number == 3 } where
  number := k.number
  early before := absurd main (Nat.ne_of_lt before)
  passed := by
    have calls : mainCalls (es ++ [.called callback entry]) = mainCalls es ++ [entry] := by
      rw [mainCalls_snoc, known.number, main]
      rfl
    rw [calls, written_quiet es rfl, List.map_append, k.passed, free]
    simp
  main late := by
    obtain ⟨pre, mid, s, rfl, here, m⟩ := k.main late
    refine ⟨pre, mid ++ [.called callback entry], s, by simp, here, ?_⟩
    rw [written_quiet _ rfl]
    refine ⟨fun idle => Bool.noConfusion idle, fun _ _ => ?_, fun _ halted => ?_,
      fun away => absurd main away⟩
    · have named : h.firestarterOperationMain = some callback := by
        rw [k.number, main] at named
        exact named
      exact ⟨callback, entry, p.state, rfl, named, rfl, address, (m.settled free).2⟩
    · exact Bool.noConfusion (going.symm.trans halted)

/-- A chunk counts as written when the main callback comes back with a good response. -/
theorem written_chunk (known : WriteView.Known h es q) {callback : Callback} {code : U8}
    (main : q.number = 3) (good : isGoodResponse code = true) :
    written (es ++ [.returned callback code]) = written es ++ [q.chunk] := by
  rw [written_snoc, known.chunk]
  exact congrArg (written es ++ ·) (if_pos ⟨main, good⟩)

theorem written_nothing (known : WriteView.Known h es q) {callback : Callback} {code : U8}
    (none : ¬(q.number = 3 ∧ isGoodResponse code = true)) :
    written (es ++ [.returned callback code]) = written es :=
  written_quiet es (by rw [known.chunk]; exact if_neg none)

/-- A chunk is in the part when its callback has come back without an error. -/
theorem returned (k : WriteKnown h K step es p q r) (moves : K.Moves h step)
    (known : WriteView.Known h es q) {callback callback' : Callback} {entry : Handle} {code : U8}
    {found left : σ} (main : q.number = 3) (busy : q.writing = true)
    (call : p.call = some (callback', entry, found))
    (served : K.served callback' entry code found left)
    (good : isGoodResponse code = true) (sameNumber : r'.number = r.number) :
    WriteKnown h K step (es ++ [.returned callback code]) { state := left }
      { q with cursor := q.cursor + q.chunk.length, writing := false } r' where
  number := sameNumber.trans k.number
  early before := absurd main (Nat.ne_of_lt before)
  passed := by
    rw [mainCalls_quiet es rfl, k.passed, busy, written_chunk known main good]
    simp
  main late := by
    obtain ⟨pre, mid, s, rfl, here, m⟩ := k.main late
    refine ⟨pre, mid ++ [.returned callback code], s, by simp, here, fun _ => ⟨rfl, ?_⟩,
      fun busy => Bool.noConfusion busy, fun busy => Bool.noConfusion busy, fun _ => rfl⟩
    have going : q.stopped = false := by
      cases stopped : q.stopped with
      | false => rfl
      | true => cases call.symm.trans (m.lost busy stopped)
    obtain ⟨callback'', entry', found', running, named, payload, address, same⟩ := m.busy busy going
    cases call.symm.trans running
    have cursor := known.cursor
    have start : h.address + BitVec.ofNat 32 (written (pre ++ .advanced 3 :: mid)).flatten.length =
        entry.address := by
      refine BitVec.eq_of_toNat_eq ?_
      have room := entry.address.isLt
      rw [BitVec.toNat_add, BitVec.toNat_ofNat, Nat.add_mod_mod, Nat.mod_eq_of_lt (by omega),
        address, cursor]
    rw [written_chunk known main good, List.flatten_append, List.flatten_singleton, cellsAt_append,
      start, List.foldl_append, ← same, ← payload, ← Handle.cells_payload]
    exact moves.serves named good served

/-- A chunk that failed: nothing more is known of the part, and nothing more is written. -/
theorem failed (k : WriteKnown h K step es p q r) {callback : Callback} {code : U8} {left : σ}
    (main : q.number = 3) (busy : q.writing = true) (bad : isGoodResponse code ≠ true)
    (known : WriteView.Known h es q) (sameNumber : r'.number = r.number) :
    WriteKnown h K step (es ++ [.returned callback code]) { state := left }
      { q with stopped := true } r' where
  number := sameNumber.trans k.number
  early before := absurd main (Nat.ne_of_lt before)
  passed := by
    rw [mainCalls_quiet es rfl, written_nothing known fun both => bad both.2]
    exact k.passed
  main late := by
    obtain ⟨pre, mid, s, rfl, here, m⟩ := k.main late
    refine ⟨pre, mid ++ [.returned callback code], s, by simp, here, fun idle => ?_,
      fun _ going => Bool.noConfusion going, fun _ _ => rfl, m.outside⟩
    exact Bool.noConfusion (busy.symm.trans idle)

/-- A callback outside the main phase is entered before it. -/
theorem begun (k : WriteKnown h K step es p q r) (known : WriteView.Known h es q)
    {callback : Callback} {entry : Handle} (last : h.firestarterOperationEnd = none)
    (away : q.number ≠ 3) (named : h.phaseCallback r.number = some callback) :
    WriteKnown h K step (es ++ [.called callback entry])
      { p with call := some (callback, entry, p.state) } q
      { r with called := true, mainCalled := r.mainCalled || r.number == 3 } := by
  have before : q.number < 3 := by
    rw [← k.number] at away ⊢
    unfold Handle.phaseCallback at named
    by_cases first : r.number = 1
    · rw [first]
      decide
    · rw [if_neg first, if_neg away, last] at named
      split at named <;> cases named
  have calls : mainCalls (es ++ [.called callback entry]) = mainCalls es :=
    mainCalls_quiet es (by rw [known.number]; exact if_neg away)
  refine ⟨k.number, fun _ => ?_, ?_, fun late => absurd before (Nat.not_lt.mpr late)⟩
  · rw [written_quiet es rfl]
    exact k.early before
  · rw [written_quiet es rfl, calls]
    exact k.passed

/-- A callback outside the main phase comes back before it. -/
theorem outside (k : WriteKnown h K step es p q r) {callback : Callback} {code : U8} {left : σ}
    (away : q.number ≠ 3) (running : p.call ≠ none) (known : WriteView.Known h es q)
    (sameNumber : r'.number = r.number) :
    WriteKnown h K step (es ++ [.returned callback code]) { state := left } q r' where
  number := sameNumber.trans k.number
  early before := by
    rw [written_nothing known fun both => away both.1]
    exact k.early before
  passed := by
    rw [mainCalls_quiet es rfl, written_nothing known fun both => away both.1]
    exact k.passed
  main late := by
    obtain ⟨_, _, _, _, _, m⟩ := k.main late
    exact absurd (m.settled (m.outside away)).1 running

/-- An access is one of the callback that runs. -/
theorem call_of_touch {a : Access} (access : e.access = some a)
    (heard : K.observer.observe p e = some p') : p'.call = p.call ∧ p.call ≠ none := by
  have touched : K.observer.touch p a = some p' := (K.observer.touches access).symm.trans heard
  have touched : p.touch K a = some p' := touched
  obtain ⟨running, s, -, rfl⟩ : ¬p.call = none ∧ ∃ s, K.part.take p.state a.cycle = some s ∧
      { p with state := s } = p' := by simpa [PartContract.View.touch] using touched
  exact ⟨rfl, running⟩

/-- A callback comes back. -/
theorem cameBack (k : WriteKnown h K step es p q r) (moves : K.Moves h step)
    (known : WriteView.Known h es q) {callback : Callback} {code : U8}
    (heard : p.observe K (.returned callback code) = some p')
    (seen : q.observe h (.returned callback code) = some q') (sameNumber : r'.number = r.number) :
    WriteKnown h K step (es ++ [.returned callback code]) p' q' r' := by
  dsimp only [PartContract.View.observe] at heard
  split at heard
  · cases heard
  rename_i callback' entry found call
  split at heard
  · cases heard
  obtain ⟨⟨-, served⟩, same⟩ := Option.ite_none_right_eq_some.mp heard
  obtain rfl := Option.some.inj same
  dsimp only [WriteView.observe] at seen
  split at seen
  · rename_i main
    obtain ⟨busy, same⟩ := Option.ite_none_right_eq_some.mp seen
    obtain rfl := Option.some.inj same
    split
    · rename_i good
      exact k.returned moves known main busy call served good sameNumber
    · rename_i bad
      exact k.failed main busy bad known sameNumber
  · rename_i away
    obtain rfl := Option.some.inj seen
    exact k.outside away (by simp [call]) known sameNumber

/-- What one event tells the three. -/
theorem observe (k : WriteKnown h K step es p q r) (moves : K.Moves h step)
    (known : WriteView.Known h es q) (after : K.after es = some p.state)
    (heard : K.observer.observe p e = some p') (seen : q.observe h e = some q')
    (phase : r.observe h e = some r') : WriteKnown h K step (es ++ [e]) p' q' r' := by
  cases e with
  | read | wrote | flipped =>
    obtain ⟨same, running⟩ := call_of_touch rfl heard
    obtain rfl := Option.some.inj seen
    obtain rfl := Option.some.inj phase
    exact k.other rfl rfl rfl rfl rfl (fun _ => rfl) same (fun none => absurd none running)
      (written_quiet es rfl) (mainCalls_quiet es rfl)
  | advanced n =>
    have heard : p.observe K (.advanced n) = some p' := heard
    obtain ⟨idle, same⟩ := Option.ite_none_right_eq_some.mp heard
    obtain rfl := Option.some.inj same
    obtain ⟨⟨-, free⟩, same⟩ := Option.ite_none_right_eq_some.mp seen
    obtain rfl := Option.some.inj same
    obtain ⟨⟨next, -⟩, same⟩ := Option.ite_none_right_eq_some.mp phase
    obtain rfl := Option.some.inj same
    exact k.advanced after idle free next
  | called callback entry =>
    have heard : p.observe K (.called callback entry) = some p' := heard
    obtain ⟨⟨idle, -⟩, same⟩ := Option.ite_none_right_eq_some.mp heard
    obtain rfl := Option.some.inj same
    obtain ⟨⟨-, named, -⟩, same⟩ := Option.ite_none_right_eq_some.mp phase
    obtain rfl := Option.some.inj same
    dsimp only [WriteView.observe] at seen
    split at seen
    · rename_i main
      obtain ⟨⟨going, free, -, address, -⟩, same⟩ := Option.ite_none_right_eq_some.mp seen
      obtain rfl := Option.some.inj same
      exact k.called known main named free going address
    · rename_i away
      obtain rfl := Option.some.inj seen
      exact k.begun known moves.last away named
  | returned callback code =>
    have sameNumber : r'.number = r.number := by
      obtain rfl := Option.some.inj phase
      rfl
    exact k.cameBack moves known heard seen sameNumber
  | message kind payload =>
    have heard : p.observe K (.message kind payload) = some p' := heard
    obtain rfl := Option.some.inj heard
    have sameNumber : r'.number = r.number := by
      cases kind <;> obtain rfl := Option.some.inj phase <;> rfl
    dsimp only [WriteView.observe] at seen
    split at seen
    · obtain ⟨⟨-, free⟩, same⟩ := Option.ite_none_right_eq_some.mp seen
      obtain rfl := Option.some.inj same
      exact k.other sameNumber rfl rfl rfl rfl
        (fun busy => Bool.noConfusion (free.symm.trans busy)) rfl (fun _ => rfl)
        (written_quiet es rfl) (mainCalls_quiet es rfl)
    · obtain rfl := Option.some.inj seen
      exact k.other sameNumber rfl rfl rfl rfl (fun _ => rfl) rfl (fun _ => rfl)
        (written_quiet es rfl) (mainCalls_quiet es rfl)
  | emitted id params =>
    have heard : p.observe K (.emitted id params) = some p' := heard
    have same : p = p' := by
      dsimp only [PartContract.View.observe] at heard
      split at heard
      · cases heard
      · exact Option.some.inj heard
    have sameNumber : r'.number = r.number := by
      dsimp only [PhaseView.observe] at phase
      split_ifs at phase <;> obtain rfl := Option.some.inj phase <;> rfl
    have kept : q'.number = q.number ∧ q'.writing = q.writing ∧ q'.chunk = q.chunk ∧
        q'.cursor = q.cursor ∧ q'.stopped = q.stopped := by
      dsimp only [WriteView.observe] at seen
      split_ifs at seen <;> obtain rfl := Option.some.inj seen <;> exact ⟨rfl, rfl, rfl, rfl, rfl⟩
    obtain ⟨number, writing, chunk, cursor, stopped⟩ := kept
    rw [← same]
    exact k.other sameNumber number writing chunk cursor (fun _ => stopped) rfl (fun _ => rfl)
      (written_quiet es rfl) (mainCalls_quiet es rfl)
  | _ =>
    have heard : p = p' := Option.some.inj heard
    obtain rfl := Option.some.inj seen
    obtain rfl := Option.some.inj phase
    rw [← heard]
    exact k.other rfl rfl rfl rfl rfl (fun _ => rfl) rfl (fun _ => rfl) (written_quiet es rfl)
      (mainCalls_quiet es rfl)

theorem of_follows (moves : K.Moves h step) (part : K.observer.Follows es p)
    (writes : (writeObserver h).Follows es q) (phases : (phaseObserver h).Follows es r) :
    WriteKnown h K step es p q r := by
  induction es using List.reverseRecOn generalizing p q r with
  | nil =>
    rw [← Option.some.inj part, ← Option.some.inj writes, ← Option.some.inj phases]
    exact start
  | append_singleton es e ih =>
    obtain ⟨p₁, before, heard⟩ := K.observer.follows_snoc.mp part
    obtain ⟨q₁, q₂, follows, seen, same⟩ := (writeObserver h).follows_split writes
    obtain rfl := Option.some.inj same
    obtain ⟨r₁, r₂, orders, phase, same⟩ := (phaseObserver h).follows_split phases
    obtain rfl := Option.some.inj same
    exact (ih before follows orders).observe moves (WriteView.Known.of_follows follows)
      (PartContract.run_of_sees before).1 heard seen phase

end WriteKnown

/-- What a write has left in the part when its main phase is over, for any contract: every byte that
was taken from the host has gone to its cell, in order. -/
theorem PartContract.contents_of_follows (moves : K.Moves h step) {pre post : List Event}
    (part : K.observer.Follows (pre ++ .advanced 4 :: post) p)
    (writes : (writeObserver h).Follows (pre ++ .advanced 4 :: post) q)
    (phases : (phaseObserver h).Follows (pre ++ .advanced 4 :: post) r) :
    ∃ before mid s s', pre = before ++ .advanced 3 :: mid ∧ K.after before = some s ∧
      K.after pre = some s' ∧ h.address.toNat + (mainData pre).flatten.length < 2 ^ 32 ∧
      K.part.array s' = (cellsAt h.address (mainData pre).flatten).foldl step (K.part.array s) := by
  obtain ⟨p₁, -, followed, -, -⟩ := K.observer.follows_split part
  obtain ⟨q₁, q₂, wrote, free, -⟩ := (writeObserver h).follows_split writes
  obtain ⟨r₁, r₂, phase, next, -⟩ := (phaseObserver h).follows_split phases
  have known := WriteView.Known.of_follows wrote
  have all := WriteKnown.of_follows moves followed wrote phase
  obtain ⟨⟨nothing, free⟩, -⟩ := Option.ite_none_right_eq_some.mp free
  obtain ⟨⟨fourth, -⟩, -⟩ := Option.ite_none_right_eq_some.mp next
  have third : q₁.number = 3 := by
    rw [← all.number]
    exact (Nat.succ.inj fourth).symm
  obtain ⟨before, mid, s, split, here, holding⟩ := all.main third.ge
  have data : mainData pre = written pre := by
    have passed := all.passed
    rw [free] at passed
    have passed : (mainCalls pre).map Handle.payload = written pre ++ [] := passed
    rw [known.data, nothing, passed]
    simp
  refine ⟨before, mid, s, p₁.state, split, here, (PartContract.run_of_sees followed).1, ?_, ?_⟩
  · rw [data, known.cursor]
    exact known.cursor_lt free
  · rw [data]
    exact (holding.settled free).2

end

/-! ## Parts that are unlocked -/

/-- Of any command it is known that it was accepted. -/
def acceptedLaw (env : Env) (h : Handle) : EventLaw env h where
  law _ := h.AcceptedIn env
  D _ := CallbackStep
  C _ := CallbackStep
  runs known := .of_within known
  cut step := step
  begins _ accepted same := ⟨_, accepted, same⟩
  aside _ accepted := accepted
  ran _ _ accepted _ _ _ := accepted

/-- What becomes of a cell: a page is erased before it is stored, and a byte is programmed over what
was there. -/
def Handle.mixes (h : Handle) (held byte : U8) : U8 :=
  if driverFor h.protocol == some .flash5vPage then byte else held &&& byte

/-- The main callback of a write. -/
theorem Driver.setUp_unlockedWrite {driver : Driver} (b : Build) (hw : U8) {decoded : Handle}
    (writes : decoded.cmd = cmdWrite) :
    (driver = .flashNorUnlock → (driver.setUp b hw decoded).firestarterOperationMain =
        some .flashNorUnlockWriteExecute) ∧
      (driver = .flash5vPage → (driver.setUp b hw decoded).firestarterOperationMain =
        some .flash5vPageWriteExecute) := by
  have named : ((decoded.withoutCallbacks.withMemoryCallbacks.withReadHighMask b hw).cmd ==
      cmdWrite) = true := beq_iff_eq.mpr writes
  constructor
  · rintro rfl
    unfold Driver.setUp Driver.configured
    dsimp only
    rw [Handle.withFlashNorUnlockCallbacks, if_pos named]
  · rintro rfl
    unfold Driver.setUp Driver.configured
    dsimp only
    rw [Handle.withFlash5vPageCallbacks, if_pos named]

theorem unlocked_moves {env : Env} {h : Handle} (accepted : h.AcceptedIn env)
    (writes : h.cmd = cmdWrite) (unlocked : h.isUnlocked = true) (sector : U32 → U32 → Bool)
    (array : U32 → U8) : (unlockedContract h sector array).Moves h (overlaid h.mixes) := by
  have good {code : U8} (good : isGoodResponse code = true) : code ≠ responseCodeError := by
    rintro rfl
    cases good
  obtain ⟨memory, drivers⟩ := Bool.and_eq_true_iff.mp unlocked
  rcases Bool.or_eq_true_iff.mp drivers with nor | page
  · have found := beq_iff_eq.mp nor
    obtain ⟨main, last⟩ := accepted.unlockedMain memory found (.inl rfl) fun hw _ cmd =>
      (Driver.setUp_unlockedWrite env.build hw (cmd.trans writes)).1 rfl
    have step : overlaid h.mixes = (programmed : (U32 → U8) → U32 × U8 → U32 → U8) := by
      have mixes : h.mixes = (· &&& ·) := by
        funext held byte
        rw [Handle.mixes, found]
        rfl
      rw [mixes]
      rfl
    refine ⟨fun named fine served => ?_, last⟩
    cases main.symm.trans named
    obtain ⟨n, -, made, whole⟩ := served
    rw [step, ← whole (good fine)]
    exact made
  · have found := beq_iff_eq.mp page
    obtain ⟨main, last⟩ := accepted.unlockedMain memory found (.inr rfl) fun hw _ cmd =>
      (Driver.setUp_unlockedWrite env.build hw (cmd.trans writes)).2 rfl
    have step : overlaid h.mixes = (stored : (U32 → U8) → U32 × U8 → U32 → U8) := by
      have mixes : h.mixes = fun _ byte => byte := by
        funext held byte
        rw [Handle.mixes, found]
        rfl
      rw [mixes]
      rfl
    refine ⟨fun named fine served => ?_, last⟩
    cases main.symm.trans named
    obtain ⟨n, -, made, whole⟩ := served
    rw [step, ← whole (good fine)]
    exact made

/-- The bytes of a write lie in a part that was found otherwise, from the start address on, and the
rest of it is as it was found. -/
structure Handle.Wrote (h : Handle) (data : List U8) (found left : U32 → U8) : Prop where
  inside : ∀ i byte, data[i]? = some byte →
    left (h.address + BitVec.ofNat 32 i) = h.mixes (found (h.address + BitVec.ofNat 32 i)) byte
  outside : ∀ a, (∀ i < data.length, a ≠ h.address + BitVec.ofNat 32 i) → left a = found a

theorem Handle.Wrote.of_cells {h : Handle} {data : List U8} {found left : U32 → U8}
    (small : data.length ≤ 2 ^ 32)
    (cells : left = (cellsAt h.address data).foldl (overlaid h.mixes) found) :
    h.Wrote data found left where
  inside i byte member := by
    rw [cells]
    exact foldl_overlaid_mem (cellsAt_nodup h.address small) (mem_cellsAt h.address member)
  outside a apart := by
    rw [cells]
    refine foldl_overlaid_apart fun cell member => ?_
    obtain ⟨i, inside, rfl⟩ := List.mem_mapIdx.mp member
    exact (apart i inside).symm

/-- A write that has come to the end of its main phase, wherever it is cut off later: the bytes the
host has sent in that phase lie in the part, and the rest of the part is as it was when the phase
began. -/
theorem write_contents {env : Env} {w : World} (seen : Seen env w) {h : Handle} {es : List Event}
    (events : commandEvents w.trace = some (h, es)) (writes : h.cmd = cmdWrite)
    (unlocked : h.isUnlocked = true) (sector : U32 → U32 → Bool) (array : U32 → U8)
    {pre post : List Event} (ended : es = pre ++ .advanced 4 :: post) :
    ∃ before mid found left, pre = before ++ .advanced 3 :: mid ∧
      (unlockedContract h sector array).after before = some found ∧
      (unlockedContract h sector array).after pre = some left ∧
      h.Wrote (mainData pre).flatten found.array left.array := by
  have memory : isMemoryCmd h.cmd = true := by
    rw [writes]
    rfl
  subst ended
  obtain ⟨p, part⟩ := follows_of_picked (fun h picked =>
    (show ChipSession env h _ from unlocked_session sector array picked).observation) seen
    events memory unlocked
  have known := follows_of_seen (transferObservation env) seen events memory
  obtain ⟨r, phases⟩ := follows_of_seen (phaseObservation env) seen events memory
  have observes : transferObservation env h = writeObservation env h writes := dif_pos writes
  rw [observes] at known
  obtain ⟨q, wrote⟩ := known
  have accepted : h.AcceptedIn env := law_of_seen (acceptedLaw env) seen events memory
  obtain ⟨before, mid, found, left, split, here, there, small, cells⟩ :=
    PartContract.contents_of_follows (unlocked_moves accepted writes unlocked sector array) part
      wrote phases
  exact ⟨before, mid, found, left, split, here, there, .of_cells (by omega) cells⟩

theorem split_at_advanced {es : List Event} {k : Nat} {n : U8} (counts : n.toNat ≠ 0)
    (here : es[k]?.map (numberAfter 0) = some n.toNat) :
    ∃ post, es = es.take k ++ .advanced n :: post := by
  obtain ⟨e, found, number⟩ := Option.map_eq_some_iff.mp here
  obtain ⟨inside, rfl⟩ := List.getElem?_eq_some_iff.mp found
  have same : es[k] = .advanced n := by
    generalize es[k] = e at number
    cases e with
    | advanced m => exact congrArg Event.advanced (BitVec.eq_of_toNat_eq number)
    | _ => exact absurd number.symm counts
  refine ⟨es.drop (k + 1), ?_⟩
  rw [← same, List.getElem_cons_drop, List.take_append_drop]

/-- In a run of this outside a write comes to the end of its main phase, with these bytes sent in it
and these in the first cells of the part. -/
def PutsCells (env : Env) (sent held : List U8) : Prop :=
  ∃ (w : World) (h : Handle) (es pre : List Event) (found left : U32 → U8), Seen env w ∧
    commandEvents w.trace = some (h, es) ∧ pre ++ [.advanced 4] <+: es ∧
    (List.range held.length).map (fun a => left (BitVec.ofNat 32 a)) = held ∧
    h.Wrote sent found left

/-- The four bytes of the two chunks are in the NOR part, which the write erased before; the two
pages are in the page part, and the cell after them is as it was. -/
theorem write_contents_writes :
    PutsCells norWriteEnv [0x5A, 0xF0, 0x12, 0x34] [0x5A, 0xF0, 0x12, 0x34, 0xFF] ∧
    PutsCells pageWriteEnv [0x5A, 0xF0, 0x12, 0x34, 0x80, 0x01, 0x02, 0x03]
      [0x5A, 0xF0, 0x12, 0x34, 0x80, 0x01, 0x02, 0x03, 0x00] := by
  have puts {env : Env} {sent held : List U8} (k : Nat)
      (ran : commandAfter env 6 (fun _ h es => (h.cmd, h.isUnlocked,
        es[k]?.map (numberAfter 0), (mainData (es.take k)).flatten,
        ((unlockedContract h (fun _ _ => false) fun _ => 0).after (es.take k)).map fun s =>
          (List.range held.length).map fun a => s.array (BitVec.ofNat 32 a))) =
        some (cmdWrite, true, some 4, sent, some held)) : PutsCells env sent held := by
    obtain ⟨w, h, es, -, seen, events, ran⟩ := exists_of_commandAfter ran
    obtain ⟨writes, ran⟩ := Prod.mk.inj ran
    obtain ⟨unlocked, ran⟩ := Prod.mk.inj ran
    obtain ⟨here, ran⟩ := Prod.mk.inj ran
    obtain ⟨data, after⟩ := Prod.mk.inj ran
    obtain ⟨post, ended⟩ := split_at_advanced (n := 4) (by decide) here
    obtain ⟨before, mid, found, left, -, -, there, wrote⟩ :=
      write_contents seen events writes unlocked (fun _ _ => false) (fun _ => 0) ended
    rw [there] at after
    rw [data] at wrote
    exact ⟨w, h, es, _, found.array, left.array, seen, events, ⟨post, by simpa using ended.symm⟩,
      Option.some.inj after, wrote⟩
  exact ⟨puts 124 (by decide +kernel), puts 72 (by decide +kernel)⟩

end Firestarter
