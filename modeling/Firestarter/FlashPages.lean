import Firestarter.CompletionPolls

/-! The page write of the 5 V page-flash driver. Loading a byte of a page erases the whole page, so
a block is refused unless it is made of whole pages, and each of them is unlocked once, loaded
whole, and waited for before anything of the next one. -/
namespace Firestarter

open Interactive Interactive.Prog

set_option synthInstance.maxSize 4000

/-! ## Which blocks are taken -/

/-- A supported page size, and a block of whole pages. -/
def WholePages (h : Handle) : Prop :=
  SupportedPageSize h.pageSize ∧ h.pageSize.toNat ∣ h.address.toNat ∧
    h.pageSize.toNat ∣ h.dataSize.toNat

theorem flash5vPageMask_supported {requested : U16} (supported : SupportedPageSize requested) :
    flash5vPageMask requested = some (requested.setWidth 32 - 1) := by
  obtain ⟨notZero, small, power⟩ := (supportedPageSize_iff requested).mp supported
  unfold flash5vPageMask
  rw [if_neg fun isZero => notZero (beq_iff_eq.mp isZero), if_pos]
  simp only [Bool.and_eq_true, decide_eq_true_eq, beq_iff_eq]
  exact ⟨small, power⟩

theorem flash5vPageMask_unsupported {requested : U16} (other : ¬ SupportedPageSize requested) :
    flash5vPageMask requested = none := by
  unfold flash5vPageMask
  split
  · rfl
  · rename_i notZero
    rw [if_neg]
    simp only [Bool.and_eq_true, decide_eq_true_eq, beq_iff_eq]
    refine fun both => other ((supportedPageSize_iff requested).mpr ⟨?_, both.1, both.2⟩)
    exact fun isZero => notZero (beq_iff_eq.mpr isZero)

/-! ## What a block may look like on the bus -/

/-- How a block ended: stored whole, given up in an error, or still waiting for the chip when the
observer stopped. With the polls of the wait it did not get past. -/
inductive PageOutcome where
  | written
  | failed (polls : List Access)
  | waiting (polls : List Access)
  deriving DecidableEq, Repr

def ByteFlip.access (flip : ByteFlip) : Access := .flipped flip.address flip.byte

/-- The one sequence that opens a page for loading. -/
def pageUnlock : List Access := flashEnableWrite.map ByteFlip.access

/-- The accesses of a block from this byte on: page by page, each unlocked, loaded whole and waited
for at its last byte. A wait that fails, or does not end, is the last thing there is; one that fails
has read the byte, never twice in a row as it should be, and reads it once more for the report. -/
inductive FlashPages (h : Handle) (size : Nat) : Nat → List Access → PageOutcome → Prop
  | finished : FlashPages h size h.dataSize.toNat [] .written
  | page {first : Nat} {polls rest : List Access} {outcome : PageOutcome}
      (begins : size ∣ (h.byteAddress first).toNat) (inside : first + size ≤ h.dataSize.toNat)
      (polled : Completed (h.byteAddress (first + (size - 1))) (h.dataBuffer (first + (size - 1)))
        polls)
      (later : FlashPages h size (first + size) rest outcome) :
      FlashPages h size first (pageUnlock ++ h.loads first size ++ polls ++ rest) outcome
  | failed {first : Nat} {polls : List Access} {last : U8}
      (begins : size ∣ (h.byteAddress first).toNat) (inside : first + size ≤ h.dataSize.toNat)
      (polled : Unfinished (h.byteAddress (first + (size - 1)))
        (h.dataBuffer (first + (size - 1))) polls) (some : polls ≠ []) :
      FlashPages h size first
        (pageUnlock ++ h.loads first size ++
          (polls ++ [.read (h.byteAddress (first + (size - 1))) last]))
        (.failed (polls ++ [.read (h.byteAddress (first + (size - 1))) last]))
  | waiting {first : Nat} {polls : List Access}
      (begins : size ∣ (h.byteAddress first).toNat) (inside : first + size ≤ h.dataSize.toNat)
      (polled : Unfinished (h.byteAddress (first + (size - 1)))
        (h.dataBuffer (first + (size - 1))) polls) :
      FlashPages h size first (pageUnlock ++ h.loads first size ++ polls) (.waiting polls)

variable {h : Handle} {size : Nat} {mask : U32} {env : Env} {w w' w'' : World}

/-- In a block that starts on a page, a page begins wherever a whole number of pages has passed. -/
theorem PageMask.byteAddress_dvd (page : PageMask mask size) (aligned : size ∣ h.address.toNat)
    (i : Nat) : size ∣ (h.byteAddress i).toNat ↔ size ∣ i := by
  obtain ⟨k, small, rfl⟩ := page.power
  have whole : 2 ^ k ∣ 2 ^ 32 := Nat.pow_dvd_pow 2 (by omega)
  unfold Handle.byteAddress
  rw [BitVec.toNat_add, BitVec.toNat_ofNat, Nat.dvd_mod_iff whole, Nat.dvd_add_right aligned,
    Nat.dvd_mod_iff whole]

/-! ## The sequence and the wait -/

/-- The setter as `configure_memory` leaves it. -/
def GenericSetter (w : World) : Prop :=
  w.handle.firestarterSetControlRegister = some .memorySetControlRegister

theorem GenericSetter.accesses {log : List Access} (setter : GenericSetter w)
    (done : Accesses log w w') : GenericSetter w' := by
  unfold GenericSetter
  rw [done.handle]
  exact setter

theorem ends_setGeneric (setter : GenericSetter w) (bit : Reg) (state : Bool) :
    Ends (setControlRegister bit state) env w (fun _ w' => Silent w w') (fun _ => False) := by
  unfold setControlRegister memorySetControlRegister
  rw [ends_bind, ends_getHandle, setter, if_pos rfl]
  exact Completes.within inferInstance inferInstance w

theorem ends_byteFlipping (setter : GenericSetter w) (flips : List ByteFlip) :
    Ends (flashUtilByteFlipping flips) env w
      (fun _ w' => Accesses (flips.map ByteFlip.access) w w') (fun _ => False) := by
  unfold flashUtilByteFlipping
  rw [ends_bind]
  refine (ends_setGeneric setter _ _).mono (fun _ w₁ before => ?_) fun _ => id
  rw [ends_bind]
  refine (ends_forM (E := fun _ w' => Accesses (flips.map ByteFlip.access) w w')
    (fun left w' => ∃ played, flips = played ++ left ∧
      Accesses (played.map ByteFlip.access) w w')
    (fun flip rest w₂ so => ?_) (fun w₂ so => ?_) flips w₁ ⟨[], rfl, before⟩).mono
    (fun _ w₂ played => ?_) fun _ => id
  · obtain ⟨played, whole, done⟩ := so
    refine (fuFlashFlipData_log w₂ _ _).mono (fun _ w₃ flipped => ?_) fun _ => id
    refine ⟨played ++ [flip], by rw [whole, List.append_assoc]; rfl, ?_⟩
    rw [List.map_append]
    exact done.trans flipped
  · obtain ⟨played, whole, done⟩ := so
    rw [whole, List.append_nil]
    exact done
  · exact (ends_setGeneric (setter.accesses played) _ _).mono
      (fun _ _ after => played.onward after) fun _ => id

/-- A wait that was given up: it polled until its time was up, read the byte once more and reported
the error. -/
structure WaitFailed (address : U32) (expected : U8) (polls : List Access) (last : U8)
    (w w' : World) : Prop where
  unfinished : Unfinished address expected polls
  some : polls ≠ []
  logged : Logged (polls ++ [.read address last]) w w'
  elapsed : w.now + flash5vPageWriteTimeoutMs.toNat ≤ w'.now
  error : w'.handle.responseCode = responseCodeError

theorem ends_pageWait (w : World) (address : U32) (expected : U8) :
    Ends (flash5vPageWaitForPageWrite address expected) env w
      (fun ready w' => ∃ polls, match ready with
        | true => Completed address expected polls ∧ Accesses polls w w'
        | false => ∃ last, WaitFailed address expected polls last w w')
      (fun w' => ∃ polls, Unfinished address expected polls ∧ polls.length = env.turns ∧
        Logged polls w w') := by
  have settles : Within env Silent (delayMicroseconds flash5vPageTblcUs) := inferInstance
  unfold flash5vPageWaitForPageWrite
  rw [ends_bind]
  refine ((settles.ends w).and (Brief.ends (delayMicroseconds flash5vPageTblcUs) w)).mono
    (fun _ w₁ settled => ?_) fun _ never => never.2.elim
  obtain ⟨settled, later⟩ := settled
  rw [ends_bind]
  refine (flashUtilWaitReady_ends env w₁ _ _ _).mono (fun ready w₂ waited => ?_) fun w₂ stuck => ?_
  · obtain ⟨reads, done, some, once, ready_iff, elapsed⟩ := waited
    have done := Accesses.after settled done
    cases ready with
    | true => exact ⟨_, ⟨reads, rfl, ready_iff.mp rfl, once⟩, done⟩
    | false =>
      have elapsed := elapsed rfl
      have began := (Later.looked env w₁).now
      have still : ¬ MatchTwice expected reads := fun twice => by cases ready_iff.mpr twice
      simp only [Bool.false_eq_true, if_false]
      rw [ends_bind]
      refine ((memoryGetData_log w₂ address).and (Brief.ends _ w₂)).mono
        (fun data w₃ read => ?_) fun _ never => never.2.elim
      obtain ⟨read, later₃⟩ := read
      rw [ends_bind]
      refine ((ends_refuse_silent w₃ _ _).and (Brief.ends _ w₃)).mono
        (fun _ w₄ refused => ?_) fun _ never => never.2.elim
      obtain ⟨⟨refused, error⟩, later₄⟩ := refused
      refine ⟨_, data, ⟨reads, rfl, still⟩, by simpa using some, ?_, ?_, error⟩
      · have both := (done.trans read).logged.trans refused
        rwa [List.append_nil] at both
      · have before := later.now
        have after₃ := later₃.now
        have after₄ := later₄.now
        omega
  · obtain ⟨reads, _, polling, count⟩ := stuck
    exact ⟨_, ⟨reads, rfl, polling.once⟩, by rw [List.length_map, count],
      (Accesses.after settled polling.log).logged⟩

/-! ## The block -/

/-- A block whose last wait failed: its polls are the last thing it did, and they took their time. -/
def GivenUp (h : Handle) (size : Nat) (w w' : World) : Prop :=
  ∃ loaded polls v, Accesses loaded w v ∧ Logged polls v w' ∧
    FlashPages h size 0 (loaded ++ polls) (.failed polls) ∧
    v.now + flash5vPageWriteTimeoutMs.toNat ≤ w'.now ∧ w'.handle.responseCode = responseCodeError

/-- A block that was still waiting when the observer, after so many polls, stopped. -/
def StillWaiting (h : Handle) (size turns : Nat) (w w' : World) : Prop :=
  ∃ log polls, Logged log w w' ∧ FlashPages h size 0 log (.waiting polls) ∧ polls.length = turns

/-- The current page so far. -/
def openPage (h : Handle) (first k : Nat) : List Access :=
  if k = 0 then [] else pageUnlock ++ h.loads first k

/-- A block before the byte `k` of a page: the pages before it are done, and its own bytes up to
here are loaded behind one unlock. -/
structure FlashedTo (h : Handle) (size : Nat) (w w' : World) (first k : Nat) : Prop where
  whole : size ∣ first
  partway : k < size
  bound : first + k ≤ h.dataSize.toNat
  done : ∃ earlier, Accesses (earlier ++ openPage h first k) w w' ∧
    ∀ rest outcome, FlashPages h size first rest outcome →
      FlashPages h size 0 (earlier ++ rest) outcome

/-- A page that has begun fits into the block. -/
theorem FlashedTo.inside {first k : Nat} (so : FlashedTo h size w w' first k)
    (pages : size ∣ h.dataSize.toNat) (more : first + k < h.dataSize.toNat) :
    first + size ≤ h.dataSize.toNat := by
  obtain ⟨n, begin⟩ := so.whole
  obtain ⟨m, all⟩ := pages
  have below : n < m := by
    refine Nat.lt_of_mul_lt_mul_left (a := size) ?_
    omega
  rw [begin, all, ← Nat.mul_succ]
  exact Nat.mul_le_mul_left size below

/-- The driver's test for the first byte of a page, and of the block, finds the pages' first bytes. -/
theorem pageStart_iff (page : PageMask mask size) (aligned : size ∣ h.address.toNat) {first k : Nat}
    (whole : size ∣ first) (partway : k < size) (small : first + k < 2 ^ 32) :
    (h.byteAddress (first + k) &&& mask == 0 || BitVec.ofNat 32 (first + k) == 0) =
      decide (k = 0) := by
  have begins : h.byteAddress (first + k) &&& mask = 0 ↔ k = 0 := by
    rw [page.and_eq_zero_iff, page.byteAddress_dvd aligned, Nat.dvd_add_right whole]
    refine ⟨fun divides => Nat.eq_zero_of_dvd_of_lt divides partway, ?_⟩
    rintro rfl
    exact Nat.dvd_zero size
  have zero : BitVec.ofNat 32 (first + k) = 0 → k = 0 := by
    intro isZero
    have nothing := congrArg BitVec.toNat isZero
    rw [BitVec.toNat_ofNat, Nat.mod_eq_of_lt small] at nothing
    have nothing : first + k = 0 := nothing
    omega
  refine Bool.eq_iff_iff.mpr ?_
  simp only [Bool.or_eq_true, beq_iff_eq, decide_eq_true_eq]
  exact ⟨fun either => either.elim begins.mp zero, fun here => .inl (begins.mpr here)⟩

/-- The test for the last byte of a page, and of the block, finds the pages' last bytes. -/
theorem pageEnd_iff (page : PageMask mask size) (aligned : size ∣ h.address.toNat)
    (pages : size ∣ h.dataSize.toNat) {first k : Nat} (whole : size ∣ first) (partway : k < size)
    (more : first + k < h.dataSize.toNat) :
    (h.byteAddress (first + k) + 1 &&& mask == 0 ||
      BitVec.ofNat 32 (first + k) == h.dataSize - 1) = decide (k + 1 = size) := by
  have room := h.dataSize.isLt
  have ending : size ∣ first + (k + 1) ↔ k + 1 = size := by
    rw [Nat.dvd_add_right whole]
    refine ⟨fun divides => Nat.le_antisymm partway (Nat.le_of_dvd (Nat.succ_pos k) divides), ?_⟩
    rintro rfl
    exact Nat.dvd_refl _
  have ends : h.byteAddress (first + k) + 1 &&& mask = 0 ↔ k + 1 = size := by
    rw [h.byteAddress_succ, page.and_eq_zero_iff, page.byteAddress_dvd aligned]
    exact ending
  have final : BitVec.ofNat 32 (first + k) = h.dataSize - 1 → k + 1 = size := by
    intro isLast
    have nothing := congrArg BitVec.toNat isLast
    have one : (1 : U32).toNat = 1 := rfl
    have positive : (1 : U32) ≤ h.dataSize := by
      show (1 : U32).toNat ≤ _
      omega
    rw [BitVec.toNat_ofNat, Nat.mod_eq_of_lt (by omega), BitVec.toNat_sub_of_le positive, one]
      at nothing
    have all : first + (k + 1) = h.dataSize.toNat := by omega
    exact ending.mp (all ▸ pages)
  refine Bool.eq_iff_iff.mpr ?_
  simp only [Bool.or_eq_true, beq_iff_eq, decide_eq_true_eq]
  exact ⟨fun either => either.elim ends.mp final, fun here => .inl (ends.mpr here)⟩

/-- The first byte of a page unlocks it. -/
theorem ends_pageOpened (setter : GenericSetter w) {first k : Nat} {earlier : List Access}
    (done : Accesses (earlier ++ openPage h first k) w w') :
    Ends (when (decide (k = 0)) (flashUtilByteFlipping flashEnableWrite)) env w'
      (fun _ w₁ => Accesses (earlier ++ (pageUnlock ++ h.loads first k)) w w₁)
      (fun _ => False) := by
  refine Ends.when (fun fresh => ?_) fun going => ?_
  · have fresh : k = 0 := of_decide_eq_true fresh
    rw [fresh, openPage, if_pos rfl, List.append_nil] at done
    refine (ends_byteFlipping (setter.accesses done) _).mono (fun _ w₁ flipped => ?_) fun _ => id
    rw [fresh]
    show Accesses (earlier ++ (pageUnlock ++ [])) w w₁
    rw [List.append_nil]
    exact done.trans flipped
  · rwa [openPage, if_neg (of_decide_eq_false going)] at done

/-- The last byte of a page waits for it. -/
theorem ends_pageClosed (page : PageMask mask size) (aligned : size ∣ h.address.toNat)
    {first : Nat} (whole : size ∣ first) (inside : first + size ≤ h.dataSize.toNat)
    {earlier : List Access} (goes : ∀ rest outcome, FlashPages h size first rest outcome →
      FlashPages h size 0 (earlier ++ rest) outcome)
    (loaded : Accesses (earlier ++ (pageUnlock ++ h.loads first size)) w w') :
    Ends (flash5vPageWaitForPageWrite (h.byteAddress (first + (size - 1)))
        (h.dataBuffer (first + (size - 1)))) env w'
      (fun ready w'' => if ready then FlashedTo h size w w'' (first + size) 0
        else GivenUp h size w w'')
      (StillWaiting h size env.turns w) := by
  have begins := (page.byteAddress_dvd aligned first).mpr whole
  refine (ends_pageWait w' _ _).mono (fun ready w₁ waited => ?_) fun w₁ waited => ?_
  · obtain ⟨polls, waited⟩ := waited
    cases ready with
    | false =>
      obtain ⟨last, failed⟩ := waited
      refine ⟨_, _, w', loaded, failed.logged, ?_, failed.elapsed, failed.error⟩
      have block : FlashPages h size first _
          (.failed (polls ++ [.read (h.byteAddress (first + (size - 1))) last])) :=
        .failed begins inside failed.unfinished failed.some
      simpa only [List.append_assoc] using goes _ _ block
    | true =>
      obtain ⟨completed, waited⟩ := waited
      refine ⟨Nat.dvd_add whole (Nat.dvd_refl size), page.positive, inside,
        earlier ++ (pageUnlock ++ h.loads first size ++ polls), ?_, fun rest outcome later => ?_⟩
      · have all := loaded.trans waited
        simpa only [openPage, if_true, List.append_nil, List.append_assoc] using all
      · have both := goes _ _ (.page begins inside completed later)
        simpa only [List.append_assoc] using both
  · obtain ⟨polls, polled, count, waited⟩ := waited
    refine ⟨_, polls, loaded.logged.trans waited, ?_, count⟩
    have stuck := goes _ _ (.waiting begins inside polled)
    simpa only [List.append_assoc] using stuck

theorem ends_pageWriteByte (page : PageMask mask size) (aligned : size ∣ h.address.toNat)
    (pages : size ∣ h.dataSize.toNat) (setter : GenericSetter w) {first k : Nat}
    (so : FlashedTo h size w w' first k) (more : first + k < h.dataSize.toNat) :
    Ends (flash5vPageWriteByte h mask (BitVec.ofNat 32 (first + k))) env w'
      (fun r w'' => match r with
        | .inl _ => if k + 1 = size then FlashedTo h size w w'' (first + size) 0
          else FlashedTo h size w w'' first (k + 1)
        | .inr _ => GivenUp h size w w'')
      (StillWaiting h size env.turns w) := by
  have inside := so.inside pages more
  obtain ⟨whole, partway, -, earlier, done, goes⟩ := so
  have room := h.dataSize.isLt
  have index : (BitVec.ofNat 32 (first + k)).toNat = first + k := by
    rw [BitVec.toNat_ofNat, Nat.mod_eq_of_lt (by omega)]
  have address : h.address + BitVec.ofNat 32 (first + k) = h.byteAddress (first + k) := rfl
  unfold flash5vPageWriteByte
  dsimp only
  rw [address, index, pageStart_iff page aligned whole partway (by omega),
    pageEnd_iff page aligned pages whole partway more, ends_bind]
  refine (ends_pageOpened setter done).mono (fun _ w₁ opened => ?_) fun _ => False.elim
  rw [ends_bind]
  refine (memorySetData_log w₁ _ _).mono (fun _ w₂ stored => ?_) fun _ => False.elim
  have loaded : Accesses (earlier ++ (pageUnlock ++ h.loads first (k + 1))) w w₂ := by
    have both := opened.trans stored
    rw [Handle.loads_succ, ← List.append_assoc pageUnlock, ← List.append_assoc]
    exact both
  by_cases full : k + 1 = size
  · rw [if_pos (decide_eq_true full), ends_bind]
    obtain rfl : k = size - 1 := by omega
    rw [full] at loaded
    refine (ends_pageClosed page aligned whole inside goes loaded).mono (fun ready w₃ closed => ?_)
      fun _ => id
    cases ready with
    | false => exact closed
    | true =>
      show if size - 1 + 1 = size then FlashedTo h size w w₃ (first + size) 0 else _
      rw [if_pos full]
      exact closed
  · rw [if_neg fun isLast => full (of_decide_eq_true isLast)]
    show if k + 1 = size then _ else FlashedTo h size w w₂ first (k + 1)
    rw [if_neg full]
    refine ⟨whole, by omega, by omega, earlier, ?_, goes⟩
    rw [openPage, if_neg (Nat.succ_ne_zero k)]
    exact loaded

/-- A block of whole pages: how it ends follows what was done on the bus. -/
theorem ends_wholePages (setter : GenericSetter w) (whole : WholePages w.handle) :
    Ends flash5vPageWriteExecute env w
      (fun _ w' => (∃ log, Accesses log w w' ∧
          FlashPages w.handle w.handle.pageSize.toNat 0 log .written) ∨
        GivenUp w.handle w.handle.pageSize.toNat w w')
      (StillWaiting w.handle w.handle.pageSize.toNat env.turns w) := by
  obtain ⟨supported, aligned, pages⟩ := whole
  have page := PageMask.of_supported supported
  generalize w.handle.pageSize.toNat = size at page aligned pages ⊢
  have fits : ¬ (w.handle.address &&& (w.handle.pageSize.setWidth 32 - 1) != 0 ||
      w.handle.dataSize &&& (w.handle.pageSize.setWidth 32 - 1) != 0) = true := by
    rw [(page.and_eq_zero_iff _).mpr aligned, (page.and_eq_zero_iff _).mpr pages]
    decide
  unfold flash5vPageWriteExecute
  rw [ends_bind, ends_getHandle, flash5vPageMask_supported supported]
  dsimp only
  rw [if_neg fits, ends_discard]
  have started : FlashedTo w.handle size w w 0 0 :=
    ⟨Nat.dvd_zero size, page.positive, Nat.zero_le _, [], refl_of Silent w, fun _ _ all => all⟩
  refine ends_forLoop (E := fun _ w' => (∃ log, Accesses log w w' ∧
      FlashPages w.handle size 0 log .written) ∨
      GivenUp w.handle size w w')
    (fun items _ w' => ∃ first k, FlashedTo w.handle size w w' first k ∧
      items = (List.range' (first + k) (w.handle.dataSize.toNat - (first + k))).map
        (BitVec.ofNat 32))
    (fun i rest _ w₁ so => ?_) (fun _ w₁ so => ?_) _ _ w
    ⟨0, 0, started, by unfold offsets; rw [List.range_eq_range']; rfl⟩
  · obtain ⟨first, k, so, items⟩ := so
    obtain ⟨left, count⟩ : ∃ left, w.handle.dataSize.toNat - (first + k) = left + 1 := by
      cases none : w.handle.dataSize.toNat - (first + k) with
      | zero => rw [none] at items; cases items
      | succ left => exact ⟨left, rfl⟩
    rw [count, List.range'_succ, List.map_cons] at items
    obtain ⟨rfl, rfl⟩ := List.cons.inj items
    refine (ends_pageWriteByte page aligned pages setter so (by omega)).mono
      (fun r w₂ turned => ?_) fun _ stuck => stuck
    cases r with
    | inr _ => exact .inr turned
    | inl _ =>
      by_cases full : k + 1 = size
      · refine ⟨first + size, 0, (if_pos full).mp turned, ?_⟩
        congr 2 <;> omega
      · refine ⟨first, k + 1, (if_neg full).mp turned, ?_⟩
        congr 2
        omega
  · obtain ⟨first, k, so, items⟩ := so
    have none := congrArg List.length items
    rw [List.length_nil, List.length_map, List.length_range'] at none
    have bound := so.bound
    have last : first + k = w.handle.dataSize.toNat := Nat.le_antisymm bound (by omega)
    -- The block ends with a page, so no page is left open.
    have closed : k = 0 := by
      have divides := (Nat.dvd_add_right so.whole).mp (last ▸ pages)
      exact Nat.eq_zero_of_dvd_of_lt divides so.partway
    obtain ⟨earlier, done, goes⟩ := so.done
    refine .inl ⟨_, done, ?_⟩
    rw [closed, openPage, if_pos rfl]
    refine goes _ _ ?_
    rw [closed, Nat.add_zero] at last
    rw [last]
    exact .finished

/-- Any other block is refused, and the chip is left alone. -/
theorem ends_otherBlock (w : World) (other : ¬ WholePages w.handle) :
    Ends flash5vPageWriteExecute env w
      (fun _ w' => Logged [] w w' ∧ w'.handle.responseCode = responseCodeError)
      (fun _ => False) := by
  unfold flash5vPageWriteExecute
  rw [ends_bind, ends_getHandle]
  by_cases supported : SupportedPageSize w.handle.pageSize
  · have page := PageMask.of_supported supported
    rw [flash5vPageMask_supported supported]
    dsimp only
    split
    · exact ends_refuse_silent w _ _
    · rename_i fits
      simp only [Bool.or_eq_true, bne_iff_ne, ne_eq, not_or, Decidable.not_not] at fits
      have aligned := (page.and_eq_zero_iff _).mp fits.1
      exact absurd ⟨supported, aligned, (page.and_eq_zero_iff _).mp fits.2⟩ other
  · rw [flash5vPageMask_unsupported supported]
    exact ends_refuse_silent w _ _

/-! ## That it ends -/

/-- Time goes on, and the handle keeps its setter. -/
structure Passing (w w' : World) : Prop where
  now : w.now ≤ w'.now
  setter : w'.handle.firestarterSetControlRegister = w.handle.firestarterSetControlRegister

namespace Passing

instance : IsPreorder World Passing where
  refl _ := ⟨Nat.le_refl _, rfl⟩
  trans _ _ _ first rest := ⟨first.now.trans rest.now, rest.setter.trans first.setter⟩

instance : BusFrame env Passing where
  bus _ _ later same := by
    have handle := congrArg World.handle same
    exact ⟨later, congrArg Handle.firestarterSetControlRegister handle⟩

instance : ReadFrame Passing := ⟨fun _ _ _ _ => ⟨Nat.le_refl _, rfl⟩⟩

instance : StoreFrame Passing := ⟨fun _ _ _ => ⟨Nat.le_refl _, rfl⟩⟩

instance : LatchFrame Passing := ⟨fun _ _ _ _ _ => ⟨Nat.le_refl _, rfl⟩⟩

instance : CacheFrame Passing :=
  ⟨fun _ _ _ _ _ => ⟨Nat.le_refl _, rfl⟩, fun _ _ => ⟨Nat.le_refl _, rfl⟩,
    fun _ _ _ _ => ⟨Nat.le_refl _, rfl⟩⟩

instance : PrintFrame Passing :=
  ⟨fun _ _ _ => ⟨Nat.le_refl _, rfl⟩, fun _ _ => ⟨Nat.le_refl _, rfl⟩⟩

instance : ReportFrame env Passing where
  report _ _ _ := inferInstance
  respond _ := Within.update _ fun _ => ⟨Nat.le_refl _, rfl⟩

end Passing

theorem GenericSetter.passing (setter : GenericSetter w) (passing : Passing w w') :
    GenericSetter w' := passing.setter.trans setter

theorem Brief.returnsOr {α : Type} {m : Fw α} [brief : Brief env m]
    [passes : ∀ n, Within (env.watched n) Passing m] (beyond : World → Prop) (w : World) :
    ReturnsOr env.watched m w (fun _ w' => Passing w w') beyond := by
  obtain ⟨a, w', returns, -⟩ := brief.returns w
  exact Or.inl ⟨a, w', returns, returns.moved passes⟩

variable {limit : Nat}

/-- What is past the limit stays so. -/
theorem Passing.onward (v v' : World) (past : limit ≤ v.now) (passing : Passing v v') :
    limit ≤ v'.now := past.trans passing.now

theorem waitReady_returnsOr (clock : env.ClockMoves) (early : limit ≤ w.now + 2 ^ 32)
    (address : U32) (expected : U8) (timeoutMs : U32) :
    ReturnsOr env.watched (flashUtilWaitReady address expected timeoutMs) w
      (fun _ w' => Passing w w') fun v => limit ≤ v.now := by
  rcases flashUtilWaitReady_returns clock w address expected timeoutMs with
    ⟨ready, w', returns⟩ | ⟨matched, v, rounds, turned⟩
  · exact Or.inl ⟨ready, w', returns, returns.moved fun _ => inferInstance⟩
  · have within (n : Nat) (matched : Bool) : Within (env.watched n) Passing
        (waitReadyTurn address expected timeoutMs (BitVec.ofNat 32 (w.looked env).now)
          matched) := by
      unfold waitReadyTurn
      infer_instance
    obtain ⟨enough, onward⟩ := rounds.onward within
    refine Or.inr ⟨enough, fun n many => ?_⟩
    have began := (Later.looked env w).now
    have past := (onward n many n many).now
    exact (show limit ≤ v.now by omega).trans past

theorem pageWait_returnsOr (clock : env.ClockMoves) (early : limit ≤ w.now + 2 ^ 32)
    (address : U32) (expected : U8) :
    ReturnsOr env.watched (flash5vPageWaitForPageWrite address expected) w
      (fun _ w' => Passing w w') fun v => limit ≤ v.now := by
  unfold flash5vPageWaitForPageWrite
  refine (Brief.returnsOr _ w).bind (fun _ w₁ settled => ?_) (fun _ _ => inferInstance)
    Passing.onward
  have later := settled.now
  refine (waitReady_returnsOr clock (by omega) _ _ _).bind (fun ready w₂ waited => ?_)
    (fun _ _ => inferInstance) Passing.onward
  have passed := trans_of Passing settled waited
  cases ready with
  | true => exact Or.inl ⟨true, w₂, .of_run fun _ => rfl, passed⟩
  | false =>
    have brief : Brief env (do
        let data ← memoryGetData address
        refuse msgErrFl4VerifyTimeout (expected :: bytes24 address ++ [data])
        return false : Fw Bool) := inferInstance
    exact (brief.returnsOr _ w₂).mono fun _ _ rest => trans_of Passing passed rest

theorem setGeneric_returnsOr (setter : GenericSetter w) (beyond : World → Prop) (bit : Reg)
    (state : Bool) :
    ReturnsOr env.watched (setControlRegister bit state) w (fun _ w' => Passing w w') beyond := by
  have generic : w.handle.firestarterSetControlRegister = some .memorySetControlRegister := setter
  have same (n : Nat) : setControlRegister bit state (env.watched n) w =
      memorySetControlRegister bit state (env.watched n) w := by
    have chosen : (if w.handle.firestarterSetControlRegister = some .memorySetControlRegister then
        memorySetControlRegister bit state
      else if w.handle.firestarterSetControlRegister = some .epromInternalSetControlRegister then
        epromInternalSetControlRegister bit state
      else cut) = memorySetControlRegister bit state := if_pos generic
    exact congrFun (congrFun chosen (env.watched n)) w
  have brief : Brief env (memorySetControlRegister bit state) := by
    unfold memorySetControlRegister
    infer_instance
  obtain ⟨_, w', ⟨N, run⟩, -⟩ := brief.returns w
  have returns : Returns env.watched (setControlRegister bit state) w () w' :=
    ⟨N, fun n many => (same n).trans (run n many)⟩
  exact Or.inl ⟨(), w', returns, returns.moved fun _ => inferInstance⟩

instance (address : U32) (data : U8) : Brief env (fuFlashFlipData address data) := by
  unfold fuFlashFlipData
  infer_instance

instance (flips : List ByteFlip) :
    Brief env (flips.forM fun flip => fuFlashFlipData flip.address flip.byte) := by
  induction flips with
  | nil =>
    have nothing : Brief env (pure PUnit.unit : Fw PUnit) := inferInstance
    exact nothing
  | cons flip rest ih => exact brief_bind inferInstance fun _ => ih

/-- The sequence needs the setter to be there, and is otherwise brief. -/
theorem byteFlipping_returnsOr (setter : GenericSetter w) (beyond : World → Prop)
    (flips : List ByteFlip) (stays : ∀ v v', beyond v → Passing v v' → beyond v') :
    ReturnsOr env.watched (flashUtilByteFlipping flips) w (fun _ w' => Passing w w') beyond := by
  unfold flashUtilByteFlipping
  refine (setGeneric_returnsOr setter beyond _ _).bind (fun _ w₁ before => ?_)
    (fun _ _ => inferInstance) stays
  refine (Brief.returnsOr beyond w₁).bind (fun _ w₂ played => ?_) (fun _ _ => inferInstance) stays
  have passed := trans_of Passing before played
  exact (setGeneric_returnsOr (setter.passing passed) beyond _ _).mono fun _ _ after =>
    trans_of Passing passed after

theorem pageWriteByte_returnsOr (clock : env.ClockMoves) (setter : GenericSetter w)
    (early : limit ≤ w.now + 2 ^ 32) (h : Handle) (mask i : U32) :
    ReturnsOr env.watched (flash5vPageWriteByte h mask i) w (fun _ w' => Passing w w')
      fun v => limit ≤ v.now := by
  unfold flash5vPageWriteByte
  dsimp only
  have opened : ReturnsOr env.watched (when (h.address + i &&& mask == 0 || i == 0)
      (flashUtilByteFlipping flashEnableWrite)) w (fun _ w' => Passing w w')
      fun v => limit ≤ v.now := by
    unfold Prog.when
    split
    · exact byteFlipping_returnsOr setter _ _ Passing.onward
    · exact Brief.returnsOr _ w
  refine opened.bind (fun _ w₁ before => ?_) (fun _ _ => inferInstance) Passing.onward
  refine (Brief.returnsOr _ w₁).bind (fun _ w₂ loaded => ?_) (fun _ _ => inferInstance)
    Passing.onward
  have passed := trans_of Passing before loaded
  split
  · have later := passed.now
    refine (pageWait_returnsOr clock (by omega) _ _).bind (fun ready w₃ waited => ?_)
      (fun _ _ => inferInstance) Passing.onward
    have passed := trans_of Passing passed waited
    cases ready with
    | true => exact Or.inl ⟨_, w₃, .of_run fun _ => rfl, passed⟩
    | false => exact Or.inl ⟨_, w₃, .of_run fun _ => rfl, passed⟩
  · exact Or.inl ⟨_, w₂, .of_run fun _ => rfl, passed⟩

/-- How a block of whole pages ends. -/
def BlockEnds (env : Env) (w w' : World) (ended : Option Unit) (log : List Access) :
    PageOutcome → Prop
  | .written => ended = some () ∧ w'.handle = w.handle
  | .failed polls => ended = some () ∧ w'.handle.responseCode = responseCodeError ∧
    ∃ loaded v, log = loaded ++ polls ∧ Accesses loaded w v ∧
      v.now + flash5vPageWriteTimeoutMs.toNat ≤ w'.now
  | .waiting polls => ended = none ∧ polls.length = env.turns

theorem flash5vPageWriteExecute_returnsOr (clock : env.ClockMoves) (setter : GenericSetter w) :
    ReturnsOr env.watched flash5vPageWriteExecute w (fun _ _ => True)
      fun v => w.now + 2 ^ 32 ≤ v.now := by
  have handled : Returns env.watched getHandle w w.handle w := .of_run fun _ => rfl
  unfold flash5vPageWriteExecute
  refine ReturnsOr.after ?_ handled
  split
  · exact (Brief.returnsOr _ w).mono fun _ _ _ => trivial
  · split
    · exact (Brief.returnsOr _ w).mono fun _ _ _ => trivial
    · refine (returnsOr_forLoop (fun _ v => Passing w v) (fun _ i v passed => ?_)
        (fun _ _ _ => inferInstance) Passing.onward _ _ w (refl_of Passing w)).bind
        (fun r v _ => Or.inl ⟨(), v, .of_run fun _ => rfl, trivial⟩) (fun _ _ => Within.pure ())
        Passing.onward
      have later := passed.now
      exact (pageWriteByte_returnsOr clock (setter.passing passed) (by omega) _ _ i).mono
        fun _ _ turned _ _ => trans_of Passing passed turned

/-- The page write. A block that is not made of whole pages is refused before the chip is touched.
Of any other, every page is unlocked once, loaded whole and in order, and waited for at its last
byte before anything of the next; a wait that fails has polled the byte for its whole time, ends in
an error and is the last thing that is done. On a clock that goes on no wait stays open: the block
is done within a turn of it, or takes longer than that. -/
theorem flash5v_page_write {w : World} (setter : GenericSetter w) :
    (¬ WholePages w.handle → ∃ w', flash5vPageWriteExecute env w = (some (), w') ∧
      Logged [] w w' ∧ w'.handle.responseCode = responseCodeError) ∧
    (WholePages w.handle → ∃ ended w' log outcome,
      flash5vPageWriteExecute env w = (ended, w') ∧ Logged log w w' ∧
      FlashPages w.handle w.handle.pageSize.toNat 0 log outcome ∧
      BlockEnds env w w' ended log outcome) ∧
    (env.ClockMoves → ReturnsOr env.watched flash5vPageWriteExecute w (fun _ _ => True)
      fun v => w.now + 2 ^ 32 ≤ v.now) := by
  refine ⟨fun other => ?_, fun whole => ?_, fun clock =>
    flash5vPageWriteExecute_returnsOr clock setter⟩
  · have ended : Ends flash5vPageWriteExecute env w _ _ := ends_otherBlock w other
    unfold Ends at ended
    rcases run : flash5vPageWriteExecute env w with ⟨_ | _, w'⟩ <;> rw [run] at ended
    · exact ended.elim
    · exact ⟨w', rfl, ended⟩
  · have ended : Ends flash5vPageWriteExecute env w _ _ := ends_wholePages setter whole
    unfold Ends at ended
    rcases run : flash5vPageWriteExecute env w with ⟨_ | _, w'⟩ <;> rw [run] at ended
    · obtain ⟨log, polls, logged, pages, count⟩ := ended
      exact ⟨none, w', log, .waiting polls, rfl, logged, pages, rfl, count⟩
    · rcases ended with ⟨log, done, pages⟩ | ⟨loaded, polls, v, done, polled, pages, waited, error⟩
      · exact ⟨some (), w', log, .written, rfl, done.logged, pages, rfl, done.handle⟩
      · exact ⟨some (), w', _, .failed polls, rfl, done.logged.trans polled, pages, rfl, error,
          loaded, v, rfl, done, waited⟩

/-- Two pages of a page flash, on a board that has been set up for a write. -/
def twoPages : World where
  handle :=
    { cmd := cmdWrite, responseCode := responseCodeOk, protocol := protoFlash5vPage, pins := 32,
      memSize := 65536, address := 256, pageSize := 4, dataSize := 8,
      dataBuffer := fun i => BitVec.ofNat 8 i
      busConfig := { addressLines := [], addressMask := 0xFFFF, rwLine := 0xFF, vppLine := 0xFF }
      firestarterSetControlRegister := some .memorySetControlRegister }
  stored := none
  latches := ⟨0, 0, 0⟩

/-- An outside whose clock ticks, with a part that reads back the byte of its address. -/
def storingOutside : Env :=
  { Env.ticking ⟨.uno, false⟩ with chip := fun w => w.latches.lsb, turns := 4 }

/-- They are written. -/
theorem flash5v_page_write_twoPages :
    (∃ w' log, flash5vPageWriteExecute storingOutside twoPages = (some (), w') ∧
      Logged log twoPages w' ∧ FlashPages twoPages.handle 4 0 log .written ∧
      w'.handle = twoPages.handle) ∧
    ReturnsOr storingOutside.watched flash5vPageWriteExecute twoPages (fun _ _ => True)
      fun v => twoPages.now + 2 ^ 32 ≤ v.now := by
  have block := @flash5v_page_write storingOutside twoPages rfl
  obtain ⟨ended, w', log, outcome, run, logged, pages, ends⟩ :=
    block.2.1 ⟨by decide, by decide, by decide⟩
  have returned : (flash5vPageWriteExecute storingOutside twoPages).1 = some () := by
    decide +kernel
  have well : (flash5vPageWriteExecute storingOutside twoPages).2.handle.responseCode =
      responseCodeOk := by decide +kernel
  rw [run] at returned well
  refine ⟨?_, block.2.2 (Env.ticking_clockRuns ⟨.uno, false⟩).moves⟩
  cases outcome with
  | written => exact ⟨w', log, ends.1 ▸ run, logged, pages, ends.2⟩
  | failed polls =>
    have error := well.symm.trans ends.2.1
    exact absurd error (by decide)
  | waiting polls =>
    have none := returned.symm.trans ends.1
    cases none

end Firestarter
