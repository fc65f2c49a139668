import Firestarter.PageWindows

/-! The page write of the 28C driver. A block goes out in windows: bytes of one page are loaded
without a read between them, the chip is polled until it has stored them, and they are read back
before the next window begins. -/
namespace Firestarter

open Interactive Interactive.Prog

set_option synthInstance.maxSize 4000

/-! ## The page size -/

/-- The page size the driver works with. -/
def eeprom28cPageSize (requested : U16) : Nat :=
  if SupportedPageSize requested then requested.toNat else 64

theorem eeprom28cPageMask_page (requested : U16) :
    PageMask (eeprom28cPageMask requested) (eeprom28cPageSize requested) := by
  have fallback : PageMask (at28cPageSizeFallback - 1) 64 := ⟨⟨6, by decide, rfl⟩, rfl⟩
  have supported := supportedPageSize_iff requested
  unfold eeprom28cPageMask eeprom28cPageSize
  by_cases zero : requested = 0
  · rw [if_pos (beq_iff_eq.mpr zero), if_neg fun has => (supported.mp has).1 zero]
    exact fallback
  rw [if_neg fun isZero => zero (beq_iff_eq.mp isZero)]
  by_cases has : SupportedPageSize requested
  · obtain ⟨-, small, power⟩ := supported.mp has
    rw [if_pos has, if_pos]
    · exact PageMask.of_supported has
    · simp only [Bool.and_eq_true, decide_eq_true_eq, beq_iff_eq]
      exact ⟨small, power⟩
  · rw [if_neg has, if_neg]
    · exact fallback
    · simp only [Bool.and_eq_true, decide_eq_true_eq, beq_iff_eq]
      exact fun both => has (supported.mpr ⟨zero, both.1, both.2⟩)

/-! ## What a block may look like on the bus -/

/-- These bytes of the block and the last one after them are on one page. -/
def OnePage (h : Handle) (size first more : Nat) : Prop :=
  ∀ i ≤ more, (h.byteAddress (first + i)).toNat / size = (h.byteAddress first).toNat / size

/-- The accesses of a block from this byte on, and whether all of them landed. A window is loaded,
polled at its last byte and read back; a wait that has used up its polls, or a byte that differs, is
the last thing there is. -/
inductive PageWrites (h : Handle) (size : Nat) : Nat → List Access → Bool → Prop
  | finished : PageWrites h size h.dataSize.toNat [] true
  | window {first more : Nat} {polls rest : List Access} {landed : Bool}
      (inside : first + more < h.dataSize.toNat) (page : OnePage h size first more)
      (polled : Completed (h.byteAddress (first + more)) (h.dataBuffer (first + more)) polls)
      (later : PageWrites h size (first + more + 1) rest landed) :
      PageWrites h size first
        (h.loads first (more + 1) ++ polls ++ h.readBack first (more + 1) ++ rest) landed
  | timedOut {first more : Nat} {polls : List Access}
      (inside : first + more < h.dataSize.toNat) (page : OnePage h size first more)
      (polled : Unfinished (h.byteAddress (first + more)) (h.dataBuffer (first + more)) polls)
      (many : at28cPagePollMaxReads ≤ polls.length) :
      PageWrites h size first (h.loads first (more + 1) ++ polls) false
  | differed {first more k : Nat} {polls : List Access} {data : U8}
      (inside : first + more < h.dataSize.toNat) (page : OnePage h size first more)
      (polled : Completed (h.byteAddress (first + more)) (h.dataBuffer (first + more)) polls)
      (here : k ≤ more) (other : data ≠ h.dataBuffer (first + k)) :
      PageWrites h size first
        (h.loads first (more + 1) ++ polls ++ h.readBack first k ++
          [.read (h.byteAddress (first + k)) data]) false

variable {h : Handle} {size first more count : Nat} {log polls rest : List Access}

theorem Handle.loads_stores (h : Handle) (first count : Nat) :
    (h.loads first count).filter Access.isStore = h.loads first count := by
  refine List.filter_eq_self.mpr fun access member => ?_
  obtain ⟨i, -, rfl⟩ := List.mem_map.mp member
  rfl

theorem Handle.readBack_no_store (h : Handle) (first count : Nat) :
    (h.readBack first count).filter Access.isStore = [] := by
  refine List.filter_eq_nil_iff.mpr fun access member => ?_
  obtain ⟨i, -, rfl⟩ := List.mem_map.mp member
  nofun

/-- The bytes are loaded in order, each once; all of them when all landed. -/
theorem PageWrites.stores {landed : Bool} (writes : PageWrites h size first log landed) :
    ∃ count, log.filter Access.isStore = h.loads first count ∧ first + count ≤ h.dataSize.toNat ∧
      (landed = true → first + count = h.dataSize.toNat) := by
  induction writes with
  | finished => exact ⟨0, rfl, Nat.le_refl _, fun _ => rfl⟩
  | @window first more polls rest landed inside page polled later ih =>
    obtain ⟨count, stores, bound, all⟩ := ih
    refine ⟨more + 1 + count, ?_, by omega, fun landed => ?_⟩
    · rw [List.filter_append, List.filter_append, List.filter_append, Handle.loads_stores,
        polled.polls.no_store, Handle.readBack_no_store, stores, List.append_nil, List.append_nil]
      exact h.loads_append first (more + 1) count
    · have := all landed
      omega
  | @timedOut first more polls inside page polled =>
    refine ⟨more + 1, ?_, by omega, nofun⟩
    rw [List.filter_append, Handle.loads_stores, polled.polls.no_store, List.append_nil]
  | @differed first more k polls data inside page polled here other =>
    refine ⟨more + 1, ?_, by omega, nofun⟩
    rw [List.filter_append, List.filter_append, List.filter_append, Handle.loads_stores,
      polled.polls.no_store, Handle.readBack_no_store]
    simp [Access.isStore]

/-! ## The poll and the read-back -/

variable {env : Env} {w w' w'' : World}

-- A unification that looks into the poll would run through all its turns.
attribute [local irreducible] eeprom28cWaitForPageWrite

/-- The wait so far: no two reads in a row matched, and the last did not. -/
structure Missing (address : U32) (expected : U8) (w : World) (reads : List U8) (w' : World) :
    Prop where
  log : Accesses (reads.map (Access.read address)) w w'
  twice : ¬ MatchTwice expected reads
  last : ¬ MatchLast expected reads

section
variable {address : U32} {expected data : U8} {reads : List U8}

theorem Missing.onward (missing : Missing address expected w reads w') (rest : Silent w' w'') :
    Missing address expected w reads w'' := ⟨missing.log.onward rest, missing.twice, missing.last⟩

theorem Missing.once (missing : Missing address expected w reads w') :
    ¬ MatchTwice expected (reads ++ [data]) := fun found =>
  (matchTwice_snoc.mp found).elim missing.twice fun both => missing.last both.1

/-- A read that does not match leaves the wait where it is, -/
theorem Missing.miss (once : ¬ MatchTwice expected reads)
    (log : Accesses ((reads ++ [data]).map (Access.read address)) w w')
    (other : dq7Matches expected data = false) :
    Missing address expected w (reads ++ [data]) w' := by
  have miss : ¬ dq7Matches expected data = true := by simp [other]
  refine ⟨log, fun found => ?_, fun last => miss (matchLast_snoc.mp last)⟩
  exact (matchTwice_snoc.mp found).elim once fun both => miss both.2

/-- and the second one that does ends it. -/
theorem Missing.completed {confirm : U8} (missing : Missing address expected w reads w')
    (hit : dq7Matches expected data = true) (hit' : dq7Matches expected confirm = true) :
    Completed address expected
      ((reads ++ [data] ++ [confirm]).map (Access.read address)) := by
  refine ⟨_, rfl, matchTwice_snoc.mpr (.inr ⟨matchLast_snoc.mpr hit, hit'⟩), ?_⟩
  rw [List.dropLast_concat]
  exact missing.once

end

theorem ends_waitForPageWrite (w : World) (address : U32) (expected : U8) :
    Ends (eeprom28cWaitForPageWrite address expected) env w
      (fun completed w' => ∃ polls, match completed with
        | true => Completed address expected polls ∧ Accesses polls w w'
        | false => Unfinished address expected polls ∧ at28cPagePollMaxReads ≤ polls.length ∧
          Logged polls w w' ∧ w'.handle.responseCode = responseCodeError) (fun _ => False) := by
  have hits (data : U8) : (data &&& at28cDq7Mask == expected &&& at28cDq7Mask) =
      dq7Matches expected data := and_dq7_beq data expected
  unfold eeprom28cWaitForPageWrite
  generalize all : List.range at28cPagePollMaxReads = turns
  have count : turns.length = at28cPagePollMaxReads := by rw [← all, List.length_range]
  rw [← count, ends_bind]
  refine (ends_forLoop (E := fun r w' => ∃ reads, match r with
      | .inl _ => Missing address expected w reads w' ∧ turns.length ≤ reads.length
      | .inr _ => Completed address expected (reads.map (Access.read address)) ∧
        Accesses (reads.map (Access.read address)) w w')
    (fun items _ w' => ∃ reads, Missing address expected w reads w' ∧
      turns.length ≤ items.length + reads.length) (fun _ rest _ w₁ so => ?_)
    (fun _ _ so => ?_) turns _ w
    ⟨[], ⟨refl_of Silent w, not_matchTwice_nil, not_matchLast_nil⟩, Nat.le_refl _⟩).mono
    (fun r w₁ done => ?_) fun _ => id
  · obtain ⟨reads, missing, counted⟩ := so
    rw [List.length_cons] at counted
    refine Within.bind_completes (S := Silent) fun _ w₂ waited => ?_
    have missing := missing.onward waited
    rw [ends_bind]
    refine (memoryGetData_log w₂ address).mono (fun observed w₃ read => ?_) fun _ => id
    have log : Accesses ((reads ++ [observed]).map (Access.read address)) w w₃ := by
      rw [List.map_append]
      exact missing.log.trans read
    rw [hits]
    split
    · rename_i hit
      rw [ends_bind]
      refine (memoryGetData_log w₃ address).mono (fun confirm w₄ read' => ?_) fun _ => id
      have log' : Accesses ((reads ++ [observed] ++ [confirm]).map (Access.read address)) w w₄ := by
        rw [List.map_append]
        exact log.trans read'
      rw [hits]
      split
      · rename_i hit'
        exact ⟨_, missing.completed hit hit', log'⟩
      · rename_i miss
        refine ⟨_, .miss missing.once log' (by simpa using miss), ?_⟩
        rw [List.length_append, List.length_append, List.length_singleton, List.length_singleton]
        omega
    · rename_i miss
      refine ⟨_, .miss missing.twice log (by simpa using miss), ?_⟩
      rw [List.length_append, List.length_singleton]
      omega
  · obtain ⟨reads, missing, counted⟩ := so
    rw [List.length_nil, Nat.zero_add] at counted
    exact ⟨reads, missing, counted⟩
  · obtain ⟨reads, so⟩ := done
    cases r with
    | inr _ => exact ⟨_, so⟩
    | inl observed =>
      obtain ⟨missing, counted⟩ := so
      rw [ends_bind]
      refine (ends_refuse_silent w₁ _ _).mono (fun _ w₂ refused => ?_) fun _ => id
      refine ⟨_, ⟨reads, rfl, missing.twice⟩, by rwa [List.length_map], ?_, refused.2⟩
      have both := missing.log.logged.trans refused.1
      rwa [List.append_nil] at both

theorem ends_verifyPageReadback (h : Handle) (first more : Nat) (w : World) :
    Ends (eeprom28cVerifyPageReadback h first (first + more)) env w
      (fun same w' => match same with
        | true => Accesses (h.readBack first (more + 1)) w w'
        | false => ∃ k data, k ≤ more ∧ data ≠ h.dataBuffer (first + k) ∧
          Logged (h.readBack first k ++ [.read (h.byteAddress (first + k)) data]) w w' ∧
          w'.handle.responseCode = responseCodeError) (fun _ => False) := by
  unfold eeprom28cVerifyPageReadback
  have whole : first + more + 1 - first = more + 1 := by omega
  rw [whole, ends_bind]
  refine (ends_forLoop (E := fun r w' => match r with
      | .inl _ => Accesses (h.readBack first (more + 1)) w w'
      | .inr _ => ∃ k data, k ≤ more ∧ data ≠ h.dataBuffer (first + k) ∧
        Logged (h.readBack first k ++ [.read (h.byteAddress (first + k)) data]) w w' ∧
        w'.handle.responseCode = responseCodeError)
    (fun items _ w' => ∃ k ≤ more + 1, items = List.range' (first + k) (more + 1 - k) ∧
      Accesses (h.readBack first k) w w') (fun i rest _ w₁ so => ?_) (fun _ w₁ so => ?_) _ _ w
    ⟨0, Nat.zero_le _, rfl, refl_of Silent w⟩).mono
    (fun r _ done => by cases r <;> exact done) fun _ => id
  · obtain ⟨k, inside, items, done⟩ := so
    obtain ⟨left, count⟩ : ∃ left, more + 1 - k = left + 1 := by
      cases none : more + 1 - k with
      | zero => rw [none] at items; cases items
      | succ left => exact ⟨left, rfl⟩
    rw [count, List.range'_succ] at items
    obtain ⟨rfl, rfl⟩ := List.cons.inj items
    rw [ends_bind]
    refine (memoryGetData_log w₁ _).mono (fun data w₂ read => ?_) fun _ => id
    have done := done.trans read
    split
    · rename_i other
      rw [ends_bind]
      refine (ends_refuse_silent w₂ _ _).mono (fun _ w₃ refused => ?_) fun _ => id
      refine ⟨k, data, by omega, bne_iff_ne.mp other, ?_, refused.2⟩
      have both := done.logged.trans refused.1
      rwa [List.append_nil] at both
    · rename_i same
      have same : data = h.dataBuffer (first + k) := by simpa using same
      rw [same] at done
      refine ⟨k + 1, by omega, ?_, ?_⟩
      · congr 1
        omega
      · rw [Handle.readBack_succ]
        exact done
  · obtain ⟨k, inside, items, done⟩ := so
    have none := congrArg List.length items
    rw [List.length_nil, List.length_range'] at none
    have all : k = more + 1 := by omega
    rw [all] at done
    exact done

theorem ends_measurePageLoad (devTools : Bool) (load : PageLoad) (w : World) :
    Ends (measurePageLoad devTools load) env w
      (fun measured w' => measured.windowStart = load.windowStart ∧ Silent w w')
      (fun _ => False) := by
  have whole : Completes env (measurePageLoad devTools load) := by
    unfold measurePageLoad
    infer_instance
  have start : Ends (measurePageLoad devTools load) env w
      (fun measured _ => measured.windowStart = load.windowStart) (fun _ => True) := by
    unfold measurePageLoad
    split
    · rw [ends_bind]
      exact ends_any _ (fun _ _ => rfl) fun _ => trivial
    · rfl
  exact ((whole.within (R := Silent) inferInstance w).and start).mono
    (fun _ _ both => ⟨both.2, both.1⟩) fun _ never => never.1

/-! ## The block -/

/-- A block that failed: what was done on the bus, and the error. -/
def BlockFailed (h : Handle) (size : Nat) (w w' : World) : Prop :=
  ∃ log, Logged log w w' ∧ PageWrites h size 0 log false ∧
    w'.handle.responseCode = responseCodeError

/-- A block before byte `i`: the windows before the current one are done, and the bytes of the
current one up to here are loaded. -/
structure LoadedTo (h : Handle) (size : Nat) (load : PageLoad) (w w' : World) (i : Nat) :
    Prop where
  bound : i ≤ h.dataSize.toNat
  start : load.windowStart ≤ i
  flushed : i = h.dataSize.toNat → load.windowStart = i
  page : OnePage h size load.windowStart (i - load.windowStart)
  done : ∃ earlier,
    Accesses (earlier ++ h.loads load.windowStart (i - load.windowStart)) w w' ∧
      ∀ rest landed, PageWrites h size load.windowStart rest landed →
        PageWrites h size 0 (earlier ++ rest) landed

variable {mask : U32} {load : PageLoad} {i : Nat}

theorem OnePage.zero : OnePage h size first 0 := by
  intro i none
  rw [Nat.le_zero.mp none]
  rfl

theorem OnePage.succ (page : PageMask mask size) (same : OnePage h size first more)
    (inside : (h.byteAddress (first + more) + 1) &&& mask ≠ 0) :
    OnePage h size first (more + 1) := by
  intro i bound
  rcases Nat.lt_or_ge more i with last | earlier
  · have last : i = more + 1 := by omega
    rw [last, ← Nat.add_assoc, ← h.byteAddress_succ, page.succ_div inside]
    exact same more (Nat.le_refl _)
  · exact same i earlier

theorem ends_writeByte (page : PageMask mask size) (devTools : Bool)
    (so : LoadedTo h size load w w' i) (inside : i < h.dataSize.toNat) :
    Ends (eeprom28cWriteByte h devTools mask load i) env w'
      (fun r w'' => match r with
        | .inl next => LoadedTo h size next w w'' (i + 1)
        | .inr _ => BlockFailed h size w w'') (fun _ => False) := by
  obtain ⟨-, start, -, onePage, earlier, done, goes⟩ := so
  obtain ⟨more, rfl⟩ : ∃ more, i = load.windowStart + more := ⟨i - load.windowStart, by omega⟩
  rw [Nat.add_sub_cancel_left] at onePage done
  unfold eeprom28cWriteByte
  rw [ends_bind]
  refine (memorySetData_log w' _ _).mono (fun _ w₁ stored => ?_) fun _ => id
  rw [ends_bind]
  refine (ends_measurePageLoad devTools load w₁).mono (fun measured w₂ timed => ?_) fun _ => id
  obtain ⟨same, timed⟩ := timed
  have loaded : Accesses (earlier ++ h.loads load.windowStart (more + 1)) w w₂ := by
    have both := (done.trans stored).onward timed
    rw [Handle.loads_succ, ← List.append_assoc]
    exact both
  split
  · -- The window ends here: poll, then read back.
    rw [ends_bind]
    refine (ends_waitForPageWrite w₂ _ _).mono (fun completed w₃ waited => ?_) fun _ => id
    obtain ⟨polls, waited⟩ := waited
    cases completed with
    | false =>
      obtain ⟨polled, many, waited, error⟩ := waited
      refine ⟨_, loaded.logged.trans waited, ?_, error⟩
      rw [List.append_assoc]
      exact goes _ _ (.timedOut inside onePage polled many)
    | true =>
      obtain ⟨polled, waited⟩ := waited
      simp only [if_true]
      rw [ends_bind, same]
      refine (ends_verifyPageReadback h load.windowStart more w₃).mono (fun landed w₄ checked => ?_)
        fun _ => id
      have before := loaded.trans waited
      cases landed with
      | false =>
        obtain ⟨k, data, here, other, checked, error⟩ := checked
        refine ⟨_, before.logged.trans checked, ?_, error⟩
        have failed := goes _ _ (.differed inside onePage polled here other)
        simpa only [List.append_assoc] using failed
      | true =>
        refine ⟨inside, Nat.le_refl _, fun _ => rfl, ?_, earlier ++
          (h.loads load.windowStart (more + 1) ++ polls ++ h.readBack load.windowStart (more + 1)),
          ?_, fun rest landed later => ?_⟩
        · show OnePage h size (load.windowStart + more + 1) _
          rw [Nat.sub_self]
          exact OnePage.zero
        · show Accesses (_ ++ h.loads _ (load.windowStart + more + 1 -
            (load.windowStart + more + 1))) w w₄
          rw [Nat.sub_self]
          have all := before.trans checked
          simpa only [List.append_assoc, Handle.loads, List.range'_zero, List.map_nil,
            List.append_nil] using all
        · have whole := goes _ _ (.window inside onePage polled later)
          simpa only [List.append_assoc] using whole
  · rename_i going
    simp only [Bool.or_eq_true, beq_iff_eq, not_or] at going
    have count : load.windowStart + more + 1 - load.windowStart = more + 1 := by omega
    refine ⟨inside, ?_, fun last => absurd last going.2, ?_, earlier, ?_, fun rest landed later => ?_⟩
    · rw [same]
      omega
    · rw [same, count]
      exact onePage.succ page going.1
    · rw [same, count]
      exact loaded
    · rw [same] at later
      exact goes rest landed later

/-- The page write. The block goes out window by window, none of which leaves its page, and every
byte of it is stored at most once and in order. When all of it has landed, each byte was read back
as it was written; otherwise the last window ended in a wait that used up its polls or in a byte that
differs, and the write ends in an error. -/
theorem eeprom28c_page_write (w : World) :
    ∃ w' log landed, eeprom28cWriteExecute env w = (some (), w') ∧ Logged log w w' ∧
      PageWrites w.handle (eeprom28cPageSize w.handle.pageSize) 0 log landed ∧
      (∃ count ≤ w.handle.dataSize.toNat, log.filter Access.isStore = w.handle.loads 0 count ∧
        (landed = true → count = w.handle.dataSize.toNat)) ∧
      (landed = true → w'.handle = w.handle) ∧
      (landed = false → w'.handle.responseCode = responseCodeError) := by
  have page := eeprom28cPageMask_page w.handle.pageSize
  have ended : Ends eeprom28cWriteExecute env w (fun _ w' =>
      (∃ log, Accesses log w w' ∧
        PageWrites w.handle (eeprom28cPageSize w.handle.pageSize) 0 log true) ∨
      BlockFailed w.handle (eeprom28cPageSize w.handle.pageSize) w w') (fun _ => False) := by
    unfold eeprom28cWriteExecute
    rw [ends_bind, ends_getHandle, ends_bind, ends_build]
    refine Within.bind_completes (S := Silent) fun startUs w₁ timed => ?_
    have begun : LoadedTo w.handle (eeprom28cPageSize w.handle.pageSize)
        { previousUs := startUs } w w₁ 0 :=
      ⟨Nat.zero_le _, Nat.le_refl _, fun _ => rfl, OnePage.zero, [], timed, fun _ _ whole => whole⟩
    rw [ends_bind]
    refine (ends_forLoop (E := fun r w' => match r with
        | .inl _ => ∃ log, Accesses log w w' ∧
          PageWrites w.handle (eeprom28cPageSize w.handle.pageSize) 0 log true
        | .inr _ => BlockFailed w.handle (eeprom28cPageSize w.handle.pageSize) w w')
      (fun items load w' => ∃ i, items = List.range' i (w.handle.dataSize.toNat - i) ∧
        LoadedTo w.handle (eeprom28cPageSize w.handle.pageSize) load w w' i)
      (fun i rest load w₂ so => ?_) (fun load w₂ so => ?_) _ _ w₁
      ⟨0, List.range_eq_range', begun⟩).mono (fun loaded w₂ done => ?_) fun _ => id
    · obtain ⟨i', items, so⟩ := so
      obtain ⟨left, count⟩ : ∃ left, w.handle.dataSize.toNat - i' = left + 1 := by
        cases none : w.handle.dataSize.toNat - i' with
        | zero => rw [none] at items; cases items
        | succ left => exact ⟨left, rfl⟩
      rw [count, List.range'_succ] at items
      obtain ⟨rfl, rfl⟩ := List.cons.inj items
      refine (ends_writeByte page _ so (by omega)).mono (fun r w₃ turned => ?_) fun _ => id
      cases r with
      | inl next =>
        refine ⟨i + 1, ?_, turned⟩
        congr 1
        omega
      | inr _ => exact turned
    · obtain ⟨i, items, so⟩ := so
      have none := congrArg List.length items
      rw [List.length_nil, List.length_range'] at none
      have last : i = w.handle.dataSize.toNat := Nat.le_antisymm so.bound (by omega)
      obtain ⟨earlier, done, goes⟩ := so.done
      have flushed := so.flushed last
      refine ⟨_, done, ?_⟩
      rw [flushed, Nat.sub_self]
      refine goes _ _ ?_
      rw [flushed, last]
      exact .finished
    · have onward : Ends (when env.build.devTools (logIdU32 msgInfoPageLoadWorstUs
          (loaded.elim (fun load => load.worstUs) id))) env w₂ (fun _ w' => Silent w₂ w')
          (fun _ => False) := Completes.within inferInstance inferInstance w₂
      refine onward.mono (fun _ w' silent => ?_) fun _ => id
      cases loaded with
      | inl _ =>
        obtain ⟨log, done, whole⟩ := done
        exact .inl ⟨log, done.onward silent, whole⟩
      | inr _ =>
        obtain ⟨log, done, failed, error⟩ := done
        refine .inr ⟨log, ?_, failed, ?_⟩
        · have both := done.trans silent.logged
          rwa [List.append_nil] at both
        · rw [silent.handle]
          exact error
  unfold Ends at ended
  rcases run : eeprom28cWriteExecute env w with ⟨_ | _, w'⟩ <;> rw [run] at ended
  · exact ended.elim
  rcases ended with ⟨log, done, whole⟩ | ⟨log, done, failed, error⟩
  · obtain ⟨count, stores, bound, all⟩ := whole.stores
    rw [Nat.zero_add] at bound all
    exact ⟨w', log, true, rfl, done.logged, whole, ⟨count, bound, stores, all⟩,
      fun _ => done.handle, nofun⟩
  · obtain ⟨count, stores, bound, all⟩ := failed.stores
    rw [Nat.zero_add] at bound all
    exact ⟨w', log, false, rfl, done, failed, ⟨count, bound, stores, all⟩, nofun, fun _ => error⟩

/-- Three bytes, of which the first is the last one of its page. -/
def shortBlock : World where
  handle :=
    { cmd := cmdWrite, responseCode := responseCodeOk, protocol := protoEepromParallel, pins := 28,
      memSize := 8192, address := 1, pageSize := 2, dataSize := 3
      dataBuffer := fun i => BitVec.ofNat 8 (i + 1)
      busConfig := { addressLines := [], addressMask := 0x1FFF, rwLine := 0xFF, vppLine := 0xFF } }
  stored := none
  latches := ⟨0, 0, 0⟩

/-- On a part that reads back the byte of its address they land, in two windows. -/
example :
    accessLog (eeprom28cWriteExecute { Env.still ⟨.uno, false⟩ 0 with chip := fun w => w.latches.lsb }
      shortBlock).2.trace =
    shortBlock.handle.loads 0 1 ++ [.read 1 1, .read 1 1] ++ shortBlock.handle.readBack 0 1 ++
      (shortBlock.handle.loads 1 2 ++ [.read 3 3, .read 3 3] ++ shortBlock.handle.readBack 1 2) := by
  decide +kernel

end Firestarter
