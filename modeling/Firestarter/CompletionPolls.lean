import Firestarter.BriefRuns
import Firestarter.ChipAccess
import Firestarter.FlashIntel
import Firestarter.MessageReception
import Firestarter.PageWindows

/-! The loops that wait for a chip or for the host to be done. Their timers are differences of a
32-bit clock; what they conclude from them is true of the time that has really gone by. -/
namespace Firestarter

open Interactive Interactive.Prog

set_option synthInstance.maxSize 4000

variable {env : Env} {w w' v v' : World}

/-! ## Looks at the clock -/

theorem ends_millis (env : Env) (w : World) :
    Ends millis env w (fun now w' => now = BitVec.ofNat 32 (w.looked env).now ∧ w' = w.looked env)
      fun _ => False := ⟨rfl, rfl⟩

theorem Silent.looked (env : Env) (w : World) : Silent w (w.looked env) :=
  Accesses.of_quiet rfl rfl rfl

theorem Later.looked (env : Env) (w : World) : Later w (w.looked env) :=
  ⟨Nat.le_add_right .., Nat.le_add_right ..⟩

/-- A look at the clock that does not find the time up. -/
def LooksInTime (env : Env) (started : Nat) (timeoutMs : U32) (v v' : World) : Prop :=
  ∃ u, Later v u ∧ Later (u.looked env) v' ∧
    fsTimeoutExpired (BitVec.ofNat 32 started) timeoutMs (BitVec.ofNat 32 (u.looked env).now) =
      false

theorem LooksInTime.later {started : Nat} {timeoutMs : U32}
    (looks : LooksInTime env started timeoutMs v v') : Later v v' := by
  obtain ⟨u, before, after, -⟩ := looks
  exact trans_of Later before (trans_of Later (Later.looked env u) after)

/-- A poll that goes round again after such a look is nearer to its end, unless a whole turn of the
clock has gone by since its start. -/
theorem poll_nearer {moves : Nat → Nat} {started : Nat} {durationMs : U32}
    (goesOn : ∀ w : World, moves w.now ≤ w.asked → 0 < env.elapse w) (later : started ≤ w.now)
    (looks : LooksInTime env started durationMs w w') :
    clockMeasure moves (started + durationMs.toNat) w' <
        clockMeasure moves (started + durationMs.toNat) w ∨
      started + 2 ^ 32 ≤ w'.now := by
  obtain ⟨v, before, after, running⟩ := looks
  have looked := (Later.looked env v).now
  have begun := before.now
  have went := after.now
  by_cases turned : started + 2 ^ 32 ≤ (v.looked env).now
  · exact Or.inr (by omega)
  · exact Or.inl (clock_nearer goesOn before
      (not_elapsed_of_running (by omega) running (by omega)) after)

/-- A poll that starts its timer here returns, unless it comes round a whole turn of the clock after
that. -/
def ReturnsInTime {α β γ : Type} (env : Env) (poll : Fw α) (turn : β → Fw (β ⊕ γ)) (b : β)
    (w : World) : Prop :=
  (∃ a w', Returns env.watched poll w a w') ∨
    ∃ b' v, Rounds env.watched turn b (w.looked env) b' v ∧ (w.looked env).now + 2 ^ 32 ≤ v.now

/-- The rule for polls: every turn returns, and those that go round again look at the clock. -/
theorem returnsInTime {α β : Type} {turn : U32 → β → Fw (β ⊕ α)} {b : β} (durationMs : U32)
    (clock : env.ClockMoves) (inv : β → World → Prop) (start : inv b (w.looked env))
    (step : ∀ b v, inv b v → (w.looked env).now ≤ v.now ∧ ∃ r v',
      Returns env.watched (turn (BitVec.ofNat 32 (w.looked env).now) b) v r v' ∧
      Sum.elim (fun b' => inv b' v' ∧ LooksInTime env (w.looked env).now durationMs v v')
        (fun _ => True) r) :
    ReturnsInTime env (do let startedMs ← millis; whileLoop (turn startedMs) b)
      (turn (BitVec.ofNat 32 (w.looked env).now)) b w := by
  obtain ⟨moves, goesOn⟩ := Classical.axiomOfChoice clock
  have rule : (∃ a w', LoopReturns env.watched (turn (BitVec.ofNat 32 (w.looked env).now)) b
      (w.looked env) a w' ∧ True) ∨ ∃ b' v, Rounds env.watched
        (turn (BitVec.ofNat 32 (w.looked env).now)) b (w.looked env) b' v ∧
        (w.looked env).now + 2 ^ 32 ≤ v.now := by
    refine loopReturns_or_rounds
      (fun _ v => clockMeasure moves ((w.looked env).now + durationMs.toNat) v) inv
      (fun b v kept => ?_) b (w.looked env) start
    obtain ⟨later, r, v', returns, turned⟩ := step b v kept
    refine ⟨r, v', returns, ?_⟩
    cases r with
    | inl b' => exact ⟨turned.1, poll_nearer (fun v => goesOn v.now v rfl) later turned.2⟩
    | inr a => exact trivial
  rcases rule with ⟨a, w', loop, -⟩ | beyond
  · exact Or.inl ⟨a, w', (returns_millis env w).bind (returns_whileLoop loop)⟩
  · exact Or.inr beyond

/-! ## DQ7 -/

theorem xor_dq7_beq (data expected : U8) :
    ((data ^^^ expected) &&& flashDq7 == 0) = dq7Matches expected data := by
  have bit (b : U8) : b &&& flashDq7 = if b.getLsbD 7 then flashDq7 else 0 := BitVec.and_twoPow b 7
  rw [bit, BitVec.getLsbD_xor]
  unfold dq7Matches
  cases data.getLsbD 7 <;> cases expected.getLsbD 7 <;> rfl

section
variable {address : U32} {expected : U8} {timeoutMs : U32} {started : Nat} {reads : List U8}
  {matched : Bool}

/-- These bytes have been read since the wait began, no two matching ones in a row. -/
structure Polling (address : U32) (expected : U8) (w : World) (started : Nat) (reads : List U8)
    (matched : Bool) (v : World) : Prop where
  log : Accesses (reads.map (Access.read address)) w v
  later : started ≤ v.now
  once : ¬ MatchTwice expected reads
  last : matched = true ↔ MatchLast expected reads

/-- How the wait ends: true on the second of two matching reads in a row, false only once the
timeout has really gone by. It has read the byte at least once, and did not go past a match. -/
def WaitedReady (address : U32) (expected : U8) (timeoutMs : U32) (w : World) (started : Nat)
    (ready : Bool) (w' : World) : Prop :=
  ∃ reads : List U8, Accesses (reads.map (Access.read address)) w w' ∧ reads ≠ [] ∧
    ¬ MatchTwice expected reads.dropLast ∧ (ready = true ↔ MatchTwice expected reads) ∧
    (ready = false → started + timeoutMs.toNat ≤ w'.now)

theorem waitReadyTurn_ends (timeoutMs : U32)
    (polling : Polling address expected w started reads matched v) :
    Ends (waitReadyTurn address expected timeoutMs (BitVec.ofNat 32 started) matched) env v
      (fun r v' => Sum.elim
        (fun hit => (∃ data, Polling address expected w started (reads ++ [data]) hit v') ∧
          LooksInTime env started timeoutMs v v')
        (fun ready => WaitedReady address expected timeoutMs w started ready v') r)
      fun _ => False := by
  unfold waitReadyTurn
  rw [ends_bind]
  refine ((memoryGetData_log v address).and (Brief.ends _ v)).mono ?_ fun _ never => never.1
  rintro data u ⟨read, later⟩
  have log : Accesses ((reads ++ [data]).map (Access.read address)) w u := by
    rw [List.map_append]
    exact polling.log.trans read
  have twice : MatchTwice expected (reads ++ [data]) ↔
      dq7Matches expected data = true ∧ matched = true := by
    rw [matchTwice_snoc, polling.last, and_comm]
    exact or_iff_right polling.once
  have some : reads ++ [data] ≠ [] := by simp
  have earlier : ¬ MatchTwice expected (reads ++ [data]).dropLast := by
    rw [List.dropLast_concat]
    exact polling.once
  dsimp only
  rw [xor_dq7_beq]
  split
  · rename_i both
    rw [Bool.and_eq_true] at both
    exact ⟨reads ++ [data], log, some, earlier, iff_of_true rfl (twice.mpr both),
      fun never => by cases never⟩
  · rename_i other
    rw [Bool.and_eq_true] at other
    have once : ¬ MatchTwice expected (reads ++ [data]) := fun found => other (twice.mp found)
    rw [ends_bind]
    refine (ends_millis env u).mono ?_ fun _ => id
    rintro now v' ⟨rfl, rfl⟩
    have log' := log.onward (Silent.looked env u)
    have since : started ≤ (u.looked env).now :=
      polling.later.trans (later.now.trans (Later.looked env u).now)
    split
    · rename_i expired
      exact ⟨reads ++ [data], log', some, earlier, iff_of_false (by decide) once, fun _ =>
        elapsed_of_expired since expired⟩
    · rename_i running
      exact ⟨⟨data, log', since, once, matchLast_snoc.symm⟩, u, later, refl_of Later _,
        by simpa using running⟩

instance (startedMs : U32) :
    Brief env (waitReadyTurn address expected timeoutMs startedMs matched) := by
  unfold waitReadyTurn
  infer_instance

theorem polling_start (w : World) :
    Polling address expected w (w.looked env).now [] false (w.looked env) :=
  ⟨Silent.looked env w, Nat.le_refl _, not_matchTwice_nil,
    iff_of_false (by decide) not_matchLast_nil⟩

theorem flashUtilWaitReady_ends (env : Env) (w : World) (address : U32) (expected : U8)
    (timeoutMs : U32) :
    Ends (flashUtilWaitReady address expected timeoutMs) env w
      (WaitedReady address expected timeoutMs w (w.looked env).now)
      fun v => ∃ reads matched, Polling address expected w (w.looked env).now reads matched v ∧
        reads.length = env.turns := by
  unfold flashUtilWaitReady
  rw [ends_bind]
  refine (ends_millis env w).mono ?_ fun _ never => never.elim
  rintro startedMs w₁ ⟨rfl, rfl⟩
  unfold whileLoop
  rw [ends_bind, ends_outside]
  refine ends_repeatUntil_counted (fun n matched v => ∃ reads,
      Polling address expected w (w.looked env).now reads matched v ∧ reads.length = n)
    (fun n matched v kept => ?_) env.turns 0 (fun matched v spent => ?_) _ _
    ⟨[], polling_start w, rfl⟩
  · obtain ⟨reads, polling, count⟩ := kept
    refine (waitReadyTurn_ends timeoutMs polling).mono (fun r v' turned => ?_) fun _ never =>
      never.elim
    cases r with
    | inl hit =>
      obtain ⟨⟨data, polling'⟩, -⟩ := turned
      exact ⟨_, polling', by rw [List.length_append, List.length_singleton, count]⟩
    | inr ready => exact turned
  · obtain ⟨reads, polling, count⟩ := spent
    exact ⟨reads, matched, polling, by rw [count, Nat.zero_add]⟩

theorem flashUtilWaitReady_returns (clock : env.ClockMoves) (w : World) (address : U32)
    (expected : U8) (timeoutMs : U32) :
    ReturnsInTime env (flashUtilWaitReady address expected timeoutMs)
      (waitReadyTurn address expected timeoutMs (BitVec.ofNat 32 (w.looked env).now)) false w := by
  unfold flashUtilWaitReady
  refine returnsInTime timeoutMs clock
    (fun matched v => ∃ reads, Polling address expected w (w.looked env).now reads matched v)
    ⟨[], polling_start w⟩ fun matched v kept => ?_
  obtain ⟨reads, polling⟩ := kept
  obtain ⟨r, v', returns, turned⟩ :=
    Brief.returns_ended (waitReadyTurn_ends timeoutMs polling)
  refine ⟨polling.later, r, v', returns, ?_⟩
  cases r with
  | inl hit =>
    obtain ⟨⟨data, polling'⟩, looks⟩ := turned
    exact ⟨⟨_, polling'⟩, looks⟩
  | inr ready => exact trivial

end

/-! ## The Intel status register -/

/-- The message a ready status stands for. A low VPP comes first, since it is the cause when it is
set with the others; an erase and a program error together mean a wrong command sequence. -/
inductive SrError (sr : U8) : Option U8 → Prop
  | vppLow : sr.getLsbD 3 = true → SrError sr (some msgErrIntelVpp)
  | command : sr.getLsbD 3 = false → sr.getLsbD 4 = true → sr.getLsbD 5 = true →
      SrError sr (some msgErrCmd)
  | failed : sr.getLsbD 3 = false → sr.getLsbD 4 ≠ sr.getLsbD 5 →
      SrError sr (some msgErrIntelProgram)
  | none : sr.getLsbD 3 = false → sr.getLsbD 4 = false → sr.getLsbD 5 = false → SrError sr none

/-- The masks of the source pick single bits of the status. -/
theorem intelSr_bits (sr : U8) :
    (sr &&& intelSrReady != 0) = sr.getLsbD 7 ∧ (sr &&& intelSrVppLow != 0) = sr.getLsbD 3 ∧
    (sr &&& (intelSrEraseError ||| intelSrProgramError) ==
      intelSrEraseError ||| intelSrProgramError) = (sr.getLsbD 4 && sr.getLsbD 5) ∧
    (sr &&& (intelSrEraseError ||| intelSrProgramError) != 0) =
      (sr.getLsbD 4 || sr.getLsbD 5) := by
  revert sr
  decide +kernel

theorem intelStatusError_stands (sr : U8) : SrError sr (intelStatusError sr) := by
  obtain ⟨-, vppBit, bothBits, errorBits⟩ := intelSr_bits sr
  unfold intelStatusError
  dsimp only
  rw [vppBit, bothBits, errorBits]
  cases vpp : sr.getLsbD 3 with
  | true => exact .vppLow vpp
  | false =>
    cases program : sr.getLsbD 4 <;> cases erase : sr.getLsbD 5
    · exact .none vpp program erase
    · exact .failed vpp (by rw [program, erase]; decide)
    · exact .failed vpp (by rw [program, erase]; decide)
    · exact .command vpp program erase

/-- These statuses have been read since the poll began, none of them ready. -/
structure Busy (w : World) (started : Nat) (statuses : List U8) (v : World) : Prop where
  log : Accesses (statuses.map (Access.read 0)) w v
  later : started ≤ v.now
  busy : ∀ sr ∈ statuses, sr.getLsbD 7 = false

/-- How the poll ends: with the message of a timeout once that has really gone by and every status
was busy, and otherwise with what the first ready status stands for, whose errors are cleared. -/
inductive PolledSr (timeoutMs : U32) (w : World) (started : Nat) : Option U8 → World → Prop
  | timedOut {statuses : List U8} {w' : World} : Busy w started statuses w' →
      started + timeoutMs.toNat ≤ w'.now →
      PolledSr timeoutMs w started (some msgErrIntelSrTimeout) w'
  | ready {statuses : List U8} {sr : U8} {error : Option U8} {v w' : World} :
      Busy w started statuses v → sr.getLsbD 7 = true → SrError sr error →
      Accesses (.read 0 sr :: if error.isSome then [.wrote 0 intelCmdClearStatus] else []) v w' →
      PolledSr timeoutMs w started error w'

section
variable {timeoutMs : U32} {started : Nat} {statuses : List U8}

theorem pollSrTurn_ends (timeoutMs : U32) (busy : Busy w started statuses v) :
    Ends (pollSrTurn timeoutMs (BitVec.ofNat 32 started) ()) env v
      (fun r v' => Sum.elim
        (fun _ => (∃ statuses, Busy w started statuses v') ∧ LooksInTime env started timeoutMs v v')
        (fun outcome => PolledSr timeoutMs w started outcome v') r)
      fun _ => False := by
  unfold pollSrTurn
  rw [ends_bind]
  refine (ends_millis env v).mono ?_ fun _ => id
  rintro now v₁ ⟨rfl, rfl⟩
  have since : started ≤ (v.looked env).now := busy.later.trans (Later.looked env v).now
  have looked : Busy w started statuses (v.looked env) :=
    ⟨busy.log.onward (Silent.looked env v), since, busy.busy⟩
  split
  · rename_i expired
    exact .timedOut looked (elapsed_of_expired since expired)
  · rename_i running
    rw [ends_bind]
    refine ((memoryGetData_log _ 0).and (Brief.ends _ _)).mono ?_ fun _ never => never.1
    rintro sr v₂ ⟨read, later⟩
    rw [(intelSr_bits sr).1]
    split
    · rename_i ready
      have stands := intelStatusError_stands sr
      rw [ends_bind]
      cases error : intelStatusError sr with
      | none =>
        refine Ends.when (fun never => by cases never) fun _ => ?_
        exact .ready looked ready (error ▸ stands) read
      | some id =>
        refine Ends.when (fun _ => ?_) (fun never => by cases never)
        refine (memorySetData_log v₂ 0 intelCmdClearStatus).mono (fun _ v₃ wrote => ?_) fun _ =>
          False.elim
        exact .ready looked ready (error ▸ stands) (read.trans wrote)
    · rename_i waits
      refine ⟨⟨statuses ++ [sr], ?_, since.trans later.now, ?_⟩, v, refl_of Later v, later,
        by simpa using running⟩
      · rw [List.map_append]
        exact looked.log.trans read
      · intro status member
        rcases List.mem_append.mp member with earlier | last
        · exact busy.busy status earlier
        · obtain rfl := List.mem_singleton.mp last
          simpa using waits

instance (startedMs : U32) : Brief env (pollSrTurn timeoutMs startedMs ()) := by
  unfold pollSrTurn
  infer_instance

theorem busy_start (w : World) : Busy w (w.looked env).now [] (w.looked env) :=
  ⟨Silent.looked env w, Nat.le_refl _, fun _ never => by cases never⟩

theorem flashIntelAwaitReady_ends (env : Env) (w : World) (timeoutMs : U32) :
    Ends (flashIntelAwaitReady timeoutMs) env w (PolledSr timeoutMs w (w.looked env).now)
      fun v => ∃ statuses, Busy w (w.looked env).now statuses v := by
  unfold flashIntelAwaitReady
  rw [ends_bind]
  refine (ends_millis env w).mono ?_ fun _ never => never.elim
  rintro startedMs w₁ ⟨rfl, rfl⟩
  unfold whileLoop
  rw [ends_bind, ends_outside]
  refine ends_repeatUntil (fun _ v => ∃ statuses, Busy w (w.looked env).now statuses v)
    (fun _ v kept => ?_) (fun _ _ kept => kept) _ _ _ ⟨[], busy_start w⟩
  obtain ⟨statuses, busy⟩ := kept
  refine (pollSrTurn_ends timeoutMs busy).mono (fun r v' turned => ?_) fun _ never => never.elim
  cases r with
  | inl _ => exact turned.1
  | inr outcome => exact turned

/-- What `flash_intel_poll_sr` makes of the outcome: on a failure it refuses with the message and
returns the part to read-array mode. -/
def ReportedSr (env : Env) (v : World) (ready : Bool) (w' : World) : Option U8 → Prop
  | none => ready = true ∧ w' = v
  | some msgId => ready = false ∧ ∃ v', refuse msgId [] env v = (some (), v') ∧
      memorySetData 0 intelCmdReadArray env v' = (some (), w')

theorem flashIntelPollSr_ends (env : Env) (w : World) (timeoutMs : U32) :
    Ends (flashIntelPollSr timeoutMs) env w
      (fun ready w' => ∃ outcome v, PolledSr timeoutMs w (w.looked env).now outcome v ∧
        ReportedSr env v ready w' outcome) fun _ => True := by
  unfold flashIntelPollSr
  rw [ends_bind]
  refine (flashIntelAwaitReady_ends env w timeoutMs).mono (fun outcome v polled => ?_)
    fun _ _ => trivial
  cases outcome with
  | none => exact ⟨none, v, polled, rfl, rfl⟩
  | some msgId =>
    dsimp only
    rw [ends_bind]
    refine (ends_run (refuse msgId []) env v).mono (fun _ v' refused => ?_) fun _ _ => trivial
    rw [ends_bind]
    refine (ends_run (memorySetData 0 intelCmdReadArray) env v').mono (fun _ w' wrote => ?_)
      fun _ _ => trivial
    exact ⟨some msgId, v, polled, rfl, v', refused, wrote⟩

theorem flashIntelPollSr_returns (clock : env.ClockMoves) (w : World) (timeoutMs : U32) :
    ReturnsInTime env (flashIntelPollSr timeoutMs)
      (pollSrTurn timeoutMs (BitVec.ofNat 32 (w.looked env).now)) () w := by
  have polled : ReturnsInTime env (flashIntelAwaitReady timeoutMs)
      (pollSrTurn timeoutMs (BitVec.ofNat 32 (w.looked env).now)) () w := by
    unfold flashIntelAwaitReady
    refine returnsInTime timeoutMs clock
      (fun _ v => ∃ statuses, Busy w (w.looked env).now statuses v) ⟨[], busy_start w⟩
      fun _ v kept => ?_
    obtain ⟨statuses, busy⟩ := kept
    obtain ⟨r, v', returns, turned⟩ := Brief.returns_ended (pollSrTurn_ends timeoutMs busy)
    refine ⟨busy.later, r, v', returns, ?_⟩
    cases r with
    | inl _ => exact turned
    | inr _ => exact trivial
  rcases polled with ⟨outcome, v, returns⟩ | beyond
  · refine Or.inl ?_
    cases outcome with
    | none => exact ⟨true, v, returns.bind (.of_run fun _ => rfl)⟩
    | some msgId =>
      have rest : Brief env (do
          refuse msgId []
          memorySetData 0 intelCmdReadArray
          return false : Fw Bool) := inferInstance
      obtain ⟨ready, w', reported, -⟩ := rest.returns v
      exact ⟨ready, w', returns.bind reported⟩
  · exact Or.inr beyond

end

/-! ## The host's acknowledgement -/

/-- The clock does not go back. -/
def NotBefore (w w' : World) : Prop := w.now ≤ w'.now

instance : IsPreorder World NotBefore where
  refl _ := Nat.le_refl _
  trans _ _ _ := Nat.le_trans

instance : BusFrame env NotBefore where
  bus _ _ later _ := later

instance : QueueFrame NotBefore := ⟨fun _ _ => Nat.le_refl _⟩

instance : BufferFrame NotBefore := ⟨fun _ _ => Nat.le_refl _, fun _ _ => Nat.le_refl _⟩

instance : PrintFrame NotBefore := ⟨fun _ _ _ => Nat.le_refl _, fun _ _ => Nat.le_refl _⟩

instance (kind : OpMessageType) (payload : List U8) :
    Within env NotBefore (deliver kind payload) := by
  have : Within env NotBefore (note (.message kind payload)) := ⟨fun _ => Nat.le_refl _⟩
  unfold deliver
  infer_instance

instance : Within env NotBefore takeDataPacket := by
  have (res : Int) :
      Within env NotBefore (setHandle fun h => { h with dataSize := BitVec.ofInt 32 res }) :=
    ⟨fun _ => Nat.le_refl _⟩
  unfold takeDataPacket deliverFrame
  infer_instance

instance : Within env NotBefore opGetMessage := by
  have : Within env NotBefore scanMessage := by
    unfold scanMessage scanAck scanDone
    infer_instance
  unfold opGetMessage whileLoop
  infer_instance

/-- How the wait ends: with a message, taken since it began, that decides it, or with the report of a
timeout once that has really gone by. -/
inductive AwaitedAck (env : Env) (started : Nat) : Bool → World → Prop
  | acked {v w' : World} : started ≤ v.now → opGetMessage env v = (some .ack, w') →
      AwaitedAck env started true w'
  | broken {v w' : World} : started ≤ v.now → opGetMessage env v = (some .error, w') →
      AwaitedAck env started false w'
  | finished {v v' w' : World} : started ≤ v.now → opGetMessage env v = (some .done, v') →
      logId msgErrCmd env v' = (some (), w') → AwaitedAck env started false w'
  | timedOut {v w' : World} : started + 1000 ≤ v.now →
      logId msgErrTimeout env v = (some (), w') → AwaitedAck env started false w'

theorem opWaitForAck_ends (env : Env) (w : World) :
    Ends opWaitForAck env w (AwaitedAck env (w.looked env).now) fun _ => True := by
  unfold opWaitForAck
  rw [ends_bind]
  refine (ends_millis env w).mono ?_ fun _ never => never.elim
  rintro startedMs w₁ ⟨rfl, rfl⟩
  unfold whileLoop
  rw [ends_bind, ends_outside]
  refine ends_repeatUntil (fun _ v => (w.looked env).now ≤ v.now) (fun _ v later => ?_)
    (fun _ _ _ => trivial) _ _ _ (Nat.le_refl _)
  unfold ackTurn
  rw [ends_bind]
  refine (ends_millis env v).mono ?_ fun _ never => never.elim
  rintro now v₁ ⟨rfl, rfl⟩
  have since : (w.looked env).now ≤ (v.looked env).now := later.trans (Later.looked env v).now
  split
  · rename_i expired
    have elapsed := elapsed_of_expired since expired
    rw [ends_bind]
    exact (ends_run (logId msgErrTimeout) env _).mono
      (fun _ _ reported => .timedOut elapsed reported) fun _ _ => trivial
  · rw [ends_bind]
    have got : Within env NotBefore opGetMessage := inferInstance
    refine ((ends_run opGetMessage env _).and (got.ends _)).mono ?_ fun _ _ => trivial
    rintro msg v₂ ⟨message, after⟩
    have still : (w.looked env).now ≤ v₂.now := since.trans after
    split
    · rename_i isAck
      exact .acked since (isAck ▸ message)
    · split
      · rename_i isError
        exact .broken since (isError ▸ message)
      · split
        · rename_i isDone
          rw [ends_bind]
          exact (ends_run (logId msgErrCmd) env _).mono
            (fun _ _ reported => .finished since (isDone ▸ message) reported) fun _ _ => trivial
        · rw [ends_bind]
          have passes : Within env NotBefore (delay 10) := inferInstance
          exact (passes.ends v₂).mono (fun _ _ passed => still.trans passed) fun _ _ => trivial

/-- A turn returns when the scanner does, and takes ten milliseconds at least to go round again. -/
theorem ackTurn_returns {started : Nat} {kind : OpMessageType}
    (got : Returns env.watched opGetMessage (v.looked env) kind v') :
    ∃ r w', Returns env.watched (ackTurn (BitVec.ofNat 32 started) ()) v r w' ∧
      Sum.elim (fun _ => fsTimeoutExpired (BitVec.ofNat 32 started) 1000
        (BitVec.ofNat 32 (v.looked env).now) = false ∧ (v.looked env).now + 10 ≤ w'.now)
        (fun _ => True) r := by
  have looked := returns_millis env v
  cases running : fsTimeoutExpired (BitVec.ofNat 32 started) 1000
    (BitVec.ofNat 32 (v.looked env).now) with
  | true =>
    have reporting : Brief env (logId msgErrTimeout) := inferInstance
    obtain ⟨_, w', reported, -⟩ := reporting.returns (v.looked env)
    refine ⟨.inr false, w', looked.bind ?_, trivial⟩
    rw [running]
    exact reported.bind (.of_run fun _ => rfl)
  | false =>
    have after : NotBefore (v.looked env) v' := got.moved fun _ => inferInstance
    have turn {r : Unit ⊕ Bool} {w' : World} (rest : Returns env.watched (do
        if kind = .ack then return .inr true
        else if kind = .error then return .inr false
        else if kind = .done then
          logId msgErrCmd
          return .inr false
        else
          delay 10
          return .inl ()) v' r w') :
        Returns env.watched (ackTurn (BitVec.ofNat 32 started) ()) v r w' := by
      refine looked.bind ?_
      rw [running]
      exact got.bind rest
    by_cases isAck : kind = .ack
    · exact ⟨.inr true, v', turn (.of_run fun _ => by rw [if_pos isAck]; rfl), trivial⟩
    by_cases isError : kind = .error
    · refine ⟨.inr false, v', turn (.of_run fun _ => ?_), trivial⟩
      rw [if_neg isAck, if_pos isError]
      rfl
    by_cases isDone : kind = .done
    · have reporting : Brief env (logId msgErrCmd) := inferInstance
      obtain ⟨_, w', reported, -⟩ := reporting.returns v'
      refine ⟨.inr false, w', turn ?_, trivial⟩
      rw [if_neg isAck, if_neg isError, if_pos isDone]
      exact reported.bind (.of_run fun _ => rfl)
    · refine ⟨.inl (), { v' with
        asked := v'.asked + 1, now := v'.now + (10 : U32).toNat + env.elapse v' }, turn ?_, rfl, ?_⟩
      · rw [if_neg isAck, if_neg isError, if_neg isDone]
        exact .of_run fun _ => rfl
      · have ten : (10 : U32).toNat = 10 := by decide
        have after : (v.looked env).now ≤ v'.now := after
        dsimp only
        omega

/-- The wait for the host returns, unless one of its looks for a message does not. -/
theorem opWaitForAck_returns (env : Env) (w : World) :
    ReturnsInTime env opWaitForAck (ackTurn (BitVec.ofNat 32 (w.looked env).now)) () w ∨
    ∃ v, Rounds env.watched (ackTurn (BitVec.ofNat 32 (w.looked env).now)) () (w.looked env) () v ∧
      ∀ kind v', ¬ Returns env.watched opGetMessage (v.looked env) kind v' := by
  by_cases hears : ∀ v, Rounds env.watched (ackTurn (BitVec.ofNat 32 (w.looked env).now)) ()
      (w.looked env) () v → ∃ kind v', Returns env.watched opGetMessage (v.looked env) kind v'
  · refine Or.inl ?_
    have rule : (∃ acked w', LoopReturns env.watched
        (ackTurn (BitVec.ofNat 32 (w.looked env).now)) () (w.looked env) acked w' ∧ True) ∨
        ∃ b v, Rounds env.watched (ackTurn (BitVec.ofNat 32 (w.looked env).now)) ()
          (w.looked env) b v ∧ (w.looked env).now + 2 ^ 32 ≤ v.now := by
      refine loopReturns_or_rounds (fun _ v => (w.looked env).now + 1000 - v.now)
        (fun _ v => (w.looked env).now ≤ v.now ∧ Rounds env.watched
          (ackTurn (BitVec.ofNat 32 (w.looked env).now)) () (w.looked env) () v)
        (fun _ v kept => ?_) () (w.looked env) ⟨Nat.le_refl _, .here⟩
      obtain ⟨later, rounds⟩ := kept
      obtain ⟨kind, v', got⟩ := hears v rounds
      obtain ⟨r, w', returns, turned⟩ := ackTurn_returns got
      refine ⟨r, w', returns, ?_⟩
      cases r with
      | inr _ => exact trivial
      | inl _ =>
        obtain ⟨running, passed⟩ := turned
        have looked := (Later.looked env v).now
        refine ⟨⟨by omega, rounds.snoc returns⟩, ?_⟩
        by_cases turn : (w.looked env).now + 2 ^ 32 ≤ (v.looked env).now
        · exact Or.inr (by omega)
        · have below := not_elapsed_of_running (by omega) running (by omega)
          have second : (1000 : U32).toNat = 1000 := by decide
          exact Or.inl (by omega)
    rcases rule with ⟨acked, w', loop, -⟩ | beyond
    · unfold opWaitForAck
      exact Or.inl ⟨acked, w', (returns_millis env w).bind (returns_whileLoop loop)⟩
    · exact Or.inr beyond
  · refine Or.inr ?_
    obtain ⟨v, unheard⟩ := not_forall.mp hears
    obtain ⟨rounds, stuck⟩ := Classical.not_imp.mp unheard
    exact ⟨v, rounds, fun kind v' returns => stuck ⟨kind, v', returns⟩⟩

/-! ## A stream that never pauses -/

/-- An outside like the ticking one, with a byte waiting at every look, none of them the start of a
message. -/
def Env.flooded (build : Build) : Env := { Env.ticking build with arrive := fun _ => [0] }

theorem Env.flooded_clockRuns (build : Build) : (Env.flooded build).ClockRuns :=
  ⟨(Env.ticking_clockRuns build).moves, (Env.ticking_clockRuns build).steps⟩

/-- Nothing but zeros waits. -/
def Zeros (w : World) : Prop := ∀ b ∈ w.rx, b = 0

section
variable {build : Build} {turns : Nat}

theorem Zeros.received (zeros : Zeros w) :
    Zeros (w.received ((Env.flooded build).watched turns)) := by
  intro b waits
  rcases List.mem_append.mp waits with earlier | arrived
  · exact zeros b earlier
  · exact List.mem_singleton.mp arrived

theorem Zeros.head (zeros : Zeros w) :
    (w.received ((Env.flooded build).watched turns)).rx.head? = some 0 := by
  have seen : Zeros (w.received ((Env.flooded build).watched turns)) := zeros.received
  cases queue : (w.received ((Env.flooded build).watched turns)).rx with
  | nil => exact absurd queue (List.append_ne_nil_of_right_ne_nil _ (List.cons_ne_nil _ _))
  | cons b rest =>
    have zero : b = 0 := seen b (by rw [queue]; exact List.mem_cons_self)
    rw [zero, List.head?_cons]

theorem flooded_waits (w : World) :
    ((w.received ((Env.flooded build).watched turns)).rx.length == 0) = false := by
  show ((w.rx ++ [0]).length == 0) = false
  simp

/-- The scanner drops a zero and goes round again. -/
theorem scanMessage_floods (zeros : Zeros w) :
    Ends scanMessage ((Env.flooded build).watched turns) w
      (fun r w' => r = .inl () ∧ Zeros w') fun _ => False := by
  unfold scanMessage
  rw [ends_bind]
  refine (received_available _ w).mono ?_ fun _ => id
  rintro waiting v ⟨rfl, rfl⟩
  rw [flooded_waits]
  have seen : Zeros (w.received ((Env.flooded build).watched turns)) := zeros.received
  refine (ends_bind _ _).mpr ((received_peak _ _).mono ?_ fun _ => id)
  rintro peek v ⟨rfl, rfl⟩
  rw [seen.head]
  refine (ends_bind _ _).mpr ((received_read _ _).mono ?_ fun _ => id)
  intro taken w' queue
  refine ⟨rfl, fun b waits => ?_⟩
  rw [queue] at waits
  exact seen.received.received b (List.mem_of_mem_tail waits)

/-- So on such a stream no look for a message ends. -/
theorem opGetMessage_floods (zeros : Zeros w) :
    Ends opGetMessage ((Env.flooded build).watched turns) w (fun _ _ => False) fun _ => True := by
  unfold opGetMessage
  rw [ends_bind]
  refine (received_available _ w).mono ?_ fun _ => False.elim
  rintro waiting v ⟨rfl, rfl⟩
  rw [flooded_waits]
  show Ends (whileLoop _ _) _ _ _ _
  unfold whileLoop
  rw [ends_bind, ends_outside]
  refine ends_repeatUntil (fun _ v => Zeros v) (fun _ v zeros => ?_) (fun _ _ _ => trivial) _ _ _
    zeros.received
  refine (scanMessage_floods zeros).mono ?_ fun _ => False.elim
  rintro r v' ⟨rfl, zeros'⟩
  exact zeros'

/-- The first turn of the wait for the host is its last, and does not end. -/
theorem ackTurn_floods (zeros : Zeros w) :
    Ends (ackTurn (BitVec.ofNat 32 w.now) ()) ((Env.flooded build).watched turns) w
      (fun _ _ => False) fun _ => True := by
  unfold ackTurn
  rw [ends_bind]
  refine (ends_millis _ w).mono ?_ fun _ => False.elim
  rintro now v ⟨rfl, rfl⟩
  cases expired : fsTimeoutExpired (BitVec.ofNat 32 w.now) 1000
    (BitVec.ofNat 32 (w.looked ((Env.flooded build).watched turns)).now) with
  | true =>
    have gone := elapsed_of_expired (Later.looked _ w).now expired
    have tick : (w.looked ((Env.flooded build).watched turns)).now = w.now + 1 := rfl
    have second : (1000 : U32).toNat = 1000 := by decide
    omega
  | false =>
    refine (ends_bind _ _).mpr ((opGetMessage_floods ?_).mono (fun _ _ => False.elim) fun _ => id)
    exact zeros

theorem opWaitForAck_floods (zeros : Zeros w) :
    ¬ ReturnsInTime (Env.flooded build) opWaitForAck
      (ackTurn (BitVec.ofNat 32 (w.looked (Env.flooded build)).now)) () w := by
  have begun : Zeros (w.looked (Env.flooded build)) := zeros
  rintro (⟨acked, w', returns⟩ | ⟨b, v, rounds, beyond⟩)
  · have stuck (turns : Nat) : Ends opWaitForAck ((Env.flooded build).watched turns) w
        (fun _ _ => False) fun _ => True := by
      unfold opWaitForAck
      rw [ends_bind]
      refine (ends_millis _ w).mono ?_ fun _ => False.elim
      rintro startedMs v ⟨rfl, rfl⟩
      unfold whileLoop
      rw [ends_bind, ends_outside]
      refine ends_repeatUntil (fun _ v => v = w.looked (Env.flooded build)) (fun _ v here => ?_)
        (fun _ _ _ => trivial) _ _ _ rfl
      subst here
      exact (ackTurn_floods begun).mono (fun _ _ => False.elim) fun _ => id
    exact returns.ended stuck
  · cases rounds with
    | here => omega
    | turn first _ => exact first.ended fun _ => ackTurn_floods begun

end

/-! ## The three polls -/

/-- The three polls of the firmware, at any time the clock may show. `flash_util_wait_ready` gives
true exactly when two reads in a row matched on DQ7, and false only once its timeout has really gone
by; `flash_intel_poll_sr` reports a timeout only once that has gone by and no status was ready, and
otherwise what the first ready one stands for; `op_wait_for_ack` reports a timeout only after a
second. On a clock that goes on each of them returns within a turn of it; of the wait for the host
that is so unless it is held up inside one look for a message, and no finite stream can do that. -/
theorem completion_polls (env : Env) (w : World) :
    (∀ address expected timeoutMs,
      Ends (flashUtilWaitReady address expected timeoutMs) env w
        (WaitedReady address expected timeoutMs w (w.looked env).now) (fun _ => True) ∧
      (env.ClockMoves → ReturnsInTime env (flashUtilWaitReady address expected timeoutMs)
        (waitReadyTurn address expected timeoutMs (BitVec.ofNat 32 (w.looked env).now)) false w)) ∧
    (∀ timeoutMs,
      Ends (flashIntelPollSr timeoutMs) env w
        (fun ready w' => ∃ outcome v, PolledSr timeoutMs w (w.looked env).now outcome v ∧
          ReportedSr env v ready w' outcome) (fun _ => True) ∧
      (env.ClockMoves → ReturnsInTime env (flashIntelPollSr timeoutMs)
        (pollSrTurn timeoutMs (BitVec.ofNat 32 (w.looked env).now)) () w)) ∧
    Ends opWaitForAck env w (AwaitedAck env (w.looked env).now) (fun _ => True) ∧
    (ReturnsInTime env opWaitForAck (ackTurn (BitVec.ofNat 32 (w.looked env).now)) () w ∨
      ∃ v, Rounds env.watched (ackTurn (BitVec.ofNat 32 (w.looked env).now)) ()
        (w.looked env) () v ∧
        ∀ kind v', ¬ Returns env.watched opGetMessage (v.looked env) kind v') ∧
    (env.ClockRuns → env.StreamEnds → ReturnsInTime env opWaitForAck
      (ackTurn (BitVec.ofNat 32 (w.looked env).now)) () w) := by
  refine ⟨fun address expected timeoutMs => ⟨?_, ?_⟩, fun timeoutMs => ⟨?_, ?_⟩, ?_,
    opWaitForAck_returns env w, ?_⟩
  · exact (flashUtilWaitReady_ends env w address expected timeoutMs).mono (fun _ _ => id)
      fun _ _ => trivial
  · exact fun clock => flashUtilWaitReady_returns clock w address expected timeoutMs
  · exact flashIntelPollSr_ends env w timeoutMs
  · exact fun clock => flashIntelPollSr_returns clock w timeoutMs
  · exact opWaitForAck_ends env w
  · intro clock stream
    refine (opWaitForAck_returns env w).resolve_right ?_
    rintro ⟨v, -, stuck⟩
    obtain ⟨kind, v', got⟩ := returns_opGetMessage clock stream (v.looked env)
    exact stuck kind v' got

/-- An outside whose clock is about to wrap. The part is busy until it has, and is then ready with
its VPP low; the host says OK in the second turn of the wait for it. -/
def wrappingOutside : Env :=
  { Env.ticking ⟨.uno, false⟩ with
    chip := fun w => if w.now < 2 ^ 32 then 0x00 else 0x98
    arrive := fun w => if w.asked = 5 then [asciiO, asciiK] else []
    turns := 20 }

def beforeWrap : World := { latches := ⟨0, 0, 0⟩, stored := none, now := 2 ^ 32 - 5 }

theorem wrappingOutside_streamEnds : wrappingOutside.StreamEnds := by
  refine ⟨6, ⟨fun w late => ?_⟩⟩
  have past : w.asked ≠ 5 := by omega
  exact if_neg past

theorem wrappingOutside_clockRuns : wrappingOutside.ClockRuns :=
  ⟨(Env.ticking_clockRuns ⟨.uno, false⟩).moves, (Env.ticking_clockRuns ⟨.uno, false⟩).steps⟩

/-- Over the wrap the wait for DQ7 finds two matches, the poll refuses the low VPP it reads, and the
wait for the host hears it. -/
theorem completion_polls_wrap :
    ((∃ w', flashUtilWaitReady 0 0x9F 150 wrappingOutside beforeWrap = (some true, w') ∧
        WaitedReady 0 0x9F 150 beforeWrap (2 ^ 32 - 4) true w') ∧
      ReturnsInTime wrappingOutside (flashUtilWaitReady 0 0x9F 150)
        (waitReadyTurn 0 0x9F 150 (BitVec.ofNat 32 (2 ^ 32 - 4))) false beforeWrap) ∧
    ((∃ w', flashIntelPollSr 150 wrappingOutside beforeWrap = (some false, w') ∧
        ∃ outcome v, PolledSr 150 beforeWrap (2 ^ 32 - 4) outcome v ∧
          ReportedSr wrappingOutside v false w' outcome) ∧
      ReturnsInTime wrappingOutside (flashIntelPollSr 150)
        (pollSrTurn 150 (BitVec.ofNat 32 (2 ^ 32 - 4))) () beforeWrap) ∧
    ((∃ w', opWaitForAck wrappingOutside beforeWrap = (some true, w') ∧
        AwaitedAck wrappingOutside (2 ^ 32 - 4) true w') ∧
      ReturnsInTime wrappingOutside opWaitForAck
        (ackTurn (BitVec.ofNat 32 (2 ^ 32 - 4))) () beforeWrap) := by
  obtain ⟨dq7, status, acked, -, heard⟩ := completion_polls wrappingOutside beforeWrap
  have clock := wrappingOutside_clockRuns
  refine ⟨⟨?_, (dq7 0 0x9F 150).2 clock.moves⟩, ⟨?_, (status 150).2 clock.moves⟩, ?_,
    heard clock wrappingOutside_streamEnds⟩
  · exact (dq7 0 0x9F 150).1.of_value (by decide +kernel)
  · exact (status 150).1.of_value (by decide +kernel)
  · exact acked.of_value (by decide +kernel)

/-- On a stream that never pauses the wait for the host does not come back. -/
theorem ack_wait_flooded :
    (Env.flooded ⟨.uno, false⟩).ClockRuns ∧
      ¬ ReturnsInTime (Env.flooded ⟨.uno, false⟩) opWaitForAck
        (ackTurn (BitVec.ofNat 32 1)) () { latches := ⟨0, 0, 0⟩, stored := none } :=
  ⟨Env.flooded_clockRuns _, opWaitForAck_floods (w := { latches := ⟨0, 0, 0⟩, stored := none })
    fun _ waits => by cases waits⟩

end Firestarter
