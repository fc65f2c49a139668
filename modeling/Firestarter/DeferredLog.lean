import Firestarter.EvictingQueue
import Firestarter.Observation

/-! The deferred log of the boards whose serial port is the data bus. Frames that come up while the
chip is driven wait for communication mode; the log is short, and what is lost from it is never a
frame the host waits for while another one could go. -/
namespace Firestarter

open Interactive Interactive.Prog

def DeferredFrame.isDroppable (frame : DeferredFrame) : Bool := deferredLogIsDroppable frame.id

theorem withoutNewestDroppable_eq (log : List DeferredFrame) :
    withoutNewestDroppable log = EvictingQueue.withoutNewest DeferredFrame.isDroppable log := by
  induction log with
  | nil => rfl
  | cons frame later ih =>
    rw [withoutNewestDroppable, EvictingQueue.withoutNewest, ih]
    cases EvictingQueue.withoutNewest DeferredFrame.isDroppable later <;> rfl

/-- A frame that fits its slot is pushed as it is. -/
theorem deferredLogPush_eq (log : List DeferredFrame) {frame : DeferredFrame}
    (short : frame.params.length ≤ deferredParamMax) :
    (deferredLogPush log frame.id frame.params).1 =
      EvictingQueue.push DeferredFrame.isDroppable deferredLogMax log frame := by
  unfold deferredLogPush EvictingQueue.push
  rw [List.take_of_length_le short, withoutNewestDroppable_eq]
  by_cases full : log.length ≥ deferredLogMax
  · rw [if_pos full, if_neg (Nat.not_lt.mpr full)]
    cases droppable : deferredLogIsDroppable frame.id with
    | true => simp [DeferredFrame.isDroppable, droppable]
    | false =>
      cases EvictingQueue.withoutNewest DeferredFrame.isDroppable log <;>
        simp [DeferredFrame.isDroppable, droppable]
  · rw [if_neg full, if_pos (Nat.lt_of_not_le full)]

/-- The log after these frames were pushed one after the other. -/
def logAfter (log pushes : List DeferredFrame) : List DeferredFrame :=
  pushes.foldl (fun log frame => (deferredLogPush log frame.id frame.params).1) log

/-- The same log, where every frame also carries the number of its push. -/
def heldAfter (pushes : List DeferredFrame) (k : Nat) : List (DeferredFrame × Nat) :=
  EvictingQueue.run (DeferredFrame.isDroppable ∘ Prod.fst) deferredLogMax (pushes.zipIdx.take k)

/-- The information and the warnings, which the host never waits for. -/
def DeferredFrame.InBand (frame : DeferredFrame) : Prop := 0x40 ≤ frame.id ∧ frame.id ≤ 0x9F

theorem DeferredFrame.isDroppable_iff (frame : DeferredFrame) :
    frame.isDroppable = true ↔ frame.InBand := by
  unfold isDroppable deferredLogIsDroppable InBand
  rw [Bool.and_eq_true, decide_eq_true_eq, decide_eq_true_eq, BitVec.lt_def, BitVec.le_def (x := frame.id)]
  exact and_congr_right fun _ => Nat.lt_succ_iff

theorem DeferredFrame.isDroppable_eq_false_iff (frame : DeferredFrame) :
    frame.isDroppable = false ↔ ¬ frame.InBand := by
  rw [← frame.isDroppable_iff, Bool.not_eq_true]

/-- What becomes of each push, told by the frames held after the first `k` of them. -/
structure Deferral (pushes : List DeferredFrame) (held : Nat → List (DeferredFrame × Nat)) :
    Prop where
  /-- The log is what is held, and holds no more than it has room for. -/
  log : ∀ k, logAfter [] (pushes.take k) = (held k).map Prod.fst
  bounded : ∀ k, (held k).length ≤ deferredLogMax
  /-- It is a part of the pushes, in their order and as they were. -/
  ordered : ∀ k, (held k).Sublist (pushes.zipIdx.take k)
  /-- A frame outside the band stays once it is in. -/
  stays : ∀ k, ∀ p ∈ held k, ¬ p.1.InBand → p ∈ held (k + 1)
  /-- Only a full log turns a push down, and only one full of frames outside the band turns down
  another such frame. -/
  refused : ∀ k frame, pushes[k]? = some frame → (frame, k) ∉ held (k + 1) →
    (held k).length = deferredLogMax ∧ (frame.InBand ∨ ∀ p ∈ held k, ¬ p.1.InBand)
  /-- A frame that was in makes room for one outside the band. -/
  evicted : ∀ k, ∀ p ∈ held k, p ∉ held (k + 1) → p.1.InBand ∧ (held k).length = deferredLogMax ∧
    ∃ frame, pushes[k]? = some frame ∧ ¬ frame.InBand ∧ (frame, k) ∈ held (k + 1)

variable {pushes : List DeferredFrame}

theorem heldAfter_succ {k : Nat} {frame : DeferredFrame} (pushed : pushes[k]? = some frame) :
    heldAfter pushes (k + 1) = EvictingQueue.push (DeferredFrame.isDroppable ∘ Prod.fst)
      deferredLogMax (heldAfter pushes k) (frame, k) := by
  have numbered : pushes.zipIdx[k]? = some (frame, k) := by simp [pushed]
  unfold heldAfter
  rw [List.take_add_one, numbered]
  exact EvictingQueue.run_snoc _ _

theorem heldAfter_beyond {k : Nat} (all : pushes[k]? = none) :
    heldAfter pushes (k + 1) = heldAfter pushes k := by
  have none : pushes.zipIdx[k]? = none := by simp [all]
  unfold heldAfter
  rw [List.take_add_one, none, Option.toList_none, List.append_nil]

theorem logAfter_eq (short : ∀ frame ∈ pushes, frame.params.length ≤ deferredParamMax) :
    logAfter [] pushes = EvictingQueue.run DeferredFrame.isDroppable deferredLogMax pushes := by
  induction pushes using List.reverseRecOn with
  | nil => rfl
  | append_singleton pushes frame ih =>
    have fits := short frame (List.mem_append_right _ List.mem_cons_self)
    have ih := ih fun frame member => short frame (List.mem_append_left _ member)
    rw [EvictingQueue.run_snoc, ← ih, ← deferredLogPush_eq _ fits]
    exact List.foldl_append

theorem heldAfter_deferral (short : ∀ frame ∈ pushes, frame.params.length ≤ deferredParamMax) :
    Deferral pushes (heldAfter pushes) := by
  have bounded (k : Nat) : (heldAfter pushes k).length ≤ deferredLogMax :=
    EvictingQueue.length_run_le _
  -- A step of the numbering that names no push changes nothing.
  have step (k : Nat) : heldAfter pushes (k + 1) = heldAfter pushes k ∨
      ∃ frame, pushes[k]? = some frame ∧
        EvictingQueue.Pushed (DeferredFrame.isDroppable ∘ Prod.fst) deferredLogMax
          (heldAfter pushes k) (frame, k) (heldAfter pushes (k + 1)) := by
    cases pushed : pushes[k]? with
    | none => exact .inl (heldAfter_beyond pushed)
    | some frame =>
      refine .inr ⟨frame, rfl, ?_⟩
      rw [heldAfter_succ pushed]
      exact EvictingQueue.pushed (bounded k) _
  constructor
  · intro k
    have first : (pushes.zipIdx.take k).map Prod.fst = pushes.take k := by
      rw [List.map_take, List.zipIdx_map_fst]
    rw [logAfter_eq fun frame member => short frame (List.mem_of_mem_take member), ← first]
    exact EvictingQueue.run_map Prod.fst _
  · exact bounded
  · intro k
    exact EvictingQueue.run_sublist _
  · intro k p member kept
    rcases step k with same | ⟨frame, -, pushed⟩
    · rw [same]
      exact member
    · exact pushed.keeps member (p.1.isDroppable_eq_false_iff.mpr kept)
  · intro k frame here lost
    have pushed : EvictingQueue.Pushed (DeferredFrame.isDroppable ∘ Prod.fst) deferredLogMax
        (heldAfter pushes k) (frame, k) (heldAfter pushes (k + 1)) := by
      rw [heldAfter_succ here]
      exact EvictingQueue.pushed (bounded k) _
    obtain ⟨full, droppable⟩ := pushed.refuses lost
    refine ⟨full, droppable.imp frame.isDroppable_iff.mp fun none p member => ?_⟩
    exact p.1.isDroppable_eq_false_iff.mp (none p member)
  · intro k p member gone
    rcases step k with same | ⟨frame, here, pushed⟩
    · rw [same] at gone
      exact absurd member gone
    · obtain ⟨droppable, full, kept, new⟩ := pushed.evicts member gone
      exact ⟨p.1.isDroppable_iff.mp droppable, full, frame, here,
        frame.isDroppable_eq_false_iff.mp kept, new⟩

/-! ## The two modes -/

variable {env : Env} {w w' : World}

/-- In programmer mode nothing goes out on the wire. -/
theorem ends_rurpLogId_deferred (uno : env.build.serialOnIo = true) (programming : w.comMode = false)
    {frame : DeferredFrame} (short : frame.params.length ≤ deferredParamMax) :
    Ends (rurpLogId frame.id frame.params) env w
      (fun _ w' => w' = { w with deferredLog :=
        (deferredLogPush w.deferredLog frame.id frame.params).1 }) (fun _ => False) := by
  unfold rurpLogId
  rw [ends_bind, ends_build, ends_bind, ends_look]
  simp [uno, programming, short]

theorem ends_pushes (uno : env.build.serialOnIo = true) (programming : w.comMode = false)
    (short : ∀ frame ∈ pushes, frame.params.length ≤ deferredParamMax) :
    Ends (pushes.forM fun frame => rurpLogId frame.id frame.params) env w
      (fun _ w' => w' = { w with deferredLog := logAfter w.deferredLog pushes })
      (fun _ => False) := by
  induction pushes generalizing w with
  | nil => rfl
  | cons frame rest ih =>
    obtain ⟨fits, rest_fit⟩ := List.forall_mem_cons.mp short
    refine (ends_bind _ _).mpr ?_
    refine (ends_rurpLogId_deferred uno programming fits).mono (fun _ w₁ queued => ?_) fun _ => id
    subst queued
    exact ih programming rest_fit

/-- What waiting for the port and emptying its queue leave alone. -/
abbrev Portless (w w' : World) : Prop :=
  { w'.withoutBus with rx := [] } = { w.withoutBus with rx := [] }

instance : IsPreorder World Portless where
  refl _ := rfl
  trans _ _ _ first second := second.trans first

instance : BusFrame env Portless where
  bus _ _ _ same := congrArg (fun w => { w with rx := [] }) same

instance : QueueFrame Portless := ⟨fun _ _ => rfl⟩

/-- The flush sends exactly what waits, in order; a port that never comes up keeps it. -/
theorem ends_rurpSetCommunicationMode_flush (uno : env.build.serialOnIo = true)
    (sendable : ∀ frame ∈ w.deferredLog, frame.isSendable = true) :
    Ends rurpSetCommunicationMode env w
      (fun _ w' => w'.deferredLog = [] ∧ w'.comMode = true ∧
        w'.trace = (w.deferredLog.map DeferredFrame.sent).reverse ++ w.trace)
      (fun w' => w'.deferredLog = w.deferredLog ∧ w'.trace = w.trace) := by
  have kept {w' : World} (portless : Portless w w') :
      w'.deferredLog = w.deferredLog ∧ w'.trace = w.trace := by
    have log := congrArg World.deferredLog portless
    have trace := congrArg World.trace portless
    exact ⟨log, trace⟩
  unfold rurpSetCommunicationMode whileLoop
  rw [ends_bind, ends_build, uno]
  refine Within.bind_ends (S := Portless) inferInstance (fun _ w₁ begun => ?_) fun _ => kept
  refine Within.bind_ends (S := Portless) inferInstance (fun _ w₂ drained => ?_)
    fun _ drained => kept (trans_of Portless begun drained)
  obtain ⟨log, trace⟩ := kept (trans_of Portless begun drained)
  rw [ends_bind, ends_update]
  unfold flushDeferredLog
  rw [ends_bind, ends_look, ends_bind]
  refine (ends_sendFrames w₂.deferredLog _).mono (fun _ w₃ sent => ?_) fun _ never => never.elim
  subst sent
  refine ⟨rfl, rfl, ?_⟩
  rw [log, List.filter_eq_self.mpr sendable, trace]

/-- Between two flushes the log keeps what it should of the pushes, and the next flush sends what it
holds. -/
theorem deferred_log_between_flushes (uno : env.build.serialOnIo = true)
    (programming : w.comMode = false) (flushed : w.deferredLog = []) {pushes : List DeferredFrame}
    (short : ∀ frame ∈ pushes, frame.params.length ≤ deferredParamMax) :
    ∃ held, Deferral pushes held ∧
      (pushes.forM fun frame => rurpLogId frame.id frame.params) env w =
        (some ⟨⟩, { w with deferredLog := (held pushes.length).map Prod.fst }) ∧
      ∀ w₁ : World, w₁.deferredLog = (held pushes.length).map Prod.fst →
        Ends rurpSetCommunicationMode env w₁
          (fun _ w' => w'.deferredLog = [] ∧ w'.comMode = true ∧
            w'.trace = ((held pushes.length).map fun p => p.1.sent).reverse ++ w₁.trace)
          (fun w' => w'.deferredLog = w₁.deferredLog ∧ w'.trace = w₁.trace) := by
  have deferral := heldAfter_deferral short
  have whole : logAfter [] pushes = (heldAfter pushes pushes.length).map Prod.fst := by
    rw [← deferral.log, List.take_length]
  refine ⟨heldAfter pushes, deferral, ?_, fun w₁ queued => ?_⟩
  · have pushed : Ends (pushes.forM fun frame => rurpLogId frame.id frame.params) env w _ _ :=
      ends_pushes uno programming short
    rw [flushed] at pushed
    rw [← whole]
    unfold Ends at pushed
    rcases run : (pushes.forM fun frame => rurpLogId frame.id frame.params) env w with
      ⟨_ | _, w'⟩ <;> rw [run] at pushed
    · exact pushed.elim
    · subst pushed
      rfl
  · have sendable : ∀ frame ∈ w₁.deferredLog, frame.isSendable = true := by
      intro frame member
      rw [queued, ← whole, logAfter_eq short] at member
      have fits := short frame ((EvictingQueue.run_sublist pushes).subset member)
      unfold deferredParamMax at fits
      simp only [DeferredFrame.isSendable, decide_eq_true_eq]
      omega
    refine (ends_rurpSetCommunicationMode_flush uno sendable).mono (fun _ w' sent => ?_) fun _ => id
    rw [queued, List.map_map] at sent
    exact sent

/-- Six frames of one window: the second error takes the place of the newest message before it, and
the last message finds no room. -/
def crowdedWindow : List DeferredFrame :=
  [⟨msgInfoInitStart, []⟩, ⟨msgWarnVppLowMv, [0x2E, 0xE0]⟩, ⟨msgErrVerify, [1, 2, 3, 4]⟩,
    ⟨msgInfoAddr, [0, 0, 0, 1]⟩, ⟨msgErrTimeout, []⟩, ⟨msgInfoCmd, [2]⟩]

theorem deferred_log_between_flushes_crowded : ∃ held, Deferral crowdedWindow held ∧
    (held 6).map Prod.fst = [⟨msgInfoInitStart, []⟩, ⟨msgWarnVppLowMv, [0x2E, 0xE0]⟩,
      ⟨msgErrVerify, [1, 2, 3, 4]⟩, ⟨msgErrTimeout, []⟩] := by
  have window : ({ latches := ⟨0, 0, 0⟩, stored := none, comMode := false } : World).comMode = false := rfl
  have uno : (Env.still ⟨.uno, false⟩ 1).build.serialOnIo = true := rfl
  have short : ∀ frame ∈ crowdedWindow, frame.params.length ≤ deferredParamMax := by decide
  obtain ⟨held, deferral, -⟩ :=
    deferred_log_between_flushes uno window rfl short
  refine ⟨held, deferral, ?_⟩
  rw [← deferral.log 6]
  decide

end Firestarter
