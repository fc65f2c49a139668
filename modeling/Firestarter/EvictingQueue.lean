import Mathlib.Data.List.Induction

/-! A bounded queue that would rather lose some items than others. An item that may not be lost
takes the place of the newest expendable one when the queue is full. Nothing here names a device or
a program that queues. -/
namespace EvictingQueue

variable {α β : Type} (expendable : α → Bool) (cap : Nat)

/-- The queue without its newest expendable item. -/
def withoutNewest : List α → Option (List α)
  | [] => none
  | a :: later =>
    match withoutNewest later with
    | some later => some (a :: later)
    | none => if expendable a then some later else none

def push (queue : List α) (a : α) : List α :=
  if queue.length < cap then queue ++ [a]
  else if expendable a then queue
  else
    match withoutNewest expendable queue with
    | some left => left ++ [a]
    | none => queue

/-- The queue after these items, from an empty one. -/
def run (items : List α) : List α := items.foldl (push expendable cap) []

variable {expendable : α → Bool} {cap : Nat} {queue left : List α} {a b : α}

theorem withoutNewest_eq_none_iff :
    withoutNewest expendable queue = none ↔ ∀ b ∈ queue, expendable b = false := by
  induction queue with
  | nil => simp [withoutNewest]
  | cons c later ih =>
    rw [withoutNewest, List.forall_mem_cons, ← ih]
    cases withoutNewest expendable later with
    | some left => simp
    | none => cases expendable c <;> simp

theorem withoutNewest_eq_some (found : withoutNewest expendable queue = some left) :
    ∃ before b after, queue = before ++ b :: after ∧ left = before ++ after ∧
      expendable b = true ∧ ∀ c ∈ after, expendable c = false := by
  induction queue generalizing left with
  | nil => cases found
  | cons c later ih =>
    rw [withoutNewest] at found
    cases rest : withoutNewest expendable later with
    | some shorter =>
      obtain ⟨before, b, after, rfl, rfl, lost, newest⟩ := ih rest
      rw [rest] at found
      obtain rfl := Option.some.inj found
      exact ⟨c :: before, b, after, rfl, rfl, lost, newest⟩
    | none =>
      rw [rest] at found
      by_cases lost : expendable c = true
      · simp only [lost, if_true, Option.some.injEq] at found
        subst found
        exact ⟨[], c, later, rfl, rfl, lost, withoutNewest_eq_none_iff.mp rest⟩
      · simp [lost] at found

/-- What a push does to a queue that is not too long. -/
inductive Pushed (expendable : α → Bool) (cap : Nat) (queue : List α) (a : α) : List α → Prop
  | queued (room : queue.length < cap) : Pushed expendable cap queue a (queue ++ [a])
  | refused (full : queue.length = cap) (lost : expendable a = true) :
    Pushed expendable cap queue a queue
  | crowdedOut (full : queue.length = cap) (others : ∀ b ∈ queue, expendable b = false) :
    Pushed expendable cap queue a queue
  | replaced {before after : List α} {b : α} (full : queue.length = cap)
    (split : queue = before ++ b :: after) (lost : expendable b = true)
    (newest : ∀ c ∈ after, expendable c = false) (kept : expendable a = false) :
    Pushed expendable cap queue a (before ++ after ++ [a])

theorem pushed (small : queue.length ≤ cap) (a : α) :
    Pushed expendable cap queue a (push expendable cap queue a) := by
  unfold push
  by_cases room : queue.length < cap
  · rw [if_pos room]
    exact .queued room
  have full : queue.length = cap := by omega
  rw [if_neg room]
  cases kept : expendable a with
  | true => exact .refused full kept
  | false =>
    rw [if_neg Bool.false_ne_true]
    cases found : withoutNewest expendable queue with
    | none => exact .crowdedOut full (withoutNewest_eq_none_iff.mp found)
    | some left =>
      obtain ⟨before, b, after, split, rfl, lost, newest⟩ := withoutNewest_eq_some found
      exact .replaced full split lost newest kept

namespace Pushed

variable {queue' : List α} (step : Pushed expendable cap queue a queue')
include step

theorem sublist : queue'.Sublist (queue ++ [a]) := by
  cases step with
  | queued => exact List.Sublist.refl _
  | refused | crowdedOut => exact List.sublist_append_left _ _
  | replaced _ split =>
    rw [split]
    exact ((List.sublist_cons_self _ _).append_left _).append_right _

theorem length_le : queue'.length ≤ cap := by
  cases step with
  | queued room =>
    rw [List.length_append, List.length_singleton]
    omega
  | refused full | crowdedOut full => exact Nat.le_of_eq full
  | replaced full split =>
    rw [split] at full
    simp only [List.length_append, List.length_cons, List.length_nil] at full ⊢
    omega

/-- An item that may not be lost stays. -/
theorem keeps (member : b ∈ queue) (kept : expendable b = false) : b ∈ queue' := by
  cases step with
  | queued => exact List.mem_append_left _ member
  | refused | crowdedOut => exact member
  | @replaced before after c full split lost =>
    rw [split, List.mem_append, List.mem_cons] at member
    rcases member with early | rfl | late
    · simp [early]
    · rw [lost] at kept
      cases kept
    · simp [late]

/-- Only a full queue loses the item that is pushed. -/
theorem refuses (lost : a ∉ queue') : queue.length = cap ∧
    (expendable a = true ∨ ∀ b ∈ queue, expendable b = false) := by
  cases step with
  | queued | replaced => simp at lost
  | refused full expendable => exact ⟨full, .inl expendable⟩
  | crowdedOut full others => exact ⟨full, .inr others⟩

/-- What leaves the queue makes room for an item that may not be lost. -/
theorem evicts (member : b ∈ queue) (gone : b ∉ queue') : expendable b = true ∧
    queue.length = cap ∧ expendable a = false ∧ a ∈ queue' := by
  cases step with
  | queued => exact absurd (List.mem_append_left _ member) gone
  | refused | crowdedOut => exact absurd member gone
  | @replaced before after c full split lost newest kept =>
    rw [split, List.mem_append, List.mem_cons] at member
    rcases member with early | rfl | late
    · simp [early] at gone
    · exact ⟨lost, full, kept, by simp⟩
    · simp [late] at gone

end Pushed

/-! ## Runs -/

variable {items : List α}

theorem run_snoc (items : List α) (a : α) :
    run expendable cap (items ++ [a]) = push expendable cap (run expendable cap items) a := by
  simp [run]

theorem length_run_le (items : List α) : (run expendable cap items).length ≤ cap := by
  induction items using List.reverseRecOn with
  | nil => exact Nat.zero_le cap
  | append_singleton items a ih =>
    rw [run_snoc]
    exact (pushed ih a).length_le

theorem run_sublist (items : List α) : (run expendable cap items).Sublist items := by
  induction items using List.reverseRecOn with
  | nil => exact List.Sublist.refl _
  | append_singleton items a ih =>
    rw [run_snoc]
    exact (pushed (length_run_le items) a).sublist.trans (ih.append_right [a])

/-! ## Items under another name -/

theorem withoutNewest_map (f : β → α) (queue : List β) :
    withoutNewest expendable (queue.map f) =
      (withoutNewest (expendable ∘ f) queue).map (List.map f) := by
  induction queue with
  | nil => rfl
  | cons b later ih =>
    rw [List.map_cons, withoutNewest, withoutNewest, ih]
    cases withoutNewest (expendable ∘ f) later with
    | some left => rfl
    | none => by_cases lost : expendable (f b) = true <;> simp [lost]

theorem push_map (f : β → α) (queue : List β) (b : β) :
    push expendable cap (queue.map f) (f b) = (push (expendable ∘ f) cap queue b).map f := by
  unfold push
  rw [List.length_map, withoutNewest_map]
  by_cases room : queue.length < cap
  · simp [room]
  · by_cases lost : expendable (f b) = true
    · simp [room, lost]
    · cases withoutNewest (expendable ∘ f) queue <;> simp [room, lost]

theorem run_map (f : β → α) (items : List β) :
    run expendable cap (items.map f) = (run (expendable ∘ f) cap items).map f := by
  induction items using List.reverseRecOn with
  | nil => rfl
  | append_singleton items b ih =>
    rw [List.map_append, List.map_singleton, run_snoc, run_snoc, ih, push_map]

end EvictingQueue
