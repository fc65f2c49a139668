import Mathlib.Data.List.Basic

/-! Lines driven by the stores of a processor. A driver is a list of stores made one after another;
whoever is wired to the lines sees the state after each of them, not only the last one. Nothing
here names a processor: the state, what is seen of it and what a latch holds are parameters. -/
namespace StoreSequence

variable {σ ο β : Type}

/-- Stores made one after another. -/
abbrev Stores (σ : Type) := List (σ → σ)

/-- The state when all of them are made. -/
def settled (stores : Stores σ) (s : σ) : σ := stores.foldl (fun s store => store s) s

/-- The state after each of them. -/
def passed : Stores σ → σ → List σ
  | [], _ => []
  | store :: rest, s => store s :: passed rest (store s)

variable {stores rest : Stores σ} {store : σ → σ} {s s' : σ}

@[simp] theorem settled_nil : settled [] s = s := rfl

@[simp] theorem settled_cons : settled (store :: rest) s = settled rest (store s) := rfl

@[simp] theorem settled_append : settled (stores ++ rest) s = settled rest (settled stores s) :=
  List.foldl_append

@[simp] theorem passed_nil : passed [] s = [] := rfl

@[simp] theorem passed_cons : passed (store :: rest) s = store s :: passed rest (store s) := rfl

@[simp] theorem passed_append :
    passed (stores ++ rest) s = passed stores s ++ passed rest (settled stores s) := by
  induction stores generalizing s with
  | nil => rfl
  | cons store stores ih => simp [ih]

/-- The stores end in the last state they pass, if there is one. -/
theorem settled_mem_passed (stores : Stores σ) (s : σ) :
    settled stores s = s ∨ settled stores s ∈ passed stores s := by
  induction stores generalizing s with
  | nil => exact .inl rfl
  | cons store stores ih =>
    right
    rw [settled_cons, passed_cons]
    rcases ih (store s) with same | later
    · rw [same]
      exact List.mem_cons_self
    · exact List.mem_cons_of_mem _ later

theorem getLast?_passed (store : σ → σ) (stores : Stores σ) (s : σ) :
    (passed (store :: stores) s).getLast? = some (settled (store :: stores) s) := by
  induction stores generalizing s store with
  | nil => rfl
  | cons next stores ih =>
    rw [passed_cons, passed_cons, List.getLast?_cons_cons]
    exact ih next (store s)

/-- What no store of the list touches is the same all along. -/
theorem look_passed (look : σ → ο) (still : ∀ store ∈ stores, ∀ s, look (store s) = look s)
    (member : s' ∈ passed stores s) : look s' = look s := by
  induction stores generalizing s with
  | nil => cases member
  | cons store stores ih =>
    have first := still store List.mem_cons_self s
    rw [passed_cons] at member
    rcases List.mem_cons.mp member with rfl | later
    · exact first
    · exact (ih (fun f later => still f (List.mem_cons_of_mem _ later)) later).trans first

theorem look_settled (look : σ → ο) (still : ∀ store ∈ stores, ∀ s, look (store s) = look s) :
    look (settled stores s) = look s := by
  rcases settled_mem_passed stores s with same | passes
  · rw [same]
  · exact look_passed look still passes

/-- The view changes once, from one value to another, and stays there. -/
def Switches (before after : ο) (seen : List ο) : Prop :=
  ∃ n m, seen = List.replicate n before ++ List.replicate (m + 1) after

theorem Switches.mem {before after o : ο} {seen : List ο} (switches : Switches before after seen)
    (member : o ∈ seen) : o = before ∨ o = after := by
  obtain ⟨n, m, rfl⟩ := switches
  rcases List.mem_append.mp member with early | late
  · exact .inl (List.eq_of_mem_replicate early)
  · exact .inr (List.eq_of_mem_replicate late)

theorem Switches.last {before after : ο} {seen : List ο} (switches : Switches before after seen) :
    after ∈ seen := by
  obtain ⟨n, m, rfl⟩ := switches
  exact List.mem_append.mpr (.inr (List.mem_replicate.mpr ⟨Nat.succ_ne_zero m, rfl⟩))

theorem Switches.settled {look : σ → ο} {before after : ο}
    (switches : Switches before after ((passed stores s).map look)) :
    look (settled stores s) = after := by
  cases stores with
  | nil =>
    have some := switches.last
    cases some
  | cons store stores =>
    obtain ⟨n, m, split⟩ := switches
    have last := congrArg List.getLast? split
    rw [List.getLast?_map, getLast?_passed, List.getLast?_append, List.getLast?_replicate,
      if_neg (Nat.succ_ne_zero m)] at last
    exact Option.some.inj last

/-! ## Transparent latches -/

section
variable (gate : ο → Bool) (input : ο → β)

/-- A latch that follows its input while its gate is open and keeps the last of it otherwise. -/
def held (b : β) : List ο → β
  | [] => b
  | o :: seen => held (if gate o then input o else b) seen

@[simp] theorem held_append (b : β) (seen later : List ο) :
    held gate input b (seen ++ later) = held gate input (held gate input b seen) later := by
  induction seen generalizing b with
  | nil => rfl
  | cons o seen ih => exact ih _

variable {gate input}

theorem held_of_closed {b : β} {seen : List ο} (closed : ∀ o ∈ seen, gate o = false) :
    held gate input b seen = b := by
  induction seen with
  | nil => rfl
  | cons o seen ih =>
    rw [held, closed o List.mem_cons_self]
    exact ih fun o later => closed o (List.mem_cons_of_mem _ later)

/-- A steady input goes through, or the latch had it already. -/
theorem held_of_steady {b : β} {seen : List ο} (steady : ∀ o ∈ seen, gate o = true → input o = b) :
    held gate input b seen = b := by
  induction seen with
  | nil => rfl
  | cons o seen ih =>
    have same : (if gate o then input o else b) = b := by
      split
      · rename_i isOpen
        exact steady o List.mem_cons_self isOpen
      · rfl
    rw [held, same]
    exact ih fun o later => steady o (List.mem_cons_of_mem _ later)

/-- Once the gate has opened on a steady input, that is what the latch holds. -/
theorem held_of_opened {a b : β} {seen : List ο} (steady : ∀ o ∈ seen, gate o = true → input o = b)
    (opened : ∃ o ∈ seen, gate o = true) : held gate input a seen = b := by
  induction seen generalizing a with
  | nil =>
    obtain ⟨o, none, -⟩ := opened
    cases none
  | cons o seen ih =>
    have later (o : ο) (member : o ∈ seen) := steady o (List.mem_cons_of_mem _ member)
    rw [held]
    by_cases isOpen : gate o = true
    · rw [if_pos isOpen, steady o List.mem_cons_self isOpen]
      exact held_of_steady later
    · rw [if_neg isOpen]
      obtain ⟨p, member, isOpen'⟩ := opened
      rcases List.mem_cons.mp member with rfl | member
      · exact absurd isOpen' isOpen
      · exact ih later ⟨p, member, isOpen'⟩

end

end StoreSequence
