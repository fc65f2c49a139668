import Mathlib.Order.Defs.Unbundled

/-! Programs that talk to an outside world. A program sees the outside only through the
questions it asks, keeps a state, and may loop for as long as the outside makes it. Nothing here
names a particular device: the outside `ε`, the state `σ` and the results are parameters, and
the rules below are the ones a proof about such a program composes. -/
namespace Interactive

/-- A program over the outside `ε` and the state `σ`. It ends with a value, or it is cut off in a
loop whose turns are spent; either way the state it left is there to be looked at. -/
def Prog (ε σ α : Type) : Type := ε → σ → Option α × σ

namespace Prog

variable {ε σ α β γ ι : Type}

protected def pure (a : α) : Prog ε σ α := fun _ s => (some a, s)

protected def bind (m : Prog ε σ α) (f : α → Prog ε σ β) : Prog ε σ β := fun env s =>
  match m env s with
  | (some a, s') => f a env s'
  | (none, s') => (none, s')

instance : Monad (Prog ε σ) where
  pure := Prog.pure
  bind := Prog.bind

/-- The state as it is now. -/
def look : Prog ε σ σ := fun _ s => (some s, s)

/-- The outside, whose answers depend on the state in which they are asked for. -/
def outside : Prog ε σ ε := fun env s => (some env, s)

def update (f : σ → σ) : Prog ε σ Unit := fun _ s => (some (), f s)

/-- An `if` without an `else`. -/
def when (c : Bool) (m : Prog ε σ Unit) : Prog ε σ Unit := if c then m else pure ()

/-- The run does not go past this point. -/
def cut : Prog ε σ α := fun _ s => (none, s)

/-- A `while` loop with its local variables: the body goes round again with new ones or leaves the
loop with a result. The run is cut off when the turns are spent. -/
def repeatUntil (body : β → Prog ε σ (β ⊕ α)) : Nat → β → Prog ε σ α
  | 0, _ => cut
  | turns + 1, b => do
    match ← body b with
    | .inl next => repeatUntil body turns next
    | .inr a => pure a

/-- A counted `for` loop with its local variables: the body goes on with new ones or leaves the
loop early with a result. -/
def forLoop (body : β → ι → Prog ε σ (β ⊕ α)) : List ι → β → Prog ε σ (β ⊕ α)
  | [], b => pure (.inl b)
  | i :: rest, b => do
    match ← body b i with
    | .inl next => forLoop body rest next
    | .inr a => pure (.inr a)

end Prog

variable {ε σ α β γ ι : Type} {env : ε} {s : σ}

@[simp] theorem pure_run (a : α) : (pure a : Prog ε σ α) env s = (some a, s) := rfl

@[simp] theorem look_run : (Prog.look : Prog ε σ σ) env s = (some s, s) := rfl

@[simp] theorem outside_run : (Prog.outside : Prog ε σ ε) env s = (some env, s) := rfl

@[simp] theorem update_run (f : σ → σ) :
    (Prog.update f : Prog ε σ Unit) env s = (some (), f s) := rfl

@[simp] theorem cut_run : (Prog.cut : Prog ε σ α) env s = (none, s) := rfl

theorem bind_run (m : Prog ε σ α) (f : α → Prog ε σ β) :
    (m >>= f) env s =
      match m env s with
      | (some a, s') => f a env s'
      | (none, s') => (none, s') := rfl

private theorem bind_pure_run (m : Prog ε σ α) : (m >>= fun a => pure a) = m := by
  funext env s
  rw [bind_run]
  rcases m env s with ⟨_ | a, s'⟩ <;> rfl

private theorem bind_assoc_run (m : Prog ε σ α) (f : α → Prog ε σ β) (g : β → Prog ε σ γ) :
    m >>= f >>= g = m >>= fun a => f a >>= g := by
  funext env s
  simp only [bind_run]
  rcases m env s with ⟨_ | a, s'⟩ <;> rfl

instance : LawfulMonad (Prog ε σ) :=
  LawfulMonad.mk' (Prog ε σ) bind_pure_run (fun _ _ => rfl) bind_assoc_run

/-! ## What a run ends with -/

/-- From this state the program ends with a value and a state that `ended` admits, or is cut off
in a state that `cutOff` admits. -/
def Ends (m : Prog ε σ α) (env : ε) (s : σ) (ended : α → σ → Prop) (cutOff : σ → Prop) : Prop :=
  match m env s with
  | (some a, s') => ended a s'
  | (none, s') => cutOff s'

variable {ended ended' : α → σ → Prop} {cutOff cutOff' : σ → Prop}

@[simp] theorem ends_pure (a : α) :
    Ends (pure a : Prog ε σ α) env s ended cutOff ↔ ended a s := Iff.rfl

@[simp] theorem ends_look {ended : σ → σ → Prop} :
    Ends (Prog.look : Prog ε σ σ) env s ended cutOff ↔ ended s s := Iff.rfl

@[simp] theorem ends_outside {ended : ε → σ → Prop} :
    Ends (Prog.outside : Prog ε σ ε) env s ended cutOff ↔ ended env s := Iff.rfl

@[simp] theorem ends_update {ended : Unit → σ → Prop} (f : σ → σ) :
    Ends (Prog.update f : Prog ε σ Unit) env s ended cutOff ↔ ended () (f s) := Iff.rfl

@[simp] theorem ends_cut :
    Ends (Prog.cut : Prog ε σ α) env s ended cutOff ↔ cutOff s := Iff.rfl

@[simp] theorem ends_bind {ended : β → σ → Prop} (m : Prog ε σ α) (f : α → Prog ε σ β) :
    Ends (m >>= f) env s ended cutOff ↔
      Ends m env s (fun a s' => Ends (f a) env s' ended cutOff) cutOff := by
  unfold Ends
  rw [bind_run]
  rcases m env s with ⟨_ | a, s'⟩ <;> exact Iff.rfl

@[simp] theorem ends_when {ended : Unit → σ → Prop} (c : Bool) (m : Prog ε σ Unit) :
    Ends (Prog.when c m) env s ended cutOff ↔
      if c then Ends m env s ended cutOff else ended () s := by
  cases c <;> exact Iff.rfl

theorem Ends.when {ended : Unit → σ → Prop} {c : Bool} {m : Prog ε σ Unit}
    (taken : c = true → Ends m env s ended cutOff) (passed : c = false → ended () s) :
    Ends (Prog.when c m) env s ended cutOff := by
  cases c with
  | true => exact taken rfl
  | false => exact passed rfl

@[simp] theorem ends_discard {ended : Unit → σ → Prop} (m : Prog ε σ α) :
    Ends (discard m) env s ended cutOff ↔ Ends m env s (fun _ s' => ended () s') cutOff :=
  ends_bind m (fun _ => pure ())

theorem Ends.mono {m : Prog ε σ α} (h : Ends m env s ended cutOff)
    (value : ∀ a s', ended a s' → ended' a s') (cut : ∀ s', cutOff s' → cutOff' s') :
    Ends m env s ended' cutOff' := by
  unfold Ends at h ⊢
  rcases run : m env s with ⟨_ | a, s'⟩ <;> rw [run] at h
  · exact cut s' h
  · exact value a s' h

theorem Ends.and {m : Prog ε σ α} (h : Ends m env s ended cutOff)
    (h' : Ends m env s ended' cutOff') :
    Ends m env s (fun a s' => ended a s' ∧ ended' a s') (fun s' => cutOff s' ∧ cutOff' s') := by
  unfold Ends at h h' ⊢
  rcases run : m env s with ⟨_ | a, s'⟩ <;> rw [run] at h h' <;> exact ⟨h, h'⟩

/-- What holds of every value and state holds of what the program ends with. -/
theorem ends_any (m : Prog ε σ α) (value : ∀ a s', ended a s') (cut : ∀ s', cutOff s') :
    Ends m env s ended cutOff := by
  unfold Ends
  rcases m env s with ⟨_ | a, s'⟩
  · exact cut s'
  · exact value a s'

/-- Under a condition on the start it is enough to look at the runs that meet it. -/
theorem ends_imp {m : Prog ε σ α} {p : Prop} (known : p → Ends m env s ended cutOff) :
    Ends m env s (fun a s' => p → ended a s') (fun s' => p → cutOff s') := by
  by_cases holds : p
  · exact (known holds).mono (fun _ _ h _ => h) fun _ h _ => h
  · exact ends_any m (fun _ _ other => absurd other holds) fun _ other => absurd other holds

/-- Where the program ends or is cut off, what holds in both cases holds. -/
theorem Ends.state {m : Prog ε σ α} {P : σ → Prop} (h : Ends m env s (fun _ s' => P s') P) :
    P (m env s).2 := by
  unfold Ends at h
  rcases run : m env s with ⟨_ | a, s'⟩ <;> rw [run] at h <;> exact h

/-- A program that is not cut off gives the value it must end with. -/
theorem Ends.value {m : Prog ε σ α} {a : α} (h : Ends m env s (fun a' _ => a' = a) fun _ => False) :
    (m env s).1 = some a := by
  unfold Ends at h
  rcases run : m env s with ⟨_ | a', s'⟩ <;> rw [run] at h
  · exact h.elim
  · exact congrArg some h

/-- A program that gives this value ends in a state that goes with it. -/
theorem Ends.of_value {m : Prog ε σ α} {a : α} (h : Ends m env s ended cutOff)
    (value : (m env s).1 = some a) : ∃ s', m env s = (some a, s') ∧ ended a s' := by
  unfold Ends at h
  rcases run : m env s with ⟨_ | a', s'⟩ <;> rw [run] at h value
  · cases value
  · obtain rfl := Option.some.inj value
    exact ⟨s', rfl, h⟩

/-- A run ends as it ends. -/
theorem ends_run (m : Prog ε σ α) (env : ε) (s : σ) :
    Ends m env s (fun a s' => m env s = (some a, s')) fun s' => m env s = (none, s') := by
  unfold Ends
  rcases m env s with ⟨_ | a, s'⟩ <;> rfl

theorem ends_iff {m : Prog ε σ α} : Ends m env s ended cutOff ↔
    (∀ a s', m env s = (some a, s') → ended a s') ∧ (∀ s', m env s = (none, s') → cutOff s') := by
  unfold Ends
  rcases m env s with ⟨_ | a, s'⟩
  · simp
  · simp only [Prod.mk.injEq, Option.some.injEq, and_imp, reduceCtorEq, false_and,
      false_implies, implies_true, and_true]
    exact ⟨fun h _ _ ea es => ea ▸ es ▸ h, fun h => h a s' rfl rfl⟩

/-- The loop rule: what holds on entry and is kept by every turn that goes round again holds of
the state in which the loop is left, or cut off. -/
theorem ends_repeatUntil {body : β → Prog ε σ (β ⊕ α)} (inv : β → σ → Prop)
    (turn : ∀ b s, inv b s → Ends (body b) env s
      (fun r s' => match r with | .inl next => inv next s' | .inr a => ended a s') cutOff)
    (spent : ∀ b s, inv b s → cutOff s) (turns : Nat) (b : β) (s : σ) (start : inv b s) :
    Ends (Prog.repeatUntil body turns b) env s ended cutOff := by
  induction turns generalizing b s with
  | zero => exact spent b s start
  | succ turns ih =>
    rw [Prog.repeatUntil, ends_bind]
    refine (turn b s start).mono (fun r s' kept => ?_) (fun _ h => h)
    cases r with
    | inl next => exact ih next s' kept
    | inr a => exact kept

/-- The loop rule with a count of the turns taken; a run that is cut off here has taken them all. -/
theorem ends_repeatUntil_counted {body : β → Prog ε σ (β ⊕ α)} (inv : Nat → β → σ → Prop)
    (turn : ∀ n b s, inv n b s → Ends (body b) env s
      (fun r s' => match r with | .inl next => inv (n + 1) next s' | .inr a => ended a s') cutOff)
    (turns n : Nat) (spent : ∀ b s, inv (n + turns) b s → cutOff s) (b : β) (s : σ)
    (start : inv n b s) : Ends (Prog.repeatUntil body turns b) env s ended cutOff := by
  induction turns generalizing n b s with
  | zero => exact spent b s start
  | succ turns ih =>
    rw [Prog.repeatUntil, ends_bind]
    refine (turn n b s start).mono (fun r s' kept => ?_) (fun _ h => h)
    cases r with
    | inl next =>
      refine ih (n + 1) (fun b s full => spent b s ?_) next s' kept
      rwa [Nat.add_right_comm, Nat.add_assoc] at full
    | inr a => exact kept

/-- The loop rule for total correctness: the invariant carries a bound on the turns to come, and
every turn that goes round again lowers it, so the loop is left. -/
theorem ends_repeatUntil_of_bound {body : β → Prog ε σ (β ⊕ α)} (inv : Nat → β → σ → Prop)
    (turn : ∀ n b s, inv n b s → Ends (body b) env s
      (fun r s' => match r with | .inl next => ∃ m < n, inv m next s' | .inr a => ended a s')
      cutOff)
    (turns n : Nat) (b : β) (s : σ) (start : inv n b s) (enough : n < turns) :
    Ends (Prog.repeatUntil body turns b) env s ended cutOff := by
  induction turns generalizing n b s with
  | zero => omega
  | succ turns ih =>
    rw [Prog.repeatUntil, ends_bind]
    refine (turn n b s start).mono (fun r s' kept => ?_) (fun _ h => h)
    cases r with
    | inl next =>
      obtain ⟨m, fewer, kept⟩ := kept
      exact ih m next s' kept (by omega)
    | inr a => exact kept

/-- The counted loop: the invariant may speak of the items still to come. -/
theorem ends_forLoop {body : β → ι → Prog ε σ (β ⊕ α)} {E : β ⊕ α → σ → Prop}
    (inv : List ι → β → σ → Prop)
    (turn : ∀ i rest b s, inv (i :: rest) b s → Ends (body b i) env s
      (fun r s' => match r with | .inl next => inv rest next s' | .inr a => E (.inr a) s')
      cutOff)
    (finish : ∀ b s, inv [] b s → E (.inl b) s) (items : List ι) (b : β) (s : σ)
    (start : inv items b s) :
    Ends (Prog.forLoop body items b) env s E cutOff := by
  induction items generalizing b s with
  | nil => exact finish b s start
  | cons i rest ih =>
    rw [Prog.forLoop, ends_bind]
    refine (turn i rest b s start).mono (fun r s' kept => ?_) (fun _ h => h)
    cases r with
    | inl next => exact ih next s' kept
    | inr a => exact kept

/-- Folding over a list, for loops that always run to their end. -/
theorem ends_foldlM {body : β → ι → Prog ε σ β} {E : β → σ → Prop}
    (inv : List ι → β → σ → Prop)
    (turn : ∀ i rest b s, inv (i :: rest) b s →
      Ends (body b i) env s (fun next s' => inv rest next s') cutOff)
    (finish : ∀ b s, inv [] b s → E b s) (items : List ι) (b : β) (s : σ)
    (start : inv items b s) :
    Ends (items.foldlM body b) env s E cutOff := by
  induction items generalizing b s with
  | nil => exact finish b s start
  | cons i rest ih =>
    rw [List.foldlM_cons, ends_bind]
    exact (turn i rest b s start).mono (fun next s' kept => ih next s' kept) (fun _ h => h)

theorem ends_forM {body : ι → Prog ε σ PUnit} {E : PUnit → σ → Prop}
    (inv : List ι → σ → Prop)
    (turn : ∀ i rest s, inv (i :: rest) s →
      Ends (body i) env s (fun _ s' => inv rest s') cutOff)
    (finish : ∀ s, inv [] s → E ⟨⟩ s) (items : List ι) (s : σ) (start : inv items s) :
    Ends (items.forM body) env s E cutOff := by
  induction items generalizing s with
  | nil => exact finish s start
  | cons i rest ih =>
    refine (ends_bind (body i) _).mpr ?_
    exact (turn i rest s start).mono (fun _ s' kept => ih s' kept) (fun _ h => h)

/-- What is left of a count from `i` on. -/
private theorem range'_cons {i n j : Nat} {rest : List Nat}
    (left : j :: rest = List.range' i (n - i)) :
    j = i ∧ i < n ∧ rest = List.range' (i + 1) (n - (i + 1)) := by
  obtain ⟨m, more⟩ : ∃ m, n - i = m + 1 :=
    Nat.exists_eq_succ_of_ne_zero fun none => by simp [none] at left
  rw [more, List.range'_succ] at left
  obtain ⟨here, rest⟩ := List.cons.inj left
  exact ⟨here, by omega, by rw [rest, show n - (i + 1) = m by omega]⟩

/-- Counted loops, by how far they have counted. -/
theorem ends_foldlM_range {body : β → Nat → Prog ε σ β} (inv : Nat → β → σ → Prop) {n : Nat}
    (turn : ∀ i < n, ∀ b s, inv i b s →
      Ends (body b i) env s (fun next s' => inv (i + 1) next s') cutOff)
    {b : β} (start : inv 0 b s) :
    Ends ((List.range n).foldlM body b) env s (fun b' s' => inv n b' s') cutOff := by
  refine ends_foldlM (fun items b s => ∃ i ≤ n, items = List.range' i (n - i) ∧ inv i b s)
    (fun j rest b s kept => ?_) (fun b s kept => ?_) _ b s
    ⟨0, Nat.zero_le n, List.range_eq_range', start⟩
  · obtain ⟨i, -, left, kept⟩ := kept
    obtain ⟨rfl, below, rest⟩ := range'_cons left
    exact (turn j below b s kept).mono (fun _ _ kept => ⟨j + 1, below, rest, kept⟩) fun _ => id
  · obtain ⟨i, most, left, kept⟩ := kept
    have none := congrArg List.length left
    rw [List.length_nil, List.length_range'] at none
    obtain rfl : i = n := by omega
    exact kept

theorem ends_forM_range {body : Nat → Prog ε σ PUnit} (inv : Nat → σ → Prop) {n : Nat}
    (turn : ∀ i < n, ∀ s, inv i s → Ends (body i) env s (fun _ s' => inv (i + 1) s') cutOff)
    (start : inv 0 s) :
    Ends ((List.range n).forM body) env s (fun _ s' => inv n s') cutOff := by
  refine ends_forM (fun items s => ∃ i ≤ n, items = List.range' i (n - i) ∧ inv i s)
    (fun j rest s kept => ?_) (fun s kept => ?_) _ s
    ⟨0, Nat.zero_le n, List.range_eq_range', start⟩
  · obtain ⟨i, -, left, kept⟩ := kept
    obtain ⟨rfl, below, rest⟩ := range'_cons left
    exact (turn j below s kept).mono (fun _ _ kept => ⟨j + 1, below, rest, kept⟩) fun _ => id
  · obtain ⟨i, most, left, kept⟩ := kept
    have none := congrArg List.length left
    rw [List.length_nil, List.length_range'] at none
    obtain rfl : i = n := by omega
    exact kept

theorem ends_forLoop_range {body : β → ι → Prog ε σ (β ⊕ α)} {f : Nat → ι}
    {E : β ⊕ α → σ → Prop} (inv : Nat → β → σ → Prop) {n : Nat}
    (turn : ∀ i < n, ∀ b s, inv i b s → Ends (body b (f i)) env s
      (fun r s' => match r with | .inl next => inv (i + 1) next s' | .inr a => E (.inr a) s')
      cutOff)
    (finish : ∀ b s, inv n b s → E (.inl b) s) {b : β} (start : inv 0 b s) :
    Ends (Prog.forLoop body ((List.range n).map f) b) env s E cutOff := by
  refine ends_forLoop
    (fun items b s => ∃ i ≤ n, items = (List.range' i (n - i)).map f ∧ inv i b s)
    (fun j rest b s kept => ?_) (fun b s kept => ?_) _ b s
    ⟨0, Nat.zero_le n, by rw [List.range_eq_range', Nat.sub_zero], start⟩
  · obtain ⟨i, -, left, kept⟩ := kept
    obtain ⟨k, later, counts, rfl, rfl⟩ := List.map_eq_cons_iff.mp left.symm
    obtain ⟨rfl, below, rest⟩ := range'_cons counts.symm
    refine (turn k below b s kept).mono (fun r s' kept => ?_) fun _ => id
    cases r with
    | inl next => exact ⟨k + 1, below, by rw [rest], kept⟩
    | inr a => exact kept
  · obtain ⟨i, most, left, kept⟩ := kept
    have none := congrArg List.length left
    rw [List.length_nil, List.length_map, List.length_range'] at none
    obtain rfl : i = n := by omega
    exact finish b s kept

/-! ## What a program may do to its state -/

/-- Every run of the program in this outside, cut off or not, moves the state along `R`. As a
class, so that the programs built from smaller ones inherit it. -/
class Within (env : ε) (R : σ → σ → Prop) (m : Prog ε σ α) : Prop where
  moves : ∀ s, R s (m env s).2

variable {R : σ → σ → Prop}

theorem within_iff_ends {m : Prog ε σ α} :
    Within env R m ↔ ∀ s, Ends m env s (fun _ s' => R s s') (R s) := by
  constructor
  · intro h s
    have moved := h.moves s
    unfold Ends
    rcases run : m env s with ⟨_ | a, s'⟩ <;> rw [run] at moved <;> exact moved
  · refine fun h => ⟨fun s => ?_⟩
    have ended := h s
    unfold Ends at ended
    rcases run : m env s with ⟨_ | a, s'⟩ <;> rw [run] at ended <;> exact ended

theorem Within.ends {m : Prog ε σ α} (h : Within env R m) (s : σ) :
    Ends m env s (fun _ s' => R s s') (R s) := within_iff_ends.mp h s

/-- What a program's runs do to the state and what one run ends with hold together. -/
theorem Within.and_ends {m : Prog ε σ α} (h : Within env R m)
    (other : Ends m env s ended (fun _ => True)) :
    Ends m env s (fun a s' => R s s' ∧ ended a s') (R s) :=
  ((h.ends s).and other).mono (fun _ _ both => both) fun _ both => both.1

theorem Within.update (f : σ → σ) (moved : ∀ s, R s (f s)) :
    Within env R (Prog.update f : Prog ε σ Unit) := ⟨fun s => moved s⟩

theorem Within.weaken {S : σ → σ → Prop} {m : Prog ε σ α} (h : Within env R m)
    (sub : ∀ s s', R s s' → S s s') : Within env S m := ⟨fun s => sub _ _ (h.moves s)⟩

section
variable [IsPreorder σ R]

instance Within.pure (a : α) : Within env R (pure a : Prog ε σ α) := ⟨fun s => refl_of R s⟩

instance Within.look : Within env R (Prog.look : Prog ε σ σ) := ⟨fun s => refl_of R s⟩

instance Within.outside : Within env R (Prog.outside : Prog ε σ ε) := ⟨fun s => refl_of R s⟩

instance Within.cut : Within env R (Prog.cut : Prog ε σ α) := ⟨fun s => refl_of R s⟩

theorem within_bind {m : Prog ε σ α} {f : α → Prog ε σ β} (first : Within env R m)
    (rest : ∀ a, Within env R (f a)) : Within env R (m >>= f) := by
  refine ⟨fun s => ?_⟩
  have moved := first.moves s
  rw [bind_run]
  rcases run : m env s with ⟨_ | a, s'⟩ <;> rw [run] at moved
  · exact moved
  · exact trans_of R moved ((rest a).moves s')

/-- A run through a part of which only its moves are known. -/
theorem Within.bind_ends {S : σ → σ → Prop} {m : Prog ε σ α} {f : α → Prog ε σ β}
    {ended : β → σ → Prop} (first : Within env S m)
    (rest : ∀ a s', S s s' → Ends (f a) env s' ended cutOff) (cut : ∀ s', S s s' → cutOff s') :
    Ends (m >>= f) env s ended cutOff :=
  (ends_bind m f).mpr ((first.ends s).mono rest cut)

instance Within.bind (m : Prog ε σ α) (f : α → Prog ε σ β) [first : Within env R m]
    [rest : ∀ a, Within env R (f a)] : Within env R (m >>= f) := within_bind first rest

/-- The rest may count on what the first part can end with. -/
theorem within_bind_of_ends {m : Prog ε σ α} {f : α → Prog ε σ β} (P : α → Prop)
    (first : Within env R m)
    (value : ∀ s, Ends m env s (fun a _ => P a) (fun _ => True))
    (rest : ∀ a, P a → Within env R (f a)) : Within env R (m >>= f) := by
  refine within_iff_ends.mpr fun s => ?_
  rw [ends_bind]
  refine (first.and_ends (value s)).mono (fun a s' h => ?_) (fun s' h => h)
  exact ((rest a h.2).ends s').mono (fun _ _ moved => trans_of R h.1 moved)
    (fun _ moved => trans_of R h.1 moved)

instance Within.ite (c : Prop) [Decidable c] (m n : Prog ε σ α) [Within env R m]
    [Within env R n] : Within env R (if c then m else n) := by
  split <;> infer_instance

instance Within.when (c : Bool) (m : Prog ε σ Unit) [Within env R m] :
    Within env R (Prog.when c m) := by
  unfold Prog.when
  infer_instance

theorem within_discard {m : Prog ε σ α} (first : Within env R m) :
    Within env R (discard m : Prog ε σ Unit) := within_bind first (fun _ => Within.pure ())

instance Within.discard (m : Prog ε σ α) [first : Within env R m] :
    Within env R (discard m : Prog ε σ Unit) := within_discard first

instance Within.repeatUntil (body : β → Prog ε σ (β ⊕ α)) [turn : ∀ b, Within env R (body b)]
    (turns : Nat) (b : β) : Within env R (Prog.repeatUntil body turns b) := by
  induction turns generalizing b with
  | zero => exact Within.cut
  | succ turns ih =>
    refine within_bind (turn b) (fun r => ?_)
    cases r with
    | inl next => exact ih next
    | inr a => exact Within.pure a

/-- The body need only be known for the items of the list. -/
theorem within_forLoop_of_mem {body : β → ι → Prog ε σ (β ⊕ α)} {items : List ι}
    (turn : ∀ b, ∀ i ∈ items, Within env R (body b i)) (b : β) :
    Within env R (Prog.forLoop body items b) := by
  induction items generalizing b with
  | nil => exact Within.pure _
  | cons i rest ih =>
    refine within_bind (turn b i List.mem_cons_self) (fun r => ?_)
    cases r with
    | inl next => exact ih (fun b i member => turn b i (List.mem_cons_of_mem _ member)) next
    | inr a => exact Within.pure _

instance Within.forLoop (body : β → ι → Prog ε σ (β ⊕ α)) [turn : ∀ b i, Within env R (body b i)]
    (items : List ι) (b : β) : Within env R (Prog.forLoop body items b) :=
  within_forLoop_of_mem (fun b i _ => turn b i) b

theorem within_foldlM_of_mem {body : β → ι → Prog ε σ β} {items : List ι}
    (turn : ∀ b, ∀ i ∈ items, Within env R (body b i)) (b : β) :
    Within env R (items.foldlM body b) := by
  induction items generalizing b with
  | nil => exact Within.pure b
  | cons i rest ih =>
    rw [List.foldlM_cons]
    exact within_bind (turn b i List.mem_cons_self)
      (ih fun b i member => turn b i (List.mem_cons_of_mem _ member))

instance Within.foldlM (body : β → ι → Prog ε σ β) [turn : ∀ b i, Within env R (body b i)]
    (items : List ι) (b : β) : Within env R (items.foldlM body b) :=
  within_foldlM_of_mem (fun b i _ => turn b i) b

theorem within_forM_of_mem {body : ι → Prog ε σ PUnit} {items : List ι}
    (turn : ∀ i ∈ items, Within env R (body i)) : Within env R (items.forM body) := by
  induction items with
  | nil => exact Within.pure (PUnit.unit)
  | cons i rest ih =>
    exact within_bind (turn i List.mem_cons_self)
      (fun _ => ih fun i member => turn i (List.mem_cons_of_mem _ member))

instance Within.forM (body : ι → Prog ε σ PUnit) [turn : ∀ i, Within env R (body i)]
    (items : List ι) : Within env R (items.forM body) :=
  within_forM_of_mem fun i _ => turn i

end

/-! ## Programs that are never cut off -/

/-- From every state the program ends with a value. -/
class Completes (env : ε) (m : Prog ε σ α) : Prop where
  ends : ∀ s, Ends m env s (fun _ _ => True) fun _ => False

theorem Completes.within {m : Prog ε σ α} (whole : Completes env m) (moved : Within env R m)
    (s : σ) : Ends m env s (fun _ s' => R s s') fun _ => False :=
  ((moved.ends s).and (whole.ends s)).mono (fun _ _ both => both.1) fun _ both => both.2

/-- A run through a part that ends, and of which otherwise only its moves are known. -/
theorem Within.bind_completes {S : σ → σ → Prop} {m : Prog ε σ α} {f : α → Prog ε σ β}
    {ended : β → σ → Prop} [first : Within env S m] [whole : Completes env m]
    (rest : ∀ a s', S s s' → Ends (f a) env s' ended cutOff) :
    Ends (m >>= f) env s ended cutOff :=
  (ends_bind m f).mpr ((whole.within first s).mono rest fun _ never => never.elim)

instance Completes.pure (a : α) : Completes env (pure a : Prog ε σ α) := ⟨fun _ => trivial⟩

instance Completes.look : Completes env (Prog.look : Prog ε σ σ) := ⟨fun _ => trivial⟩

instance Completes.outside : Completes env (Prog.outside : Prog ε σ ε) := ⟨fun _ => trivial⟩

instance Completes.update (f : σ → σ) : Completes env (Prog.update f : Prog ε σ Unit) :=
  ⟨fun _ => trivial⟩

theorem completes_bind {m : Prog ε σ α} {f : α → Prog ε σ β} (first : Completes env m)
    (rest : ∀ a, Completes env (f a)) : Completes env (m >>= f) :=
  ⟨fun s => (ends_bind m f).mpr ((first.ends s).mono (fun a s' _ => (rest a).ends s')
    fun _ never => never)⟩

instance Completes.bind (m : Prog ε σ α) (f : α → Prog ε σ β) [first : Completes env m]
    [rest : ∀ a, Completes env (f a)] : Completes env (m >>= f) := completes_bind first rest

instance Completes.ite (c : Prop) [Decidable c] (m n : Prog ε σ α) [Completes env m]
    [Completes env n] : Completes env (if c then m else n) := by
  split <;> infer_instance

instance Completes.when (c : Bool) (m : Prog ε σ Unit) [Completes env m] :
    Completes env (Prog.when c m) := by
  unfold Prog.when
  infer_instance

instance Completes.discard (m : Prog ε σ α) [first : Completes env m] :
    Completes env (discard m : Prog ε σ Unit) := completes_bind first fun _ => Completes.pure ()

instance Completes.forLoop (body : β → ι → Prog ε σ (β ⊕ α)) [turn : ∀ b i, Completes env (body b i)]
    (items : List ι) (b : β) : Completes env (Prog.forLoop body items b) := by
  induction items generalizing b with
  | nil => exact Completes.pure _
  | cons i rest ih =>
    refine completes_bind (turn b i) fun r => ?_
    cases r with
    | inl next => exact ih next
    | inr a => exact Completes.pure _

instance Completes.foldlM (body : β → ι → Prog ε σ β) [turn : ∀ b i, Completes env (body b i)]
    (items : List ι) (b : β) : Completes env (items.foldlM body b) := by
  induction items generalizing b with
  | nil => exact Completes.pure b
  | cons i rest ih =>
    rw [List.foldlM_cons]
    exact completes_bind (turn b i) ih

instance Completes.forM (body : ι → Prog ε σ PUnit) [turn : ∀ i, Completes env (body i)]
    (items : List ι) : Completes env (items.forM body) := by
  induction items with
  | nil => exact Completes.pure (PUnit.unit)
  | cons i rest ih => exact completes_bind (turn i) fun _ => ih

end Interactive
