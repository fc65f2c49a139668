import Firestarter.Interactive
import Mathlib.Order.WellFounded

/-! Programs that are watched ever longer. The outsides come in a sequence, and what a program
returns is what it ends with in all of them from some member on; a loop returns when every turn
does and the turns cannot go on for ever. -/
namespace Interactive

variable {ε σ α β γ : Type} {env : Nat → ε} {s s' s'' : σ} {a a' : α} {b : β}

/-- From some outside of the sequence on, the program ends with this value in this state. -/
def Returns (env : Nat → ε) (m : Prog ε σ α) (s : σ) (a : α) (s' : σ) : Prop :=
  ∃ enough, ∀ n ≥ enough, m (env n) s = (some a, s')

variable {m : Prog ε σ α}

theorem Returns.of_run (run : ∀ n, m (env n) s = (some a, s')) : Returns env m s a s' :=
  ⟨0, fun n _ => run n⟩

theorem Returns.unique (returns : Returns env m s a s') (returns' : Returns env m s a' s'') :
    a = a' ∧ s' = s'' := by
  obtain ⟨N, run⟩ := returns
  obtain ⟨N', run'⟩ := returns'
  have same := (run (max N N') (Nat.le_max_left ..)).symm.trans (run' _ (Nat.le_max_right ..))
  obtain ⟨value, state⟩ := Prod.mk.inj same
  exact ⟨Option.some.inj value, state⟩

theorem Returns.bind {f : α → Prog ε σ β} (first : Returns env m s a s')
    (rest : Returns env (f a) s' b s'') : Returns env (m >>= f) s b s'' := by
  obtain ⟨N, first⟩ := first
  obtain ⟨N', rest⟩ := rest
  refine ⟨max N N', fun n enough => ?_⟩
  rw [bind_run, first n (by omega)]
  exact rest n (by omega)

/-- What the program ends with in every outside it returns. -/
theorem Returns.ended {ended : α → σ → Prop} {cutOff : σ → Prop} (returns : Returns env m s a s')
    (ends : ∀ n, Ends m (env n) s ended cutOff) : ended a s' := by
  obtain ⟨N, run⟩ := returns
  exact (ends_iff.mp (ends N)).1 a s' (run N (Nat.le_refl N))

theorem Returns.moved {R : σ → σ → Prop} (returns : Returns env m s a s')
    (within : ∀ n, Within (env n) R m) : R s s' := by
  obtain ⟨N, run⟩ := returns
  have moved := (within N).moves s
  rw [run N (Nat.le_refl N)] at moved
  exact moved

/-- The program returns as it should, or is past a point of no return however long it is watched. -/
def ReturnsOr (env : Nat → ε) (m : Prog ε σ α) (s : σ) (ended : α → σ → Prop) (beyond : σ → Prop) :
    Prop :=
  (∃ a s', Returns env m s a s' ∧ ended a s') ∨ ∃ enough, ∀ n ≥ enough, beyond (m (env n) s).2

section
variable {ended ended' : α → σ → Prop} {beyond : σ → Prop} {R : σ → σ → Prop}

theorem ReturnsOr.mono (returns : ReturnsOr env m s ended beyond)
    (value : ∀ a s', ended a s' → ended' a s') : ReturnsOr env m s ended' beyond :=
  returns.imp_left fun ⟨a, s', returns, kept⟩ => ⟨a, s', returns, value a s' kept⟩

theorem ReturnsOr.after {f : α → Prog ε σ β} {ended' : β → σ → Prop} {a : α} {s' : σ}
    (rest : ReturnsOr env (f a) s' ended' beyond) (first : Returns env m s a s') :
    ReturnsOr env (m >>= f) s ended' beyond := by
  rcases rest with ⟨b, s'', returns, kept⟩ | ⟨enough, past⟩
  · exact Or.inl ⟨b, s'', first.bind returns, kept⟩
  · obtain ⟨N, run⟩ := first
    refine Or.inr ⟨max N enough, fun n many => ?_⟩
    rw [bind_run, run n (by omega)]
    exact past n (by omega)

theorem ReturnsOr.bind {f : α → Prog ε σ β} {ended' : β → σ → Prop}
    (first : ReturnsOr env m s ended beyond)
    (rest : ∀ a s', ended a s' → ReturnsOr env (f a) s' ended' beyond)
    (within : ∀ n a, Within (env n) R (f a)) (onward : ∀ s s', beyond s → R s s' → beyond s') :
    ReturnsOr env (m >>= f) s ended' beyond := by
  rcases first with ⟨a, s', returns, kept⟩ | ⟨enough, past⟩
  · exact (rest a s' kept).after returns
  · refine Or.inr ⟨enough, fun n many => ?_⟩
    have past := past n many
    rw [bind_run]
    rcases run : m (env n) s with ⟨_ | a, s'⟩ <;> rw [run] at past
    · exact past
    · exact onward s' _ past ((within n a).moves s')

/-- The counted loop returns when every turn that leads on to the next one does. -/
theorem returnsOr_forLoop {ι : Type} [IsPreorder σ R] {body : β → ι → Prog ε σ (β ⊕ α)}
    (inv : β → σ → Prop)
    (turn : ∀ b i s, inv b s →
      ReturnsOr env (body b i) s (fun r s' => ∀ b', r = .inl b' → inv b' s') beyond)
    (within : ∀ n b i, Within (env n) R (body b i)) (onward : ∀ s s', beyond s → R s s' → beyond s')
    (items : List ι) (b : β) (s : σ) (start : inv b s) :
    ReturnsOr env (Prog.forLoop body items b) s (fun _ _ => True) beyond := by
  induction items generalizing b s with
  | nil => exact Or.inl ⟨.inl b, s, .of_run fun _ => rfl, trivial⟩
  | cons i rest ih =>
    refine (turn b i s start).bind (fun r s' kept => ?_) (fun n r => ?_) onward
    · cases r with
      | inl b' => exact ih b' s' (kept b' rfl)
      | inr a => exact Or.inl ⟨.inr a, s', .of_run fun _ => rfl, trivial⟩
    · cases r with
      | inl b' =>
        have (b : β) (i : ι) : Within (env n) R (body b i) := within n b i
        exact Within.forLoop body rest b'
      | inr a => exact Within.pure _

end

/-! ## Loops -/

/-- A loop returns for all large enough numbers of turns. -/
def LoopReturns (env : Nat → ε) (body : β → Prog ε σ (β ⊕ α)) (b : β) (s : σ) (a : α) (s' : σ) :
    Prop :=
  ∃ enough, ∀ turns ≥ enough, ∀ n ≥ enough, Prog.repeatUntil body turns b (env n) s = (some a, s')

variable {body : β → Prog ε σ (β ⊕ α)} {b b' : β}

theorem LoopReturns.leave (turn : Returns env (body b) s (.inr a) s') :
    LoopReturns env body b s a s' := by
  obtain ⟨N, turn⟩ := turn
  refine ⟨N + 1, fun turns many n enough => ?_⟩
  obtain ⟨turns, rfl⟩ := Nat.exists_eq_succ_of_ne_zero (n := turns) (by omega)
  rw [Prog.repeatUntil, bind_run, turn n (by omega)]
  rfl

theorem LoopReturns.again (turn : Returns env (body b) s (.inl b') s')
    (rest : LoopReturns env body b' s' a s'') : LoopReturns env body b s a s'' := by
  obtain ⟨N, turn⟩ := turn
  obtain ⟨N', rest⟩ := rest
  refine ⟨max N N' + 1, fun turns many n enough => ?_⟩
  obtain ⟨turns, rfl⟩ := Nat.exists_eq_succ_of_ne_zero (n := turns) (by omega)
  rw [Prog.repeatUntil, bind_run, turn n (by omega)]
  exact rest turns (by omega) n (by omega)

/-- The loop comes round from these locals in this state to those in that one. -/
inductive Rounds (env : Nat → ε) (body : β → Prog ε σ (β ⊕ α)) : β → σ → β → σ → Prop
  | here {b : β} {s : σ} : Rounds env body b s b s
  | turn {b b' b'' : β} {s s' s'' : σ} : Returns env (body b) s (.inl b') s' →
      Rounds env body b' s' b'' s'' → Rounds env body b s b'' s''

theorem Rounds.snoc {b'' : β} (rounds : Rounds env body b s b' s')
    (last : Returns env (body b') s' (.inl b'') s'') : Rounds env body b s b'' s'' := by
  induction rounds with
  | here => exact .turn last .here
  | turn first _ ih => exact .turn first (ih last)

/-- A loop that comes round to a state is past it however long it is watched. -/
theorem Rounds.onward {R : σ → σ → Prop} [IsPreorder σ R] (rounds : Rounds env body b s b' s')
    (within : ∀ n b, Within (env n) R (body b)) :
    ∃ enough, ∀ turns ≥ enough, ∀ n ≥ enough, R s' (Prog.repeatUntil body turns b (env n) s).2 := by
  induction rounds with
  | @here b s =>
    refine ⟨0, fun turns _ n _ => ?_⟩
    have (b : β) : Within (env n) R (body b) := within n b
    exact (Within.repeatUntil body turns b).moves s
  | @turn b b' b'' s s' s'' returns _ ih =>
    obtain ⟨N, returns⟩ := returns
    obtain ⟨enough, past⟩ := ih
    refine ⟨max N enough + 1, fun turns many n watched => ?_⟩
    obtain ⟨turns, rfl⟩ := Nat.exists_eq_succ_of_ne_zero (n := turns) (by omega)
    rw [Prog.repeatUntil, bind_run, returns n (by omega)]
    exact past turns (by omega) n (by omega)

/-- The loop rule: while every turn returns and those that go round again come down some
well-founded order, the loop returns, or comes round to a state in which the order counts no
more. -/
theorem loopReturns_or_rounds [Preorder γ] [WellFoundedLT γ] (μ : β → σ → γ) (inv : β → σ → Prop)
    {ended : α → σ → Prop} {beyond : σ → Prop}
    (turn : ∀ b s, inv b s → ∃ r s', Returns env (body b) s r s' ∧
      Sum.elim (fun b' => inv b' s' ∧ (μ b' s' < μ b s ∨ beyond s')) (fun a => ended a s') r)
    (b : β) (s : σ) (start : inv b s) :
    (∃ a s', LoopReturns env body b s a s' ∧ ended a s') ∨
      ∃ b' s', Rounds env body b s b' s' ∧ beyond s' := by
  obtain ⟨low, least⟩ : ∃ low, low = μ b s := ⟨_, rfl⟩
  induction low using WellFoundedLT.induction generalizing b s with
  | ind low ih =>
    obtain ⟨r, s', returns, kept⟩ := turn b s start
    cases r with
    | inr a => exact Or.inl ⟨a, s', LoopReturns.leave returns, kept⟩
    | inl b' =>
      obtain ⟨kept, lower | beyond⟩ := kept
      · rcases ih (μ b' s') (least ▸ lower) b' s' kept rfl with
          ⟨a, s'', loop, ended⟩ | ⟨b'', s'', rounds, beyond⟩
        · exact Or.inl ⟨a, s'', loop.again returns, ended⟩
        · exact Or.inr ⟨b'', s'', .turn returns rounds, beyond⟩
      · exact Or.inr ⟨b', s', .turn returns .here, beyond⟩

theorem loopReturns_of_measure [Preorder γ] [WellFoundedLT γ] (μ : β → σ → γ) (inv : β → σ → Prop)
    {ended : α → σ → Prop}
    (turn : ∀ b s, inv b s → ∃ r s', Returns env (body b) s r s' ∧
      Sum.elim (fun b' => inv b' s' ∧ μ b' s' < μ b s) (fun a => ended a s') r)
    (b : β) (s : σ) (start : inv b s) : ∃ a s', LoopReturns env body b s a s' ∧ ended a s' := by
  have rule : (∃ a s', LoopReturns env body b s a s' ∧ ended a s') ∨
      ∃ b' s', Rounds env body b s b' s' ∧ False := by
    refine loopReturns_or_rounds μ inv (fun b s kept => ?_) b s start
    obtain ⟨r, s', returns, kept⟩ := turn b s kept
    refine ⟨r, s', returns, ?_⟩
    cases r with
    | inl b' => exact ⟨kept.1, Or.inl kept.2⟩
    | inr a => exact kept
  rcases rule with returned | ⟨_, _, _, never⟩
  · exact returned
  · exact never.elim

end Interactive
