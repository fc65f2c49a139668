import Firestarter.PhaseObservation
import Mathlib.Data.List.Induction
import Mathlib.Tactic.SplitIfs

/-! The order of a command's phases: every run of the phase engine opens, serves and closes its
phases one after the other, whatever the host sends, the clock reads or the callbacks answer. -/
namespace Firestarter

open Interactive Interactive.Prog

/-! ## What the events tell -/

/-- The values the state number takes, in order. -/
def stateNumbers (es : List Event) : List Nat :=
  es.filterMap fun | .advanced n => some n.toNat | _ => none

/-- A call, with the state number at which it was made. -/
def callOf (n : Nat) : Event → List Nat
  | .called .. => [n]
  | _ => []

/-- The state numbers at which callbacks were entered, in order. -/
def callNumbers (es : List Event) : List Nat := readOff numberAfter callOf 0 es

/-- The three frames that end a phase. -/
def doneFrames : List U8 := [msgInitDone, msgMainDone, msgEndDone]

def phaseFrames (es : List Event) : List U8 :=
  es.filterMap fun | .emitted id _ => if id ∈ doneFrames then some id else none | _ => none

/-- The callback of the phase with this state number. -/
def Handle.phaseCallback (h : Handle) (n : Nat) : Option Callback :=
  if n = 1 then h.firestarterOperationInit
  else if n = 3 then h.firestarterOperationMain
  else if n = 5 then h.firestarterOperationEnd
  else none

/-- Reads and writes call their main callback once for every chunk; every other operation is a
single step. -/
def Handle.isSingleStep (h : Handle) : Bool := h.cmd != cmdRead && h.cmd != cmdWrite

/-- An ACK of the host was consumed while the state number was the one before `n`. -/
def AckedFor (es : List Event) (n : Nat) : Prop :=
  ∃ before payload after, es = before ++ .message .ack payload :: after ∧
    stateNumber before + 1 = n

/-- The events of one command keep the order of the phases. -/
structure PhaseOrder (h : Handle) (es : List Event) : Prop where
  /-- The phase messages are a prefix of the three, each at most once. -/
  frames : phaseFrames es <+: doneFrames
  /-- The state number moves through 1 to 6 only upwards, one by one. -/
  numbers : stateNumbers es <+: [1, 2, 3, 4, 5, 6]
  /-- A callback is the one of the phase it starts in, the handle then has that phase's number, and
  an ACK of the host was consumed for the phase. -/
  acked : ∀ pre callback entry post, es = pre ++ .called callback entry :: post →
    h.phaseCallback (stateNumber pre) = some callback ∧
      entry.stateNumber.toNat = stateNumber pre ∧ AckedFor pre (stateNumber pre)
  /-- The callbacks of INIT and END run at most once. -/
  once : (callNumbers es).count 1 ≤ 1 ∧ (callNumbers es).count 5 ≤ 1
  /-- A single-step callback runs exactly once before MAIN_DONE. -/
  single : h.isSingleStep = true → ∀ pre params post,
    es = pre ++ .emitted msgMainDone params :: post → (callNumbers pre).count 3 = 1
  /-- After a callback that ended with an error response, no callback runs. -/
  failed : ∀ pre callback code post, es = pre ++ .returned callback code :: post →
    isGoodResponse code = false → ∀ callback entry, .called callback entry ∉ post

/-! ## The observer -/

/-- What an observer of the phases keeps in mind. -/
structure PhaseView where
  number : Nat := 0
  acked : Bool := false
  called : Bool := false
  mainCalled : Bool := false
  failed : Bool := false
  frames : Nat := 0
  deriving DecidableEq, Repr

namespace PhaseView

def observe (h : Handle) (p : PhaseView) : Event → Option PhaseView
  | .advanced n =>
    if n.toNat = p.number + 1 ∧ p.number < 6 ∧ (p.number % 2 = 0 → p.acked = true) then
      some { p with number := n.toNat, acked := false, called := false }
    else none
  | .emitted id _ =>
    if id ∉ doneFrames then some p
    else if id = msgInitDone ∧ p.frames = 0 ∨ id = msgEndDone ∧ p.frames = 2 ∨
        id = msgMainDone ∧ p.frames = 1 ∧ (h.isSingleStep = true → p.mainCalled = true) then
      some { p with frames := p.frames + 1 }
    else none
  | .message .ack _ => some { p with acked := true }
  | .called callback entry =>
    if p.failed = false ∧ h.phaseCallback p.number = some callback ∧
        entry.stateNumber.toNat = p.number ∧ (p.called = true → p.number = 3 ∧ h.isSingleStep = false) then
      some { p with called := true, mainCalled := p.mainCalled || p.number == 3 }
    else none
  | .returned _ code => some { p with failed := p.failed || !isGoodResponse code }
  | _ => some p

theorem observe_noise (h : Handle) (p : PhaseView) {e : Event} (noise : e.isNoise = true) :
    p.observe h e = some p := by
  cases e with
  | emitted id params =>
    have report : isReport id = true := by simpa [Event.isNoise, Event.isReportNoise,
      Event.isShieldNoise] using noise
    have other : id ∉ doneFrames := by
      intro member
      simp only [doneFrames, List.mem_cons, List.not_mem_nil, or_false] at member
      obtain (rfl | rfl | rfl) := member <;> cases report
    show (if id ∉ doneFrames then some p else _) = some p
    rw [if_pos other]
  | _ => first | rfl | cases noise

end PhaseView

/-- The observer of a command's phases. -/
def phaseObserver (h : Handle) : Observer PhaseView :=
  .ofEvents {} (PhaseView.observe h) fun p _ => p.observe_noise h

/-! ## What the observer has seen -/

theorem callNumbers_snoc (es : List Event) (e : Event) :
    callNumbers (es ++ [e]) = callNumbers es ++ callOf (stateNumber es) e := by
  unfold callNumbers
  rw [readOff_append]
  exact congrArg _ (List.append_nil _)

theorem AckedFor.append {es : List Event} {n : Nat} (acked : AckedFor es n) (more : List Event) :
    AckedFor (es ++ more) n := by
  obtain ⟨before, payload, after, rfl, same⟩ := acked
  exact ⟨before, payload, after ++ more, by rw [List.append_assoc, List.cons_append], same⟩

/-- What an observer that knows `p` has seen. -/
structure PhaseView.Known (h : Handle) (es : List Event) (p : PhaseView) : Prop where
  number : stateNumber es = p.number
  inOrder : stateNumbers es = [1, 2, 3, 4, 5, 6].take p.number
  bound : p.number ≤ 6
  frames : phaseFrames es = doneFrames.take p.frames
  acked : p.acked = true → AckedFor es (p.number + 1)
  opened : p.number % 2 = 1 → AckedFor es p.number
  calls : ∀ n ∈ callNumbers es, n ≤ p.number
  fresh : p.called = false → p.number ∉ callNumbers es
  once : ∀ n, (n = 3 → h.isSingleStep = true) → (callNumbers es).count n ≤ 1
  main : p.mainCalled = true → 3 ∈ callNumbers es

namespace PhaseView.Known

variable {h : Handle} {es : List Event} {p q : PhaseView}

theorem start (h : Handle) : Known h [] {} where
  number := rfl
  inOrder := rfl
  bound := by decide
  frames := rfl
  acked := nofun
  opened := nofun
  calls := nofun
  fresh _ := nofun
  once _ _ := Nat.zero_le 1
  main := nofun

/-- An event that is neither a step of the state number, nor a phase message, nor a call. -/
theorem other (k : Known h es p) (e : Event) (number : numberAfter p.number e = p.number)
    (numbers : stateNumbers [e] = []) (frames : phaseFrames [e] = [])
    (calls : callOf p.number e = []) : Known h (es ++ [e]) p where
  number := by rw [stateNumber_snoc, k.number, number]
  inOrder := by rw [stateNumbers, List.filterMap_append, ← stateNumbers, ← stateNumbers, numbers,
    List.append_nil, k.inOrder]
  bound := k.bound
  frames := by rw [phaseFrames, List.filterMap_append, ← phaseFrames, ← phaseFrames, frames,
    List.append_nil, k.frames]
  acked acked := (k.acked acked).append _
  opened odd := (k.opened odd).append _
  calls := by rw [callNumbers_snoc, k.number, calls, List.append_nil]; exact k.calls
  fresh := by rw [callNumbers_snoc, k.number, calls, List.append_nil]; exact k.fresh
  once := by rw [callNumbers_snoc, k.number, calls, List.append_nil]; exact k.once
  main := by rw [callNumbers_snoc, k.number, calls, List.append_nil]; exact k.main

theorem advanced (k : Known h es p) {n : U8} (next : n.toNat = p.number + 1) (more : p.number < 6)
    (acked : p.number % 2 = 0 → p.acked = true) :
    Known h (es ++ [.advanced n]) { p with number := n.toNat, acked := false, called := false } where
  number := stateNumber_snoc es _
  inOrder := by
    have taken : ∀ i < 6, [1, 2, 3, 4, 5, 6].take i ++ [i + 1] = [1, 2, 3, 4, 5, 6].take (i + 1) := by
      decide
    rw [stateNumbers, List.filterMap_append, ← stateNumbers, k.inOrder]
    show _ ++ [n.toNat] = List.take n.toNat _
    rw [next]
    exact taken p.number more
  bound := by
    show n.toNat ≤ 6
    omega
  frames := by
    rw [phaseFrames, List.filterMap_append, ← phaseFrames, k.frames]
    exact List.append_nil _
  acked := nofun
  opened odd := by
    have even : p.number % 2 = 0 := by
      have odd : n.toNat % 2 = 1 := odd
      omega
    show AckedFor _ n.toNat
    rw [next]
    exact (k.acked (acked even)).append _
  calls m member := by
    rw [callNumbers_snoc] at member
    have earlier := k.calls m (by simpa [callOf] using member)
    show m ≤ n.toNat
    omega
  fresh _ member := by
    rw [callNumbers_snoc] at member
    have earlier := k.calls _ (by simpa [callOf] using member)
    have earlier : n.toNat ≤ p.number := earlier
    omega
  once := by rw [callNumbers_snoc]; simpa [callOf] using k.once
  main := by rw [callNumbers_snoc]; simpa [callOf] using k.main

theorem emitted (k : Known h es p) {id : U8} {params : List U8} (isDone : id ∈ doneFrames)
    (next : doneFrames.take p.frames ++ [id] = doneFrames.take (p.frames + 1)) :
    Known h (es ++ [.emitted id params]) { p with frames := p.frames + 1 } where
  number := by rw [stateNumber_snoc]; exact k.number
  inOrder := by
    rw [stateNumbers, List.filterMap_append, ← stateNumbers, k.inOrder]
    exact List.append_nil _
  bound := k.bound
  frames := by
    rw [phaseFrames, List.filterMap_append, ← phaseFrames, k.frames]
    simpa [isDone] using next
  acked acked := (k.acked acked).append _
  opened odd := (k.opened odd).append _
  calls := by rw [callNumbers_snoc]; simpa [callOf] using k.calls
  fresh := by rw [callNumbers_snoc]; simpa [callOf] using k.fresh
  once := by rw [callNumbers_snoc]; simpa [callOf] using k.once
  main := by rw [callNumbers_snoc]; simpa [callOf] using k.main

theorem heardAck (k : Known h es p) (payload : List U8) :
    Known h (es ++ [.message .ack payload]) { p with acked := true } :=
  { k.other _ rfl rfl rfl rfl with
    acked := fun _ => ⟨es, payload, [], rfl, congrArg (· + 1) k.number⟩ }

theorem called (k : Known h es p) (callback : Callback) (entry : Handle)
    (again : p.called = true → p.number = 3 ∧ h.isSingleStep = false) :
    Known h (es ++ [.called callback entry])
      { p with called := true, mainCalled := p.mainCalled || p.number == 3 } where
  number := by rw [stateNumber_snoc]; exact k.number
  inOrder := by
    rw [stateNumbers, List.filterMap_append, ← stateNumbers, k.inOrder]
    exact List.append_nil _
  bound := k.bound
  frames := by
    rw [phaseFrames, List.filterMap_append, ← phaseFrames, k.frames]
    exact List.append_nil _
  acked acked := (k.acked acked).append _
  opened odd := (k.opened odd).append _
  calls n member := by
    rw [callNumbers_snoc, k.number] at member
    cases List.mem_append.mp member with
    | inl earlier => exact k.calls n earlier
    | inr now => exact Nat.le_of_eq (List.mem_singleton.mp now)
  fresh := nofun
  once n single := by
    rw [callNumbers_snoc, k.number, callOf, List.count_append]
    have earlier := k.once n single
    by_cases now : n = p.number
    · subst now
      have first : p.called = false := by
        by_contra repeated
        obtain ⟨main, streamed⟩ := again (by simpa using repeated)
        rw [single main] at streamed
        cases streamed
      rw [List.count_eq_zero_of_not_mem (k.fresh first)]
      simp
    · have elsewhere : n ∉ [p.number] := by simpa using now
      rw [List.count_eq_zero_of_not_mem elsewhere]
      exact earlier
  main known := by
    rw [callNumbers_snoc, k.number]
    refine List.mem_append.mpr ?_
    cases Bool.or_eq_true_iff.mp known with
    | inl earlier => exact .inl (k.main earlier)
    | inr now => exact .inr (by simpa [callOf] using (beq_iff_eq.mp now).symm)

theorem observe (k : Known h es p) {e : Event} (seen : p.observe h e = some q) :
    Known h (es ++ [e]) q := by
  cases e with
  | advanced n =>
    obtain ⟨⟨next, more, acked⟩, same⟩ := Option.ite_none_right_eq_some.mp seen
    exact Option.some.inj same ▸ k.advanced next more acked
  | emitted id params =>
    dsimp only [PhaseView.observe] at seen
    split at seen
    · rename_i isOther
      obtain rfl := Option.some.inj seen
      refine k.other _ rfl rfl ?_ rfl
      simp [phaseFrames, isOther]
    · rename_i isDone
      obtain ⟨order, same⟩ := Option.ite_none_right_eq_some.mp seen
      obtain rfl := Option.some.inj same
      refine k.emitted (by simpa using isDone) ?_
      obtain ⟨rfl, frames⟩ | ⟨rfl, frames⟩ | ⟨rfl, frames, -⟩ := order <;> rw [frames] <;> rfl
  | message kind payload =>
    cases kind with
    | ack => exact Option.some.inj seen ▸ k.heardAck payload
    | _ => exact Option.some.inj seen ▸ k.other _ rfl rfl rfl rfl
  | called callback entry =>
    obtain ⟨⟨-, -, -, again⟩, same⟩ := Option.ite_none_right_eq_some.mp seen
    exact Option.some.inj same ▸ k.called callback entry again
  | returned callback code =>
    have known := k.other (.returned callback code) rfl rfl rfl rfl
    exact Option.some.inj seen ▸ { known with }
  | _ => exact Option.some.inj seen ▸ k.other _ rfl rfl rfl rfl

theorem of_follows (follows : (phaseObserver h).Follows es p) : Known h es p := by
  induction es using List.reverseRecOn generalizing p with
  | nil => exact Option.some.inj follows ▸ start h
  | append_singleton es e ih =>
    obtain ⟨q, q', before, seen, after⟩ := (phaseObserver h).follows_split follows
    exact Option.some.inj after ▸ (ih before).observe seen

end PhaseView.Known

theorem PhaseView.observe_failed {h : Handle} {e : Event} {p q : PhaseView}
    (failed : p.failed = true) (seen : p.observe h e = some q) : q.failed = true := by
  cases e with
  | called callback entry =>
    obtain ⟨⟨fine, -⟩, -⟩ := Option.ite_none_right_eq_some.mp seen
    rw [failed] at fine
    cases fine
  | advanced n =>
    obtain ⟨-, same⟩ := Option.ite_none_right_eq_some.mp seen
    obtain rfl := Option.some.inj same
    exact failed
  | emitted id params =>
    dsimp only [PhaseView.observe] at seen
    split at seen
    · obtain rfl := Option.some.inj seen
      exact failed
    · obtain ⟨-, same⟩ := Option.ite_none_right_eq_some.mp seen
      obtain rfl := Option.some.inj same
      exact failed
  | message kind payload =>
    cases kind <;> obtain rfl := Option.some.inj seen <;> exact failed
  | returned callback code =>
    obtain rfl := Option.some.inj seen
    show (p.failed || !isGoodResponse code) = true
    rw [failed, Bool.true_or]
  | _ =>
    obtain rfl := Option.some.inj seen
    exact failed

/-- An observer who has seen a callback fail sees no other one. -/
theorem PhaseView.failed_stays {h : Handle} {es : List Event} {p q : PhaseView}
    (failed : p.failed = true) (follows : (phaseObserver h).Sees p es q) :
    ∀ callback entry, .called callback entry ∉ es := by
  induction es generalizing p with
  | nil => exact fun _ _ => nofun
  | cons e es ih =>
    obtain ⟨p', seen, follows⟩ := (phaseObserver h).sees_uncons follows
    intro callback entry member
    cases List.mem_cons.mp member with
    | inl first =>
      subst first
      obtain ⟨⟨fine, -⟩, -⟩ := Option.ite_none_right_eq_some.mp seen
      rw [failed] at fine
      cases fine
    | inr later => exact ih (PhaseView.observe_failed failed seen) follows callback entry later

/-- Events that can be followed keep the order of the phases. -/
theorem PhaseOrder.of_follows {h : Handle} {es : List Event} {p : PhaseView}
    (follows : (phaseObserver h).Follows es p) : PhaseOrder h es where
  frames := by
    rw [(PhaseView.Known.of_follows follows).frames]
    exact List.take_prefix _ _
  numbers := by
    rw [(PhaseView.Known.of_follows follows).inOrder]
    exact List.take_prefix _ _
  acked := by
    rintro pre callback entry post rfl
    obtain ⟨q, q', before, seen, -⟩ := (phaseObserver h).follows_split follows
    have known := PhaseView.Known.of_follows before
    obtain ⟨⟨-, itsPhase, number, -⟩, -⟩ := Option.ite_none_right_eq_some.mp seen
    rw [known.number]
    refine ⟨itsPhase, number, known.opened ?_⟩
    unfold Handle.phaseCallback at itsPhase
    split_ifs at itsPhase with first second third
    · rw [first]
    · rw [second]
    · rw [third]
  once := by
    have known := PhaseView.Known.of_follows follows
    exact ⟨known.once 1 nofun, known.once 5 nofun⟩
  single := by
    rintro single pre params post rfl
    obtain ⟨q, q', before, seen, -⟩ := (phaseObserver h).follows_split follows
    have known := PhaseView.Known.of_follows before
    obtain ⟨order, -⟩ := Option.ite_none_right_eq_some.mp seen
    have called : 3 ∈ callNumbers pre := by
      obtain ⟨other, -⟩ | ⟨other, -⟩ | ⟨-, -, called⟩ := order
      · cases other
      · cases other
      · exact known.main (called single)
    exact Nat.le_antisymm (known.once 3 fun _ => single) (List.count_pos_iff.mpr called)
  failed := by
    rintro pre callback code post rfl bad
    obtain ⟨q, q', -, seen, after⟩ := (phaseObserver h).follows_split follows
    refine PhaseView.failed_stays ?_ after
    refine Option.some.inj seen ▸ ?_
    show (q.failed || !isGoodResponse code) = true
    rw [bad]
    exact Bool.or_true _

/-! ## The engine keeps the order -/

variable {env : Env} {h : Handle}

/-- How many of the three phase messages have been sent. -/
def Stage.framesSent : Stage → Nat
  | beforeInit | inInit | initServed => 0
  | beforeMain | inMain => 1
  | beforeEnd | inEnd | endServed => 2
  | ended => 3

/-- What the observer knows in a stage, but for the calls. -/
structure PhaseView.At (st : Stage) (p : PhaseView) : Prop where
  number : p.number = st.number.toNat
  fine : p.failed = false
  frames : p.frames = st.framesSent

/-- What the observer knows in a stage; no callback that may run only once has run. -/
structure PhaseView.Fits (h : Handle) (st : Stage) (p : PhaseView) : Prop extends p.At st where
  house : st = .inInit ∨ st = .inEnd → p.called = false
  single : st = .inMain → h.isSingleStep = true → p.called = false

namespace PhaseView

variable {st next : Stage} {p : PhaseView}

theorem observe_done {id : U8} {params : List U8} (isDone : id ∈ doneFrames)
    (order : id = msgInitDone ∧ p.frames = 0 ∨ id = msgEndDone ∧ p.frames = 2 ∨
      id = msgMainDone ∧ p.frames = 1 ∧ (h.isSingleStep = true → p.mainCalled = true)) :
    p.observe h (.emitted id params) = some { p with frames := p.frames + 1 } := by
  dsimp only [PhaseView.observe]
  rw [if_neg (not_not_intro isDone), if_pos order]

/-- An ACK opens the next phase. -/
theorem Fits.opens (fits : p.Fits h st) (opening : st.opened = some next) :
    ∃ q, p.observe h (.message .ack []) = some { p with acked := true } ∧
      PhaseView.observe h { p with acked := true } (.advanced next.number) = some q ∧
      q.Fits h next := by
  refine ⟨{ p with number := next.number.toNat, acked := false, called := false }, rfl, ?_, ?_⟩
  · refine if_pos ⟨?_, ?_, fun _ => rfl⟩
    · show _ = p.number + 1
      rw [fits.number]
      cases st <;> cases opening <;> rfl
    · show p.number < 6
      rw [fits.number]
      cases st <;> cases opening <;> decide
  · refine { number := rfl, fine := fits.fine, frames := ?_, house := fun _ => rfl,
             single := fun _ _ => rfl }
    show p.frames = _
    rw [fits.frames]
    cases st <;> cases opening <;> rfl

/-- The callback of the phase may be entered. -/
theorem At.calls (at_stage : p.At st) {callback : Callback} {w : World} (e : Engaged h st w)
    (phase : h.phaseCallback st.number.toNat = some callback)
    (again : p.called = true → p.number = 3 ∧ h.isSingleStep = false) :
    p.observe h (.called callback w.handle) =
      some { p with called := true, mainCalled := p.mainCalled || p.number == 3 } := by
  refine if_pos ⟨at_stage.fine, ?_, ?_, again⟩
  · rw [at_stage.number]
    exact phase
  · rw [e.stateNumber, at_stage.number]

/-- The step of the state number and the message that end a phase. -/
theorem At.closes (at_stage : p.At st) {served : Stage} {frame : U8}
    (house : st.housekeeping = some (served, next, frame)) : p.At served :=
  ⟨by rw [at_stage.number]; cases st <;> cases house <;> rfl, at_stage.fine,
    by rw [at_stage.frames]; cases st <;> cases house <;> rfl⟩

/-- The main phase may end once a single step has run. -/
theorem At.mainDone (at_stage : p.At .inMain) (ran : h.isSingleStep = true → p.mainCalled = true)
    {w : World} (t : (phaseObserver h).Tracks h p w) :
    ∃ q, (phaseObserver h).Tracks h q w.mainDone ∧ q.Fits h .beforeEnd := by
  have number : p.number = 3 := at_stage.number
  have frames : p.frames = 1 := at_stage.frames
  have stepped : p.observe h (.advanced 4) =
      some { p with number := 4, acked := false, called := false } := by
    refine if_pos ⟨?_, ?_, ?_⟩
    · rw [number]
      rfl
    · rw [number]
      decide
    · rw [number]
      nofun
  have told : PhaseView.observe h { p with number := 4, acked := false, called := false }
      (.emitted msgMainDone []) =
        some { p with number := 4, acked := false, called := false, frames := p.frames + 1 } := by
    exact observe_done (by decide) (.inr (.inr ⟨rfl, frames, ran⟩))
  refine ⟨_, t.mainDone stepped told, ?_⟩
  exact { number := rfl, fine := at_stage.fine, frames := congrArg (· + 1) frames
          house := fun _ => rfl, single := nofun }

/-- In the main phase an observer hears messages and waits for nothing. -/
theorem Fits.message (fits : p.Fits h st) (kind : OpMessageType) (payload : List U8) :
    ∃ q, (phaseObserver h).observe p (.message kind payload) = some q ∧ q.Fits h st := by
  cases kind with
  | ack => exact ⟨_, rfl, { fits with }⟩
  | _ => exact ⟨_, rfl, fits⟩

theorem Fits.delivered (fits : p.Fits h st) {kind : OpMessageType} {w w' : World}
    (t : (phaseObserver h).Tracks h p w) (heard : Delivered kind w w') :
    ∃ q, (phaseObserver h).Tracks h q w' ∧ q.Fits h st := by
  cases heard with
  | incomplete link => exact ⟨p, t.moves link, fits⟩
  | @plain _ w _ notData taken link =>
    obtain ⟨q, seen, fits⟩ := fits.message kind []
    exact ⟨q, (t.moves link).note _ rfl seen rfl rfl, fits⟩
  | @data _ w size link =>
    obtain ⟨q, seen, fits⟩ := fits.message .data _
    exact ⟨q, (t.moves link).note _ rfl seen rfl rfl, fits⟩

/-- The main callback may be entered: the first time, or again for the next chunk. -/
theorem Fits.entersMain (fits : p.Fits h .inMain) {callback : Callback} {w : World}
    (found : h.firestarterOperationMain = some callback) (e : Engaged h .inMain w) :
    p.observe h (.called callback w.handle) =
      some { p with called := true, mainCalled := p.mainCalled || p.number == 3 } := by
  refine fits.calls e found fun called => ⟨fits.number, ?_⟩
  cases single : h.isSingleStep with
  | false => rfl
  | true =>
    rw [fits.single rfl single] at called
    cases called

/-- The main callback runs, once if it is a single step. -/
theorem Fits.executed (fits : p.Fits h .inMain) {callback : Callback} {w w' : World} {r : OpResult}
    (found : h.firestarterOperationMain = some callback) (e : Engaged h .inMain w)
    (t : (phaseObserver h).Tracks h p w) (ran : Executed callback CallbackStep w r w') :
    ∃ q, (phaseObserver h).Tracks h q w' ∧ (r ≠ .error → q.At .inMain ∧ q.mainCalled = true) := by
  have number : p.number = 3 := fits.number
  obtain ⟨code, q, seen, tracks, good⟩ :=
    Observer.quiet_ofEvents.executed t ran (fun _ _ step => step) (fits.entersMain found e)
      fun code => ⟨_, rfl⟩
  obtain rfl := Option.some.inj seen
  refine ⟨_, tracks, fun fine => ⟨⟨fits.number, ?_, fits.frames⟩, ?_⟩⟩
  · show (p.failed || !isGoodResponse code) = false
    rw [fits.fine, good.mpr fine]
    rfl
  · show (p.mainCalled || p.number == 3) = true
    rw [number]
    exact Bool.or_true _

/-- The callback of a housekeeping phase runs once. -/
theorem Fits.serves {served : Stage} {frame : U8} {callback : Callback} {w : World}
    (fits : p.Fits h st) (house : st.housekeeping = some (served, next, frame))
    (found : h.housekeeper st = some callback) (e : Engaged h st w) :
    ∃ q, p.observe h (.called callback w.handle) = some q ∧
      ∀ code, ∃ q', q.observe h (.returned callback code) = some q' ∧
        (isGoodResponse code = true → q'.Fits h served) := by
  have phase : h.phaseCallback st.number.toNat = some callback := by
    cases st with
    | inInit => exact found
    | inEnd => exact found
    | _ => cases found
  have once : p.called = false := by
    cases st with
    | inInit => exact fits.house (.inl rfl)
    | inEnd => exact fits.house (.inr rfl)
    | _ => cases found
  have at_served := fits.closes house
  refine ⟨_, fits.calls e phase fun called => ?_, fun code => ⟨_, rfl, fun good => ?_⟩⟩
  · rw [once] at called
    cases called
  · refine { number := at_served.number, fine := ?_, frames := at_served.frames, house := ?_,
             single := ?_ }
    · show (p.failed || !isGoodResponse code) = false
      rw [fits.fine, good]
      rfl
    · cases st <;> cases house <;> rintro (other | other) <;> cases other
    · cases st <;> cases house <;> nofun

/-- The message that closes a housekeeping phase, and the step of the state number after it. -/
theorem Fits.closed {served : Stage} {frame : U8} (fits : p.Fits h served)
    (house : st.housekeeping = some (served, next, frame)) :
    ∃ q q', p.observe h (.emitted frame []) = some q ∧
      q.observe h (.advanced next.number) = some q' ∧ q'.Fits h next := by
  have number := fits.number
  have frames := fits.frames
  have order : frame = msgInitDone ∧ p.frames = 0 ∨ frame = msgEndDone ∧ p.frames = 2 ∨
      frame = msgMainDone ∧ p.frames = 1 ∧ (h.isSingleStep = true → p.mainCalled = true) := by
    cases st <;> cases house
    · exact .inl ⟨rfl, frames⟩
    · exact .inr (.inl ⟨rfl, frames⟩)
  refine ⟨_, { p with frames := p.frames + 1, number := next.number.toNat, acked := false,
                      called := false }, observe_done ?_ order, if_pos ⟨?_, ?_, ?_⟩, ?_⟩
  · cases st <;> cases house <;> decide
  · refine { number := rfl, fine := fits.fine, frames := ?_, house := fun _ => rfl,
             single := fun _ _ => rfl }
    show p.frames + 1 = _
    rw [frames]
    cases st <;> cases house <;> rfl
  · show _ = p.number + 1
    rw [number]
    cases st <;> cases house <;> rfl
  · show p.number < 6
    rw [number]
    cases st <;> cases house <;> decide
  · show p.number % 2 = 0 → _
    rw [number]
    cases st <;> cases house <;> exact nofun

section
variable {callback : Callback} {w : World}

theorem Fits.cutShort (fits : p.Fits h .inMain) {w w' : World}
    (found : h.firestarterOperationMain = some callback) (e : Engaged h .inMain w)
    (t : (phaseObserver h).Tracks h p w)
    (cut : CutShort callback CallbackStep CallbackStep w w') :
    ∃ q, (phaseObserver h).Tracks h q w' := by
  exact Observer.quiet_ofEvents.cutShort t cut (fun _ _ step => step) (fun _ _ step => step)
    (fits.entersMain found e) fun code => ⟨_, rfl⟩

theorem Fits.pumps_single (fits : p.Fits h .inMain) (runs : callback ≠ .configureMemory)
    (found : h.firestarterOperationMain = some callback) (e : Engaged h .inMain w)
    (t : (phaseObserver h).Tracks h p w) :
    Ends (singleStepOperationCallback dispatch) env w
      (fun ok w' => (phaseObserver h).Pumped (fun st _ p => p.Fits h st) h ok w')
      (fun w' => ∃ q, (phaseObserver h).Tracks h q w') := by
  refine (ends_singleStepOperationCallback (.of_within runs) found e).mono (fun ok w' turn => ?_)
    fun w' cut => ?_
  · obtain ⟨r, rfl, turn, turned⟩ := turn
    refine Observer.pumped_of_turned turned ?_
    cases turn with
    | failed ran =>
      obtain ⟨q, tracks, -⟩ := fits.executed found e t ran
      exact ⟨q, tracks, nofun⟩
    | done ran link =>
      obtain ⟨q, tracks, good⟩ := fits.executed found e t ran
      obtain ⟨q', tracks, fits⟩ := (good nofun).1.mainDone (fun _ => (good nofun).2) (tracks.moves link)
      exact ⟨q', tracks, fun st same => Option.some.inj same ▸ fits⟩
  · cases cut with
    | running cut => exact fits.cutShort found e t cut
    | ending ran link =>
      obtain ⟨q, tracks, -⟩ := fits.executed found e t ran
      exact ⟨q, tracks.moves link⟩

theorem Fits.streams (at_stage : p.At .inMain) (streamed : h.isSingleStep = false) :
    p.Fits h .inMain where
  toAt := at_stage
  house := by rintro (other | other) <;> cases other
  single _ single := by
    rw [streamed] at single
    cases single

theorem Fits.mainDone (fits : p.Fits h .inMain) (streamed : h.isSingleStep = false)
    (t : (phaseObserver h).Tracks h p w) :
    ∃ q, (phaseObserver h).Tracks h q w.mainDone ∧
      ∀ st, some Stage.beforeEnd = some st → q.Fits h st := by
  obtain ⟨q, tracks, fits⟩ := fits.toAt.mainDone (fun single => by
    rw [streamed] at single
    cases single) t
  exact ⟨q, tracks, fun st same => Option.some.inj same ▸ fits⟩

theorem Fits.inMain (fits : p.Fits h .inMain) (t : (phaseObserver h).Tracks h p w) :
    ∃ q, (phaseObserver h).Tracks h q w ∧ ∀ st, some Stage.inMain = some st → q.Fits h st :=
  ⟨p, t, fun _ same => Option.some.inj same ▸ fits⟩

theorem observe_report {id : U8} {params : List U8} (other : id ∉ doneFrames) :
    (phaseObserver h).observe p (.emitted id params) = some p := if_pos other

theorem Fits.pumps_write (fits : p.Fits h .inMain) (runs : callback ≠ .configureMemory)
    (found : h.firestarterOperationMain = some callback) (e : Engaged h .inMain w)
    (streamed : h.isSingleStep = false) (t : (phaseObserver h).Tracks h p w) :
    Ends processIncomingData env w
      (fun ok w' => (phaseObserver h).Pumped (fun st _ p => p.Fits h st) h ok w')
      (fun w' => ∃ q, (phaseObserver h).Tracks h q w') := by
  refine (ends_processIncomingData (.of_within runs) found e).mono (fun ok w' turn => ?_)
    fun w' cut => ?_
  · obtain ⟨r, rfl, turn, turned⟩ := turn
    refine Observer.pumped_of_turned turned ?_
    cases turn with
    | overrun beyond => exact ⟨p, t.outOfRange, nofun⟩
    | complete reached link => exact fits.mainDone streamed (t.moves link)
    | waiting link => exact fits.inMain (t.moves link)
    | requested link first =>
      exact fits.inMain ((t.moves link).note _ rfl (observe_report (by decide)) rfl rfl)
    | finished heard unbounded link =>
      obtain ⟨q, tracks, fits⟩ := fits.delivered t heard
      exact fits.mainDone streamed ((tracks.handle _).moves link)
    | refused heard taken link =>
      obtain ⟨q, tracks, fits⟩ := fits.delivered t heard
      exact ⟨q, (tracks.handle _).moves link, nofun⟩
    | outside heard long =>
      obtain ⟨q, tracks, fits⟩ := fits.delivered t heard
      exact ⟨q, (tracks.handle _).outOfRange, nofun⟩
    | failed heard chunk ran =>
      obtain ⟨q, tracks, fits⟩ := fits.delivered t heard
      obtain ⟨q', tracks, -⟩ :=
        fits.executed found (e.delivered heard).answered (tracks.handle _) ran
      exact ⟨q', tracks, nofun⟩
    | wrote heard chunk ran =>
      obtain ⟨q, tracks, fits⟩ := fits.delivered t heard
      obtain ⟨q', tracks, good⟩ :=
        fits.executed found (e.delivered heard).answered (tracks.handle _) ran
      exact (Fits.streams (good nofun).1 streamed).inMain tracks
  · cases cut with
    | link link => exact ⟨p, t.moves link⟩
    | answered heard link =>
      obtain ⟨q, tracks, -⟩ := fits.delivered t heard
      exact ⟨q, (tracks.handle _).moves link⟩
    | running heard chunk cut =>
      obtain ⟨q, tracks, fits⟩ := fits.delivered t heard
      exact fits.cutShort found (e.delivered heard).answered (tracks.handle _) cut

theorem Fits.heard (fits : p.Fits h .inMain) {w w' : World} (t : (phaseObserver h).Tracks h p w)
    (heard : Heard w w') : ∃ q, (phaseObserver h).Tracks h q w' ∧ q.Fits h .inMain := by
  induction heard with
  | start => exact ⟨p, t, fits⟩
  | link _ link ih =>
    obtain ⟨q, tracks, fits⟩ := ih
    exact ⟨q, tracks.moves link, fits⟩
  | message _ _ heard ih =>
    obtain ⟨q, tracks, fits⟩ := ih
    exact fits.delivered tracks heard

/-- A chunk goes out and host messages come in. -/
theorem Fits.chunk (fits : p.Fits h .inMain) {w w' : World}
    (found : h.firestarterOperationMain = some callback) (e : Engaged h .inMain w)
    (streamed : h.isSingleStep = false) (t : (phaseObserver h).Tracks h p w) {opEnd : U32}
    {w₁ : World} (ran : Executed callback CallbackStep w .stop w₁)
    (heard : Heard (w₁.trimmed opEnd).chunkSent w') :
    ∃ q, (phaseObserver h).Tracks h q w' ∧ q.Fits h .inMain := by
  obtain ⟨q, tracks, good⟩ := fits.executed found e t ran
  have trimmed : (phaseObserver h).Tracks h q (w₁.trimmed opEnd) := tracks.handle _
  have announced : (phaseObserver h).Tracks h q { w₁.trimmed opEnd with
      trace := .emitted msgDataSending [] :: (w₁.trimmed opEnd).trace } :=
    trimmed.note _ rfl (observe_report (by decide)) rfl rfl
  have sent : (phaseObserver h).Tracks h q (w₁.trimmed opEnd).chunkSent := by
    unfold World.chunkSent
    split
    · exact announced.note (.emitted msgDataChunk _) rfl (observe_report (by decide)) rfl rfl
    · exact announced
  exact (Fits.streams (good nofun).1 streamed).heard sent heard

theorem Fits.pumps_read (fits : p.Fits h .inMain) (runs : callback ≠ .configureMemory)
    (found : h.firestarterOperationMain = some callback) (e : Engaged h .inMain w)
    (streamed : h.isSingleStep = false) (t : (phaseObserver h).Tracks h p w) :
    Ends processOutgoingData env w
      (fun ok w' => (phaseObserver h).Pumped (fun st _ p => p.Fits h st) h ok w')
      (fun w' => ∃ q, (phaseObserver h).Tracks h q w') := by
  refine (ends_processOutgoingData (.of_within runs) found e).mono (fun ok w' turn => ?_)
    fun w' cut => ?_
  · obtain ⟨r, rfl, turn, turned⟩ := turn
    refine Observer.pumped_of_turned turned ?_
    cases turn with
    | overrun beyond => exact ⟨p, t.outOfRange, nofun⟩
    | complete reached link => exact fits.mainDone streamed (t.moves link)
    | failed more ran =>
      obtain ⟨q, tracks, -⟩ := fits.executed found e t ran
      exact ⟨q, tracks, nofun⟩
    | unanswered more ran heard =>
      obtain ⟨q, tracks, -⟩ := fits.chunk found e streamed t ran heard
      exact ⟨q, tracks, nofun⟩
    | sent more ran heard acked rest =>
      obtain ⟨q, tracks, fits⟩ := fits.chunk found e streamed t ran heard
      obtain ⟨q, tracks, fits⟩ := fits.delivered tracks acked
      exact fits.inMain tracks
    | last more ran heard acked reached link =>
      obtain ⟨q, tracks, fits⟩ := fits.chunk found e streamed t ran heard
      obtain ⟨q, tracks, fits⟩ := fits.delivered tracks acked
      exact fits.mainDone streamed ((tracks.handle _).moves link)
  · cases cut with
    | link link => exact ⟨p, t.moves link⟩
    | running more cut => exact fits.cutShort found e t cut
    | hearing more ran heard =>
      obtain ⟨q, tracks, -⟩ := fits.chunk found e streamed t ran heard
      exact ⟨q, tracks⟩
    | ending more ran heard acked link =>
      obtain ⟨q, tracks, fits⟩ := fits.chunk found e streamed t ran heard
      obtain ⟨q, tracks, -⟩ := fits.delivered tracks acked
      exact ⟨q, (tracks.handle _).moves link⟩

theorem Fits.pumps (fits : p.Fits h .inMain) (runs : callback ≠ .configureMemory)
    (found : h.firestarterOperationMain = some callback) (e : Engaged h .inMain w)
    (t : (phaseObserver h).Tracks h p w) :
    Ends (mainPump h.cmd) env w
      (fun ok w' => (phaseObserver h).Pumped (fun st _ p => p.Fits h st) h ok w')
      (fun w' => ∃ q, (phaseObserver h).Tracks h q w') := by
  unfold mainPump
  split
  · rename_i reads
    exact fits.pumps_read runs found e (by simp [Handle.isSingleStep, beq_iff_eq.mp reads]) t
  split
  · rename_i writes
    exact fits.pumps_write runs found e (by simp [Handle.isSingleStep, beq_iff_eq.mp writes]) t
  · exact fits.pumps_single runs found e t

end

end PhaseView

/-- The observer of the phases can follow every command. -/
def phaseObservation (env : Env) (h : Handle) : PhaseObservation env h (mainPump h.cmd) where
  View := PhaseView
  observer := phaseObserver h
  fits st _ p := p.Fits h st
  begins _ _ _ := { number := rfl, fine := rfl, frames := rfl, house := fun _ => rfl,
                    single := fun _ _ => rfl }
  waits fits _ := fits
  hears kind payload _ _ fits := fits.message kind payload
  opens opening fits := by
    obtain ⟨q, acked, advanced, fits⟩ := PhaseView.Fits.opens fits opening
    exact ⟨_, q, acked, advanced, fun _ _ => fits⟩
  lacks {st _ _ _ _ _} house _ fits := by
    refine { PhaseView.At.closes fits.toAt house with house := ?_, single := ?_ }
    · cases st <;> cases house <;> rintro (other | other) <;> cases other
    · cases st <;> cases house <;> nofun
  serves settled house found e t fits := by
    obtain ⟨q, entered, returned⟩ := PhaseView.Fits.serves fits house found e
    refine Observer.quiet_ofEvents.serves settled found t entered fun code => ?_
    obtain ⟨q', seen, fits⟩ := returned code
    exact ⟨q', seen, fun good _ _ => fits good⟩
  closes house fits := PhaseView.Fits.closed fits house
  pumps found runs e t fits := PhaseView.Fits.pumps fits runs found e t
  finishes p := ⟨p, rfl⟩

/-- In every run the events of every memory command keep the order of the phases. -/
theorem phase_order {w : World} (seen : Seen env w) {es : List Event}
    (events : commandEvents w.trace = some (h, es)) (memory : isMemoryCmd h.cmd = true) :
    PhaseOrder h es := by
  obtain ⟨p, follows⟩ := follows_of_seen (phaseObservation env) seen events memory
  exact PhaseOrder.of_follows follows

/-- A Leonardo whose host reads four bytes of an SRAM, with all its ACKs sent ahead. -/
def sramReadEnv : Env :=
  (Env.still ⟨.leonardo, false⟩ 200).sends <|
    memoryFrame { cmd := cmdRead, memSize := 4, protocol := protoSram32Pin, pins := 32, vppMv := 5000,
                  busConfig := { addressLines := [], rwLine := 0xFF, vppLine := 0xFF } } ++
      [asciiO, asciiK, asciiO, asciiK, asciiO, asciiK, asciiO, asciiK]

/-- The read runs through its three phases. -/
theorem phase_order_sram_read : ∃ (w : World) (h : Handle) (es : List Event),
    commandEvents w.trace = some (h, es) ∧ phaseFrames es = doneFrames ∧ PhaseOrder h es := by
  have ran : commandAfter sramReadEnv 4 (fun _ h es => (isMemoryCmd h.cmd, phaseFrames es)) =
      some (true, doneFrames) := by
    decide +kernel
  obtain ⟨w, h, es, -, seen, events, ran⟩ := exists_of_commandAfter ran
  obtain ⟨memory, frames⟩ := Prod.mk.inj ran
  exact ⟨w, h, es, events, frames, phase_order seen events memory⟩

end Firestarter
