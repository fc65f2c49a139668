import Firestarter.ChipAccess
import Firestarter.Observation

/-! Observers of a command. One goes through the command's events and through what its callbacks do
to the chip, and tells as it goes whether the rules are still kept. -/
namespace Firestarter

open Interactive Interactive.Prog

namespace Event

theorem isNoise_of_access {e : Event} {a : Access} (access : e.access = some a) :
    e.isNoise = true := by
  cases e <;> first | rfl | cases access

theorem access_of_report {e : Event} (report : e.isReportNoise = true) : e.access = none := by
  cases e <;> first | rfl | cases report

end Event

theorem Moves.logged {κ : Type} {part : World → κ} {noise : Event → Bool} {w w' : World}
    (moved : Moves part noise w w') (queue : w.QueuesReports) : ∃ log, Logged log w w' := by
  obtain ⟨-, new, trace, -⟩ := moved.adds queue
  exact ⟨accessLog new, new, trace, rfl⟩

/-- Someone who follows the events of a command and tells, event by event, whether it still obeys
the rules. Of the noise only the accesses to the chip are heard. -/
structure Observer (σ : Type) where
  start : σ
  observe : σ → Event → Option σ
  touch : σ → Access → Option σ
  touches : ∀ {p e a}, e.access = some a → observe p e = touch p a
  deaf : ∀ p e, e.isNoise = true → e.access = none → observe p e = some p

namespace Observer

variable {σ : Type}

/-- One who looks at the accesses apart from the other events. -/
def ofAccesses (start : σ) (observe : σ → Event → Option σ) (touch : σ → Access → Option σ)
    (deaf : ∀ p e, e.isNoise = true → e.access = none → observe p e = some p) : Observer σ where
  start := start
  observe p e := e.access.elim (observe p e) (touch p)
  touch := touch
  touches access := by rw [access, Option.elim_some]
  deaf p e noise other := by rw [other, Option.elim_none, deaf p e noise other]

/-- One who does not look at the chip. -/
def ofEvents (start : σ) (observe : σ → Event → Option σ)
    (deaf : ∀ p e, e.isNoise = true → observe p e = some p) : Observer σ where
  start := start
  observe := observe
  touch p _ := some p
  touches access := deaf _ _ (Event.isNoise_of_access access)
  deaf p e noise _ := deaf p e noise

theorem ofAccesses_observe {start : σ} {observe : σ → Event → Option σ}
    {touch : σ → Access → Option σ}
    {deaf : ∀ p e, e.isNoise = true → e.access = none → observe p e = some p} {p : σ} {e : Event}
    (other : e.access = none) : (ofAccesses start observe touch deaf).observe p e = observe p e := by
  show e.access.elim (observe p e) (touch p) = _
  rw [other, Option.elim_none]

variable (O : Observer σ)

/-- From knowing `p`, the events obey the rules and leave the observer knowing `q`. -/
def Sees (p : σ) (es : List Event) (q : σ) : Prop := es.foldlM O.observe p = some q

/-- The events of a command, from its beginning. -/
def Follows (es : List Event) (p : σ) : Prop := O.Sees O.start es p

/-- The accesses, one after another. -/
def Touches (p : σ) (log : List Access) (q : σ) : Prop := log.foldlM O.touch p = some q

/-- Whatever is done to the chip is passed over. -/
def Quiet : Prop := ∀ p a, O.touch p a = some p

theorem quiet_ofEvents {start : σ} {observe : σ → Event → Option σ}
    {deaf : ∀ p e, e.isNoise = true → observe p e = some p} :
    (ofEvents start observe deaf).Quiet := fun _ _ => rfl

theorem Quiet.touches {O : Observer σ} (quiet : O.Quiet) (p : σ) (log : List Access) :
    O.Touches p log p := by
  induction log with
  | nil => rfl
  | cons a log ih =>
    unfold Touches at ih ⊢
    rw [List.foldlM_cons, quiet p a]
    exact ih

theorem sees_append {p q r : σ} {es new : List Event} (first : O.Sees p es q)
    (more : O.Sees q new r) : O.Sees p (es ++ new) r := by
  unfold Sees at first more ⊢
  rw [List.foldlM_append, first]
  exact more

theorem sees_cons {p q r : σ} {e : Event} {es : List Event} (first : O.observe p e = some q)
    (more : O.Sees q es r) : O.Sees p (e :: es) r := by
  unfold Sees
  rw [List.foldlM_cons, first]
  exact more

theorem sees_uncons {p q : σ} {e : Event} {es : List Event} (sees : O.Sees p (e :: es) q) :
    ∃ p', O.observe p e = some p' ∧ O.Sees p' es q := by
  unfold Sees at sees
  rw [List.foldlM_cons] at sees
  exact Option.bind_eq_some_iff.mp sees

theorem sees_one {p q : σ} {e : Event} (seen : O.observe p e = some q) : O.Sees p [e] q :=
  O.sees_cons seen rfl

/-- What was followed up to an event was followed before it, and the event was seen. -/
theorem follows_split {pre post : List Event} {e : Event} {p : σ}
    (follows : O.Follows (pre ++ e :: post) p) :
    ∃ q q', O.Follows pre q ∧ O.observe q e = some q' ∧ O.Sees q' post p := by
  unfold Follows Sees at follows
  rw [List.foldlM_append] at follows
  obtain ⟨q, before, follows⟩ := Option.bind_eq_some_iff.mp follows
  rw [List.foldlM_cons] at follows
  obtain ⟨q', seen, after⟩ := Option.bind_eq_some_iff.mp follows
  exact ⟨q, q', before, seen, after⟩

theorem follows_snoc {es : List Event} {e : Event} {q : σ} :
    O.Follows (es ++ [e]) q ↔ ∃ p, O.Follows es p ∧ O.observe p e = some q := by
  constructor
  · intro follows
    obtain ⟨p, q', before, seen, same⟩ := O.follows_split follows
    obtain rfl := Option.some.inj same
    exact ⟨p, before, seen⟩
  · rintro ⟨p, before, seen⟩
    exact O.sees_append before (O.sees_one seen)

/-- Of the noise only the accesses are heard. -/
theorem sees_noise {p q : σ} {es : List Event} (noise : ∀ e ∈ es, e.isNoise = true)
    (touches : O.Touches p (es.filterMap Event.access) q) : O.Sees p es q := by
  induction es generalizing p with
  | nil => exact touches
  | cons e es ih =>
    have later : ∀ e ∈ es, e.isNoise = true :=
      fun e member => noise e (List.mem_cons_of_mem _ member)
    cases access : e.access with
    | none =>
      rw [List.filterMap_cons_none access] at touches
      exact O.sees_cons (O.deaf p e (noise e List.mem_cons_self) access) (ih later touches)
    | some a =>
      rw [List.filterMap_cons_some access] at touches
      unfold Touches at touches
      rw [List.foldlM_cons] at touches
      obtain ⟨p', touched, touches⟩ := Option.bind_eq_some_iff.mp touches
      exact O.sees_cons ((O.touches access).trans touched) (ih later touches)

/-- Reports are not heard. -/
theorem sees_reports {p : σ} {es : List Event} (reports : ∀ e ∈ es, e.isReportNoise = true) :
    O.Sees p es p := by
  refine O.sees_noise (fun e member => Event.isNoise_of_report (reports e member)) ?_
  rw [List.filterMap_eq_nil_iff.mpr fun e member => Event.access_of_report (reports e member)]
  rfl

/-! ## Along a run -/

/-- The observer has followed the running command, which was accepted with `h`. -/
def Tracks (h : Handle) (p : σ) (w : World) : Prop :=
  w.QueuesReports ∧ ∃ es, commandEvents w.trace = some (h, es) ∧ O.Follows es p

variable {O} {h : Handle} {p q : σ} {w w' : World}

/-- What changes only the handle goes unseen. -/
theorem Tracks.handle (t : O.Tracks h p w) (f : Handle) : O.Tracks h p { w with handle := f } := t

/-- What is done to the chip is heard, one access after another. -/
theorem Tracks.driven {κ : Type} {part : World → κ} {noise : Event → Bool} (t : O.Tracks h p w)
    (moved : Moves part noise w w') (heard : ∀ e, noise e = true → e.isNoise = true)
    {log : List Access} (logged : Logged log w w') (touches : O.Touches p log q) :
    O.Tracks h q w' := by
  obtain ⟨queue, es, events, follows⟩ := t
  obtain ⟨queue', new, trace, noisy⟩ := moved.adds queue
  obtain ⟨new', trace', same⟩ := logged
  obtain rfl : new = new' := List.append_cancel_right (trace.symm.trans trace')
  have inside : ∀ e ∈ new, e.isNoise = true := fun e member => heard e (noisy e member)
  refine ⟨queue', es ++ new.reverse, ?_, O.sees_append follows (O.sees_noise ?_ ?_)⟩
  · rw [trace, commandEvents_append new fun e member => Event.isBoundary_of_isNoise (inside e member),
      events]
    rfl
  · intro e member
    exact inside e (List.mem_reverse.mp member)
  · rw [List.filterMap_reverse]
    have same : (new.filterMap Event.access).reverse = log := same
    rw [same]
    exact touches

theorem Tracks.moves {κ : Type} {part : World → κ} (t : O.Tracks h p w)
    (moved : Moves part Event.isReportNoise w w') : O.Tracks h p w' := by
  obtain ⟨-, new, trace, noise⟩ := moved.adds t.1
  have logged : Logged [] w w' :=
    ⟨new, trace, accessLog_quiet fun e member => Event.access_of_report (noise e member)⟩
  exact t.driven moved (fun _ => Event.isNoise_of_report) logged rfl

/-- A noted event is followed when it is seen to obey the rules. -/
theorem Tracks.note (t : O.Tracks h p w) (e : Event) (inside : e.isBoundary = false)
    (seen : O.observe p e = some q) (trace : w'.trace = e :: w.trace)
    (queue : w'.deferredLog = w.deferredLog)
    (mode : w'.comMode = true → w.comMode = true := by exact id) : O.Tracks h q w' := by
  obtain ⟨reports, es, events, follows⟩ := t
  refine ⟨⟨?_, fun speaks => ?_⟩, es ++ [e], ?_, O.follows_snoc.mpr ⟨p, follows, seen⟩⟩
  · rw [queue]
    exact reports.1
  · rw [queue]
    exact reports.2 (mode speaks)
  · rw [trace, commandEvents_cons inside, events]
    rfl

end Observer

end Firestarter
