import Firestarter.MemoryParts
import Firestarter.PageWindows
import Firestarter.PhaseObservation
import Mathlib.Data.List.Induction

/-! A command's session with the part in the socket. What a driver has to keep to is told as a
contract: how the part may be left between two callbacks, and what a callback makes of it. A driver
whose callbacks keep to it, each by itself, keeps to it over every run. -/
namespace Firestarter

open Interactive Interactive.Prog MemoryPart

/-! ## What the part sees -/

namespace Access

/-- A strobe writes whether or not it is a timed pulse. -/
def cycle : Access → BusCycle U32
  | .read address _ => .read address
  | .wrote address data => .write address data
  | .flipped address data => .write address data

theorem cycle_of_polls {address : U32} {polls : List Access} (all : Polls address polls) :
    ∀ cycle ∈ polls.map Access.cycle, ∃ a, cycle = .read a := by
  intro cycle member
  obtain ⟨access, polled, rfl⟩ := List.mem_map.mp member
  obtain ⟨data, rfl⟩ := all access polled
  exact ⟨address, rfl⟩

end Access

/-- A callback that ends in a sequence waits for its cycle before it returns. -/
def cyclesOf : Event → List (BusCycle U32)
  | .returned .. => [.pause]
  | e => (e.access.map Access.cycle).toList

def cycles (es : List Event) : List (BusCycle U32) := es.flatMap cyclesOf

def Event.isReturn : Event → Bool
  | .returned .. => true
  | _ => false

theorem cyclesOf_quiet {e : Event} (other : e.access = none) (inside : e.isReturn = false) :
    cyclesOf e = [] := by
  cases e with
  | read | wrote | flipped => cases other
  | returned => cases inside
  | _ => rfl

/-- Whether a callback has been entered and has not returned. -/
def runningAfter (running : Bool) : Event → Bool
  | .called .. => true
  | .returned .. => false
  | _ => running

def callbackRuns (es : List Event) : Bool := es.foldl runningAfter false

/-- What a driver owes the part. -/
structure PartContract (σ : Type) where
  part : Device U32 σ
  start : σ
  /-- How the part may be left between two callbacks. -/
  between : σ → Prop
  /-- What a callback that was entered with this handle and left with this response may make of the
  part. -/
  served : Callback → Handle → U8 → σ → σ → Prop

namespace PartContract

variable {σ : Type} (K : PartContract σ)

/-- The part after these events. -/
def after (es : List Event) : Option σ := K.part.run K.start (cycles es)

/-- The events of a command keep to the contract. -/
structure Kept (es : List Event) : Prop where
  /-- The part is given no cycle that has no meaning to it. -/
  takes : ∃ s, K.after es = some s
  /-- Between two callbacks it is left as it may be. -/
  rests : ∀ pre post, es = pre ++ post → callbackRuns pre = false →
    ∃ s, K.after pre = some s ∧ K.between s
  /-- And every callback that has returned made of it what it may. -/
  calls : ∀ pre callback entry mid callback' code post,
    es = pre ++ .called callback entry :: (mid ++ .returned callback' code :: post) →
    (∀ e ∈ mid, e.isNoise = true) →
    ∃ s s', K.after pre = some s ∧
      K.after (pre ++ .called callback entry :: (mid ++ [.returned callback' code])) = some s' ∧
      K.served callback entry code s s'

/-! ## The observer -/

/-- What an observer of a session keeps in mind: the part, and the callback that runs, with its entry
and the part it found. -/
structure View (σ : Type) where
  state : σ
  call : Option (Callback × Handle × σ) := none

namespace View

open Classical in
noncomputable def observe (p : View σ) : Event → Option (View σ)
  | .called callback entry =>
    if p.call = none ∧ K.between p.state then some { p with call := some (callback, entry, p.state) }
    else none
  | .returned _ code =>
    match p.call with
    | none => none
    | some (callback, entry, found) =>
      match K.part.take p.state .pause with
      | none => none
      | some left =>
        if K.between left ∧ K.served callback entry code found left then some { state := left }
        else none
  | .advanced _ => if p.call = none then some p else none
  | .emitted id _ => if id = msgMainDone ∧ p.call ≠ none then none else some p
  | _ => some p

/-- Outside a callback the part is left alone. -/
def touch (p : View σ) (access : Access) : Option (View σ) :=
  if p.call = none then none
  else (K.part.take p.state access.cycle).map fun s => { p with state := s }

theorem observe_noise (p : View σ) {e : Event} (noise : e.isNoise = true) :
    p.observe K e = some p := by
  cases e with
  | emitted id params =>
    refine if_neg fun both => ?_
    obtain ⟨rfl, -⟩ := both
    cases noise
  | called | returned | advanced => cases noise
  | _ => rfl

end View

noncomputable def observer : Observer (View σ) :=
  .ofAccesses { state := K.start } (View.observe K) (View.touch K)
    fun p _ noise _ => p.observe_noise K noise

section
variable {K} {p q : View σ} {es : List Event} {e : Event}

/-- Any other event is passed over. -/
theorem View.observe_other (call : p.call = none) (aside : e.isAside = true)
    (inside : e.isReturn = false) : p.observe K e = some p := by
  cases e with
  | called callback entry => cases aside
  | returned callback code => cases inside
  | advanced n => exact if_pos call
  | emitted id params => exact if_neg fun both => both.2 call
  | _ => rfl

/-- The observer's part took the cycles. -/
theorem run_of_observe (heard : K.observer.observe p e = some q) :
    K.part.run p.state (cyclesOf e) = some q.state ∧
      (q.call.isSome = runningAfter p.call.isSome e) := by
  cases access : e.access with
  | some a =>
    have touched : p.touch K a = some q := (K.observer.touches access).symm.trans heard
    obtain ⟨-, s, taken, rfl⟩ : ¬p.call = none ∧ ∃ s, K.part.take p.state a.cycle = some s ∧
        { p with state := s } = q := by simpa [View.touch] using touched
    cases e with
    | read | wrote | flipped =>
      cases access
      exact ⟨by simpa [cyclesOf, Event.access] using taken, rfl⟩
    | _ => cases access
  | none =>
    have seen : p.observe K e = some q := (Observer.ofAccesses_observe access).symm.trans heard
    have quiet (same : p = q) (inside : e.isReturn = false) :
        K.part.run p.state (cyclesOf e) = some q.state := by
      rw [cyclesOf_quiet access inside, same]
      rfl
    cases e with
    | returned callback code =>
      dsimp only [View.observe] at seen
      split at seen
      · cases seen
      split at seen
      · cases seen
      rename_i taken
      obtain ⟨-, rfl⟩ : _ ∧ _ = q := by simpa using seen
      exact ⟨by simpa [cyclesOf] using taken, rfl⟩
    | called callback entry =>
      obtain ⟨-, rfl⟩ : _ ∧ _ = q := by simpa [View.observe] using seen
      exact ⟨rfl, rfl⟩
    | advanced n =>
      obtain ⟨-, same⟩ : _ ∧ p = q := by simpa [View.observe] using seen
      exact ⟨quiet same rfl, by rw [same]; rfl⟩
    | emitted id params =>
      have same : p = q := by
        dsimp only [View.observe] at seen
        split at seen
        · cases seen
        · exact Option.some.inj seen
      exact ⟨quiet same rfl, by rw [same]; rfl⟩
    | _ => exact ⟨quiet (Option.some.inj seen) rfl, by rw [Option.some.inj seen]; rfl⟩

theorem run_of_sees (sees : K.observer.Sees p es q) :
    K.part.run p.state (cycles es) = some q.state ∧
      q.call.isSome = es.foldl runningAfter p.call.isSome := by
  induction es generalizing p with
  | nil =>
    obtain rfl : p = q := Option.some.inj sees
    exact ⟨rfl, rfl⟩
  | cons e es ih =>
    obtain ⟨p', heard, rest⟩ := K.observer.sees_uncons sees
    obtain ⟨took, running⟩ := run_of_observe heard
    obtain ⟨takes, runs⟩ := ih rest
    rw [running] at runs
    exact ⟨Device.run_trans took takes, runs⟩

/-- Between two callbacks the part is left as it may be. -/
theorem between_of_observe (heard : K.observer.observe p e = some q)
    (before : p.call = none → K.between p.state) : q.call = none → K.between q.state := by
  cases access : e.access with
  | some a =>
    have touched : p.touch K a = some q := (K.observer.touches access).symm.trans heard
    obtain ⟨running, s, -, rfl⟩ : ¬p.call = none ∧ ∃ s, K.part.take p.state a.cycle = some s ∧
        { p with state := s } = q := by simpa [View.touch] using touched
    exact fun none => (running none).elim
  | none =>
    have seen : p.observe K e = some q := (Observer.ofAccesses_observe access).symm.trans heard
    cases e with
    | returned callback code =>
      dsimp only [View.observe] at seen
      split at seen
      · cases seen
      split at seen
      · cases seen
      obtain ⟨⟨between, -⟩, rfl⟩ : (K.between _ ∧ _) ∧ _ = q := by simpa using seen
      exact fun _ => between
    | called callback entry =>
      obtain ⟨-, rfl⟩ : _ ∧ _ = q := by simpa [View.observe] using seen
      exact fun none => (Option.some_ne_none _ none).elim
    | advanced n =>
      obtain ⟨-, rfl⟩ : _ ∧ p = q := by simpa [View.observe] using seen
      exact before
    | emitted id params =>
      dsimp only [View.observe] at seen
      split at seen
      · cases seen
      · rw [← Option.some.inj seen]
        exact before
    | _ =>
      rw [← Option.some.inj seen]
      exact before

theorem between_of_sees (sees : K.observer.Sees p es q)
    (before : p.call = none → K.between p.state) : q.call = none → K.between q.state := by
  induction es generalizing p with
  | nil =>
    obtain rfl : p = q := Option.some.inj sees
    exact before
  | cons e es ih =>
    obtain ⟨p', heard, rest⟩ := K.observer.sees_uncons sees
    exact ih rest (between_of_observe heard before)

/-- What a callback does is no other call. -/
theorem call_of_noise (noise : ∀ e ∈ es, e.isNoise = true) (sees : K.observer.Sees p es q) :
    q.call = p.call := by
  induction es generalizing p with
  | nil => exact congrArg View.call (Option.some.inj sees).symm
  | cons e es ih =>
    obtain ⟨p', heard, rest⟩ := K.observer.sees_uncons sees
    refine (ih (fun e member => noise e (List.mem_cons_of_mem _ member)) rest).trans ?_
    cases access : e.access with
    | some a =>
      have touched : p.touch K a = some p' := (K.observer.touches access).symm.trans heard
      obtain ⟨-, s, -, rfl⟩ : ¬p.call = none ∧ ∃ s, K.part.take p.state a.cycle = some s ∧
          { p with state := s } = p' := by simpa [View.touch] using touched
      rfl
    | none =>
      rw [K.observer.deaf p e (noise e List.mem_cons_self) access] at heard
      exact congrArg View.call (Option.some.inj heard).symm

/-- What can be followed keeps to the contract. -/
theorem Kept.of_follows (starts : K.between K.start) (follows : K.observer.Follows es p) :
    K.Kept es where
  takes := ⟨p.state, (run_of_sees follows).1⟩
  rests := by
    rintro pre post rfl idle
    unfold Observer.Follows Observer.Sees at follows
    rw [List.foldlM_append] at follows
    obtain ⟨q, before, -⟩ := Option.bind_eq_some_iff.mp follows
    obtain ⟨took, running⟩ := run_of_sees before
    refine ⟨q.state, took, between_of_sees before (fun _ => starts) ?_⟩
    have none : q.call.isSome = false := running.trans idle
    simpa using none
  calls := by
    rintro pre callback entry mid callback' code post rfl noise
    obtain ⟨q, q₁, before, entered, rest⟩ := K.observer.follows_split follows
    unfold Observer.Sees at rest
    rw [List.foldlM_append] at rest
    obtain ⟨q₂, inside, rest⟩ := Option.bind_eq_some_iff.mp rest
    obtain ⟨q₃, returned, -⟩ := K.observer.sees_uncons rest
    have whole : K.observer.Follows (pre ++ .called callback entry :: (mid ++
        [.returned callback' code])) q₃ := by
      refine K.observer.sees_append before ?_
      rw [← List.singleton_append]
      exact K.observer.sees_append (K.observer.sees_one entered)
        (K.observer.sees_append inside (K.observer.sees_one returned))
    have call : q₁ = { q with call := some (callback, entry, q.state) } := by
      have seen : q.observe K (.called callback entry) = some q₁ := entered
      obtain ⟨-, same⟩ : _ ∧ _ = q₁ := by simpa [View.observe] using seen
      exact same.symm
    have kept := call_of_noise noise inside
    rw [call] at kept
    have seen : q₂.observe K (.returned callback' code) = some q₃ := returned
    dsimp only [View.observe] at seen
    rw [kept] at seen
    dsimp only at seen
    split at seen
    · cases seen
    obtain ⟨⟨-, served⟩, rfl⟩ : (_ ∧ K.served _ _ _ _ _) ∧ _ = q₃ := by simpa using seen
    exact ⟨q.state, _, (run_of_sees before).1, (run_of_sees whole).1, served⟩

/-- Inside a callback the observer's part takes what the part takes. -/
theorem touches_of_run {log : List Access} {s : σ} (running : p.call ≠ none)
    (takes : K.part.run p.state (log.map Access.cycle) = some s) :
    K.observer.Touches p log { p with state := s } := by
  induction log generalizing p with
  | nil =>
    obtain rfl : p.state = s := Option.some.inj takes
    rfl
  | cons a log ih =>
    rw [List.map_cons, Device.run_cons] at takes
    obtain ⟨m, taken, takes⟩ := Option.bind_eq_some_iff.mp takes
    have touched : K.observer.touch p a = some { p with state := m } := by
      show p.touch K a = _
      rw [View.touch, if_neg running, taken]
      rfl
    have later : K.observer.Touches { p with state := m } log { p with state := s } :=
      ih (p := { p with state := m }) running takes
    unfold Observer.Touches at later ⊢
    rw [List.foldlM_cons, touched]
    exact later

end

/-! ## A callback by itself -/

/-- A run of a callback, as the part sees it. -/
def Serves (callback : Callback) (w w' : World) : Prop :=
  ∃ log, Logged log w w' ∧ ∀ s, K.between s → ∃ s',
    K.part.run s (log.map Access.cycle ++ [.pause]) = some s' ∧ K.between s' ∧
      K.served callback w.handle w'.handle.responseCode s s'

/-- A run that was cut off. -/
def Breaks (w w' : World) : Prop :=
  ∃ log, Logged log w w' ∧ ∀ s, K.between s → ∃ s', K.part.run s (log.map Access.cycle) = some s'

/-! ## What the callbacks add up to -/

/-- The callback that runs, with its entry, and what those before it have added up to. -/
structure Ledger (δ : Type) where
  running : Option (Callback × Handle) := none
  sum : δ

/-- Each callback that returns adds its item. -/
def Ledger.after {δ : Type} (item : Callback → Handle → U8 → δ → δ) (l : Ledger δ) :
    Event → Ledger δ
  | .called callback entry => { l with running := some (callback, entry) }
  | .returned _ code => { sum := l.running.elim l.sum fun run => item run.1 run.2 code l.sum }
  | _ => l

section
variable {K} {δ : Type} {item : Callback → Handle → U8 → δ → δ} {fits : δ → σ → Prop}
variable {p q : View σ} {l : Ledger δ} {e : Event} {es : List Event}

/-- What is known of the sum and the part along a session. -/
structure Balanced (fits : δ → σ → Prop) (l : Ledger δ) (p : View σ) : Prop where
  running : l.running = p.call.map fun run => (run.1, run.2.1)
  fits : fits l.sum (p.call.elim p.state fun run => run.2.2)

theorem Balanced.step (b : Balanced fits l p)
    (serves : ∀ {callback entry code d s s'}, fits d s → K.between s' →
      K.served callback entry code s s' → fits (item callback entry code d) s')
    (heard : K.observer.observe p e = some q) : Balanced fits (l.after item e) q := by
  obtain ⟨running, sum⟩ := b
  cases access : e.access with
  | some a =>
    have touched : p.touch K a = some q := (K.observer.touches access).symm.trans heard
    obtain ⟨runs, s, -, rfl⟩ : ¬p.call = none ∧ ∃ s, K.part.take p.state a.cycle = some s ∧
        { p with state := s } = q := by simpa [View.touch] using touched
    have same : l.after item e = l := by
      cases e <;> first | rfl | cases access
    rw [same]
    obtain ⟨run, call⟩ := Option.ne_none_iff_exists'.mp runs
    refine ⟨running, ?_⟩
    rw [call] at sum ⊢
    exact sum
  | none =>
    have seen : p.observe K e = some q := (Observer.ofAccesses_observe access).symm.trans heard
    cases e with
    | returned callback code =>
      dsimp only [View.observe] at seen
      split at seen
      · cases seen
      rename_i callback' entry found call
      split at seen
      · cases seen
      obtain ⟨⟨between, served⟩, rfl⟩ : (K.between _ ∧ _) ∧ _ = q := by simpa using seen
      refine ⟨rfl, ?_⟩
      rw [call] at running sum
      show fits (l.running.elim l.sum fun run => item run.1 run.2 code l.sum) _
      rw [running]
      exact serves sum between served
    | called callback entry =>
      obtain ⟨⟨none, -⟩, rfl⟩ : (p.call = none ∧ _) ∧ _ = q := by simpa [View.observe] using seen
      refine ⟨rfl, ?_⟩
      rw [none] at sum
      exact sum
    | advanced n =>
      obtain ⟨-, rfl⟩ : _ ∧ p = q := by simpa [View.observe] using seen
      exact ⟨running, sum⟩
    | emitted id params =>
      dsimp only [View.observe] at seen
      split at seen
      · cases seen
      · rw [← Option.some.inj seen]
        exact ⟨running, sum⟩
    | _ =>
      rw [← Option.some.inj seen]
      exact ⟨running, sum⟩

end

end PartContract

/-- A command that is accepted with this handle in some run. -/
def Handle.AcceptedIn (env : Env) (h : Handle) : Prop := ∃ w, Accepted env w ∧ w.handle = h

/-- How a callback of an accepted command is entered. -/
structure EnteredAs (env : Env) (h : Handle) (callback : Callback) (entry : Handle) : Prop where
  accepted : h.AcceptedIn env
  parameters : entry.parameters = h.parameters
  calm : entry.isOperationInProgress = false
  enters : Enters env.build h callback entry

/-- Each callback of the command keeps to the contract by itself. -/
structure ChipSession (env : Env) (h : Handle) {σ : Type} (K : PartContract σ) : Prop where
  starts : K.between K.start
  serves : ∀ {callback : Callback} {w : World}, callback ≠ .configureMemory →
    EnteredAs env h callback w.handle →
    Ends (dispatch callback) env w (fun _ w' => K.Serves callback w w') (K.Breaks w)

namespace ChipSession

variable {env : Env} {h : Handle} {σ : Type} {K : PartContract σ} {w w' : World}

/-- What is known of the runs of a callback: they are as they have to be where it was entered as it
has to be. -/
def Ran (env : Env) (h : Handle) (K : PartContract σ) (callback : Callback) (w w' : World) : Prop :=
  CallbackStep w w' ∧ (EnteredAs env h callback w.handle → K.Serves callback w w')

def Broke (env : Env) (h : Handle) (K : PartContract σ) (callback : Callback) (w w' : World) : Prop :=
  CallbackStep w w' ∧ (EnteredAs env h callback w.handle → K.Breaks w w')

theorem runs (S : ChipSession env h K) {callback : Callback} (known : callback ≠ .configureMemory) :
    CallbackRuns env callback (Ran env h K callback) (Broke env h K callback) where
  ends w := by
    by_cases entered : EnteredAs env h callback w.handle
    · exact (((within_callback callback known).ends w).and (S.serves known entered)).mono
        (fun _ _ both => ⟨both.1, fun _ => both.2⟩) fun _ both => ⟨both.1, fun _ => both.2⟩
    · exact ((within_callback callback known).ends w).mono
        (fun _ _ step => ⟨step, fun here => absurd here entered⟩)
        fun _ step => ⟨step, fun here => absurd here entered⟩
  step _ _ ran := ran.1

/-! ## The engine and the pumps -/

/-- What is known between two callbacks. -/
structure Knows (env : Env) (h : Handle) (K : PartContract σ) (p : PartContract.View σ) : Prop where
  accepted : h.AcceptedIn env
  call : p.call = none
  between : K.between p.state

/-- The session was followed up to here, and no callback runs. -/
def Idle (env : Env) (h : Handle) (K : PartContract σ) (w : World) : Prop :=
  ∃ p, K.observer.Tracks h p w ∧ Knows env h K p

/-- The session was followed up to here. -/
def Followed (h : Handle) (K : PartContract σ) (w : World) : Prop := ∃ p, K.observer.Tracks h p w

section

theorem Idle.followed (idle : Idle env h K w) : Followed h K w := idle.imp fun _ known => known.1

theorem Idle.moves {κ : Type} {part : World → κ} (idle : Idle env h K w)
    (moved : Moves part Event.isReportNoise w w') : Idle env h K w' :=
  idle.imp fun _ known => ⟨known.1.moves moved, known.2⟩

theorem Idle.handle (idle : Idle env h K w) (f : Handle) : Idle env h K { w with handle := f } := idle

/-- An event of the engine, or of the conversation. -/
theorem Idle.note (idle : Idle env h K w) (e : Event) (aside : e.isAside = true)
    (inside : e.isReturn = false) : Idle env h K { w with trace := e :: w.trace } := by
  obtain ⟨p, tracks, known⟩ := idle
  have other : e.access = none := by
    cases e <;> first | rfl | cases aside
  have seen : K.observer.observe p e = some p := (Observer.ofAccesses_observe other).trans
    (PartContract.View.observe_other known.call aside inside)
  exact ⟨p, tracks.note e (Event.isBoundary_of_isAside aside) seen rfl rfl, known⟩

theorem Idle.outOfRange (idle : Idle env h K w) : Idle env h K w.outOfRange :=
  (idle.note _ rfl rfl).handle _

theorem Idle.inStage (idle : Idle env h K w) (st : Stage) : Idle env h K (w.inStage st) :=
  (idle.note _ rfl rfl).handle _

theorem Idle.mainDone (idle : Idle env h K w) : Idle env h K w.mainDone :=
  (idle.inStage .beforeEnd).note _ rfl rfl

theorem Idle.delivered {kind : OpMessageType} (idle : Idle env h K w) (heard : Delivered kind w w') :
    Idle env h K w' := by
  cases heard with
  | incomplete link => exact idle.moves link
  | plain kind notData taken link => exact (idle.moves link).note _ rfl rfl
  | data size link => exact ((idle.moves link).note _ rfl rfl).handle _

theorem Idle.heard (idle : Idle env h K w) (heard : Heard w w') : Idle env h K w' := by
  induction heard with
  | start => exact idle
  | link _ link ih => exact ih.moves link
  | message _ _ heard ih => exact ih.delivered heard

theorem Idle.chunkSent (idle : Idle env h K w) : Idle env h K w.chunkSent := by
  have announced : Idle env h K { w with trace := .emitted msgDataSending [] :: w.trace } :=
    idle.note _ rfl rfl
  unfold World.chunkSent
  split
  · exact announced.note _ rfl rfl
  · exact announced

/-- The callback is entered, and what it does to the part is heard. -/
theorem hears (callback : Callback) {entry : Handle}
    (entered : EnteredAs env h callback entry) {p : PartContract.View σ} (known : Knows env h K p) :
    K.observer.Hears callback (Ran env h K callback) entry
      { p with call := some (callback, entry, p.state) } fun _ => Knows env h K := by
  rintro s s' - rfl ⟨-, ran⟩
  obtain ⟨log, logged, takes⟩ := ran entered
  obtain ⟨left, takes, rests, served⟩ := takes p.state known.between
  rw [Device.run_append] at takes
  obtain ⟨m, takes, paused⟩ := Option.bind_eq_some_iff.mp takes
  have paused : K.part.take m .pause = some left := by simpa using paused
  refine ⟨log, _, { state := left }, logged,
    PartContract.touches_of_run (by exact nofun) takes, ?_, known.accepted, rfl, rests⟩
  have seen : PartContract.View.observe K
      { state := m, call := some (callback, s.handle, p.state) }
      (.returned callback s'.handle.responseCode) = some { state := left } := by
    dsimp only [PartContract.View.observe]
    rw [paused]
    exact if_pos ⟨rests, served⟩
  exact seen

theorem Knows.entered {callback : Callback} {p : PartContract.View σ} (known : Knows env h K p)
    (entry : Handle) :
    K.observer.observe p (.called callback entry) =
      some { p with call := some (callback, entry, p.state) } :=
  if_pos ⟨known.call, known.between⟩

theorem Idle.executed {callback : Callback} {r : OpResult} (idle : Idle env h K w)
    (entered : EnteredAs env h callback w.handle)
    (ran : Executed callback (Ran env h K callback) w r w') : Idle env h K w' := by
  obtain ⟨p, tracks, known⟩ := idle
  obtain ⟨f, q, tracks, known, -⟩ := tracks.executed ran (fun _ _ ran => ran.1) (known.entered _)
    (hears callback entered known)
  exact ⟨q, tracks, known⟩

theorem Idle.cutShort {callback : Callback} (idle : Idle env h K w)
    (entered : EnteredAs env h callback w.handle)
    (cut : CutShort callback (Ran env h K callback) (Broke env h K callback) w w') :
    Followed h K w' := by
  obtain ⟨p, tracks, known⟩ := idle
  refine tracks.cutShort cut (fun _ _ ran => ran.1) (fun _ _ broke => broke.1) (known.entered _)
    (hears callback entered known) ?_
  rintro s s' - same ⟨-, broke⟩
  obtain ⟨log, logged, takes⟩ := broke (same ▸ entered)
  obtain ⟨m, takes⟩ := takes p.state known.between
  exact ⟨log, _, logged, PartContract.touches_of_run (by exact nofun) takes⟩

end

/-! ## The session as an observation -/

section
variable {callback : Callback}

/-- What a turn of the main phase leaves: no callback runs, whether the command goes on or not. -/
def Turns (env : Env) (h : Handle) (K : PartContract σ) (ok : Bool) (w' : World) : Prop :=
  Idle env h K w' ∧
    if ok then ∃ st, (st = .inMain ∨ st = .beforeEnd) ∧ Engaged h st w' else Live w'

theorem Idle.turns {r : Option Stage} (idle : Idle env h K w') (turned : Turned h r w') :
    Turns env h K r.isSome w' := by
  refine ⟨idle, ?_⟩
  cases r with
  | none => exact turned
  | some st => exact ⟨st, turned⟩

theorem Turns.pumped {ok : Bool} (turns : Turns env h K ok w') :
    K.observer.Pumped (fun _ _ => Knows env h K) h ok w' := by
  obtain ⟨⟨p, tracks, known⟩, so⟩ := turns
  cases ok with
  | false => exact ⟨so, p, tracks⟩
  | true =>
    obtain ⟨st, listed, engaged⟩ := so
    exact ⟨st, listed, engaged, p, tracks, known⟩

theorem Idle.entered {st : Stage} {w₁ : World} (idle : Idle env h K w₁) (e : Engaged h st w)
    (enters : Enters env.build h callback w.handle) : EnteredAs env h callback w.handle := by
  obtain ⟨p, -, known⟩ := idle
  exact ⟨known.accepted, e.parameters, e.calm, enters⟩

/-- What a turn of the main phase leaves, and where it was cut off. -/
abbrev Pumps (env : Env) (h : Handle) (K : PartContract σ) (pump : Fw Bool) (w : World) : Prop :=
  Ends pump env w (fun ok w' => Turns env h K ok w') (Followed h K)

theorem pumps_single (S : ChipSession env h K) (idle : Idle env h K w)
    (known : callback ≠ .configureMemory) (found : h.firestarterOperationMain = some callback)
    (other : h.cmd ≠ cmdWrite) (e : Engaged h .inMain w) :
    Pumps env h K (singleStepOperationCallback dispatch) w := by
  have entered := idle.entered e (.step found other)
  refine (ends_singleStepOperationCallback (S.runs known) found e).mono (fun ok w' turn => ?_)
    fun w' cut => ?_
  · obtain ⟨r, rfl, turn, turned⟩ := turn
    refine Idle.turns ?_ turned
    cases turn with
    | failed ran => exact idle.executed entered ran
    | done ran link => exact ((idle.executed entered ran).moves link).mainDone
  · cases cut with
    | running cut => exact idle.cutShort entered cut
    | ending ran link => exact ((idle.executed entered ran).moves link).followed

theorem pumps_write (S : ChipSession env h K) (idle : Idle env h K w)
    (known : callback ≠ .configureMemory) (found : h.firestarterOperationMain = some callback)
    (e : Engaged h .inMain w) : Pumps env h K processIncomingData w := by
  have answered {kind : OpMessageType} {w₁ : World} (heard : Delivered kind w w₁) :
      Idle env h K w₁.answered := (idle.delivered heard).handle _
  have entered {w₁ : World} (heard : Delivered .data w w₁) (chunk : w₁.handle.chunkFits env.build) :
      EnteredAs env h callback w₁.answered.handle :=
    idle.entered (e.delivered heard).answered (.chunk found chunk)
  refine (ends_processIncomingData (S.runs known) found e).mono (fun ok w' turn => ?_)
    fun w' cut => ?_
  · obtain ⟨r, rfl, turn, turned⟩ := turn
    refine Idle.turns ?_ turned
    cases turn with
    | overrun beyond => exact idle.outOfRange
    | complete reached link => exact (idle.moves link).mainDone
    | waiting link => exact idle.moves link
    | requested link first => exact ((idle.moves link).note _ rfl rfl).handle _
    | finished heard unbounded link => exact ((answered heard).moves link).mainDone
    | refused heard taken link => exact (answered heard).moves link
    | outside heard long => exact (answered heard).outOfRange
    | failed heard chunk ran => exact (answered heard).executed (entered heard chunk) ran
    | wrote heard chunk ran =>
      exact ((answered heard).executed (entered heard chunk) ran).handle _
  · cases cut with
    | link link => exact (idle.moves link).followed
    | answered heard link => exact ((answered heard).moves link).followed
    | running heard chunk cut => exact (answered heard).cutShort (entered heard chunk) cut

theorem pumps_read (S : ChipSession env h K) (idle : Idle env h K w)
    (known : callback ≠ .configureMemory) (found : h.firestarterOperationMain = some callback)
    (other : h.cmd ≠ cmdWrite) (e : Engaged h .inMain w) :
    Pumps env h K processOutgoingData w := by
  have entered := idle.entered e (.step found other)
  have sent {opEnd : U32} {w₁ w₂ : World} (ran : Executed callback (Ran env h K callback) w .stop w₁)
      (heard : Heard (w₁.trimmed opEnd).chunkSent w₂) : Idle env h K w₂ := by
    have trimmed : Idle env h K (w₁.trimmed opEnd) := (idle.executed entered ran).handle _
    exact trimmed.chunkSent.heard heard
  refine (ends_processOutgoingData (S.runs known) found e).mono (fun ok w' turn => ?_)
    fun w' cut => ?_
  · obtain ⟨r, rfl, turn, turned⟩ := turn
    refine Idle.turns ?_ turned
    cases turn with
    | overrun beyond => exact idle.outOfRange
    | complete reached link => exact (idle.moves link).mainDone
    | failed more ran => exact idle.executed entered ran
    | unanswered more ran heard => exact sent ran heard
    | sent more ran heard acked rest => exact ((sent ran heard).delivered acked).handle _
    | last more ran heard acked reached link =>
      have moved : Idle env h K (World.movedOn _) := ((sent ran heard).delivered acked).handle _
      exact (moved.moves link).mainDone
  · cases cut with
    | link link => exact (idle.moves link).followed
    | running more cut => exact idle.cutShort entered cut
    | hearing more ran heard => exact (sent ran heard).followed
    | ending more ran heard acked link =>
      have moved : Idle env h K (World.movedOn _) := ((sent ran heard).delivered acked).handle _
      exact (moved.moves link).followed

/-- Whatever the pump of the command is. -/
theorem pumps (S : ChipSession env h K) (idle : Idle env h K w) (known : callback ≠ .configureMemory)
    (found : h.firestarterOperationMain = some callback) (e : Engaged h .inMain w) :
    Pumps env h K (mainPump h.cmd) w := by
  unfold mainPump
  split
  · rename_i reads
    exact pumps_read S idle known found (by rw [beq_iff_eq.mp reads]; decide) e
  split
  · exact pumps_write S idle known found e
  · rename_i other
    exact pumps_single S idle known found (by simpa using other) e

theorem serves_phase (S : ChipSession env h K) {st : Stage} (settled : h.Settled)
    (found : h.housekeeper st = some callback) (e : Engaged h st w) (idle : Idle env h K w) :
    Ends (executeOperation dispatch (some callback)) env w (fun _ w' => Idle env h K w')
      (Followed h K) := by
  have known : callback ≠ .configureMemory := settled.serves found
  have entered := idle.entered e (.housekeeping found)
  exact ((S.runs known).executes w).mono (fun _ _ ran => idle.executed entered ran)
    fun _ cut => idle.cutShort entered cut

end

noncomputable def observation (S : ChipSession env h K) : PhaseObservation env h (mainPump h.cmd) where
  View := PartContract.View σ
  observer := K.observer
  fits _ _ := Knows env h K
  begins {w} _ accepted same := ⟨⟨w, accepted, same⟩, rfl, S.starts⟩
  waits known _ := known
  hears _ _ _ _ known := ⟨_, rfl, known⟩
  opens _ known := ⟨_, _, rfl, if_pos known.call, fun _ _ => known⟩
  lacks _ _ known := known
  serves settled _ found e tracks known :=
    (S.serves_phase settled found e ⟨_, tracks, known⟩).mono
      (fun _ _ idle => idle.imp fun _ both => ⟨both.1, fun _ => both.2⟩) fun _ followed => followed
  closes _ known := ⟨_, _, if_neg fun both => both.2 known.call, if_pos known.call, known⟩
  pumps found known e tracks knows :=
    (S.pumps ⟨_, tracks, knows⟩ known found e).mono (fun _ _ turns => turns.pumped) fun _ => id
  finishes p := ⟨p, rfl⟩

end ChipSession

/-- A driver whose callbacks keep to the contract, each by itself, keeps to it over every run. -/
theorem contract_kept {env : Env} {σ : Type} {picks : Handle → Bool} {K : Handle → PartContract σ}
    (S : ∀ h, picks h = true → ChipSession env h (K h)) {w : World} (seen : Seen env w) {h : Handle}
    {es : List Event} (events : commandEvents w.trace = some (h, es))
    (memory : isMemoryCmd h.cmd = true) (picked : picks h = true) : (K h).Kept es := by
  obtain ⟨p, follows⟩ := follows_of_picked (fun h picked => (S h picked).observation) seen events memory
    picked
  exact .of_follows (S h picked).starts follows

end Firestarter
