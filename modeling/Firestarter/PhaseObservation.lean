import Firestarter.EventLaws
import Firestarter.Observers

/-! An observer of a command as an invariant of it. It is enough to say, stage by stage, what the
observer may know there, that it sees nothing wrong in the few events of the engine itself, and
what it makes of each callback. One who is deaf to the chip makes nothing of what a callback does,
and need only see it return. -/
namespace Firestarter

open Interactive Interactive.Prog

variable {env : Env}

theorem Event.access_of_untouched {e : Event} (untouched : (!e.isAccess) = true) :
    e.access = none := by
  cases e <;> first | rfl | cases untouched

namespace Observer

variable {σ : Type} {O : Observer σ} {h : Handle} {p q : σ} {w w' : World}

theorem Tracks.inStage (t : O.Tracks h p w) (st : Stage)
    (seen : O.observe p (.advanced st.number) = some q) : O.Tracks h q (w.inStage st) :=
  t.note _ rfl seen rfl rfl

/-- A refusal goes unseen. -/
theorem Tracks.outOfRange (t : O.Tracks h p w) : O.Tracks h p w.outOfRange :=
  t.note _ rfl (O.deaf p _ rfl rfl) rfl rfl

/-- The end of the main phase is seen twice: the state number steps, and the host is told. -/
theorem Tracks.mainDone {q' : σ} (t : O.Tracks h p w)
    (stepped : O.observe p (.advanced 4) = some q)
    (told : O.observe q (.emitted msgMainDone []) = some q') : O.Tracks h q' w.mainDone :=
  (t.inStage .beforeEnd stepped).note _ rfl told rfl rfl

/-- The end of a command does not touch the chip, and is noise but for its note. -/
theorem Tracks.ended (t : O.Tracks h p w) (step : EndStep w w') (untouched : UntouchedStep w w') :
    O.Tracks h p w' := by
  obtain ⟨new, trace, untouched⟩ := untouched.adds
  have quiet : accessLog new = [] :=
    accessLog_quiet fun e member => Event.access_of_untouched (untouched e member)
  exact t.driven step (fun _ => id) ⟨new, trace, quiet⟩ rfl

/-- What the observer makes of the accesses of a callback and of its return: in the end `Q` holds
of the handle it left and of what the observer then knows. -/
def Hears (O : Observer σ) (callback : Callback) (D : World → World → Prop) (entry : Handle)
    (q : σ) (Q : Handle → σ → Prop) : Prop :=
  ∀ s s', s.QueuesReports → s.handle = entry → D s s' →
    ∃ log r q', Logged log s s' ∧ O.Touches q log r ∧
      O.observe r (.returned callback s'.handle.responseCode) = some q' ∧ Q s'.handle q'

variable {callback : Callback} {D C : World → World → Prop} {Q : Handle → σ → Prop}

/-- A callback is heard when it is entered, in what it does to the chip, and when it has
returned. -/
theorem Tracks.executed {r : OpResult} (t : O.Tracks h p w) (ran : Executed callback D w r w')
    (sub : ∀ w w', D w w' → CallbackStep w w')
    (entered : O.observe p (.called callback w.handle) = some q)
    (hears : O.Hears callback D w.handle q Q) :
    ∃ f q', O.Tracks h q' w' ∧ Q f q' ∧ isGoodResponse f.responseCode = (r != .error) ∧
      (r = .stop → w'.handle = { f with responseCode := responseCodeOk }) := by
  have left {w₁ w₂ w₃ : World} (enter : ModeStep w w₁) (run : D (w₁.calling callback) w₂)
      (leave : ModeStep (w₂.returning callback) w₃) :
      ∃ q', O.Tracks h q' w₃ ∧ Q w₂.handle q' := by
    have same : w₁.handle = w.handle := enter.handle
    have called : O.Tracks h q (w₁.calling callback) := by
      refine (t.moves enter).note _ rfl ?_ rfl rfl
      rw [same]
      exact entered
    obtain ⟨log, s, q', logged, touches, returned, known⟩ :=
      hears (w₁.calling callback) _ called.1 same run
    have driven : O.Tracks h s w₂ := called.driven (sub _ _ run) (fun _ => id) logged touches
    have after : O.Tracks h q' (w₂.returning callback) := driven.note _ rfl returned rfl rfl
    exact ⟨q', after.moves leave, known⟩
  cases ran with
  | @good w₁ w₂ w₃ _ enter run leave comMode response link handle =>
    obtain ⟨q', tracks, known⟩ := left enter run leave
    exact ⟨w₂.handle, q', tracks.moves link, known, response, fun _ => handle⟩
  | @bad w₁ w₂ _ enter run leave comMode response =>
    obtain ⟨q', tracks, known⟩ := left enter run leave
    exact ⟨w₂.handle, q', tracks, known, response, nofun⟩

theorem Tracks.cutShort (t : O.Tracks h p w) (cut : CutShort callback D C w w')
    (sub : ∀ w w', D w w' → CallbackStep w w') (cutSub : ∀ w w', C w w' → CallbackStep w w')
    (entered : O.observe p (.called callback w.handle) = some q)
    (hears : O.Hears callback D w.handle q Q)
    (broken : ∀ s s', s.QueuesReports → s.handle = w.handle → C s s' →
      ∃ log r, Logged log s s' ∧ O.Touches q log r) :
    ∃ q', O.Tracks h q' w' := by
  have called {w₁ : World} (enter : ModeStep w w₁) : O.Tracks h q (w₁.calling callback) := by
    have same : w₁.handle = w.handle := enter.handle
    refine (t.moves enter).note _ rfl ?_ rfl rfl
    rw [same]
    exact entered
  cases cut with
  | entering enter => exact ⟨p, t.moves enter⟩
  | running enter run =>
    obtain ⟨log, r, logged, touches⟩ :=
      broken (World.calling _ callback) _ (called enter).1 enter.handle run
    exact ⟨r, (called enter).driven (cutSub _ _ run) (fun _ => id) logged touches⟩
  | @leaving w₁ _ _ _ enter run leave link =>
    have same : w₁.handle = w.handle := enter.handle
    obtain ⟨log, r, q', logged, touches, returned, -⟩ :=
      hears (w₁.calling callback) _ (called enter).1 same run
    have driven := (called enter).driven (sub _ _ run) (fun _ => id) logged touches
    have after : O.Tracks h q' (World.returning _ callback) :=
      driven.note _ rfl returned rfl rfl
    exact ⟨q', (after.moves leave).moves link⟩

/-- What the main phase of a command leaves an observer with. -/
def Pumped (O : Observer σ) (fits : Stage → World → σ → Prop) (h : Handle) (ok : Bool)
    (w' : World) : Prop :=
  if ok then ∃ st, (st = .inMain ∨ st = .beforeEnd) ∧ Engaged h st w' ∧
    ∃ q, O.Tracks h q w' ∧ fits st w' q
  else Live w' ∧ ∃ q, O.Tracks h q w'

theorem pumped_of_turned {fits : Stage → World → σ → Prop} {r : Option Stage}
    (turned : Turned h r w') (tracks : ∃ q, O.Tracks h q w' ∧ ∀ st, r = some st → fits st w' q) :
    O.Pumped fits h r.isSome w' := by
  obtain ⟨q, tracks, known⟩ := tracks
  cases r with
  | none => exact ⟨turned, q, tracks⟩
  | some st => exact ⟨st, turned.1, turned.2, q, tracks, known st rfl⟩

/-! ## Deaf to the chip -/

theorem Quiet.hears (quiet : O.Quiet) {entry : Handle}
    (sub : ∀ w w', D w w' → CallbackStep w w')
    (returned : ∀ code, ∃ q', O.observe q (.returned callback code) = some q') :
    O.Hears callback D entry q
      fun f q' => O.observe q (.returned callback f.responseCode) = some q' := by
  intro s s' queue _ run
  obtain ⟨log, logged⟩ := (sub _ _ run).logged queue
  obtain ⟨q', seen⟩ := returned s'.handle.responseCode
  exact ⟨log, q, q', logged, quiet.touches q log, seen, seen⟩

/-- A callback is seen twice: when it is entered, with the handle as it is, and when it has
returned. -/
theorem Quiet.executed (quiet : O.Quiet) {r : OpResult} (t : O.Tracks h p w)
    (ran : Executed callback D w r w') (sub : ∀ w w', D w w' → CallbackStep w w')
    (entered : O.observe p (.called callback w.handle) = some q)
    (returned : ∀ code, ∃ q', O.observe q (.returned callback code) = some q') :
    ∃ code q', O.observe q (.returned callback code) = some q' ∧ O.Tracks h q' w' ∧
      (isGoodResponse code = true ↔ r ≠ .error) := by
  obtain ⟨f, q', tracks, seen, good, -⟩ := t.executed ran sub entered (quiet.hears sub returned)
  exact ⟨_, q', seen, tracks, by rw [good, bne_iff_ne]⟩

theorem Quiet.cutShort (quiet : O.Quiet) (t : O.Tracks h p w) (cut : CutShort callback D C w w')
    (sub : ∀ w w', D w w' → CallbackStep w w') (cutSub : ∀ w w', C w w' → CallbackStep w w')
    (entered : O.observe p (.called callback w.handle) = some q)
    (returned : ∀ code, ∃ q', O.observe q (.returned callback code) = some q') :
    ∃ q', O.Tracks h q' w' := by
  refine t.cutShort cut sub cutSub entered (quiet.hears sub returned) fun s s' queue _ broken => ?_
  obtain ⟨log, logged⟩ := (cutSub _ _ broken).logged queue
  exact ⟨log, q, logged, quiet.touches q log⟩

/-- The callback of a housekeeping phase. -/
theorem Quiet.serves (quiet : O.Quiet) {fits : World → σ → Prop} {st : Stage}
    (settled : h.Settled) (found : h.housekeeper st = some callback) (t : O.Tracks h p w)
    (entered : O.observe p (.called callback w.handle) = some q)
    (returned : ∀ code, ∃ q', O.observe q (.returned callback code) = some q' ∧
      (isGoodResponse code = true →
        ∀ w', Executed callback CallbackStep w .stop w' → fits w' q')) :
    Ends (executeOperation dispatch (some callback)) env w
      (fun r w' => ∃ q, O.Tracks h q w' ∧ (r ≠ .error → fits w' q))
      (fun w' => ∃ q, O.Tracks h q w') := by
  have returns (code : U8) : ∃ q', O.observe q (.returned callback code) = some q' :=
    (returned code).imp fun _ known => known.1
  refine (ends_callback (settled.serves found) w).mono (fun r w' ran => ?_) fun w' cut => ?_
  · obtain ⟨code, q', seen, tracks, good⟩ :=
      quiet.executed t ran (fun _ _ step => step) entered returns
    refine ⟨q', tracks, fun fine => ?_⟩
    obtain ⟨q'', seen', fits⟩ := returned code
    obtain rfl := Option.some.inj (seen.symm.trans seen')
    cases ran with
    | good enter run leave comMode response link handle =>
      exact fits (good.mpr fine) w' (.good enter run leave comMode response link handle)
    | bad => exact (fine rfl).elim
  · exact quiet.cutShort t cut (fun _ _ step => step) (fun _ _ step => step) entered returns

end Observer

/-! ## Over the phases -/

/-- What an observer of a command may know in each of its stages. -/
structure PhaseObservation (env : Env) (h : Handle) (pump : Fw Bool) where
  View : Type
  observer : Observer View
  fits : Stage → World → View → Prop
  begins : ∀ {w : World}, isMemoryCmd h.cmd = true → Accepted env w → w.handle = h →
    fits .beforeInit { w with trace := .accepted h :: w.trace } observer.start
  waits : ∀ {st : Stage} {w w' : World} {p : View}, fits st w p → LinkStep w w' → fits st w' p
  hears : ∀ {st : Stage} {w : World} {p : View} (kind : OpMessageType) (payload : List U8)
    (size : U32), st.listens = true → fits st w p →
    ∃ q, observer.observe p (.message kind payload) = some q ∧
      fits st { w with
        handle := { w.handle with dataSize := size }
        trace := .message kind payload :: w.trace } q
  opens : ∀ {st next : Stage} {w : World} {p : View}, st.opened = some next → fits st w p →
    ∃ q q', observer.observe p (.message .ack []) = some q ∧
      observer.observe q (.advanced next.number) = some q' ∧
      ∀ w', LinkStep { w with trace := .message .ack [] :: w.trace } w' →
        fits next (w'.inStage next) q'
  lacks : ∀ {st served next : Stage} {frame : U8} {w : World} {p : View},
    st.housekeeping = some (served, next, frame) → h.housekeeper st = none → fits st w p →
    fits served w p
  serves : ∀ {st served next : Stage} {frame : U8} {callback : Callback} {w : World} {p : View},
    h.Settled → st.housekeeping = some (served, next, frame) → h.housekeeper st = some callback →
    Engaged h st w → observer.Tracks h p w → fits st w p →
    Ends (executeOperation dispatch (some callback)) env w
      (fun r w' => ∃ q, observer.Tracks h q w' ∧ (r ≠ .error → fits served w' q))
      (fun w' => ∃ q, observer.Tracks h q w')
  closes : ∀ {st served next : Stage} {frame : U8} {w : World} {p : View},
    st.housekeeping = some (served, next, frame) → fits served w p →
    ∃ q q', observer.observe p (.emitted frame []) = some q ∧
      observer.observe q (.advanced next.number) = some q' ∧ fits next (w.closed next frame) q'
  pumps : ∀ {w : World} {callback : Callback} {p : View},
    h.firestarterOperationMain = some callback → callback ≠ .configureMemory →
    Engaged h .inMain w → observer.Tracks h p w → fits .inMain w p →
    Ends pump env w (fun ok w' => observer.Pumped fits h ok w')
      (fun w' => ∃ q, observer.Tracks h q w')
  finishes : ∀ p : View, ∃ q, observer.observe p .finished = some q

namespace PhaseObservation

variable {h : Handle} {pump : Fw Bool} (V : PhaseObservation env h pump)

/-- The observer has followed the command, and knows what it may know in this stage. -/
def Holds (st : Stage) (w : World) : Prop := ∃ p, V.observer.Tracks h p w ∧ V.fits st w p

/-- The observer has followed the command. -/
def Always (w : World) : Prop := ∃ p, V.observer.Tracks h p w

theorem hears_delivered {st : Stage} {kind : OpMessageType} {w w' : World}
    (listens : st.listens = true) (holds : V.Holds st w) (heard : Delivered kind w w') :
    V.Holds st w' := by
  obtain ⟨p, tracks, fits⟩ := holds
  cases heard with
  | incomplete link => exact ⟨p, tracks.moves link, V.waits fits link⟩
  | @plain _ w _ notData taken link =>
    obtain ⟨q, seen, fits⟩ := V.hears kind [] w.handle.dataSize listens (V.waits fits link)
    exact ⟨q, (tracks.moves link).note _ rfl seen rfl rfl, fits⟩
  | @data _ w size link =>
    obtain ⟨q, seen, fits⟩ := V.hears .data _ size listens (V.waits fits link)
    exact ⟨q, (tracks.moves link).note _ rfl seen rfl rfl, fits⟩

theorem opens_phase {st next : Stage} {w w₁ w₂ : World} (opening : st.opened = some next)
    (holds : V.Holds st w) (heard : Delivered .ack w w₁) (link : LinkStep w₁ w₂) :
    V.Holds next (w₂.inStage next) := by
  obtain ⟨p, tracks, fits⟩ := holds
  cases heard with
  | @plain _ w _ notData taken before =>
    obtain ⟨q, q', acked, advanced, fits⟩ := V.opens opening (V.waits fits before)
    have heard : V.observer.Tracks h q { w with trace := .message .ack [] :: w.trace } :=
      (tracks.moves before).note _ rfl acked rfl rfl
    exact ⟨q', (heard.moves link).inStage next advanced, fits w₂ link⟩

theorem closes_phase {st served next : Stage} {frame : U8} {w : World}
    (house : st.housekeeping = some (served, next, frame)) (holds : V.Holds served w) :
    V.Holds next (w.closed next frame) := by
  obtain ⟨p, tracks, fits⟩ := holds
  obtain ⟨q, q', sent, advanced, fits⟩ := V.closes house fits
  have tracks : V.observer.Tracks h q { w with trace := .emitted frame [] :: w.trace } :=
    tracks.note _ rfl sent rfl rfl
  exact ⟨q', tracks.inStage next advanced, fits⟩

/-- Following the command is an invariant of it. -/
def invariant : PhaseInvariant env h pump where
  holds := V.Holds
  always := V.Always
  safe holds := holds.imp fun _ both => both.1
  onward always link := always.imp fun _ tracks => tracks.moves link
  waits holds link := holds.imp fun _ both => ⟨both.1.moves link, V.waits both.2 link⟩
  hears listens holds heard := V.hears_delivered listens holds heard
  opens opening _ holds heard link := V.opens_phase opening holds heard link
  lacks house lacking holds := holds.imp fun _ both => ⟨both.1, V.lacks house lacking both.2⟩
  serves settled house found e holds := by
    obtain ⟨p, tracks, fits⟩ := holds
    refine (V.serves settled house found e tracks fits).mono (fun r w' served => ?_) fun _ => id
    obtain ⟨q, tracks, known⟩ := served
    split
    · exact ⟨q, tracks⟩
    · rename_i fine
      exact ⟨q, tracks, known fine⟩
  closes house _ holds := V.closes_phase house holds
  pumps found runs e holds := by
    obtain ⟨p, tracks, fits⟩ := holds
    exact V.pumps found runs e tracks fits

theorem begins_command {w : World} (memory : isMemoryCmd h.cmd = true) (accepted : Accepted env w)
    (same : w.handle = h) : V.Holds .beforeInit { w with trace := .accepted h :: w.trace } :=
  ⟨V.observer.start, ⟨accepted.queue, [], rfl, rfl⟩, V.begins memory accepted same⟩

theorem follows_of_always {w : World} (always : V.Always w) :
    ∃ es, commandEvents w.trace = some (h, es) ∧ ∃ p, V.observer.Follows es p := by
  obtain ⟨p, -, es, events, follows⟩ := always
  exact ⟨es, events, p, follows⟩

/-- The end of a command does not touch the chip. -/
theorem ends_concluded {w : World} (always : V.Always w) (live : Live w) :
    Ends commandDone env w (fun _ w' => V.Always w') V.Always := by
  obtain ⟨p, tracks⟩ := always
  refine (ends_commandDone_untouched live).mono (fun _ w' done => ?_) fun w' both => ?_
  · obtain ⟨w₀, rfl, step, untouched⟩ := done
    obtain ⟨q, seen⟩ := V.finishes p
    exact ⟨q, (tracks.ended step untouched).note _ rfl seen rfl rfl⟩
  · exact ⟨p, tracks.ended both.1 both.2⟩

end PhaseObservation

/-- Observers of some commands make an invariant of the runs: each can follow its command. -/
def CommandInvariant.ofObservations (picks : Handle → Bool)
    (V : ∀ h, picks h = true → PhaseObservation env h (mainPump h.cmd)) : CommandInvariant env where
  toReadiness := Readiness.free env
  command h := if picked : picks h = true then (V h picked).invariant
    else (commandLaw env h).invariant
  law h es := ∀ picked : picks h = true, ∃ p, (V h picked).observer.Follows es p
  powersUp := @Readiness.powersUp_free env
  begins {w} memory accepted _ _ := by
    split
    · exact (V _ _).begins_command memory accepted rfl
    · exact ⟨accepted.queue, [], rfl, trivial⟩
  lawful {h w} always := by
    split at always
    · rename_i picked
      obtain ⟨es, events, follows⟩ := (V h picked).follows_of_always always
      exact ⟨es, events, fun _ => follows⟩
    · rename_i other
      obtain ⟨-, es, events, -⟩ := always
      exact ⟨es, events, fun picked => absurd picked other⟩
  concludes {h w} always live := by
    split at always
    · rename_i picked
      have known {v : World} (always : (V h picked).Always v) :
          ∃ es, commandEvents v.trace = some (h, es) ∧
            ∀ picked : picks h = true, ∃ p, (V h picked).observer.Follows es p := by
        obtain ⟨es, events, follows⟩ := (V h picked).follows_of_always always
        exact ⟨es, events, fun _ => follows⟩
      exact ((V h picked).ends_concluded always live).mono (fun _ _ => known) fun _ => known
    · rename_i other
      have known {v : World} (law : ∃ es, commandEvents v.trace = some (h, es) ∧ True) :
          ∃ es, commandEvents v.trace = some (h, es) ∧
            ∀ picked : picks h = true, ∃ p, (V h picked).observer.Follows es p := by
        obtain ⟨es, events, -⟩ := law
        exact ⟨es, events, fun picked => absurd picked other⟩
      exact (EventLaw.ends_concluded always live).mono (fun _ _ => known) fun _ => known
  idles law quiet picked := by
    obtain ⟨p, follows⟩ := law picked
    exact ⟨p, (V _ picked).observer.sees_append follows
      ((V _ picked).observer.sees_reports fun e member => (quiet e member).1)⟩

/-- In every run the observer of a command that was picked can follow it. -/
theorem follows_of_picked {picks : Handle → Bool}
    (V : ∀ h, picks h = true → PhaseObservation env h (mainPump h.cmd)) {w : World}
    (seen : Seen env w) {h : Handle} {es : List Event}
    (events : commandEvents w.trace = some (h, es)) (memory : isMemoryCmd h.cmd = true)
    (picked : picks h = true) : ∃ p, (V h picked).observer.Follows es p :=
  (CommandInvariant.ofObservations picks V).lawful_of_seen seen h es events memory picked

/-- Observers of all commands. -/
def CommandInvariant.ofAllObservations (V : ∀ h, PhaseObservation env h (mainPump h.cmd)) :
    CommandInvariant env := .ofObservations (fun _ => true) fun h _ => V h

/-- In every run the observer of a memory command can follow it. -/
theorem follows_of_seen (V : ∀ h, PhaseObservation env h (mainPump h.cmd)) {w : World}
    (seen : Seen env w) {h : Handle} {es : List Event}
    (events : commandEvents w.trace = some (h, es)) (memory : isMemoryCmd h.cmd = true) :
    ∃ p, (V h).observer.Follows es p :=
  (CommandInvariant.ofAllObservations V).lawful_of_seen seen h es events memory rfl

end Firestarter
