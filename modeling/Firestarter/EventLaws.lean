import Firestarter.CommandRuns
import Firestarter.HostFrames
import Firestarter.MainPumps

/-! Laws about a command's events that every stage keeps alike. Such a law is shown for the few
lists of events the engine and a callback can add; that it then holds over every run is told here
once. -/
namespace Firestarter

open Interactive Interactive.Prog

set_option synthInstance.maxSize 4000

variable {env : Env} {h : Handle} {w w' : World}

namespace Event

/-- An access to the chip. -/
def isAccess : Event → Bool
  | .read .. | .wrote .. | .flipped .. => true
  | _ => false

/-- What a command's events hold besides the callbacks it enters and what these do to the chip. -/
def isAside (e : Event) : Bool :=
  !e.isBoundary && !e.isAccess && match e with
    | .called .. => false
    | _ => true

theorem isAside_of_report {e : Event} (noise : e.isReportNoise = true) : e.isAside = true := by
  cases e <;> first | rfl | cases noise

theorem isAside_of_noise {e : Event} (noise : e.isNoise = true) (untouched : (!e.isAccess) = true) :
    e.isAside = true := by
  cases e <;> first | rfl | exact Bool.noConfusion noise | exact Bool.noConfusion untouched

theorem isBoundary_of_isAside {e : Event} (aside : e.isAside = true) : e.isBoundary = false := by
  cases e <;> first | rfl | cases aside

end Event

/-- How a callback is entered: to open or to close a command, for the chunk of a write that was
checked, or for the main phase of another command. -/
inductive Enters (b : Build) (h : Handle) (callback : Callback) (entry : Handle) : Prop
  | housekeeping {st : Stage} (found : h.housekeeper st = some callback)
  | chunk (found : h.firestarterOperationMain = some callback) (fits : entry.chunkFits b)
  | step (found : h.firestarterOperationMain = some callback) (other : h.cmd ≠ cmdWrite)

/-- A law of the events of the command that was accepted with the handle `h`. The runs of its
callbacks are known by `D` and, where they are cut off, by `C`. -/
structure EventLaw (env : Env) (h : Handle) where
  law : List Event → Prop
  D : Callback → World → World → Prop
  C : Callback → World → World → Prop
  runs : ∀ {callback : Callback}, callback ≠ .configureMemory →
    CallbackRuns env callback (D callback) (C callback)
  cut : ∀ {callback : Callback} {w w' : World}, C callback w w' → CallbackStep w w'
  begins : ∀ {w : World}, isMemoryCmd h.cmd = true → Accepted env w → w.handle = h → law []
  aside : ∀ {es : List Event} {e : Event}, e.isAside = true → law es → law (es ++ [e])
  ran : ∀ {callback : Callback} {w w' : World} {es new : List Event},
    w.handle.parameters = h.parameters → Enters env.build h callback w.handle → law es →
    D callback (w.calling callback) w' ∨ C callback (w.calling callback) w' →
    w'.trace = new ++ (w.calling callback).trace → (∀ e ∈ new, e.isNoise = true) →
    law (es ++ .called callback w.handle :: new.reverse)

namespace EventLaw

variable (L : EventLaw env h)

/-- The law holds of the events so far. -/
def Kept (w : World) : Prop :=
  w.QueuesReports ∧ ∃ es, commandEvents w.trace = some (h, es) ∧ L.law es

section
variable {L}

theorem asides {es new : List Event} (asides : ∀ e ∈ new, e.isAside = true) (law : L.law es) :
    L.law (es ++ new) := by
  induction new generalizing es with
  | nil => rwa [List.append_nil]
  | cons e new ih =>
    rw [List.append_cons]
    exact ih (fun e member => asides e (List.mem_cons_of_mem _ member))
      (L.aside (asides e List.mem_cons_self) law)

theorem Kept.moves {κ : Type} {part : World → κ} (kept : L.Kept w)
    (moved : Moves part Event.isReportNoise w w') : L.Kept w' := by
  obtain ⟨queue, es, events, law⟩ := kept
  obtain ⟨queue, new, noise, events'⟩ := moved.events queue fun e report =>
    Event.isBoundary_of_isAside (Event.isAside_of_report report)
  rw [events, Option.map_some] at events'
  exact ⟨queue, _, events', asides (fun e member => Event.isAside_of_report (noise e member)) law⟩

theorem Kept.note (kept : L.Kept w) {e : Event} (aside : e.isAside = true) :
    L.Kept { w with trace := e :: w.trace } := by
  obtain ⟨queue, es, events, law⟩ := kept
  refine ⟨queue, es ++ [e], ?_, L.aside aside law⟩
  rw [commandEvents_cons (Event.isBoundary_of_isAside aside), events]
  rfl

theorem Kept.handle (kept : L.Kept w) (f : Handle) : L.Kept { w with handle := f } := kept

theorem Kept.outOfRange (kept : L.Kept w) : L.Kept w.outOfRange := (kept.note rfl).handle _

theorem Kept.inStage (kept : L.Kept w) (st : Stage) : L.Kept (w.inStage st) :=
  (kept.note rfl).handle _

theorem Kept.mainDone (kept : L.Kept w) : L.Kept w.mainDone := (kept.inStage .beforeEnd).note rfl

theorem Kept.delivered {kind : OpMessageType} (kept : L.Kept w) (heard : Delivered kind w w') :
    L.Kept w' := by
  cases heard with
  | incomplete link => exact kept.moves link
  | plain kind notData taken link => exact (kept.moves link).note rfl
  | data size link => exact ((kept.moves link).note rfl).handle _

theorem Kept.heard (kept : L.Kept w) (heard : Heard w w') : L.Kept w' := by
  induction heard with
  | start => exact kept
  | link _ link ih => exact ih.moves link
  | message _ _ heard ih => exact ih.delivered heard

theorem Kept.chunkSent (kept : L.Kept w) : L.Kept w.chunkSent := by
  have announced : L.Kept { w with trace := .emitted msgDataSending [] :: w.trace } := kept.note rfl
  unfold World.chunkSent
  split
  · exact announced.note rfl
  · exact announced

/-- A callback adds its own call and what it does. -/
theorem Kept.ran {st : Stage} {callback : Callback} {w₁ : World} (kept : L.Kept w)
    (e : Engaged h st w) (enters : Enters env.build h callback w.handle) (enter : ModeStep w w₁)
    (run : L.D callback (w₁.calling callback) w' ∨ L.C callback (w₁.calling callback) w')
    (step : CallbackStep (w₁.calling callback) w') : L.Kept w' := by
  have handle : w₁.handle = w.handle := enter.handle
  obtain ⟨queue, es, events, law⟩ := kept.moves enter
  have queue : (w₁.calling callback).QueuesReports := queue
  obtain ⟨queue, new, trace, noise⟩ := step.adds queue
  refine ⟨queue, _, ?_, L.ran (handle ▸ e.parameters) (handle ▸ enters) law run trace noise⟩
  rw [trace, commandEvents_append new fun e member => Event.isBoundary_of_isNoise (noise e member)]
  have called : commandEvents (w₁.calling callback).trace = _ := commandEvents_cons rfl w₁.trace
  rw [called, events]
  simp

theorem Kept.executed {st : Stage} {callback : Callback} {r : OpResult} (kept : L.Kept w)
    (known : callback ≠ .configureMemory) (e : Engaged h st w)
    (enters : Enters env.build h callback w.handle)
    (ran : Executed callback (L.D callback) w r w') : L.Kept w' := by
  cases ran with
  | good enter run leave _ _ link =>
    have after := kept.ran e enters enter (.inl run) ((L.runs known).step _ _ run)
    have returned : L.Kept (World.returning _ callback) := after.note rfl
    exact (returned.moves leave).moves link
  | bad enter run leave =>
    have after := kept.ran e enters enter (.inl run) ((L.runs known).step _ _ run)
    have returned : L.Kept (World.returning _ callback) := after.note rfl
    exact returned.moves leave

theorem Kept.cutShort {st : Stage} {callback : Callback} (kept : L.Kept w)
    (known : callback ≠ .configureMemory) (e : Engaged h st w)
    (enters : Enters env.build h callback w.handle)
    (cut : CutShort callback (L.D callback) (L.C callback) w w') : L.Kept w' := by
  cases cut with
  | entering enter => exact kept.moves enter
  | running enter run => exact kept.ran e enters enter (.inr run) (L.cut run)
  | leaving enter run leave link =>
    have after := kept.ran e enters enter (.inl run) ((L.runs known).step _ _ run)
    have returned : L.Kept (World.returning _ callback) := after.note rfl
    exact (returned.moves leave).moves link

/-- How a turn of the main phase leaves the law. -/
theorem Kept.turned {r : Option Stage} (kept : L.Kept w') (turned : Turned h r w') :
    if r.isSome then ∃ st, (st = .inMain ∨ st = .beforeEnd) ∧ Engaged h st w' ∧ L.Kept w'
    else Live w' ∧ L.Kept w' := by
  cases r with
  | none => exact ⟨turned, kept⟩
  | some st => exact ⟨st, turned.1, turned.2, kept⟩

end

variable {callback : Callback}

theorem pumps_single {L : EventLaw env h} (kept : L.Kept w) (known : callback ≠ .configureMemory)
    (found : h.firestarterOperationMain = some callback) (other : h.cmd ≠ cmdWrite)
    (e : Engaged h .inMain w) :
    Ends (singleStepOperationCallback dispatch) env w
      (fun ok w' =>
        if ok then ∃ st, (st = .inMain ∨ st = .beforeEnd) ∧ Engaged h st w' ∧ L.Kept w'
        else Live w' ∧ L.Kept w')
      L.Kept := by
  refine (ends_singleStepOperationCallback (L.runs known) found e).mono (fun ok w' turn => ?_)
    fun w' cut => ?_
  · obtain ⟨r, rfl, turn, turned⟩ := turn
    refine Kept.turned ?_ turned
    cases turn with
    | failed ran => exact kept.executed known e (.step found other) ran
    | done ran link =>
      have after := kept.executed known e (.step found other) ran
      exact (after.moves link).mainDone
  · cases cut with
    | running cut => exact kept.cutShort known e (.step found other) cut
    | ending ran link =>
      have after := kept.executed known e (.step found other) ran
      exact after.moves link

theorem pumps_write {L : EventLaw env h} (kept : L.Kept w) (known : callback ≠ .configureMemory)
    (found : h.firestarterOperationMain = some callback) (e : Engaged h .inMain w) :
    Ends processIncomingData env w
      (fun ok w' =>
        if ok then ∃ st, (st = .inMain ∨ st = .beforeEnd) ∧ Engaged h st w' ∧ L.Kept w'
        else Live w' ∧ L.Kept w')
      L.Kept := by
  have answered {kind : OpMessageType} {w₁ : World} (heard : Delivered kind w w₁) :
      L.Kept w₁.answered := (kept.delivered heard).handle _
  refine (ends_processIncomingData (L.runs known) found e).mono (fun ok w' turn => ?_)
    fun w' cut => ?_
  · obtain ⟨r, rfl, turn, turned⟩ := turn
    refine Kept.turned ?_ turned
    cases turn with
    | overrun beyond => exact kept.outOfRange
    | complete reached link => exact (kept.moves link).mainDone
    | waiting link => exact kept.moves link
    | requested link first => exact ((kept.moves link).note rfl).handle _
    | finished heard unbounded link => exact ((answered heard).moves link).mainDone
    | refused heard taken link => exact (answered heard).moves link
    | outside heard long => exact (answered heard).outOfRange
    | failed heard chunk ran =>
      exact (answered heard).executed known (e.delivered heard).answered (.chunk found chunk) ran
    | wrote heard chunk ran =>
      have after := (answered heard).executed known (e.delivered heard).answered
        (.chunk found chunk) ran
      exact after.handle _
  · cases cut with
    | link link => exact kept.moves link
    | answered heard link => exact (answered heard).moves link
    | running heard chunk cut =>
      exact (answered heard).cutShort known (e.delivered heard).answered (.chunk found chunk) cut

theorem pumps_read {L : EventLaw env h} (kept : L.Kept w) (known : callback ≠ .configureMemory)
    (found : h.firestarterOperationMain = some callback) (other : h.cmd ≠ cmdWrite)
    (e : Engaged h .inMain w) :
    Ends processOutgoingData env w
      (fun ok w' =>
        if ok then ∃ st, (st = .inMain ∨ st = .beforeEnd) ∧ Engaged h st w' ∧ L.Kept w'
        else Live w' ∧ L.Kept w')
      L.Kept := by
  have sent {opEnd : U32} {w₁ w₂ : World} (ran : Executed callback (L.D callback) w .stop w₁)
      (heard : Heard (w₁.trimmed opEnd).chunkSent w₂) : L.Kept w₂ := by
    have after := kept.executed known e (.step found other) ran
    have trimmed : L.Kept (w₁.trimmed opEnd) := after.handle _
    exact trimmed.chunkSent.heard heard
  refine (ends_processOutgoingData (L.runs known) found e).mono (fun ok w' turn => ?_)
    fun w' cut => ?_
  · obtain ⟨r, rfl, turn, turned⟩ := turn
    refine Kept.turned ?_ turned
    cases turn with
    | overrun beyond => exact kept.outOfRange
    | complete reached link => exact (kept.moves link).mainDone
    | failed more ran => exact kept.executed known e (.step found other) ran
    | unanswered more ran heard => exact sent ran heard
    | sent more ran heard acked rest => exact ((sent ran heard).delivered acked).handle _
    | last more ran heard acked reached link =>
      have moved : L.Kept (World.movedOn _) := ((sent ran heard).delivered acked).handle _
      exact (moved.moves link).mainDone
  · cases cut with
    | link link => exact kept.moves link
    | running more cut => exact kept.cutShort known e (.step found other) cut
    | hearing more ran heard => exact sent ran heard
    | ending more ran heard acked link =>
      have moved : L.Kept (World.movedOn _) := ((sent ran heard).delivered acked).handle _
      exact moved.moves link

/-- The callback of a housekeeping phase. -/
theorem serves {L : EventLaw env h} {st : Stage} (kept : L.Kept w) (settled : h.Settled)
    (found : h.housekeeper st = some callback) (e : Engaged h st w) :
    Ends (executeOperation dispatch (some callback)) env w
      (fun r w' => if r = .error then L.Kept w' else L.Kept w') L.Kept := by
  have known : callback ≠ .configureMemory := settled.serves found
  refine ((L.runs known).executes w).mono (fun r w' ran => ?_) fun w' cut => ?_
  · rw [ite_self]
    exact kept.executed known e (.housekeeping found) ran
  · exact kept.cutShort known e (.housekeeping found) cut

/-- The law is an invariant of the command, the same in every stage. -/
def invariant : PhaseInvariant env h (mainPump h.cmd) where
  holds _ := L.Kept
  always := L.Kept
  safe kept := kept
  onward kept link := kept.moves link
  waits kept link := kept.moves link
  hears _ kept heard := kept.delivered heard
  opens _ _ kept heard link := ((kept.delivered heard).moves link).inStage _
  lacks _ _ kept := kept
  serves settled _ found e kept := serves kept settled found e
  closes _ _ kept := (kept.note rfl).inStage _
  pumps found known e kept := by
    unfold mainPump
    split
    · rename_i reads
      exact pumps_read kept known found (by rw [beq_iff_eq.mp reads]; decide) e
    split
    · exact pumps_write kept known found e
    · rename_i other
      exact pumps_single kept known found (by simpa using other) e

end EventLaw

/-- What is known of any command: which one it is. -/
def commandLaw (env : Env) (h : Handle) : EventLaw env h where
  law _ := True
  D _ := CallbackStep
  C _ := CallbackStep
  runs known := .of_within known
  cut step := step
  begins _ _ _ := trivial
  aside _ _ := trivial
  ran _ _ _ _ _ _ := trivial

/-! ## The law over runs -/

/-- Ending a command touches the shield, but not the chip. -/
abbrev UntouchedStep : World → World → Prop := Grows (fun _ => ()) fun e => !e.isAccess

instance : HostFrame UntouchedStep where
  talk s s' talk := by
    obtain ⟨new, trace, noise⟩ := talk.adds
    refine ⟨rfl, new, trace, fun e member => ?_⟩
    have talked := noise e member
    cases e <;> first | rfl | cases talked

instance : LatchFrame UntouchedStep where
  strobe s reg byte latches offAt := by
    refine trans_of UntouchedStep (Grows.of_note (.strobe reg byte) rfl rfl) ?_
    exact Grows.of_silent rfl rfl

instance : CacheFrame UntouchedStep where
  cache _ _ _ _ _ := Grows.of_silent rfl rfl
  control _ _ := Grows.of_note _ rfl rfl
  addressed _ _ _ _ := Grows.of_note _ rfl rfl

instance : Within env UntouchedStep commandDone := by
  have : Within env UntouchedStep (setHandle fun h => { h with cmd := cmdIdle }) :=
    Within.update _ fun _ => Grows.of_silent rfl rfl
  have : Within env UntouchedStep (note .finished) :=
    Within.update _ fun _ => Grows.of_note _ rfl rfl
  unfold commandDone
  infer_instance

/-- All it adds but the last note is noise, and none of it an access. -/
theorem ends_commandDone_untouched (live : Live w) :
    Ends commandDone env w
      (fun _ w' => ∃ w₀, w' = { w₀ with trace := .finished :: w₀.trace } ∧ EndStep w w₀ ∧
        UntouchedStep w w₀)
      (fun w' => EndStep w w' ∧ UntouchedStep w w') := by
  have ended := (@ends_commandDone env w live.queue fun _ => live.comMode).and
    (Within.ends (R := UntouchedStep) inferInstance w)
  refine ended.mono (fun _ w' both => ?_) fun _ both => both
  obtain ⟨⟨-, w₀, step, rfl⟩, untouched⟩ := both
  obtain ⟨-, new, trace, -⟩ := step.adds live.queue
  obtain ⟨new', trace', untouched⟩ := untouched.adds
  have same : .finished :: new = new' := by
    refine @List.append_cancel_right _ _ w.trace _ ?_
    rw [← trace', List.cons_append, ← trace]
  exact ⟨w₀, rfl, step, rfl, new, trace, fun e member =>
    untouched e (same ▸ List.mem_cons_of_mem _ member)⟩

namespace EventLaw

variable {L : EventLaw env h}

theorem Kept.ended (kept : L.Kept w) (step : EndStep w w') (untouched : UntouchedStep w w') :
    L.Kept w' := by
  obtain ⟨queue, es, events, law⟩ := kept
  obtain ⟨queue', new, trace, noise⟩ := step.adds queue
  obtain ⟨new', trace', untouched⟩ := untouched.adds
  obtain rfl : new = new' := List.append_cancel_right (trace.symm.trans trace')
  refine ⟨queue', es ++ new.reverse, ?_, asides (fun e member => ?_) law⟩
  · rw [trace, commandEvents_append new fun e member => Event.isBoundary_of_isNoise (noise e member),
      events]
    rfl
  · have member := List.mem_reverse.mp member
    exact Event.isAside_of_noise (noise e member) (untouched e member)

/-- The end of a command adds nothing its law would speak of. -/
theorem ends_concluded (kept : L.Kept w) (live : Live w) :
    Ends commandDone env w (fun _ w' => ∃ es, commandEvents w'.trace = some (h, es) ∧ L.law es)
      (fun w' => ∃ es, commandEvents w'.trace = some (h, es) ∧ L.law es) := by
  refine (ends_commandDone_untouched live).mono (fun _ w' done => ?_) fun w' both => ?_
  · obtain ⟨w₀, rfl, step, untouched⟩ := done
    have ended : L.Kept { w₀ with trace := .finished :: w₀.trace } :=
      (kept.ended step untouched).note rfl
    exact ended.2
  · exact (kept.ended both.1 both.2).2

end EventLaw

/-- The laws of all commands make an invariant of the runs. -/
def CommandInvariant.ofLaws (L : ∀ h, EventLaw env h) : CommandInvariant env where
  toReadiness := Readiness.free env
  command h := (L h).invariant
  law h es := (L h).law es
  powersUp := @Readiness.powersUp_free env
  begins memory accepted _ _ := ⟨accepted.queue, [], rfl, (L _).begins memory accepted rfl⟩
  lawful kept := kept.2
  concludes kept live := EventLaw.ends_concluded kept live
  idles law noise := EventLaw.asides (fun e member => Event.isAside_of_report (noise e member).1) law

/-- In every run the events of a memory command obey its law. -/
theorem law_of_seen (L : ∀ h, EventLaw env h) (seen : Seen env w) {es : List Event}
    (events : commandEvents w.trace = some (h, es)) (memory : isMemoryCmd h.cmd = true) :
    (L h).law es := (CommandInvariant.ofLaws L).lawful_of_seen seen h es events memory

end Firestarter
