import Firestarter.LinkFrames

/-! What an observer reads off a run: the events of the running command, and what the link
functions and the chip drivers add to them. -/
namespace Firestarter

open Interactive Interactive.Prog

set_option synthInstance.maxSize 4000

/-- The running command: the handle it was accepted with, and its events, oldest first. There is
none from the moment the next command frame is received. -/
def commandEvents : List Event → Option (Handle × List Event)
  | [] => none
  | .accepted h :: _ => some (h, [])
  | .received :: _ => none
  | e :: earlier => (commandEvents earlier).map fun (h, es) => (h, es ++ [e])

namespace Event

/-- The two events at which an observer turns to another command. -/
def isBoundary : Event → Bool
  | .accepted _ | .received => true
  | _ => false

/-- Frames and text without a part in the transfer protocol. -/
def isReportNoise : Event → Bool
  | .emitted id _ => isReport id
  | .printed _ => true
  | _ => false

/-- The shield at work. -/
def isShieldNoise : Event → Bool
  | .control _ | .strobe .. | .addressed .. | .read .. | .wrote .. | .flipped .. | .measured .. =>
    true
  | _ => false

/-- What a callback may add to the events. -/
def isNoise (e : Event) : Bool := e.isReportNoise || e.isShieldNoise

theorem isNoise_of_report {e : Event} (report : e.isReportNoise = true) : e.isNoise = true := by
  rw [isNoise, report, Bool.true_or]

theorem isBoundary_of_isNoise {e : Event} (noise : e.isNoise = true) : e.isBoundary = false := by
  cases e <;> first | rfl | cases noise

end Event

theorem commandEvents_cons {e : Event} (inside : e.isBoundary = false) (earlier : List Event) :
    commandEvents (e :: earlier) = (commandEvents earlier).map fun (h, es) => (h, es ++ [e]) := by
  cases e <;> first | rfl | cases inside

theorem commandEvents_append (new : List Event) (inside : ∀ e ∈ new, e.isBoundary = false)
    (earlier : List Event) :
    commandEvents (new ++ earlier) =
      (commandEvents earlier).map fun (h, es) => (h, es ++ new.reverse) := by
  induction new with
  | nil => simp
  | cons e new ih =>
    rw [List.cons_append, commandEvents_cons (inside e (by simp)),
      ih fun e he => inside e (List.mem_cons_of_mem _ he), Option.map_map]
    simp [Function.comp_def]

/-! ## Reading a log -/

section
variable {σ ε β : Type} (step : σ → ε → σ) (out : σ → ε → List β)

/-- What a reader writes down who goes through a log with something in mind. -/
def readOff : σ → List ε → List β
  | _, [] => []
  | s, e :: es => out s e ++ readOff (step s e) es

theorem readOff_append (s : σ) (es new : List ε) :
    readOff step out s (es ++ new) = readOff step out s es ++ readOff step out (es.foldl step s) new := by
  induction es generalizing s with
  | nil => rfl
  | cons e es ih =>
    show out s e ++ readOff step out (step s e) (es ++ new) = _
    rw [ih (step s e), ← List.append_assoc]
    rfl

end

/-- The operation's state number, as the events tell it. -/
def numberAfter (n : Nat) : Event → Nat
  | .advanced m => m.toNat
  | _ => n

/-- The state number after these events of a command. -/
def stateNumber (es : List Event) : Nat := es.foldl numberAfter 0

theorem stateNumber_snoc (es : List Event) (e : Event) :
    stateNumber (es ++ [e]) = numberAfter (stateNumber es) e := by
  unfold stateNumber
  rw [List.foldl_append]
  rfl

/-! ## Steps that keep part of the world -/

/-- Only reports wait to be sent, and none while a frame can go out at once. -/
def World.QueuesReports (w : World) : Prop :=
  (∀ frame ∈ w.deferredLog, isReport frame.id = true) ∧ (w.comMode = true → w.deferredLog = [])

/-- A step that keeps one part of the world, adds only noise to the trace, and queues only
reports. -/
structure Moves {κ : Type} (part : World → κ) (noise : Event → Bool) (s s' : World) : Prop where
  kept : part s' = part s
  adds : s.QueuesReports →
    s'.QueuesReports ∧ ∃ new, s'.trace = new ++ s.trace ∧ ∀ e ∈ new, noise e = true

namespace Moves

variable {κ : Type} {part : World → κ} {noise : Event → Bool} {s s' : World}

theorem of_silent (kept : part s' = part s) (trace : s'.trace = s.trace)
    (queue : s'.deferredLog = s.deferredLog)
    (mode : s'.comMode = true → s.comMode = true := by exact id) : Moves part noise s s' where
  kept := kept
  adds reports := by
    refine ⟨⟨?_, fun speaks => ?_⟩, [], trace, by simp⟩
    · rw [queue]
      exact reports.1
    · rw [queue]
      exact reports.2 (mode speaks)

theorem of_note (e : Event) (heard : noise e = true)
    (kept : part { s with trace := e :: s.trace } = part s) :
    Moves part noise s { s with trace := e :: s.trace } where
  kept := kept
  adds reports := ⟨reports, [e], rfl, by simpa using heard⟩

instance : IsPreorder World (Moves part noise) where
  refl _ := of_silent rfl rfl rfl
  trans s₁ s₂ s₃ h h' := by
    refine ⟨h'.kept.trans h.kept, fun reports => ?_⟩
    obtain ⟨reports, new, trace, heard⟩ := h.adds reports
    obtain ⟨reports, new', trace', heard'⟩ := h'.adds reports
    refine ⟨reports, new' ++ new, ?_, ?_⟩
    · rw [trace', trace, List.append_assoc]
    · intro e he
      cases List.mem_append.mp he with
      | inl he => exact heard' e he
      | inr he => exact heard e he

/-- Waiting and driving the bus is silent. -/
theorem of_bus (kept : part s' = part s) (same : s'.withoutBus = s.withoutBus) :
    Moves part noise s s' := by
  have trace := congrArg World.trace same
  have queue := congrArg World.deferredLog same
  have mode := congrArg World.comMode same
  exact of_silent kept trace queue fun speaks => mode.symm.trans speaks

/-- A step seen by an observer who tells less apart. -/
theorem mono {κ' : Type} {part' : World → κ'} {wider : Event → Bool} (h : Moves part noise s s')
    (g : κ → κ') (coarser : ∀ w, part' w = g (part w))
    (sub : ∀ e, noise e = true → wider e = true) : Moves part' wider s s' where
  kept := by rw [coarser, coarser, h.kept]
  adds reports :=
    have ⟨reports, new, trace, heard⟩ := h.adds reports
    ⟨reports, new, trace, fun e he => sub e (heard e he)⟩

/-- The step adds its noise to the events of the running command, if there is one. -/
theorem events (h : Moves part noise s s') (queue : s.QueuesReports)
    (inside : ∀ e, noise e = true → e.isBoundary = false) :
    s'.QueuesReports ∧ ∃ new : List Event, (∀ e ∈ new, noise e = true) ∧
      commandEvents s'.trace =
        (commandEvents s.trace).map fun (command, es) => (command, es ++ new) := by
  obtain ⟨queue', new, trace, heard⟩ := h.adds queue
  refine ⟨queue', new.reverse, fun e member => heard e (List.mem_reverse.mp member), ?_⟩
  rw [trace, commandEvents_append new fun e member => inside e (heard e member)]

end Moves

/-! ## Frames set apart -/

/-- The frame says that an address is outside the range of the operation. -/
def Event.refusesRange : Event → Bool
  | .emitted id _ => id == msgErrOutOfRange
  | _ => false

/-- The frame says how far a write has come. -/
def Event.reportsProgress : Event → Bool
  | .emitted id _ => id == msgDataProgress
  | _ => false

/-- The frame has one of these ids. -/
def Event.sends (ids : U8 → Bool) : Event → Bool
  | .emitted id _ => ids id
  | _ => false

namespace Event

theorem sends_range (e : Event) : e.sends isRangeRefusal = e.refusesRange := by
  cases e <;> rfl

theorem sends_progress (e : Event) : e.sends isProgress = e.reportsProgress := by
  cases e <;> rfl

theorem sends_setApart (e : Event) : e.sends isSetApart = (e.refusesRange || e.reportsProgress) := by
  cases e <;> rfl

theorem refusesRange_of_sends {e : Event} (other : e.sends isSetApart = false) :
    e.refusesRange = false := by
  rw [sends_setApart] at other
  exact (Bool.or_eq_false_iff.mp other).1

theorem reportsProgress_of_sends {e : Event} (other : e.sends isSetApart = false) :
    e.reportsProgress = false := by
  rw [sends_setApart] at other
  exact (Bool.or_eq_false_iff.mp other).2

end Event

namespace DeferredFrame

/-- The length of the frame can be told. -/
def isSendable (frame : DeferredFrame) : Bool := decide (frame.params.length ≤ 65533)

def sent (frame : DeferredFrame) : Event := .emitted frame.id frame.params

/-- The frame has one of these ids, and will be sent. -/
def sends (ids : U8 → Bool) (frame : DeferredFrame) : Bool := frame.isSendable && ids frame.id

end DeferredFrame

/-- The frames with these ids so far, those that wait to be sent before those that were. -/
def World.framesOf (ids : U8 → Bool) (w : World) : List Event :=
  ((w.deferredLog.filter (DeferredFrame.sends ids)).map DeferredFrame.sent).reverse ++
    w.trace.filter (Event.sends ids)

/-- None of them waits. -/
def World.HoldsNone (ids : U8 → Bool) (w : World) : Prop :=
  ∀ frame ∈ w.deferredLog, frame.sends ids = false

theorem World.QueuesReports.holdsNone {w : World} (queue : w.QueuesReports)
    (comMode : w.comMode = true) (ids : U8 → Bool) : w.HoldsNone ids := by
  intro frame member
  rw [queue.2 comMode] at member
  cases member

section
variable {ids fewer : U8 → Bool} {w : World}

/-- What is known of more frames is known of fewer. -/
theorem World.framesOf_filter (sub : ∀ id, fewer id = true → ids id = true) (w : World) :
    (w.framesOf ids).filter (Event.sends fewer) = w.framesOf fewer := by
  unfold World.framesOf
  rw [List.filter_append, List.filter_reverse, List.filter_map, List.filter_filter,
    List.filter_filter]
  congr 1
  · refine congrArg (fun log => (List.map DeferredFrame.sent log).reverse) ?_
    refine List.filter_congr fun frame _ => ?_
    show (fewer frame.id && (frame.isSendable && ids frame.id)) =
      (frame.isSendable && fewer frame.id)
    cases known : fewer frame.id with
    | true => rw [sub _ known, Bool.true_and]
    | false => rw [Bool.false_and, Bool.and_false]
  · refine List.filter_congr fun e _ => ?_
    cases e with
    | emitted id params =>
      show (fewer id && ids id) = fewer id
      cases known : fewer id with
      | true => rw [sub _ known]; rfl
      | false => rfl
    | _ => rfl

end

/-- Where no such frame waits, a step after which there are no more of them adds none to the
trace. -/
theorem Moves.frames {κ : Type} {part : World → κ} {noise : Event → Bool} {s s' : World}
    {ids : U8 → Bool} (moved : Moves part noise s s') (same : s'.framesOf ids = s.framesOf ids)
    (queue : s.QueuesReports) (waiting : s.HoldsNone ids) :
    s'.HoldsNone ids ∧ ∃ new, s'.trace = new ++ s.trace ∧
      ∀ e ∈ new, noise e = true ∧ e.sends ids = false := by
  obtain ⟨-, new, trace, heard⟩ := moved.adds queue
  have before : s.deferredLog.filter (DeferredFrame.sends ids) = [] :=
    List.filter_eq_nil_iff.mpr fun frame member => by simp [waiting frame member]
  unfold World.framesOf at same
  rw [before, trace, List.filter_append] at same
  have count := congrArg List.length same
  simp only [List.length_append, List.length_reverse, List.length_map, List.length_nil] at count
  have noneWaits : s'.deferredLog.filter (DeferredFrame.sends ids) = [] :=
    List.length_eq_zero_iff.mp (by omega)
  have noneSent : new.filter (Event.sends ids) = [] := List.length_eq_zero_iff.mp (by omega)
  refine ⟨fun frame member => ?_, new, trace, fun e member => ⟨heard e member, ?_⟩⟩
  · simpa using List.filter_eq_nil_iff.mp noneWaits frame member
  · simpa using List.filter_eq_nil_iff.mp noneSent e member

/-- The queue of deferred frames takes no frame but the new one. -/
theorem withoutNewestDroppable_subset {log rest : List DeferredFrame}
    (dropped : withoutNewestDroppable log = some rest) : ∀ frame ∈ rest, frame ∈ log := by
  induction log generalizing rest with
  | nil => cases dropped
  | cons first later ih =>
    rw [withoutNewestDroppable] at dropped
    intro frame member
    split at dropped
    · rename_i kept found
      obtain rfl := Option.some.inj dropped
      cases List.mem_cons.mp member with
      | inl same => exact List.mem_cons.mpr (.inl same)
      | inr member => exact List.mem_cons_of_mem _ (ih found frame member)
    · split at dropped
      · obtain rfl := Option.some.inj dropped
        exact List.mem_cons_of_mem _ member
      · cases dropped

theorem deferredLogPush_reports {log : List DeferredFrame} {id : U8} (params : List U8)
    (report : isReport id = true) (reports : ∀ frame ∈ log, isReport frame.id = true) :
    ∀ frame ∈ (deferredLogPush log id params).1, isReport frame.id = true := by
  have push (rest : List DeferredFrame) (fewer : ∀ frame ∈ rest, frame ∈ log) :
      ∀ frame ∈ rest ++ [⟨id, params.take deferredParamMax⟩], isReport frame.id = true := by
    intro frame member
    cases List.mem_append.mp member with
    | inl old => exact reports frame (fewer frame old)
    | inr new =>
      obtain rfl := List.mem_singleton.mp new
      exact report
  unfold deferredLogPush
  dsimp only
  split
  · split
    · exact reports
    · split
      · exact reports
      · rename_i rest dropped
        exact push rest (withoutNewestDroppable_subset dropped)
  · exact push log fun _ h => h

/-- Some of the frames that are set apart. -/
class SetApart (ids : U8 → Bool) : Prop where
  apart : ∀ id, ids id = true → isSetApart id = true

instance : SetApart isSetApart := ⟨fun _ apart => apart⟩

instance : SetApart isRangeRefusal where
  apart id range := by rw [isSetApart, range, Bool.true_or]

instance : SetApart isProgress where
  apart id progress := by rw [isSetApart, progress, Bool.or_true]

/-- The queue never drops one of them. -/
theorem isSetApart_lasts {id : U8} (apart : isSetApart id = true) :
    deferredLogIsDroppable id = false := by
  rcases Bool.or_eq_true_iff.mp apart with range | progress
  · rw [beq_iff_eq.mp range]
    rfl
  · rw [beq_iff_eq.mp progress]
    rfl

section
variable {ids : U8 → Bool} {id : U8} {w : World}

theorem withoutNewestDroppable_frames [SetApart ids] {log rest : List DeferredFrame}
    (dropped : withoutNewestDroppable log = some rest) :
    rest.filter (DeferredFrame.sends ids) = log.filter (DeferredFrame.sends ids) := by
  induction log generalizing rest with
  | nil => cases dropped
  | cons first later ih =>
    rw [withoutNewestDroppable] at dropped
    split at dropped
    · rename_i kept found
      obtain rfl := Option.some.inj dropped
      rw [List.filter_cons, List.filter_cons, ih found]
    · split at dropped
      · rename_i droppable
        obtain rfl := Option.some.inj dropped
        refine (List.filter_cons_of_neg fun apart => ?_).symm
        have lasts := isSetApart_lasts (SetApart.apart first.id (Bool.and_eq_true_iff.mp apart).2)
        exact Bool.noConfusion (lasts.symm.trans droppable)
      · cases dropped

/-- Another frame takes no place of these in the queue. -/
theorem deferredLogPush_frames [SetApart ids] (other : ids id = false) (params : List U8)
    (log : List DeferredFrame) :
    (deferredLogPush log id params).1.filter (DeferredFrame.sends ids) =
      log.filter (DeferredFrame.sends ids) := by
  have push (rest : List DeferredFrame) :
      (rest ++ [(⟨id, params.take deferredParamMax⟩ : DeferredFrame)]).filter
        (DeferredFrame.sends ids) = rest.filter (DeferredFrame.sends ids) := by
    have skipped : DeferredFrame.sends ids ⟨id, params.take deferredParamMax⟩ = false := by
      simp [DeferredFrame.sends, other]
    rw [List.filter_append, List.filter_cons, skipped]
    exact List.append_nil _
  unfold deferredLogPush
  dsimp only
  split
  · split
    · rfl
    · split
      · rfl
      · rename_i rest dropped
        exact (push rest).trans (withoutNewestDroppable_frames dropped)
  · exact push log

theorem framesOf_noted {e : Event} (other : e.sends ids = false) (w : World) :
    World.framesOf ids { w with trace := e :: w.trace } = w.framesOf ids := by
  unfold World.framesOf
  rw [List.filter_cons_of_neg (by simp [other])]

theorem framesOf_pushed [SetApart ids] (other : ids id = false) (params : List U8) (w : World) :
    World.framesOf ids { w with deferredLog := (deferredLogPush w.deferredLog id params).1 } =
      w.framesOf ids := by
  unfold World.framesOf
  rw [deferredLogPush_frames other]

end

/-! ## The serial link -/

/-- What the link functions leave alone: all but the receive queue, the clocks, the bus, the
bytes of the buffer, the response, and those frames in the trace and the queue that are not set
apart. -/
def World.beyondLink (w : World) : World :=
  { w.withoutBus with
    handle := { w.handle with dataBuffer := fun _ => 0, responseCode := 0 }
    timeoutStartedMs := 0, rx := [], trace := w.framesOf isSetApart, deferredLog := [] }

/-- A step of the link functions and of the engine's waits. -/
abbrev LinkStep : World → World → Prop := Moves World.beyondLink Event.isReportNoise

theorem LinkStep.framesOf {s s' : World} (link : LinkStep s s') :
    s'.framesOf isSetApart = s.framesOf isSetApart := by
  have kept := congrArg World.trace link.kept
  exact kept

/-- A report moves nothing but the trace or the queue, whichever it goes to. -/
theorem Moves.report {κ : Type} {part : World → κ} {noise : Event → Bool} {env : Env} (id : U8)
    (params : List U8) (report : isReport id = true)
    (heard : ∀ params, noise (.emitted id params) = true)
    (traced : ∀ w, part { w with trace := .emitted id params :: w.trace } = part w)
    (queued : ∀ w, part { w with deferredLog := (deferredLogPush w.deferredLog id params).1 } =
      part w) :
    Within env (Moves part noise) (rurpLogId id params) := by
  have sent : Within env (Moves part noise) (firestarterEmitFrameWide id params) := by
    have : Within env (Moves part noise) (update fun w =>
        { w with trace := .emitted id params :: w.trace } : Fw Unit) :=
      Within.update _ fun w => Moves.of_note _ (heard params) (traced w)
    unfold firestarterEmitFrameWide note
    infer_instance
  refine within_iff_ends.mpr fun s => ?_
  unfold rurpLogId
  rw [ends_bind, ends_build, ends_bind, ends_look]
  split
  · rename_i waits
    have waits : s.comMode = false := by simpa using (Bool.and_eq_true_iff.mp waits).2
    refine Ends.when (fun _ => ?_) fun _ => refl_of (Moves part noise) s
    refine ⟨queued s, fun reports => ⟨⟨?_, fun speaks => ?_⟩, [], rfl, by simp⟩⟩
    · exact deferredLogPush_reports params report reports.1
    · exact Bool.noConfusion (waits.symm.trans speaks)
  · exact sent.ends s

section
variable {env : Env}

instance : BusFrame env LinkStep where
  bus s s' _ same := by
    have kept := congrArg World.beyondLink same
    exact Moves.of_bus kept same

instance : NoticeFrame env LinkStep where
  notice id params notice := by
    have report := isReport_of_isNotice notice
    have other := notSetApart_of_isNotice notice
    have sent : (Event.emitted id params).sends isSetApart = false := other
    refine Moves.report id params report (fun _ => report) (fun w => ?_) fun w => ?_
    · unfold World.beyondLink
      rw [framesOf_noted sent]
      rfl
    · unfold World.beyondLink
      rw [framesOf_pushed other]
      rfl
  respond _ := Within.update _ fun _ => Moves.of_silent rfl rfl rfl

instance : QueueFrame LinkStep := ⟨fun _ _ => Moves.of_silent rfl rfl rfl⟩

instance : BufferFrame LinkStep :=
  ⟨fun _ _ => Moves.of_silent rfl rfl rfl, fun _ _ => Moves.of_silent rfl rfl rfl⟩

end

/-! ## The two modes -/

/-- What a change of the mode leaves alone; the handle as a whole is part of it. -/
def World.beyondMode (w : World) : World := { w.beyondLink with handle := w.handle, comMode := true }

/-- A change between the two modes of the Uno class, or none on a board without them. -/
abbrev ModeStep : World → World → Prop := Moves World.beyondMode Event.isReportNoise

theorem ModeStep.framesOf {s s' : World} (h : ModeStep s s') :
    s'.framesOf isSetApart = s.framesOf isSetApart := by
  have kept := congrArg World.trace h.kept
  exact kept

theorem ModeStep.handle {s s' : World} (h : ModeStep s s') : s'.handle = s.handle := by
  have kept := congrArg World.handle h.kept
  exact kept

section
variable {env : Env}

instance : BusFrame env ModeStep where
  bus s s' _ same := by
    have kept := congrArg World.beyondMode same
    exact Moves.of_bus kept same

/-- A silent change of the port or its queue is a mode step. -/
theorem ModeStep.update (env : Env) (f : World → World)
    (kept : ∀ w, (f w).beyondMode = w.beyondMode)
    (trace : ∀ w, (f w).trace = w.trace) (queue : ∀ w, (f w).deferredLog = w.deferredLog)
    (mode : ∀ w, (f w).comMode = true → w.comMode = true) :
    Within env ModeStep (update f : Fw Unit) :=
  Within.update f fun w => Moves.of_silent (kept w) (trace w) (queue w) (mode w)

instance : QueueFrame ModeStep := ⟨fun _ _ => Moves.of_silent rfl rfl rfl⟩

instance : Within env ModeStep rurpSetProgrammerMode := by
  have := ModeStep.update env (fun w => { w with comMode := false })
    (fun _ => rfl) (fun _ => rfl) (fun _ => rfl) fun _ => nofun
  unfold rurpSetProgrammerMode
  infer_instance

/-- Sending the queue adds those it holds. -/
theorem framesOf_sent (ids : U8 → Bool) (frames : List DeferredFrame) :
    ((frames.filter DeferredFrame.isSendable).map DeferredFrame.sent).filter (Event.sends ids) =
      (frames.filter (DeferredFrame.sends ids)).map DeferredFrame.sent := by
  rw [List.filter_map, List.filter_filter]
  congr 2
  funext frame
  exact Bool.and_comm _ _

/-- The queued frames are sent whole; a frame too long to send would be left out. -/
theorem ends_sendFrames (frames : List DeferredFrame) (s : World) :
    Ends (frames.forM fun frame => firestarterEmitFrameWide frame.id frame.params) env s
      (fun _ s' => s' = { s with trace :=
        ((frames.filter DeferredFrame.isSendable).map DeferredFrame.sent).reverse ++ s.trace })
      (fun _ => False) := by
  induction frames generalizing s with
  | nil => rfl
  | cons frame rest ih =>
    refine (ends_bind _ _).mpr ?_
    unfold firestarterEmitFrameWide
    rw [ends_when, List.filter_cons]
    split
    · rename_i fits
      have fits : frame.isSendable = true := fits
      rw [if_pos fits]
      refine (ih _).mono (fun _ s' sent => ?_) fun _ h => h
      rw [sent, List.map_cons, List.reverse_cons, List.append_assoc]
      rfl
    · rename_i long
      have long : ¬ frame.isSendable = true := long
      rw [if_neg long]
      exact ih _

/-- Once the port is open the queue goes out, and nothing waits any more. -/
instance : Within env ModeStep (do
    update fun w => { w with comMode := true }
    flushDeferredLog : Fw Unit) := by
  refine within_iff_ends.mpr fun s => ?_
  unfold flushDeferredLog
  rw [ends_bind, ends_update, ends_bind, ends_look, ends_bind]
  refine (ends_sendFrames s.deferredLog _).mono (fun _ s' sent => ?_) fun _ h => h.elim
  subst sent
  refine ⟨?_, fun reports => ⟨⟨nofun, fun _ => rfl⟩, _, rfl, fun e member => ?_⟩⟩
  · have same := framesOf_sent isSetApart s.deferredLog
    unfold World.beyondMode World.beyondLink World.framesOf
    dsimp only
    rw [List.filter_append, List.filter_reverse, same]
    rfl
  · obtain ⟨frame, queued, rfl⟩ := List.mem_map.mp (List.mem_reverse.mp member)
    exact reports.1 frame (List.mem_filter.mp queued).1

instance : Within env ModeStep rurpSetCommunicationMode := by
  unfold rurpSetCommunicationMode whileLoop
  infer_instance

end

/-! ## The chip drivers -/

/-- What the drivers leave alone: all but the shield and its cache, the response, the trace and the
queue of deferred frames. -/
def World.beyondDriver (w : World) : World :=
  { w.withoutBus with
    handle := { w.handle with responseCode := 0 }
    lsbAddress := 0, msbAddress := 0, controlRegister := 0, regulatorOffMs := 0,
    latches := ⟨0, 0, 0⟩, regulatorOffAt := 0, trace := [], deferredLog := [] }

/-- A step of a chip driver. -/
abbrev DriverStep : World → World → Prop := Moves World.beyondDriver Event.isNoise

section
variable {env : Env}

instance : BusFrame env DriverStep where
  bus s s' _ same := by
    have kept := congrArg World.beyondDriver same
    exact Moves.of_bus kept same

instance : SenseFrame DriverStep where
  sense s e passive := by
    refine Moves.of_note e ?_ rfl
    cases e <;> first | rfl | cases passive

instance : StoreFrame DriverStep where
  store s e store := by
    refine Moves.of_note e ?_ rfl
    cases e <;> first | rfl | cases store

instance : ReportFrame env DriverStep where
  report id params report := by
    refine Moves.report id params report (fun _ => ?_) (fun _ => rfl) fun _ => rfl
    simp only [Event.isNoise, Event.isReportNoise, report, Bool.true_or]
  respond _ := Within.update _ fun _ => Moves.of_silent rfl rfl rfl

instance : LatchFrame DriverStep where
  strobe s reg byte latches offAt := by
    have noted : DriverStep s { s with trace := .strobe reg byte :: s.trace } :=
      Moves.of_note _ rfl rfl
    refine trans_of DriverStep noted ?_
    exact Moves.of_silent rfl rfl rfl

instance : CacheFrame DriverStep where
  cache _ _ _ _ _ := Moves.of_silent rfl rfl rfl
  control _ _ := Moves.of_note _ rfl rfl
  addressed _ _ _ _ := Moves.of_note _ rfl rfl

/-- A read also fills the buffer. -/
def World.beyondCallback (w : World) : World :=
  { w.beyondDriver with
    handle := { w.handle with responseCode := 0, dataBuffer := fun _ => 0, dataSize := 0 } }

/-- A step of any callback but the one that configures. -/
abbrev CallbackStep : World → World → Prop := Moves World.beyondCallback Event.isNoise

theorem DriverStep.callbackStep {s s' : World} (h : DriverStep s s') : CallbackStep s s' :=
  Moves.mono h (fun w => { w with
    handle := { w.handle with dataBuffer := fun _ => 0, dataSize := 0 } }) (fun _ => rfl)
    fun _ noise => noise

instance : Within env CallbackStep memoryReadExecute := by
  have driver {α : Type} {m : Fw α} (h : Within env DriverStep m) : Within env CallbackStep m :=
    h.weaken fun _ _ => DriverStep.callbackStep
  have handle : Within env CallbackStep getHandle := driver inferInstance
  have board : Within env CallbackStep build := driver inferInstance
  have get (address : U32) : Within env CallbackStep (memoryGetData address) := driver inferInstance
  have refusal (id : U8) [ReportId id] (params : List U8) :
      Within env CallbackStep (refuse id params) := driver inferInstance
  have store (i : Nat) (data : U8) : Within env CallbackStep (setHandle fun h =>
      { h with dataBuffer := storeByte h.dataBuffer i data }) :=
    Within.update _ fun _ => Moves.of_silent rfl rfl rfl
  have size (n : U32) : Within env CallbackStep (setHandle fun h => { h with dataSize := n }) :=
    Within.update _ fun _ => Moves.of_silent rfl rfl rfl
  unfold memoryReadExecute
  infer_instance

/-- What every callback but the configuring one does to the world. -/
theorem within_callback (callback : Callback) (configures : callback ≠ .configureMemory) :
    Within env CallbackStep (dispatch callback) := by
  by_cases reads : callback = .memoryReadExecute
  · subst reads
    unfold dispatch
    infer_instance
  · exact (within_dispatch callback configures reads : Within env DriverStep _).weaken
      fun _ _ => DriverStep.callbackStep

end

end Firestarter
