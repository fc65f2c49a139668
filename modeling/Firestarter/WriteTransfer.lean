import Firestarter.PhaseOrder

/-! The transfer of a write: what the host sends in the main phase reaches the chip driver chunk by
chunk, in order, at consecutive addresses, and nothing after a refusal or a failure does. -/
namespace Firestarter

open Interactive Interactive.Prog

/-! ## What the events tell -/

/-- The handle with which the main callback was entered. -/
def mainCallOf (n : Nat) : Event → List Handle
  | .called _ entry => if n = 3 then [entry] else []
  | _ => []

/-- The calls of the main callback from a state number on, as the handles it was entered with. -/
def mainCallsFrom (n : Nat) (es : List Event) : List Handle := readOff numberAfter mainCallOf n es

def mainCalls (es : List Event) : List Handle := mainCallsFrom 0 es

def mainDataOf (n : Nat) : Event → List (List U8)
  | .message .data payload => if n = 3 then [payload] else []
  | _ => []

/-- The payloads of the data frames consumed in the main phase. -/
def mainData (es : List Event) : List (List U8) := readOff numberAfter mainDataOf 0 es

/-- The state number, and the chunk last passed to the main callback. -/
def chunkAfter (s : Nat × List U8) : Event → Nat × List U8
  | .called _ entry => (s.1, if s.1 = 3 then entry.payload else s.2)
  | e => (numberAfter s.1 e, s.2)

def writtenOf (s : Nat × List U8) : Event → List (List U8)
  | .returned _ code => if s.1 = 3 ∧ isGoodResponse code = true then [s.2] else []
  | _ => []

/-- The chunks whose call came back without an error. -/
def written (es : List Event) : List (List U8) := readOff chunkAfter writtenOf (0, []) es

/-- Each chunk lies where the one before it ended. -/
def Consecutive : Nat → List Handle → Prop
  | _, [] => True
  | start, entry :: rest =>
    entry.address.toNat = start ∧ Consecutive (start + entry.payload.length) rest

/-- The events of one write command move the host's data exactly. -/
structure WriteTransfer (h : Handle) (es : List Event) : Prop where
  /-- The chunks passed on are the payloads consumed, in order, but for a last one that was not. -/
  passed : ∃ refused, refused.length ≤ 1 ∧
    mainData es = (mainCalls es).map Handle.payload ++ refused
  consecutive : Consecutive h.address.toNat (mainCalls es)
  inBounds : ∀ entry ∈ mainCalls es,
    entry.address.toNat + entry.payload.length ≤ h.operationEnd.toNat
  /-- A chunk goes to the cursor, which counts the bytes written so far. -/
  cursor : ∀ pre callback entry post, es = pre ++ .called callback entry :: post →
    stateNumber pre = 3 →
    entry.address.toNat = h.address.toNat + (written pre).flatten.length
  /-- The host is told that the main phase is done when all it sent was passed on, and either the
  region is full or it gave no end and said so itself. -/
  done : ∀ pre params post, es = pre ++ .emitted msgMainDone params :: post →
    mainData pre = (mainCalls pre).map Handle.payload ∧
      (h.address.toNat + (written pre).flatten.length = h.operationEnd.toNat ∨
        h.regionEnd = 0 ∧ ∃ before payload after,
          pre = before ++ .message .done payload :: after ∧ stateNumber before = 3)
  /-- A message of the main phase is a chunk and the next thing passed on, or nothing is any more. -/
  heard : ∀ pre kind payload post, es = pre ++ .message kind payload :: post →
    stateNumber pre = 3 →
    mainCallsFrom 3 post = [] ∨ kind = .data ∧ ∃ mid callback entry rest,
      post = mid ++ .called callback entry :: rest ∧ entry.payload = payload ∧
        ∀ kind payload, .message kind payload ∉ mid
  /-- After a chunk that failed nothing is passed on. -/
  failed : ∀ pre callback code post, es = pre ++ .returned callback code :: post →
    stateNumber pre = 3 → isGoodResponse code = false → mainCallsFrom 3 post = []
  /-- Between two requests a message was consumed. -/
  requests : ∀ pre params mid params' post,
    es = pre ++ .emitted msgOkReqData params :: (mid ++ .emitted msgOkReqData params' :: post) →
    ∃ kind payload, .message kind payload ∈ mid

/-! ## The observer -/

/-- What an observer of a write keeps in mind. -/
structure WriteView where
  number : Nat := 0
  /-- Where the next chunk goes. -/
  cursor : Nat
  /-- A data frame that was consumed and not yet passed on. -/
  pending : Option (List U8) := none
  chunk : List U8 := []
  writing : Bool := false
  done : Bool := false
  asked : Bool := false
  stopped : Bool := false
  deriving DecidableEq, Repr

namespace WriteView

def observe (h : Handle) (p : WriteView) : Event → Option WriteView
  | .advanced n =>
    if p.pending = none ∧ p.writing = false then some { p with number := n.toNat } else none
  | .message kind payload =>
    if p.number = 3 then
      if p.pending = none ∧ p.writing = false then
        some { p with
          pending := if kind = .data then some payload else none
          done := kind = .done
          asked := false
          stopped := p.stopped || kind ≠ .data }
      else none
    else some { p with asked := false }
  | .called _ entry =>
    if p.number = 3 then
      if p.stopped = false ∧ p.writing = false ∧ p.pending = some entry.payload ∧
          entry.address.toNat = p.cursor ∧
          p.cursor + entry.payload.length ≤ h.operationEnd.toNat then
        some { p with pending := none, chunk := entry.payload, writing := true }
      else none
    else some p
  | .returned _ code =>
    if p.number = 3 then
      if p.writing = true then
        some (if isGoodResponse code then
          { p with cursor := p.cursor + p.chunk.length, writing := false }
        else { p with stopped := true })
      else none
    else some p
  | .emitted id _ =>
    if id = msgMainDone then
      if p.pending = none ∧ p.writing = false ∧
          (p.cursor = h.operationEnd.toNat ∨ h.regionEnd = 0 ∧ p.done = true) then some p
      else none
    else if id = msgOkReqData then
      if p.asked = false then some { p with asked := true } else none
    else some p
  | _ => some p

theorem observe_other {h : Handle} {p : WriteView} {id : U8} {params : List U8}
    (notDone : id ≠ msgMainDone) (notRequest : id ≠ msgOkReqData) :
    p.observe h (.emitted id params) = some p := by
  dsimp only [observe]
  rw [if_neg notDone, if_neg notRequest]

theorem observe_mainDone {h : Handle} {p : WriteView} (params : List U8)
    (pending : p.pending = none) (writing : p.writing = false)
    (ends : p.cursor = h.operationEnd.toNat ∨ h.regionEnd = 0 ∧ p.done = true) :
    p.observe h (.emitted msgMainDone params) = some p := by
  dsimp only [observe]
  rw [if_pos rfl, if_pos ⟨pending, writing, ends⟩]

theorem observe_request {h : Handle} {p : WriteView} (params : List U8) (free : p.asked = false) :
    p.observe h (.emitted msgOkReqData params) = some { p with asked := true } := by
  have notDone : msgOkReqData ≠ msgMainDone := by decide
  dsimp only [observe]
  rw [if_neg notDone, if_pos rfl, if_pos free]

theorem observe_noise (h : Handle) (p : WriteView) {e : Event} (noise : e.isNoise = true) :
    p.observe h e = some p := by
  cases e with
  | emitted id params =>
    have report : isReport id = true := by simpa [Event.isNoise, Event.isReportNoise,
      Event.isShieldNoise] using noise
    refine observe_other ?_ ?_
    · rintro rfl
      cases report
    · rintro rfl
      cases report
  | _ => first | rfl | cases noise

end WriteView

/-- The observer of a write. -/
def writeObserver (h : Handle) : Observer WriteView :=
  .ofEvents { cursor := h.address.toNat } (WriteView.observe h) fun p _ => p.observe_noise h

/-! ## What the observer has seen -/

section
variable {es : List Event} {e : Event}

theorem mainCalls_snoc (es : List Event) (e : Event) :
    mainCalls (es ++ [e]) = mainCalls es ++ mainCallOf (stateNumber es) e := by
  unfold mainCalls mainCallsFrom
  rw [readOff_append]
  exact congrArg _ (List.append_nil _)

theorem mainData_snoc (es : List Event) (e : Event) :
    mainData (es ++ [e]) = mainData es ++ mainDataOf (stateNumber es) e := by
  unfold mainData
  rw [readOff_append]
  exact congrArg _ (List.append_nil _)

theorem written_snoc (es : List Event) (e : Event) :
    written (es ++ [e]) = written es ++ writtenOf (es.foldl chunkAfter (0, [])) e := by
  unfold written
  rw [readOff_append]
  exact congrArg _ (List.append_nil _)

theorem mainCalls_quiet (es : List Event) (quiet : mainCallOf (stateNumber es) e = []) :
    mainCalls (es ++ [e]) = mainCalls es := by
  rw [mainCalls_snoc, quiet, List.append_nil]

theorem mainData_quiet (es : List Event) (quiet : mainDataOf (stateNumber es) e = []) :
    mainData (es ++ [e]) = mainData es := by
  rw [mainData_snoc, quiet, List.append_nil]

theorem written_quiet (es : List Event)
    (quiet : writtenOf (es.foldl chunkAfter (0, [])) e = []) : written (es ++ [e]) = written es := by
  rw [written_snoc, quiet, List.append_nil]

theorem doneHeard_append (heard : ∃ before payload after,
      es = before ++ .message .done payload :: after ∧ stateNumber before = 3) :
    ∃ before payload after,
      es ++ [e] = before ++ .message .done payload :: after ∧ stateNumber before = 3 := by
  obtain ⟨before, payload, after, rfl, main⟩ := heard
  exact ⟨before, payload, after ++ [e], by rw [List.append_assoc, List.cons_append], main⟩

theorem consecutive_snoc {start : Nat} {calls : List Handle} {entry : Handle}
    (before : Consecutive start calls)
    (next : entry.address.toNat = start + (calls.map Handle.payload).flatten.length) :
    Consecutive start (calls ++ [entry]) := by
  induction calls generalizing start with
  | nil => exact ⟨next, trivial⟩
  | cons first calls ih =>
    refine ⟨before.1, ih before.2 ?_⟩
    rw [next, List.map_cons, List.flatten_cons, List.length_append, Nat.add_assoc]

end

/-- What an observer that knows `p` has seen. -/
structure WriteView.Known (h : Handle) (es : List Event) (p : WriteView) : Prop where
  number : stateNumber es = p.number
  chunk : es.foldl chunkAfter (0, []) = (p.number, p.chunk)
  data : mainData es = (mainCalls es).map Handle.payload ++ p.pending.toList
  consecutive : Consecutive h.address.toNat (mainCalls es)
  passed : h.address.toNat + ((mainCalls es).map Handle.payload).flatten.length =
    p.cursor + if p.writing then p.chunk.length else 0
  cursor : h.address.toNat + (written es).flatten.length = p.cursor
  inBounds : ∀ entry ∈ mainCalls es,
    entry.address.toNat + entry.payload.length ≤ h.operationEnd.toNat
  done : p.done = true → ∃ before payload after,
    es = before ++ .message .done payload :: after ∧ stateNumber before = 3

namespace WriteView.Known

variable {h : Handle} {es : List Event} {p q : WriteView}

theorem start (h : Handle) : Known h [] { cursor := h.address.toNat } where
  number := rfl
  chunk := rfl
  data := rfl
  consecutive := trivial
  passed := rfl
  cursor := rfl
  inBounds _ member := absurd member List.not_mem_nil
  done heard := Bool.noConfusion heard

/-- An event that is no part of the transfer. -/
theorem other (k : Known h es p) {e : Event} (calls : mainCallOf p.number e = [])
    (data : mainDataOf p.number e = []) (writes : writtenOf (p.number, p.chunk) e = [])
    (chunk : chunkAfter (p.number, p.chunk) e = (numberAfter p.number e, p.chunk)) :
    Known h (es ++ [e]) { p with number := numberAfter p.number e } := by
  have sameCalls : mainCalls (es ++ [e]) = mainCalls es :=
    mainCalls_quiet es (by rw [k.number, calls])
  have sameData : mainData (es ++ [e]) = mainData es := mainData_quiet es (by rw [k.number, data])
  have sameWritten : written (es ++ [e]) = written es :=
    written_quiet es (by rw [k.chunk, writes])
  refine ⟨?_, ?_, ?_, ?_, ?_, ?_, ?_, ?_⟩
  · rw [stateNumber_snoc, k.number]
  · rw [List.foldl_append, k.chunk]
    exact chunk
  · rw [sameData, sameCalls]
    exact k.data
  · rw [sameCalls]
    exact k.consecutive
  · rw [sameCalls]
    exact k.passed
  · rw [sameWritten]
    exact k.cursor
  · rw [sameCalls]
    exact k.inBounds
  · exact fun heard => doneHeard_append (k.done heard)

theorem message (k : Known h es p) {kind : OpMessageType} {payload : List U8}
    (main : p.number = 3) (free : p.pending = none) :
    Known h (es ++ [.message kind payload]) { p with
      pending := if kind = .data then some payload else none
      done := kind = .done
      asked := false
      stopped := p.stopped || kind ≠ .data } := by
  have sameCalls : mainCalls (es ++ [.message kind payload]) = mainCalls es := mainCalls_quiet es rfl
  have sameWritten : written (es ++ [.message kind payload]) = written es := written_quiet es rfl
  refine ⟨?_, ?_, ?_, ?_, ?_, ?_, ?_, ?_⟩
  · rw [stateNumber_snoc]
    exact k.number
  · rw [List.foldl_append, k.chunk]
    rfl
  · have before := k.data
    rw [free, Option.toList_none, List.append_nil] at before
    rw [mainData_snoc, sameCalls, k.number, main, before]
    cases kind <;> rfl
  · rw [sameCalls]
    exact k.consecutive
  · rw [sameCalls]
    exact k.passed
  · rw [sameWritten]
    exact k.cursor
  · rw [sameCalls]
    exact k.inBounds
  · intro heard
    have isDone : kind = .done := by simpa using heard
    exact ⟨es, payload, [], by rw [isDone], k.number.trans main⟩

theorem called (k : Known h es p) {callback : Callback} {entry : Handle} (main : p.number = 3)
    (free : p.writing = false) (next : p.pending = some entry.payload)
    (address : entry.address.toNat = p.cursor)
    (bound : p.cursor + entry.payload.length ≤ h.operationEnd.toNat) :
    Known h (es ++ [.called callback entry])
      { p with pending := none, chunk := entry.payload, writing := true } := by
  have calls : mainCalls (es ++ [.called callback entry]) = mainCalls es ++ [entry] := by
    rw [mainCalls_snoc, k.number, main]
    rfl
  have sameData : mainData (es ++ [.called callback entry]) = mainData es := mainData_quiet es rfl
  have sameWritten : written (es ++ [.called callback entry]) = written es := written_quiet es rfl
  have passed := k.passed
  rw [free, if_neg Bool.false_ne_true, Nat.add_zero] at passed
  refine ⟨?_, ?_, ?_, ?_, ?_, ?_, ?_, ?_⟩
  · rw [stateNumber_snoc]
    exact k.number
  · rw [List.foldl_append, k.chunk, main]
    rfl
  · have before := k.data
    rw [next] at before
    rw [calls, sameData, before, List.map_append]
    exact (List.append_nil _).symm
  · rw [calls]
    exact consecutive_snoc k.consecutive (address.trans passed.symm)
  · rw [calls, List.map_append, List.flatten_append, List.length_append, ← Nat.add_assoc, passed]
    show p.cursor + [entry.payload].flatten.length = p.cursor + entry.payload.length
    rw [List.flatten_singleton]
  · rw [sameWritten]
    exact k.cursor
  · rw [calls]
    intro other member
    cases List.mem_append.mp member with
    | inl earlier => exact k.inBounds other earlier
    | inr now =>
      obtain rfl := List.mem_singleton.mp now
      rw [address]
      exact bound
  · exact fun heard => doneHeard_append (k.done heard)

theorem returned (k : Known h es p) {callback : Callback} {code : U8} (main : p.number = 3)
    (busy : p.writing = true) (good : isGoodResponse code = true) :
    Known h (es ++ [.returned callback code])
      { p with cursor := p.cursor + p.chunk.length, writing := false } := by
  have sameCalls : mainCalls (es ++ [.returned callback code]) = mainCalls es :=
    mainCalls_quiet es rfl
  have sameData : mainData (es ++ [.returned callback code]) = mainData es := mainData_quiet es rfl
  have now : writtenOf (p.number, p.chunk) (.returned callback code) = [p.chunk] :=
    if_pos ⟨main, good⟩
  refine ⟨?_, ?_, ?_, ?_, ?_, ?_, ?_, ?_⟩
  · rw [stateNumber_snoc]
    exact k.number
  · rw [List.foldl_append, k.chunk]
    rfl
  · rw [sameData, sameCalls]
    exact k.data
  · rw [sameCalls]
    exact k.consecutive
  · rw [sameCalls, k.passed, busy]
    rfl
  · rw [written_snoc, k.chunk, now, List.flatten_append, List.length_append,
      List.flatten_singleton, ← Nat.add_assoc, k.cursor]
  · rw [sameCalls]
    exact k.inBounds
  · exact fun heard => doneHeard_append (k.done heard)

theorem observe (k : Known h es p) {e : Event} (seen : p.observe h e = some q) :
    Known h (es ++ [e]) q := by
  cases e with
  | advanced n =>
    obtain ⟨-, same⟩ := Option.ite_none_right_eq_some.mp seen
    obtain rfl := Option.some.inj same
    exact k.other rfl rfl rfl rfl
  | message kind payload =>
    dsimp only [WriteView.observe] at seen
    split at seen
    · rename_i main
      obtain ⟨⟨free, -⟩, same⟩ := Option.ite_none_right_eq_some.mp seen
      obtain rfl := Option.some.inj same
      exact k.message main free
    · rename_i elsewhere
      obtain rfl := Option.some.inj seen
      have quiet : mainDataOf p.number (.message kind payload) = [] := by
        cases kind <;> first | rfl | exact if_neg elsewhere
      exact { k.other rfl quiet rfl rfl with }
  | called callback entry =>
    dsimp only [WriteView.observe] at seen
    split at seen
    · rename_i main
      obtain ⟨⟨-, free, next, address, bound⟩, same⟩ := Option.ite_none_right_eq_some.mp seen
      obtain rfl := Option.some.inj same
      exact k.called main free next address bound
    · rename_i elsewhere
      obtain rfl := Option.some.inj seen
      refine k.other (if_neg elsewhere) rfl rfl ?_
      exact congrArg (Prod.mk p.number) (if_neg elsewhere)
  | returned callback code =>
    dsimp only [WriteView.observe] at seen
    split at seen
    · rename_i main
      obtain ⟨busy, same⟩ := Option.ite_none_right_eq_some.mp seen
      obtain rfl := Option.some.inj same
      split
      · rename_i good
        exact k.returned main busy good
      · rename_i bad
        have quiet : writtenOf (p.number, p.chunk) (.returned callback code) = [] :=
          if_neg fun both => bad both.2
        exact { k.other rfl rfl quiet rfl with }
    · rename_i elsewhere
      obtain rfl := Option.some.inj seen
      exact k.other rfl rfl (if_neg fun both => elsewhere both.1) rfl
  | emitted id params =>
    have same := k.other (e := .emitted id params) rfl rfl rfl rfl
    dsimp only [WriteView.observe] at seen
    split at seen
    · obtain ⟨-, rfl⟩ : _ ∧ p = q := by simpa using seen
      exact same
    split at seen
    · obtain ⟨-, known⟩ := Option.ite_none_right_eq_some.mp seen
      obtain rfl := Option.some.inj known
      exact { same with }
    · obtain rfl := Option.some.inj seen
      exact same
  | _ =>
    obtain rfl := Option.some.inj seen
    exact k.other rfl rfl rfl rfl

theorem of_follows (follows : (writeObserver h).Follows es p) : Known h es p := by
  induction es using List.reverseRecOn generalizing p with
  | nil => exact Option.some.inj follows ▸ start h
  | append_singleton es e ih =>
    obtain ⟨q, q', before, seen, after⟩ := (writeObserver h).follows_split follows
    exact Option.some.inj after ▸ (ih before).observe seen

end WriteView.Known

/-! ## What the observer will not see -/

namespace WriteView

variable {h : Handle} {p q : WriteView} {e : Event}

/-- The observer counts the phases along, and does not forget that the transfer has stopped. -/
theorem observe_number (seen : p.observe h e = some q) :
    q.number = numberAfter p.number e ∧ (p.stopped = true → q.stopped = true) := by
  cases e with
  | advanced n =>
    obtain ⟨-, same⟩ := Option.ite_none_right_eq_some.mp seen
    obtain rfl := Option.some.inj same
    exact ⟨rfl, fun stopped => stopped⟩
  | message kind payload =>
    dsimp only [observe] at seen
    split at seen
    · obtain ⟨-, same⟩ := Option.ite_none_right_eq_some.mp seen
      obtain rfl := Option.some.inj same
      exact ⟨rfl, fun stopped => by simp [stopped]⟩
    · obtain rfl := Option.some.inj seen
      exact ⟨rfl, fun stopped => stopped⟩
  | called callback entry =>
    dsimp only [observe] at seen
    split at seen
    · obtain ⟨-, same⟩ := Option.ite_none_right_eq_some.mp seen
      obtain rfl := Option.some.inj same
      exact ⟨rfl, fun stopped => stopped⟩
    · obtain rfl := Option.some.inj seen
      exact ⟨rfl, fun stopped => stopped⟩
  | returned callback code =>
    dsimp only [observe] at seen
    split at seen
    · obtain ⟨-, same⟩ := Option.ite_none_right_eq_some.mp seen
      obtain rfl := Option.some.inj same
      split
      · exact ⟨rfl, fun stopped => stopped⟩
      · exact ⟨rfl, fun _ => rfl⟩
    · obtain rfl := Option.some.inj seen
      exact ⟨rfl, fun stopped => stopped⟩
  | emitted id params =>
    dsimp only [observe] at seen
    split at seen
    · obtain ⟨-, rfl⟩ : _ ∧ p = q := by simpa using seen
      exact ⟨rfl, fun stopped => stopped⟩
    split at seen
    · obtain ⟨-, same⟩ := Option.ite_none_right_eq_some.mp seen
      obtain rfl := Option.some.inj same
      exact ⟨rfl, fun stopped => stopped⟩
    · obtain rfl := Option.some.inj seen
      exact ⟨rfl, fun stopped => stopped⟩
  | _ =>
    obtain rfl := Option.some.inj seen
    exact ⟨rfl, fun stopped => stopped⟩

/-- What a call of the main callback must have been. -/
theorem observe_call (callback : Callback) {entry : Handle} (main : p.number = 3)
    (seen : p.observe h (.called callback entry) = some q) :
    p.stopped = false ∧ p.pending = some entry.payload := by
  dsimp only [observe] at seen
  rw [if_pos main] at seen
  obtain ⟨⟨stopped, -, next, -⟩, -⟩ := Option.ite_none_right_eq_some.mp seen
  exact ⟨stopped, next⟩

/-- Once the transfer has stopped, nothing more is passed on. -/
theorem stopped_calls {es : List Event} (stopped : p.stopped = true)
    (sees : (writeObserver h).Sees p es q) : mainCallsFrom p.number es = [] := by
  induction es generalizing p with
  | nil => rfl
  | cons e es ih =>
    obtain ⟨p', seen, rest⟩ := (writeObserver h).sees_uncons sees
    obtain ⟨number, still⟩ := observe_number seen
    have later := ih (still stopped) rest
    rw [number] at later
    show mainCallOf p.number e ++ mainCallsFrom (numberAfter p.number e) es = []
    rw [later, List.append_nil]
    cases e with
    | called callback entry =>
      refine if_neg fun main => ?_
      obtain ⟨running, -⟩ := observe_call callback main seen
      rw [stopped] at running
      cases running
    | _ => rfl

/-- A frame that waits to be passed on is the next thing passed on, or nothing is. -/
theorem pending_calls {es : List Event} {payload : List U8} (main : p.number = 3)
    (waits : p.pending = some payload) (sees : (writeObserver h).Sees p es q) :
    mainCallsFrom 3 es = [] ∨ ∃ mid callback entry rest,
      es = mid ++ .called callback entry :: rest ∧ entry.payload = payload ∧
        ∀ kind payload, .message kind payload ∉ mid := by
  induction es generalizing p with
  | nil => exact .inl rfl
  | cons e es ih =>
    obtain ⟨p', seen, rest⟩ := (writeObserver h).sees_uncons sees
    -- Past an event that is no message, the frame still waits.
    have past (number : p'.number = 3) (waits : p'.pending = some payload)
        (quiet : mainCallOf 3 e = []) (after : numberAfter 3 e = 3)
        (silent : ∀ kind payload, .message kind payload ≠ e) :
        mainCallsFrom 3 (e :: es) = [] ∨ ∃ mid callback entry rest,
          e :: es = mid ++ .called callback entry :: rest ∧ entry.payload = payload ∧
            ∀ kind payload, .message kind payload ∉ mid := by
      have same : mainCallsFrom 3 (e :: es) = mainCallsFrom 3 es := by
        show mainCallOf 3 e ++ mainCallsFrom (numberAfter 3 e) es = _
        rw [quiet, after]
        rfl
      rw [same]
      obtain none | ⟨mid, callback, entry, rest, split, passed, free⟩ := ih number waits rest
      · exact .inl none
      · refine .inr ⟨e :: mid, callback, entry, rest, by rw [split]; rfl, passed, ?_⟩
        intro kind payload member
        cases List.mem_cons.mp member with
        | inl first => exact silent kind payload first
        | inr later => exact free kind payload later
    cases e with
    | advanced n =>
      obtain ⟨⟨none, -⟩, -⟩ := Option.ite_none_right_eq_some.mp seen
      rw [waits] at none
      cases none
    | message kind other =>
      dsimp only [writeObserver, Observer.ofEvents, observe] at seen
      rw [if_pos main] at seen
      obtain ⟨⟨none, -⟩, -⟩ := Option.ite_none_right_eq_some.mp seen
      rw [waits] at none
      cases none
    | called callback entry =>
      obtain ⟨-, next⟩ := observe_call callback main seen
      rw [waits] at next
      exact .inr ⟨[], callback, entry, es, rfl, (Option.some.inj next).symm, fun _ _ => List.not_mem_nil⟩
    | returned callback code =>
      dsimp only [writeObserver, Observer.ofEvents, observe] at seen
      rw [if_pos main] at seen
      obtain ⟨-, same⟩ := Option.ite_none_right_eq_some.mp seen
      obtain rfl := Option.some.inj same
      refine past ?_ ?_ rfl rfl nofun
      · split <;> exact main
      · split <;> exact waits
    | emitted id params =>
      dsimp only [writeObserver, Observer.ofEvents, observe] at seen
      split at seen
      · obtain ⟨⟨none, -⟩, -⟩ := Option.ite_none_right_eq_some.mp seen
        rw [waits] at none
        cases none
      split at seen
      · obtain ⟨-, same⟩ := Option.ite_none_right_eq_some.mp seen
        obtain rfl := Option.some.inj same
        exact past main waits rfl rfl nofun
      · obtain rfl := Option.some.inj seen
        exact past main waits rfl rfl nofun
    | _ =>
      obtain rfl := Option.some.inj seen
      exact past main waits rfl rfl nofun

/-- A request stands until a message is consumed. -/
theorem observe_asked (asked : p.asked = true) (silent : ∀ kind payload, e ≠ .message kind payload)
    (seen : p.observe h e = some q) : q.asked = true := by
  cases e with
  | message kind payload => exact (silent kind payload rfl).elim
  | advanced n =>
    obtain ⟨-, same⟩ := Option.ite_none_right_eq_some.mp seen
    obtain rfl := Option.some.inj same
    exact asked
  | called callback entry =>
    dsimp only [observe] at seen
    split at seen
    · obtain ⟨-, same⟩ := Option.ite_none_right_eq_some.mp seen
      obtain rfl := Option.some.inj same
      exact asked
    · obtain rfl := Option.some.inj seen
      exact asked
  | returned callback code =>
    dsimp only [observe] at seen
    split at seen
    · obtain ⟨-, same⟩ := Option.ite_none_right_eq_some.mp seen
      obtain rfl := Option.some.inj same
      split <;> exact asked
    · obtain rfl := Option.some.inj seen
      exact asked
  | emitted id params =>
    dsimp only [observe] at seen
    split at seen
    · obtain ⟨-, rfl⟩ : _ ∧ p = q := by simpa using seen
      exact asked
    split at seen
    · obtain ⟨-, same⟩ := Option.ite_none_right_eq_some.mp seen
      obtain rfl := Option.some.inj same
      rfl
    · obtain rfl := Option.some.inj seen
      exact asked
  | _ =>
    obtain rfl := Option.some.inj seen
    exact asked

theorem asked_stays {es : List Event} (asked : p.asked = true)
    (silent : ∀ kind payload, .message kind payload ∉ es)
    (sees : (writeObserver h).Sees p es q) : q.asked = true := by
  induction es generalizing p with
  | nil => exact Option.some.inj sees ▸ asked
  | cons e es ih =>
    obtain ⟨p', seen, rest⟩ := (writeObserver h).sees_uncons sees
    refine ih (observe_asked asked ?_ seen) ?_ rest
    · rintro kind payload rfl
      exact silent kind payload List.mem_cons_self
    · exact fun kind payload member => silent kind payload (List.mem_cons_of_mem _ member)

end WriteView

/-- Events that can be followed move the data exactly. -/
theorem WriteTransfer.of_follows {h : Handle} {es : List Event} {p : WriteView}
    (follows : (writeObserver h).Follows es p) : WriteTransfer h es where
  passed := by
    refine ⟨p.pending.toList, ?_, (WriteView.Known.of_follows follows).data⟩
    cases p.pending with
    | none => exact Nat.zero_le 1
    | some payload => exact Nat.le_refl 1
  consecutive := (WriteView.Known.of_follows follows).consecutive
  inBounds := (WriteView.Known.of_follows follows).inBounds
  cursor := by
    rintro pre callback entry post rfl main
    obtain ⟨q, q', before, seen, -⟩ := (writeObserver h).follows_split follows
    have known := WriteView.Known.of_follows before
    dsimp only [writeObserver, Observer.ofEvents, WriteView.observe] at seen
    rw [if_pos (known.number.symm.trans main)] at seen
    obtain ⟨⟨-, -, -, address, -⟩, -⟩ := Option.ite_none_right_eq_some.mp seen
    rw [address, known.cursor]
  done := by
    rintro pre params post rfl
    obtain ⟨q, q', before, seen, -⟩ := (writeObserver h).follows_split follows
    have known := WriteView.Known.of_follows before
    obtain ⟨⟨none, -, ends⟩, -⟩ := Option.ite_none_right_eq_some.mp seen
    have data := known.data
    rw [none, Option.toList_none, List.append_nil] at data
    refine ⟨data, ?_⟩
    rw [known.cursor]
    exact ends.imp_right fun both => ⟨both.1, known.done both.2⟩
  heard := by
    rintro pre kind payload post rfl main
    obtain ⟨q, q', before, seen, after⟩ := (writeObserver h).follows_split follows
    have known := WriteView.Known.of_follows before
    have main : q.number = 3 := known.number.symm.trans main
    dsimp only [writeObserver, Observer.ofEvents, WriteView.observe] at seen
    rw [if_pos main] at seen
    obtain ⟨-, same⟩ := Option.ite_none_right_eq_some.mp seen
    obtain rfl := Option.some.inj same
    by_cases chunk : kind = .data
    · obtain none | next := WriteView.pending_calls (by exact main) (if_pos chunk) after
      · exact .inl none
      · exact .inr ⟨chunk, next⟩
    · have calls := WriteView.stopped_calls (by simp [chunk]) after
      exact .inl (main ▸ calls)
  failed := by
    rintro pre callback code post rfl main bad
    obtain ⟨q, q', before, seen, after⟩ := (writeObserver h).follows_split follows
    have known := WriteView.Known.of_follows before
    have main : q.number = 3 := known.number.symm.trans main
    dsimp only [writeObserver, Observer.ofEvents, WriteView.observe] at seen
    rw [if_pos main, bad, if_neg Bool.false_ne_true] at seen
    obtain ⟨-, same⟩ := Option.ite_none_right_eq_some.mp seen
    obtain rfl := Option.some.inj same
    have calls := WriteView.stopped_calls rfl after
    exact main ▸ calls
  requests := by
    rintro pre params mid params' post rfl
    by_contra none
    obtain ⟨q, q', before, seen, after⟩ := (writeObserver h).follows_split follows
    obtain ⟨-, same⟩ := Option.ite_none_right_eq_some.mp seen
    obtain rfl := Option.some.inj same
    unfold Observer.Sees at after
    rw [List.foldlM_append] at after
    obtain ⟨r, between, rest⟩ := Option.bind_eq_some_iff.mp after
    obtain ⟨r', again, -⟩ := (writeObserver h).sees_uncons rest
    obtain ⟨free, -⟩ := Option.ite_none_right_eq_some.mp again
    have stands := WriteView.asked_stays rfl
      (fun kind payload member => none ⟨kind, payload, member⟩) between
    rw [stands] at free
    cases free

/-! ## The engine and the pump keep to it -/

variable {env : Env} {h : Handle}

/-- What the observer knows in a stage. -/
structure WriteView.Fits (h : Handle) (st : Stage) (w : World) (p : WriteView) : Prop where
  number : p.number = st.number.toNat
  cursor : p.cursor = w.handle.address.toNat
  pending : p.pending = none
  writing : p.writing = false
  runs : st.number.toNat ≤ 3 → p.stopped = false
  asked : p.asked = true → w.handle.isOperationWaitingForData = true
  notRead : h.firestarterOperationMain ≠ some .memoryReadExecute

theorem Handle.withOperationState_waiting (h : Handle) (st : Stage) :
    (h.withOperationState st.number).isOperationWaitingForData = h.isOperationWaitingForData := by
  have flag : (h.operationState &&& 0xC0 ||| st.number) &&& operationWaitingForData =
      h.operationState &&& operationWaitingForData := by
    have low : st.number &&& operationWaitingForData = 0 := by cases st <;> rfl
    rw [BitVec.and_or_distrib_right, low, BitVec.and_assoc]
    exact BitVec.or_zero
  show ((h.operationState &&& 0xC0 ||| st.number) &&& operationWaitingForData == _) = _
  rw [flag]
  rfl

namespace WriteView.Fits

variable {st next served : Stage} {w w' : World} {p q : WriteView}

/-- What only the cursor and the flag of a pending request decide. -/
theorem keep (fits : p.Fits h st w) (address : w'.handle.address = w.handle.address)
    (state : w'.handle.operationState = w.handle.operationState) : p.Fits h st w' :=
  { fits with
    cursor := by rw [fits.cursor, address]
    asked := fun asked => by
      have flag := fits.asked asked
      rw [Handle.isOperationWaitingForData] at flag ⊢
      rw [state]
      exact flag }

theorem link (fits : p.Fits h st w) (link : LinkStep w w') : p.Fits h st w' := by
  have address := congrArg (fun w : World => w.handle.address) link.kept
  have state := congrArg (fun w : World => w.handle.operationState) link.kept
  exact fits.keep address state

/-- A message between the phases only answers a request. -/
theorem message (fits : p.Fits h st w) (outside : st ≠ .inMain) (kind : OpMessageType)
    (payload : List U8) :
    p.observe h (.message kind payload) = some { p with asked := false } := by
  refine if_neg ?_
  rw [fits.number]
  cases st <;> first | decide | exact (outside rfl).elim

theorem answered (fits : p.Fits h st w) : Fits h st w { p with asked := false } :=
  { fits with asked := nofun }

/-- The state number steps while no chunk is on its way. -/
theorem advances (fits : p.Fits h st w) (next : Stage) :
    p.observe h (.advanced next.number) = some { p with number := next.number.toNat } :=
  if_pos ⟨fits.pending, fits.writing⟩

theorem inStage (fits : p.Fits h st w) (later : next.number.toNat ≤ 3 → st.number.toNat ≤ 3) :
    Fits h next (w.inStage next) { p with number := next.number.toNat } where
  number := rfl
  cursor := fits.cursor
  pending := fits.pending
  writing := fits.writing
  runs early := fits.runs (later early)
  asked asked := (w.handle.withOperationState_waiting next).trans (fits.asked asked)
  notRead := fits.notRead

/-- A housekeeping callback is no part of the transfer. -/
theorem outside (fits : p.Fits h st w) (away : st ≠ .inMain) (callback : Callback) :
    p.observe h (.called callback w.handle) = some p ∧
      ∀ code, p.observe h (.returned callback code) = some p := by
  have elsewhere : p.number ≠ 3 := by
    rw [fits.number]
    cases st <;> first | decide | exact (away rfl).elim
  exact ⟨if_neg elsewhere, fun _ => if_neg elsewhere⟩

theorem serve (fits : p.Fits h st w) {callback : Callback} {frame : U8}
    (house : st.housekeeping = some (served, next, frame))
    (ran : Executed callback CallbackStep w .stop w') : p.Fits h served w' := by
  have address : w'.handle.address = w.handle.address :=
    ran.handle Handle.address (fun _ _ step => by
      have kept := congrArg (fun w : World => w.handle.address) step.kept
      exact kept) fun _ _ => rfl
  have state : w'.handle.operationState = w.handle.operationState :=
    ran.handle Handle.operationState (fun _ _ step => by
      have kept := congrArg (fun w : World => w.handle.operationState) step.kept
      exact kept) fun _ _ => rfl
  have same : served.number = st.number := by cases st <;> cases house <;> rfl
  have kept := fits.keep address state
  exact { kept with number := by rw [same]; exact kept.number, runs := by rw [same]; exact kept.runs }

theorem close (fits : p.Fits h served w) {frame : U8}
    (house : st.housekeeping = some (served, next, frame)) :
    p.observe h (.emitted frame []) = some p ∧
      p.observe h (.advanced next.number) = some { p with number := next.number.toNat } ∧
      Fits h next (w.closed next frame) { p with number := next.number.toNat } := by
  have other : frame ≠ msgMainDone ∧ frame ≠ msgOkReqData := by
    cases st <;> cases house <;> exact ⟨by decide, by decide⟩
  refine ⟨observe_other other.1 other.2, fits.advances next, ?_⟩
  have sent : p.Fits h served { w with trace := .emitted frame [] :: w.trace } := fits.keep rfl rfl
  refine sent.inStage fun early => ?_
  cases st <;> cases house
  · decide
  · exact absurd early (by decide)

end WriteView.Fits

/-- What the observer knows once a message of the main phase has been consumed. -/
def WriteView.consumed (p : WriteView) (kind : OpMessageType) (w : World) : WriteView :=
  { p with
    pending := if kind = .data then some w.handle.payload else none
    done := kind = .done
    asked := false
    stopped := p.stopped || kind ≠ .data }

namespace WriteView.Fits

variable {w w₁ w' : World} {p q : WriteView} {kind : OpMessageType} {callback : Callback}

theorem consume (fits : p.Fits h .inMain w) (t : (writeObserver h).Tracks h p w)
    (heard : Delivered kind w w₁) (taken : kind ≠ .incomplete) :
    (writeObserver h).Tracks h (p.consumed kind w₁) w₁ ∧
      w₁.handle.address = w.handle.address := by
  have seen (payload : List U8) : (writeObserver h).observe p (.message kind payload) =
      some { p with
        pending := if kind = .data then some payload else none
        done := kind = .done
        asked := false
        stopped := p.stopped || kind ≠ .data } :=
    (if_pos fits.number).trans (if_pos ⟨fits.pending, fits.writing⟩)
  cases heard with
  | incomplete link => exact (taken rfl).elim
  | @plain _ w₀ _ notData taken link =>
    have address := congrArg (fun w : World => w.handle.address) link.kept
    have same : p.consumed kind { w₀ with trace := .message kind [] :: w₀.trace } = { p with
        pending := if kind = .data then some [] else none
        done := kind = .done
        asked := false
        stopped := p.stopped || kind ≠ .data } := by
      unfold WriteView.consumed
      rw [if_neg notData, if_neg notData]
    rw [same]
    exact ⟨(t.moves link).note _ rfl (seen []) rfl rfl, address⟩
  | @data _ w₀ size link =>
    have address := congrArg (fun w : World => w.handle.address) link.kept
    exact ⟨(t.moves link).note _ rfl (seen _) rfl rfl, address⟩

/-- The chunk may be passed on. -/
theorem passesOn (callback : Callback) (fits : p.Fits h .inMain w) (e : Engaged h .inMain w)
    (heard : Delivered .data w w₁) (address : w₁.handle.address = w.handle.address)
    (chunk : w₁.handle.chunkFits env.build) :
    (p.consumed .data w₁).observe h (.called callback w₁.answered.handle) =
      some { p.consumed .data w₁ with
        pending := none, chunk := w₁.handle.payload, writing := true } := by
  have cursor : w₁.handle.address.toNat = p.cursor := by rw [address, fits.cursor]
  have bound : p.cursor + w₁.handle.payload.length ≤ h.operationEnd.toNat := by
    have fitting := chunk.2
    have same : w₁.handle.operationEnd = h.operationEnd := (e.delivered heard).operationEnd
    rw [memUtilRangeFits, same, Bool.and_eq_true, decide_eq_true_iff, decide_eq_true_iff,
      BitVec.le_def, BitVec.le_def] at fitting
    have sub := BitVec.toNat_sub_of_le (BitVec.le_def.mpr fitting.1)
    rw [Handle.payload_length, ← cursor]
    omega
  have running : (p.stopped || decide (OpMessageType.data ≠ .data)) = false := by
    rw [fits.runs (by decide)]
    rfl
  refine (if_pos fits.number).trans (if_pos ⟨running, fits.writing, rfl, cursor, ?_⟩)
  exact bound

/-- The host is told that the main phase is done. -/
theorem mainDone (cursor : p.cursor = w.handle.address.toNat)
    (pending : p.pending = none) (writing : p.writing = false)
    (asked : p.asked = true → w.handle.isOperationWaitingForData = true)
    (notRead : h.firestarterOperationMain ≠ some .memoryReadExecute)
    (ends : p.cursor = h.operationEnd.toNat ∨ h.regionEnd = 0 ∧ p.done = true)
    (t : (writeObserver h).Tracks h p w) :
    ∃ q, (writeObserver h).Tracks h q w.mainDone ∧ q.Fits h .beforeEnd w.mainDone := by
  have stepped : (writeObserver h).observe p (.advanced 4) = some { p with number := 4 } :=
    if_pos ⟨pending, writing⟩
  have told : (writeObserver h).observe { p with number := 4 } (.emitted msgMainDone []) =
      some { p with number := 4 } := observe_mainDone [] pending writing ends
  refine ⟨_, t.mainDone stepped told, ?_⟩
  exact ⟨rfl, cursor, pending, writing, fun early => absurd early (by decide),
    fun asked' => (w.handle.withOperationState_waiting .beforeEnd).trans (asked asked'), notRead⟩

/-- The chunk is passed on, and comes back. -/
theorem executed (fits : p.Fits h .inMain w) {r : OpResult}
    (e : Engaged h .inMain w) (t : (writeObserver h).Tracks h p w) (heard : Delivered .data w w₁)
    (chunk : w₁.handle.chunkFits env.build)
    (ran : Executed callback DriverStep w₁.answered r w') :
    ∃ q, (writeObserver h).Tracks h q w' ∧
      (r = .stop → q.Fits h .inMain w'.movedOn) := by
  obtain ⟨tracks, address⟩ := fits.consume t heard nofun
  have entered := fits.passesOn callback e heard address chunk
  have returned (code : U8) : WriteView.observe h { p.consumed .data w₁ with
      pending := none, chunk := w₁.handle.payload, writing := true } (.returned callback code) =
        some (if isGoodResponse code then
          { p.consumed .data w₁ with
            pending := none, chunk := w₁.handle.payload, writing := false
            cursor := p.cursor + w₁.handle.payload.length }
        else
          { p.consumed .data w₁ with
            pending := none, chunk := w₁.handle.payload, writing := true, stopped := true }) :=
    (if_pos fits.number).trans (if_pos rfl)
  obtain ⟨code, q, seen, tracks, good⟩ := Observer.quiet_ofEvents.executed
    (tracks.handle w₁.answered.handle) ran (fun _ _ step => step.callbackStep) entered
    fun code => ⟨_, returned code⟩
  obtain rfl := Option.some.inj ((returned code).symm.trans seen)
  refine ⟨_, tracks, ?_⟩
  rintro rfl
  rw [good.mpr nofun, if_pos rfl]
  have size : w'.handle.dataSize = w₁.handle.dataSize :=
    ran.handle Handle.dataSize (fun _ _ step => by
      have kept := congrArg (fun w : World => w.handle.dataSize) step.kept
      exact kept) fun _ _ => rfl
  have place : w'.handle.address = w₁.handle.address :=
    ran.handle Handle.address (fun _ _ step => by
      have kept := congrArg (fun w : World => w.handle.address) step.kept
      exact kept) fun _ _ => rfl
  have inside : w₁.handle.address.toNat + w₁.handle.dataSize.toNat < 2 ^ 32 := by
    have fitting := chunk.2
    rw [memUtilRangeFits, Bool.and_eq_true, decide_eq_true_iff, decide_eq_true_iff] at fitting
    have sub := BitVec.toNat_sub_of_le fitting.1
    have last := w₁.handle.operationEnd.isLt
    have first := BitVec.le_def.mp fitting.1
    have second := BitVec.le_def.mp fitting.2
    omega
  refine { number := fits.number, cursor := ?_, pending := rfl, writing := rfl, runs := ?_,
           asked := nofun, notRead := fits.notRead }
  · show p.cursor + w₁.handle.payload.length = (w'.handle.address + w'.handle.dataSize).toNat
    rw [size, place, BitVec.toNat_add, Nat.mod_eq_of_lt inside, fits.cursor, address,
      Handle.payload_length]
  · intro early
    show (p.stopped || decide (OpMessageType.data ≠ .data)) = false
    rw [fits.runs early]
    rfl

/-- A turn of the main phase. -/
theorem pumps (fits : p.Fits h .inMain w) (runs : callback ≠ .configureMemory)
    (found : h.firestarterOperationMain = some callback) (e : Engaged h .inMain w)
    (t : (writeObserver h).Tracks h p w) :
    Ends processIncomingData env w
      (fun ok w' => (writeObserver h).Pumped (fun st w p => p.Fits h st w) h ok w')
      (fun w' => ∃ q, (writeObserver h).Tracks h q w') := by
  have notRead : callback ≠ .memoryReadExecute := by
    rintro rfl
    exact fits.notRead found
  have drives : CallbackRuns env callback DriverStep DriverStep :=
    ⟨fun w => (within_dispatch callback runs notRead : Within env DriverStep _).ends w,
      fun _ _ step => step.callbackStep⟩
  have stays {w' : World} {q : WriteView} (fits : q.Fits h .inMain w')
      (t : (writeObserver h).Tracks h q w') :
      ∃ q, (writeObserver h).Tracks h q w' ∧ ∀ st, some Stage.inMain = some st → q.Fits h st w' :=
    ⟨q, t, fun st same => Option.some.inj same ▸ fits⟩
  have ends {w' : World} (done : ∃ q, (writeObserver h).Tracks h q w'.mainDone ∧
      q.Fits h .beforeEnd w'.mainDone) : ∃ q, (writeObserver h).Tracks h q w'.mainDone ∧
        ∀ st, some Stage.beforeEnd = some st → q.Fits h st w'.mainDone :=
    done.imp fun _ both => ⟨both.1, fun st same => Option.some.inj same ▸ both.2⟩
  refine (ends_processIncomingData drives found e).mono (fun ok w' turn => ?_) fun w' cut => ?_
  · obtain ⟨r, rfl, turn, turned⟩ := turn
    refine Observer.pumped_of_turned turned ?_
    cases turn with
    | overrun beyond => exact ⟨p, t.outOfRange, nofun⟩
    | complete reached link =>
      have still := fits.link link
      refine ends (mainDone still.cursor still.pending still.writing still.asked still.notRead ?_
        (t.moves link))
      rw [fits.cursor, reached, e.operationEnd]
      exact .inl rfl
    | waiting link => exact stays (fits.link link) (t.moves link)
    | @requested w₁ link first =>
      have still := fits.link link
      have free : p.asked = false := by
        by_contra asked
        rw [still.asked (by simpa using asked)] at first
        cases first
      have tracks : (writeObserver h).Tracks h { p with asked := true } w₁.requested :=
        (t.moves link).note (.emitted msgOkReqData []) rfl
          (WriteView.observe_request (h := h) [] free) rfl rfl
      refine stays ?_ tracks
      exact { still with asked := fun _ => beq_iff_eq.mpr (waitingFlag_up _) }
    | @finished w₁ w₂ heard unbounded link =>
      obtain ⟨tracks, address⟩ := fits.consume t heard nofun
      have later := congrArg (fun w : World => w.handle.address) link.kept
      have later : w₂.handle.address = w₁.handle.address := later
      have unbounded : h.regionEnd = 0 :=
        (e.field Handle.regionEnd fun _ => rfl).symm.trans unbounded
      refine ends (mainDone (p := p.consumed .done w₁) ?_ rfl fits.writing
        (fun asked => Bool.noConfusion asked) fits.notRead (.inr ⟨unbounded, rfl⟩)
        ((tracks.handle w₁.answered.handle).moves link))
      rw [later, address]
      exact fits.cursor
    | refused heard taken link =>
      obtain ⟨tracks, -⟩ := fits.consume t heard taken
      exact ⟨_, (tracks.handle _).moves link, nofun⟩
    | outside heard long =>
      obtain ⟨tracks, -⟩ := fits.consume t heard nofun
      exact ⟨_, (tracks.handle _).outOfRange, nofun⟩
    | failed heard chunk ran =>
      obtain ⟨q, tracks, -⟩ := fits.executed e t heard chunk ran
      exact ⟨q, tracks, nofun⟩
    | wrote heard chunk ran =>
      obtain ⟨q, tracks, good⟩ := fits.executed e t heard chunk ran
      exact stays (good rfl) (tracks.handle _)
  · cases cut with
    | link link => exact ⟨p, t.moves link⟩
    | @answered kind w₁ _ heard link =>
      by_cases taken : kind = .incomplete
      · subst taken
        cases heard with
        | incomplete before => exact ⟨p, ((t.moves before).handle w₁.answered.handle).moves link⟩
        | plain _ _ taken => exact (taken rfl).elim
      · obtain ⟨tracks, -⟩ := fits.consume t heard taken
        exact ⟨_, (tracks.handle w₁.answered.handle).moves link⟩
    | @running w₁ _ heard chunk cut =>
      obtain ⟨tracks, address⟩ := fits.consume t heard nofun
      refine Observer.quiet_ofEvents.cutShort (tracks.handle w₁.answered.handle) cut
        (fun _ _ step => step.callbackStep) (fun _ _ step => step.callbackStep)
        (fits.passesOn callback e heard address chunk) fun code => ?_
      exact ⟨_, (if_pos fits.number).trans (if_pos rfl)⟩

end WriteView.Fits

/-- No driver makes a write read. -/
theorem Driver.setUp_write (driver : Driver) (b : Build) (hw : U8) {decoded : Handle}
    (writes : decoded.cmd = cmdWrite) :
    (driver.setUp b hw decoded).firestarterOperationMain ≠ some .memoryReadExecute := by
  unfold Driver.setUp
  have generic : (decoded.withoutCallbacks.withMemoryCallbacks.withReadHighMask b hw).firestarterOperationMain ≠
      some .memoryReadExecute := by
    show (if decoded.cmd == cmdRead then some Callback.memoryReadExecute
      else if decoded.cmd == cmdWrite then some Callback.memoryWriteExecute else none) ≠ _
    rw [writes]
    decide
  revert generic
  generalize decoded.withoutCallbacks.withMemoryCallbacks.withReadHighMask b hw = h
  intro generic
  cases driver with
  | sram => exact generic
  | flashIntel =>
    show h.withFlashIntelCallbacks.firestarterOperationMain ≠ _
    unfold Handle.withFlashIntelCallbacks
    split_ifs <;> first | assumption | nofun
  | eeprom28c =>
    show h.withEeprom28cCallbacks.firestarterOperationMain ≠ _
    unfold Handle.withEeprom28cCallbacks
    split_ifs <;> first | assumption | nofun
  | flashNorUnlock =>
    show h.withFlashNorUnlockCallbacks.firestarterOperationMain ≠ _
    unfold Handle.withFlashNorUnlockCallbacks
    split_ifs <;> first | assumption | nofun
  | flash5vPage =>
    show h.withFlash5vPageCallbacks.firestarterOperationMain ≠ _
    unfold Handle.withFlash5vPageCallbacks
    split_ifs <;> first | assumption | nofun
  | eprom =>
    show h.withEpromCallbacks.firestarterOperationMain ≠ _
    unfold Handle.withEpromCallbacks
    split_ifs <;> first | assumption | nofun

/-- The main callback of an accepted write is none that reads. -/
theorem Accepted.writes {w : World} (accepted : Accepted env w) (writes : w.handle.cmd = cmdWrite) :
    w.handle.firestarterOperationMain ≠ some .memoryReadExecute := by
  obtain ⟨driver, decoded, -, -, -, same, -⟩ := accepted.setUp (by rw [writes]; rfl)
  have cmd := congrArg Handle.cmd same.1
  have main := congrArg Handle.firestarterOperationMain same.1
  have cmd : w.handle.cmd = (driver.setUp env.build w.hardwareRevision decoded).cmd := cmd
  rw [driver.setUp_cmd] at cmd
  intro reads
  exact driver.setUp_write env.build w.hardwareRevision (cmd.symm.trans writes) (main.symm.trans reads)

/-- The observer of a write can follow every write. -/
def writeObservation (env : Env) (h : Handle) (writes : h.cmd = cmdWrite) :
    PhaseObservation env h (mainPump h.cmd) where
  View := WriteView
  observer := writeObserver h
  fits st w p := p.Fits h st w
  begins {w} _ accepted same := by
    subst same
    exact { number := rfl, cursor := rfl, pending := rfl, writing := rfl, runs := fun _ => rfl,
            asked := nofun, notRead := accepted.writes writes }
  waits fits link := WriteView.Fits.link fits link
  hears {st w p} kind payload size listens fits := by
    have outside : st ≠ .inMain := by
      rintro rfl
      cases listens
    refine ⟨_, WriteView.Fits.message fits outside kind payload, ?_⟩
    exact (WriteView.Fits.answered fits).keep rfl rfl
  opens {st next w p} opening fits := by
    have outside : st ≠ .inMain := by
      rintro rfl
      cases opening
    have answered := WriteView.Fits.answered fits
    refine ⟨_, _, WriteView.Fits.message fits outside .ack [], answered.advances next, fun w' link => ?_⟩
    have heard : WriteView.Fits h st { w with trace := .message .ack [] :: w.trace } _ :=
      answered.keep rfl rfl
    refine (heard.link link).inStage fun early => ?_
    cases st <;> cases opening <;> first | decide | exact absurd early (by decide)
  lacks {st served _ _ _ _} house _ fits := by
    have same : served.number = st.number := by cases st <;> cases house <;> rfl
    exact { fits with number := by rw [same]; exact fits.number, runs := by rw [same]; exact fits.runs }
  serves {st _ _ _ callback _ p} settled house found _ t fits := by
    have outside : st ≠ .inMain := by
      rintro rfl
      cases house
    obtain ⟨called, returned⟩ := WriteView.Fits.outside fits outside callback
    exact Observer.quiet_ofEvents.serves settled found t called fun code =>
      ⟨p, returned code, fun _ _ ran => WriteView.Fits.serve fits house ran⟩
  closes house fits := by
    obtain ⟨sent, advanced, fits⟩ := WriteView.Fits.close fits house
    exact ⟨_, _, sent, advanced, fits⟩
  pumps found runs e t fits := by
    rw [writes]
    exact WriteView.Fits.pumps fits runs found e t
  finishes p := ⟨p, rfl⟩

/-! ## Every write -/

/-- The write observer for the writes, the one of the phases for the other commands. -/
def transferObservation (env : Env) (h : Handle) : PhaseObservation env h (mainPump h.cmd) :=
  if writes : h.cmd = cmdWrite then writeObservation env h writes else phaseObservation env h

theorem writeTransfer_of_seen {w : World} (seen : Seen env w) {es : List Event}
    (events : commandEvents w.trace = some (h, es)) (writes : h.cmd = cmdWrite) :
    WriteTransfer h es := by
  have memory : isMemoryCmd h.cmd = true := by
    rw [writes]
    rfl
  have known := follows_of_seen (transferObservation env) seen events memory
  have same : transferObservation env h = writeObservation env h writes := dif_pos writes
  rw [same] at known
  obtain ⟨p, follows⟩ := known
  exact WriteTransfer.of_follows follows

/-- Between two turns of a write the cursor counts the bytes written. -/
theorem cursor_of_reach {w : World} (reach : Reach env w) {es : List Event}
    (events : commandEvents w.trace = some (h, es)) (writes : h.cmd = cmdWrite)
    (busy : w.handle.cmd ≠ cmdIdle) :
    w.handle.address.toNat = h.address.toNat + (written es).flatten.length := by
  cases (CommandInvariant.ofAllObservations (transferObservation env)).running_of_reach reach with
  | idle idle => exact (busy idle.cmd).elim
  | other _ _ _ other found =>
    obtain ⟨h', es', events', same⟩ := found
    rw [events] at events'
    obtain ⟨rfl, rfl⟩ := Prod.mk.inj (Option.some.inj events')
    rw [← same, writes] at other
    cases other
  | memory h' memory _ between =>
    obtain ⟨st, -, -, holds⟩ := between
    have holds : (transferObservation env h').Holds st w := holds
    obtain ⟨-, ⟨-, es', events', -⟩, -⟩ := id holds
    rw [events] at events'
    obtain ⟨rfl, rfl⟩ := Prod.mk.inj (Option.some.inj events')
    have same : transferObservation env h = writeObservation env h writes := dif_pos writes
    rw [same] at holds
    obtain ⟨p, ⟨-, es', events', follows⟩, fits⟩ := holds
    rw [events] at events'
    obtain ⟨-, rfl⟩ := Prod.mk.inj (Option.some.inj events')
    have known := WriteView.Known.of_follows follows
    rw [← fits.cursor]
    exact known.cursor.symm

/-- Whatever the host sends, a write moves its data exactly, and between two turns of the loop the
cursor is the start plus the bytes written. -/
theorem write_transfer {w : World} (seen : Seen env w) {es : List Event}
    (events : commandEvents w.trace = some (h, es)) (writes : h.cmd = cmdWrite) :
    WriteTransfer h es ∧
      (Reach env w → w.handle.cmd ≠ cmdIdle →
        w.handle.address.toNat = h.address.toNat + (written es).flatten.length) :=
  ⟨writeTransfer_of_seen seen events writes, fun reach busy => cursor_of_reach reach events writes busy⟩

/-- A Leonardo whose host writes four bytes of an SRAM in two chunks. -/
def sramWriteEnv : Env :=
  (Env.still ⟨.leonardo, false⟩ 200).sends <|
    memoryFrame { cmd := cmdWrite, memSize := 4, regionEnd := 4, protocol := protoSram32Pin,
                  pins := 32, vppMv := 5000,
                  busConfig := { addressLines := [], rwLine := 0xFF, vppLine := 0xFF } } ++
      [asciiO, asciiK, asciiO, asciiK] ++ asciiHash :: communicationFrame [1, 2, 3] ++
      asciiHash :: communicationFrame [4]

/-- Both chunks are written, and the cursor has come to the end. -/
theorem write_transfer_sram_write : ∃ (w : World) (h : Handle) (es : List Event),
    commandEvents w.trace = some (h, es) ∧ written es = [[1, 2, 3], [4]] ∧ WriteTransfer h es ∧
      w.handle.address.toNat = h.address.toNat + (written es).flatten.length := by
  have ran : commandAfter sramWriteEnv 4 (fun w h es => (h.cmd, w.handle.cmd, written es)) =
      some (cmdWrite, cmdWrite, [[1, 2, 3], [4]]) := by
    decide +kernel
  obtain ⟨w, h, es, reach, seen, events, ran⟩ := exists_of_commandAfter ran
  obtain ⟨writes, ran⟩ := Prod.mk.inj ran
  obtain ⟨running, chunks⟩ := Prod.mk.inj ran
  obtain ⟨transfer, cursor⟩ := write_transfer seen events writes
  have busy : w.handle.cmd ≠ cmdIdle := by
    rw [running]
    decide
  exact ⟨w, h, es, events, chunks, transfer, cursor reach busy⟩

end Firestarter
