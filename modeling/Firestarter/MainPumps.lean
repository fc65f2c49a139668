import Firestarter.FrameDecoding
import Firestarter.PhaseEngine

/-! What one turn of the main phase can be. Writes and reads move one chunk a turn, every other
operation is a single step; each of the three pumps is told once, by the ways its turn can go. -/
namespace Firestarter

open Interactive Interactive.Prog

variable {env : Env} {h : Handle} {w w' : World}

/-! ## The end of the main phase -/

/-- The main phase is over, and the host has been told. -/
def World.mainDone (w : World) : World :=
  { w.inStage .beforeEnd with trace := .emitted msgMainDone [] :: (w.inStage .beforeEnd).trace }

theorem Engaged.mainDone {st : Stage} (e : Engaged h st w) : Engaged h .beforeEnd w.mainDone :=
  { e.inStage .beforeEnd with }

theorem ends_setOperationToDone (e : Engaged h .inMain w) :
    Ends setOperationToDone env w (fun _ w' => ∃ w₁, LinkStep w w₁ ∧ w' = w₁.mainDone)
      (LinkStep w) := by
  unfold setOperationToDone
  refine Within.bind_ends (S := LinkStep) inferInstance (fun _ w₁ link => ?_) fun _ link => link
  rw [ends_bind, (e.link link).ends_advance_done .beforeEnd rfl]
  refine (ends_logId ?_ msgMainDone).mpr ⟨w₁, link, rfl⟩
  exact (e.link link).comMode

/-! ## Callbacks in the main phase -/

/-- What is known of the runs of a callback: `D` relates their ends, `C` where they are cut off. -/
structure CallbackRuns (env : Env) (callback : Callback) (D C : World → World → Prop) : Prop where
  ends : ∀ w, Ends (dispatch callback) env w (fun _ w' => D w w') (C w)
  step : ∀ w w', D w w' → CallbackStep w w'

theorem CallbackRuns.of_within {callback : Callback} (runs : callback ≠ .configureMemory) :
    CallbackRuns env callback CallbackStep CallbackStep :=
  ⟨fun w => (within_callback callback runs).ends w, fun _ _ step => step⟩

variable {callback : Callback} {D C : World → World → Prop}

theorem CallbackRuns.executes (runs : CallbackRuns env callback D C) (w : World) :
    Ends (executeOperation dispatch (some callback)) env w
      (fun r w' => Executed callback D w r w') (CutShort callback D C w) :=
  ends_executeOperation runs.ends
    (fun _ _ ran => by
      have kept := congrArg World.comMode (runs.step _ _ ran).kept
      exact kept) w

theorem Engaged.main {st : Stage} (e : Engaged h st w)
    (found : h.firestarterOperationMain = some callback) :
    w.handle.firestarterOperationMain = some callback :=
  (e.field Handle.firestarterOperationMain fun _ => rfl).trans found

/-- How a turn of the main phase leaves the command: failed, or in one of two stages. -/
def Turned (h : Handle) (r : Option Stage) (w' : World) : Prop :=
  match r with
  | none => Live w'
  | some st => (st = .inMain ∨ st = .beforeEnd) ∧ Engaged h st w'

/-- The callback of a chunk, where only its success matters. -/
theorem ends_opExecuteFunction (runs : CallbackRuns env callback D C) (w : World) :
    Ends (opExecuteFunction dispatch (some callback)) env w
      (fun ok w' => Executed callback D w (if ok then .stop else .error) w')
      (CutShort callback D C w) := by
  unfold opExecuteFunction
  rw [Option.isNone_some, if_neg Bool.false_ne_true, ends_bind]
  refine (runs.executes w).mono (fun r w' ran => ?_) fun _ cut => cut
  cases ran with
  | good enter run leave comMode response link handle =>
    exact .good enter run leave comMode response link handle
  | bad enter run leave comMode response => exact .bad enter run leave comMode response

/-! ## A single step -/

inductive SingleTurn (callback : Callback) (D : World → World → Prop) (w : World) :
    Option Stage → World → Prop
  | failed {w' : World} (ran : Executed callback D w .error w') :
      SingleTurn callback D w none w'
  | done {w₁ w₂ : World} (ran : Executed callback D w .stop w₁) (link : LinkStep w₁ w₂) :
      SingleTurn callback D w (some .beforeEnd) w₂.mainDone

/-- Where a single step can be cut off. -/
inductive SingleCut (callback : Callback) (D C : World → World → Prop) (w : World) : World → Prop
  | running {w' : World} (cut : CutShort callback D C w w') : SingleCut callback D C w w'
  | ending {w₁ w' : World} (ran : Executed callback D w .stop w₁) (link : LinkStep w₁ w') :
      SingleCut callback D C w w'

theorem ends_singleStepOperationCallback (runs : CallbackRuns env callback D C)
    (found : h.firestarterOperationMain = some callback) (e : Engaged h .inMain w) :
    Ends (singleStepOperationCallback dispatch) env w
      (fun ok w' => ∃ r, ok = r.isSome ∧ SingleTurn callback D w r w' ∧ Turned h r w')
      (SingleCut callback D C w) := by
  unfold singleStepOperationCallback
  rw [ends_bind, ends_getHandle, e.main found, ends_bind]
  refine (runs.executes w).mono (fun r w₁ ran => ?_) fun _ cut => .running cut
  have engaged : Engaged h .inMain w₁ := e.executed ran runs.step
  split
  · rename_i failed
    exact ⟨none, rfl, .failed (failed ▸ ran), engaged.live⟩
  · rename_i fine
    have ran : Executed callback D w .stop w₁ := by
      cases ran with
      | good enter run leave comMode response link handle =>
        exact .good enter run leave comMode response link handle
      | bad => exact (fine rfl).elim
    rw [ends_bind, ends_getHandle, engaged.calm, ends_bind]
    refine (ends_setOperationToDone engaged).mono (fun _ w' done => ?_) fun _ link => .ending ran link
    obtain ⟨w₂, link, rfl⟩ := done
    exact ⟨some .beforeEnd, rfl, .done ran link, .inr rfl, (engaged.link link).mainDone⟩

/-! ## A chunk from the host -/

/-- The flag of a pending request is down. -/
def World.answered (w : World) : World :=
  { w with handle := { w.handle with
      operationState := w.handle.operationState &&& ~~~operationWaitingForData } }

theorem ends_clearOperationWaitingForData {ended : Unit → World → Prop} {cutOff : World → Prop} :
    Ends clearOperationWaitingForData env w ended cutOff ↔ ended () w.answered := Iff.rfl

/-- A chunk was requested, and the flag is up. -/
def World.requested (w : World) : World :=
  { w with
    handle := { w.handle with
      operationState := w.handle.operationState ||| operationWaitingForData }
    trace := .emitted msgOkReqData [] :: w.trace }

/-- The cursor is past the chunk. -/
def World.movedOn (w : World) : World :=
  { w with handle := { w.handle with address := w.handle.address + w.handle.dataSize } }

/-- The host was told that the cursor or the chunk is outside the range of the operation. -/
def World.outOfRange (w : World) : World :=
  { w with
    handle := { w.handle with responseCode := responseCodeError }
    trace := .emitted msgErrOutOfRange [] :: w.trace }

theorem Live.outOfRange (live : Live w) : Live w.outOfRange := ⟨live.comMode, live.queue⟩

theorem ends_refuse_outOfRange (comMode : w.comMode = true) {ended : Unit → World → Prop}
    {cutOff : World → Prop} :
    Ends (refuse msgErrOutOfRange []) env w ended cutOff ↔ ended () w.outOfRange := by
  unfold refuse
  rw [ends_bind]
  exact ends_logId comMode msgErrOutOfRange

theorem waitingFlag_low (n : U8) : (n &&& ~~~operationWaitingForData) &&& 0x7F = n &&& 0x7F ∧
    (n ||| operationWaitingForData) &&& 0x7F = n &&& 0x7F := by
  constructor
  · rw [BitVec.and_assoc]
    rfl
  · rw [BitVec.and_or_distrib_right]
    exact BitVec.or_zero

theorem waitingFlag_up (n : U8) :
    (n ||| operationWaitingForData) &&& operationWaitingForData = operationWaitingForData := by
  ext i
  simp only [BitVec.getElem_and, BitVec.getElem_or]
  cases operationWaitingForData[i]
  · exact Bool.and_false _
  · rw [Bool.or_true, Bool.and_true]

namespace Engaged

variable {st : Stage}

theorem answered (e : Engaged h st w) : Engaged h st w.answered where
  parameters := e.parameters
  number := (waitingFlag_low w.handle.operationState).1.trans e.number
  comMode := e.comMode
  queue := e.queue

theorem requested (e : Engaged h st w) : Engaged h st w.requested where
  parameters := e.parameters
  number := (waitingFlag_low w.handle.operationState).2.trans e.number
  comMode := e.comMode
  queue := e.queue

theorem movedOn (e : Engaged h st w) : Engaged h st w.movedOn := { e with }

/-- The end of the region is a parameter. -/
theorem operationEnd (e : Engaged h st w) : w.handle.operationEnd = h.operationEnd :=
  e.field Handle.operationEnd fun _ => rfl

end Engaged

/-- The chunk in the handle may be written: it fits the buffer and the region. -/
def Handle.chunkFits (b : Build) (h : Handle) : Prop :=
  h.dataSize.toNat ≤ b.dataBufferSize ∧ memUtilRangeFits h.address h.dataSize h.operationEnd = true

inductive WriteTurn (b : Build) (callback : Callback) (D : World → World → Prop) (w : World) :
    Option Stage → World → Prop
  /-- The cursor is beyond the region. -/
  | overrun (beyond : w.handle.operationEnd < w.handle.address) :
      WriteTurn b callback D w none w.outOfRange
  | complete {w₁ : World} (reached : w.handle.address = w.handle.operationEnd)
      (link : LinkStep w w₁) : WriteTurn b callback D w (some .beforeEnd) w₁.mainDone
  /-- No message is there yet, and one has been asked for before. -/
  | waiting {w' : World} (link : LinkStep w w') : WriteTurn b callback D w (some .inMain) w'
  | requested {w₁ : World} (link : LinkStep w w₁)
      (first : w₁.handle.isOperationWaitingForData = false) :
      WriteTurn b callback D w (some .inMain) w₁.requested
  /-- The host has no more data, and had given no end. -/
  | finished {w₁ w₂ : World} (heard : Delivered .done w w₁) (unbounded : w.handle.regionEnd = 0)
      (link : LinkStep w₁.answered w₂) : WriteTurn b callback D w (some .beforeEnd) w₂.mainDone
  /-- The message is no chunk, and does not end the write. -/
  | refused {kind : OpMessageType} {w₁ w' : World} (heard : Delivered kind w w₁)
      (taken : kind ≠ .incomplete) (link : LinkStep w₁.answered w') :
      WriteTurn b callback D w none w'
  /-- The chunk does not fit the region. -/
  | outside {w₁ : World} (heard : Delivered .data w w₁)
      (long : memUtilRangeFits w₁.handle.address w₁.handle.dataSize w₁.handle.operationEnd = false) :
      WriteTurn b callback D w none w₁.answered.outOfRange
  | failed {w₁ w' : World} (heard : Delivered .data w w₁) (chunk : w₁.handle.chunkFits b)
      (ran : Executed callback D w₁.answered .error w') : WriteTurn b callback D w none w'
  | wrote {w₁ w₂ : World} (heard : Delivered .data w w₁) (chunk : w₁.handle.chunkFits b)
      (ran : Executed callback D w₁.answered .stop w₂) :
      WriteTurn b callback D w (some .inMain) w₂.movedOn

/-- Where the turn of a write can be cut off. -/
inductive WriteCut (b : Build) (callback : Callback) (D C : World → World → Prop) (w : World) :
    World → Prop
  | link {w' : World} (link : LinkStep w w') : WriteCut b callback D C w w'
  | answered {kind : OpMessageType} {w₁ w' : World} (heard : Delivered kind w w₁)
      (link : LinkStep w₁.answered w') : WriteCut b callback D C w w'
  | running {w₁ w' : World} (heard : Delivered .data w w₁) (chunk : w₁.handle.chunkFits b)
      (cut : CutShort callback D C w₁.answered w') : WriteCut b callback D C w w'

/-- Every payload fits the buffer. -/
theorem ends_takeDataPacket_fits (w : World) :
    Ends takeDataPacket env w
      (fun r w' => r = .inr .data → w'.handle.dataSize.toNat ≤ env.build.dataBufferSize)
      (fun _ => True) := by
  unfold takeDataPacket deliverFrame
  rw [ends_bind]
  refine ends_any _ (fun _ w₁ => ?_) fun _ => trivial
  rw [ends_bind, ends_build, ends_bind]
  refine (ends_readData_fits env _ w₁).mono (fun res w₂ fits => ?_) fun _ => id
  split
  · rw [ends_bind]
    exact ends_any _ (fun _ _ => nofun) fun _ => trivial
  · rename_i whole
    rw [ends_bind, ends_setHandle, ends_bind, ends_getHandle]
    intro _
    show (BitVec.ofInt 32 res).toNat ≤ env.build.dataBufferSize
    have small : env.build.dataBufferSize < 2 ^ 32 := by
      unfold Build.dataBufferSize
      split <;> decide
    obtain ⟨n, rfl⟩ := Int.eq_ofNat_of_zero_le (Int.not_lt.mp whole)
    have fits : n ≤ env.build.dataBufferSize := Int.ofNat_le.mp fits
    rw [BitVec.ofInt_natCast, BitVec.toNat_ofNat, Nat.mod_eq_of_lt (by omega)]
    exact fits

theorem ends_opGetMessage_fits (w : World) :
    Ends opGetMessage env w
      (fun kind w' => kind = .data → w'.handle.dataSize.toNat ≤ env.build.dataBufferSize)
      (fun _ => True) := by
  have other {kind : OpMessageType} (notData : kind ≠ .data) (v : World) :
      Ends (deliver kind []) env v
        (fun r v' => r = .inr .data → v'.handle.dataSize.toNat ≤ env.build.dataBufferSize)
        (fun _ => True) :=
    fun same => absurd (Sum.inr.inj same) notData
  have scanned (v : World) : Ends scanMessage env v
      (fun r v' => r = .inr .data → v'.handle.dataSize.toNat ≤ env.build.dataBufferSize)
      (fun _ => True) := by
    unfold scanMessage scanAck scanDone
    rw [ends_bind]
    refine ends_any _ (fun available v₁ => ?_) fun _ => trivial
    split
    · exact nofun
    rw [ends_bind]
    refine ends_any _ (fun peek v₂ => ?_) fun _ => trivial
    split
    · rw [ends_bind]
      refine ends_any _ (fun available v₃ => ?_) fun _ => trivial
      split
      · exact nofun
      rw [ends_bind]
      refine ends_any _ (fun _ v₄ => ?_) fun _ => trivial
      rw [ends_bind]
      refine ends_any _ (fun _ v₅ => ?_) fun _ => trivial
      split
      · rw [ends_bind]
        exact ends_any _ (fun _ v₆ => other (by decide) v₆) fun _ => trivial
      · exact nofun
    split
    · rw [ends_bind]
      refine ends_any _ (fun available v₃ => ?_) fun _ => trivial
      split
      · exact nofun
      rw [ends_bind]
      refine ends_any _ (fun whole v₄ => ?_) fun _ => trivial
      split
      · exact other (by decide) v₄
      · exact nofun
    split
    · exact ends_takeDataPacket_fits v₂
    · rw [ends_bind]
      exact ends_any _ (fun _ _ => nofun) fun _ => trivial
  unfold opGetMessage whileLoop
  rw [ends_bind]
  refine ends_any _ (fun available w₁ => ?_) fun _ => trivial
  split
  · exact nofun
  rw [ends_bind, ends_outside]
  refine ends_repeatUntil (fun _ _ => True) (fun _ v _ => ?_) (fun _ _ _ => trivial) _ _ w₁ trivial
  refine (scanned v).mono (fun r v' fits => ?_) fun _ => id
  cases r with
  | inl next => trivial
  | inr kind => exact fun isData => fits (congrArg Sum.inr isData)

theorem ends_processIncomingMessage (runs : CallbackRuns env callback D C)
    (found : h.firestarterOperationMain = some callback) (e : Engaged h .inMain w)
    {kind : OpMessageType} {w₁ : World} (heard : Delivered kind w w₁) (taken : kind ≠ .incomplete)
    (fits : kind = .data → w₁.handle.dataSize.toNat ≤ env.build.dataBufferSize) :
    Ends (processIncomingMessage h.operationEnd kind) env w₁
      (fun ok w' => ∃ r, ok = r.isSome ∧ WriteTurn env.build callback D w r w' ∧ Turned h r w')
      (WriteCut env.build callback D C w) := by
  have engaged : Engaged h .inMain w₁.answered := (e.delivered heard).answered
  have refusal {m : Fw Unit} [step : Within env LinkStep m] :
      Ends (do m; pure false) env w₁.answered
        (fun ok w' => ∃ r, ok = r.isSome ∧ WriteTurn env.build callback D w r w' ∧ Turned h r w')
        (WriteCut env.build callback D C w) := by
    refine Within.bind_ends (S := LinkStep) step (fun _ w' link => ?_) fun w' link => ?_
    · exact ⟨none, rfl, .refused heard taken link, engaged.live.link link⟩
    · exact .answered heard link
  have regionEnd : w.handle.regionEnd = w₁.answered.handle.regionEnd :=
    (e.field Handle.regionEnd fun _ => rfl).trans (engaged.field Handle.regionEnd fun _ => rfl).symm
  unfold processIncomingMessage
  rw [ends_bind, ends_clearOperationWaitingForData, ends_bind, ends_getHandle]
  split
  · rename_i isDone
    subst isDone
    split
    · exact refusal
    · rename_i unbounded
      have unbounded : w₁.answered.handle.regionEnd = 0 := by simpa using unbounded
      rw [ends_bind]
      refine (ends_setOperationToDone engaged).mono (fun _ w' done => ?_)
        fun w' link => .answered heard link
      obtain ⟨w₂, link, rfl⟩ := done
      exact ⟨some .beforeEnd, rfl, .finished heard (regionEnd.trans unbounded) link, .inr rfl,
        (engaged.link link).mainDone⟩
  split
  · rename_i isData
    subst isData
    rw [ends_bind, ends_build]
    have same : w₁.handle.operationEnd = h.operationEnd := (e.delivered heard).operationEnd
    have short : ¬ w₁.handle.dataSize.toNat > env.build.dataBufferSize := Nat.not_lt.mpr (fits rfl)
    split
    · rename_i long
      have long : (decide (w₁.handle.dataSize.toNat > env.build.dataBufferSize) ||
          !memUtilRangeFits w₁.handle.address w₁.handle.dataSize h.operationEnd) = true := long
      rw [decide_eq_false short, Bool.false_or, Bool.not_eq_true', ← same] at long
      rw [ends_bind, ends_refuse_outOfRange engaged.comMode]
      exact ⟨none, rfl, .outside heard long, engaged.live.outOfRange⟩
    · rename_i inside
      have inside : ¬ (decide (w₁.handle.dataSize.toNat > env.build.dataBufferSize) ||
          !memUtilRangeFits w₁.handle.address w₁.handle.dataSize h.operationEnd) = true := inside
      rw [decide_eq_false short, Bool.false_or, Bool.not_eq_true', Bool.not_eq_false, ← same]
        at inside
      have chunk : w₁.handle.chunkFits env.build := ⟨fits rfl, inside⟩
      rw [engaged.main found, ends_bind]
      refine (ends_opExecuteFunction runs _).mono (fun ok w₂ ran => ?_)
        fun _ cut => .running heard chunk cut
      have after : Engaged h .inMain w₂ := engaged.executed ran runs.step
      cases ok with
      | true => exact ⟨some .inMain, rfl, .wrote heard chunk ran, .inl rfl, after.movedOn⟩
      | false => exact ⟨none, rfl, .failed heard chunk ran, after.live⟩
  · have refusal := refusal (m := do
      when (kind != .error) (logId msgErrCmd)
      setResponseCode responseCodeError)
    rw [bind_assoc] at refusal
    exact refusal

theorem ends_processIncomingData (runs : CallbackRuns env callback D C)
    (found : h.firestarterOperationMain = some callback) (e : Engaged h .inMain w) :
    Ends processIncomingData env w
      (fun ok w' => ∃ r, ok = r.isSome ∧ WriteTurn env.build callback D w r w' ∧ Turned h r w')
      (WriteCut env.build callback D C w) := by
  unfold processIncomingData
  rw [ends_bind, ends_getHandle]
  dsimp only
  split
  · rename_i beyond
    rw [ends_bind, ends_refuse_outOfRange e.comMode]
    exact ⟨none, rfl, .overrun beyond, e.live.outOfRange⟩
  split
  · rename_i reached
    rw [ends_bind]
    refine (ends_setOperationToDone e).mono (fun _ w' done => ?_) fun _ link => .link link
    obtain ⟨w₁, link, rfl⟩ := done
    exact ⟨some .beforeEnd, rfl, .complete (beq_iff_eq.mp reached) link, .inr rfl,
      (e.link link).mainDone⟩
  rw [ends_bind]
  refine ((ends_opGetMessage w).and (ends_opGetMessage_fits w)).mono (fun kind w₁ both => ?_)
    fun _ both => .link both.1
  obtain ⟨heard, fits⟩ := both
  split
  · rename_i nothing
    subst nothing
    cases heard with
    | plain _ _ taken => exact (taken rfl).elim
    | incomplete link =>
      rw [ends_bind, ends_getHandle, ends_bind]
      refine Ends.when (fun first => ?_) fun _ => ?_
      · have first : w₁.handle.isOperationWaitingForData = false := by simpa using first
        rw [ends_bind, ends_logId (e.link link).comMode]
        exact ⟨some .inMain, rfl, .requested link first, .inl rfl, (e.link link).requested⟩
      · exact ⟨some .inMain, rfl, .waiting link, .inl rfl, e.link link⟩
  · rename_i taken
    rw [e.operationEnd]
    exact ends_processIncomingMessage runs found e heard taken fits

/-! ## A chunk for the host -/

/-- What the wait for an ACK may hear before it. -/
inductive Heard (w : World) : World → Prop
  | start : Heard w w
  | link {w₁ w' : World} (before : Heard w w₁) (link : LinkStep w₁ w') : Heard w w'
  | message {kind : OpMessageType} {w₁ w' : World} (before : Heard w w₁) (notAck : kind ≠ .ack)
      (heard : Delivered kind w₁ w') : Heard w w'

theorem Engaged.heard {st : Stage} (e : Engaged h st w) (heard : Heard w w') :
    Engaged h st w' := by
  induction heard with
  | start => exact e
  | link _ link ih => exact ih.link link
  | message _ _ heard ih => exact ih.delivered heard

/-- A chunk is never longer than what is left of the region. -/
def World.trimmed (opEnd : U32) (w : World) : World :=
  { w with handle := { w.handle with
      dataSize := if w.handle.dataSize > opEnd - w.handle.address then opEnd - w.handle.address
        else w.handle.dataSize } }

/-- The chunk in the buffer goes out, announced. -/
def World.chunkSent (w : World) : World :=
  { w with trace :=
      (if w.handle.payload.length ≤ 65533 then [.emitted msgDataChunk w.handle.payload] else []) ++
        .emitted msgDataSending [] :: w.trace }

namespace Engaged

variable {st : Stage}

theorem trimmed (e : Engaged h st w) (opEnd : U32) : Engaged h st (w.trimmed opEnd) := { e with }

theorem chunkSent (e : Engaged h st w) : Engaged h st w.chunkSent := { e with }

end Engaged

/-- In communication mode the wide frame goes out, if its length can be told. -/
theorem ends_rurpLogIdWide (comMode : w.comMode = true) (id : U8) (params : List U8)
    {ended : Unit → World → Prop} {cutOff : World → Prop} :
    Ends (rurpLogIdWide id params) env w ended cutOff ↔
      ended () { w with trace :=
        (if params.length ≤ 65533 then [.emitted id params] else []) ++ w.trace } := by
  have speaks : (!(env.build.serialOnIo && !w.comMode)) = true := by simp [comMode]
  unfold rurpLogIdWide firestarterEmitFrameWide
  rw [ends_bind, ends_build, ends_bind, ends_look, ends_when, if_pos speaks, ends_when]
  by_cases fits : params.length ≤ 65533
  · rw [if_pos (decide_eq_true fits), if_pos fits]
    exact Iff.rfl
  · rw [if_neg (by simpa using fits), if_neg fits]
    exact Iff.rfl

theorem ends_opWaitForAck_heard (w : World) :
    Ends opWaitForAck env w
      (fun acked w' => if acked then ∃ w₁, Heard w w₁ ∧ Delivered .ack w₁ w' else Heard w w')
      (Heard w) :=
  ends_opWaitForAck (fun _ _ heard link => .link heard link)
    (fun _ _ _ notAck before heard => .message before notAck heard) .start

inductive ReadTurn (callback : Callback) (D : World → World → Prop) (w : World) :
    Option Stage → World → Prop
  /-- The cursor is beyond the region. -/
  | overrun (beyond : w.handle.operationEnd < w.handle.address) :
      ReadTurn callback D w none w.outOfRange
  | complete {w₁ : World} (reached : w.handle.address = w.handle.operationEnd)
      (link : LinkStep w w₁) : ReadTurn callback D w (some .beforeEnd) w₁.mainDone
  | failed {w' : World} (more : w.handle.address < w.handle.operationEnd)
      (ran : Executed callback D w .error w') : ReadTurn callback D w none w'
  /-- No ACK came for the chunk. -/
  | unanswered {w₁ w' : World} (more : w.handle.address < w.handle.operationEnd)
      (ran : Executed callback D w .stop w₁)
      (heard : Heard (w₁.trimmed w.handle.operationEnd).chunkSent w') :
      ReadTurn callback D w none w'
  | sent {w₁ w₂ w₃ : World} (more : w.handle.address < w.handle.operationEnd)
      (ran : Executed callback D w .stop w₁)
      (heard : Heard (w₁.trimmed w.handle.operationEnd).chunkSent w₂) (acked : Delivered .ack w₂ w₃)
      (rest : w₃.movedOn.handle.address < w.handle.operationEnd) :
      ReadTurn callback D w (some .inMain) w₃.movedOn
  | last {w₁ w₂ w₃ w₄ : World} (more : w.handle.address < w.handle.operationEnd)
      (ran : Executed callback D w .stop w₁)
      (heard : Heard (w₁.trimmed w.handle.operationEnd).chunkSent w₂) (acked : Delivered .ack w₂ w₃)
      (reached : w.handle.operationEnd ≤ w₃.movedOn.handle.address)
      (link : LinkStep w₃.movedOn w₄) : ReadTurn callback D w (some .beforeEnd) w₄.mainDone

/-- Where the turn of a read can be cut off. -/
inductive ReadCut (callback : Callback) (D C : World → World → Prop) (w : World) : World → Prop
  | link {w' : World} (link : LinkStep w w') : ReadCut callback D C w w'
  | running {w' : World} (more : w.handle.address < w.handle.operationEnd)
      (cut : CutShort callback D C w w') : ReadCut callback D C w w'
  | hearing {w₁ w' : World} (more : w.handle.address < w.handle.operationEnd)
      (ran : Executed callback D w .stop w₁)
      (heard : Heard (w₁.trimmed w.handle.operationEnd).chunkSent w') : ReadCut callback D C w w'
  | ending {w₁ w₂ w₃ w' : World} (more : w.handle.address < w.handle.operationEnd)
      (ran : Executed callback D w .stop w₁)
      (heard : Heard (w₁.trimmed w.handle.operationEnd).chunkSent w₂) (acked : Delivered .ack w₂ w₃)
      (link : LinkStep w₃.movedOn w') : ReadCut callback D C w w'

theorem ends_sendChunk (more : w.handle.address < w.handle.operationEnd)
    {w₁ : World} (ran : Executed callback D w .stop w₁) (engaged : Engaged h .inMain w₁) :
    Ends (sendChunk w.handle.operationEnd) env w₁
      (fun ok w' => ∃ r, ok = r.isSome ∧ ReadTurn callback D w r w' ∧ Turned h r w')
      (ReadCut callback D C w) := by
  have trimmed : Engaged h .inMain (w₁.trimmed w.handle.operationEnd) := engaged.trimmed _
  have sent := trimmed.chunkSent
  unfold sendChunk
  rw [ends_bind]
  refine (ends_setHandle (s := w₁) _).mpr ?_
  show Ends _ env (w₁.trimmed w.handle.operationEnd) _ _
  rw [ends_bind, ends_logId trimmed.comMode, ends_bind, ends_getHandle, ends_bind,
    ends_rurpLogIdWide (by exact trimmed.comMode)]
  show Ends _ env (w₁.trimmed w.handle.operationEnd).chunkSent _ _
  rw [ends_bind]
  refine (ends_opWaitForAck_heard _).mono (fun acked w₂ waited => ?_)
    fun _ heard => .hearing more ran heard
  cases acked with
  | false => exact ⟨none, rfl, .unanswered more ran waited, (sent.heard waited).live⟩
  | true =>
    obtain ⟨w', heard, acked⟩ := waited
    have after : Engaged h .inMain w₂.movedOn := ((sent.heard heard).delivered acked).movedOn
    rw [if_pos rfl, ends_bind, ends_setHandle]
    show Ends _ env w₂.movedOn _ _
    rw [ends_bind, ends_getHandle, ends_bind]
    refine Ends.when (fun reached => ?_) fun rest => ?_
    · have reached : w.handle.operationEnd ≤ w₂.movedOn.handle.address := by simpa using reached
      refine (ends_setOperationToDone after).mono (fun _ w' done => ?_)
        fun _ link => .ending more ran heard acked link
      obtain ⟨w₄, link, rfl⟩ := done
      exact ⟨some .beforeEnd, rfl, .last more ran heard acked reached link, .inr rfl,
        (after.link link).mainDone⟩
    · have rest : w₂.movedOn.handle.address < w.handle.operationEnd := by simpa using rest
      exact ⟨some .inMain, rfl, .sent more ran heard acked rest, .inl rfl, after⟩

theorem ends_processOutgoingData (runs : CallbackRuns env callback D C)
    (found : h.firestarterOperationMain = some callback) (e : Engaged h .inMain w) :
    Ends (processOutgoingData) env w
      (fun ok w' => ∃ r, ok = r.isSome ∧ ReadTurn callback D w r w' ∧ Turned h r w')
      (ReadCut callback D C w) := by
  unfold processOutgoingData
  rw [ends_bind, ends_getHandle]
  dsimp only
  split
  · rename_i beyond
    rw [ends_bind, ends_refuse_outOfRange e.comMode]
    exact ⟨none, rfl, .overrun beyond, e.live.outOfRange⟩
  rename_i inside
  split
  · rename_i reached
    rw [ends_bind]
    refine (ends_setOperationToDone e).mono (fun _ w' done => ?_) fun _ link => .link link
    obtain ⟨w₁, link, rfl⟩ := done
    exact ⟨some .beforeEnd, rfl, .complete (beq_iff_eq.mp reached) link, .inr rfl,
      (e.link link).mainDone⟩
  rename_i apart
  have more : w.handle.address < w.handle.operationEnd := by
    have apart : w.handle.address ≠ w.handle.operationEnd := by simpa using apart
    exact BitVec.lt_of_le_ne (BitVec.not_lt.mp inside) apart
  rw [e.main found, ends_bind]
  refine (ends_opExecuteFunction runs w).mono (fun ok w₁ ran => ?_) fun _ cut => .running more cut
  have engaged : Engaged h .inMain w₁ := e.executed ran runs.step
  cases ok with
  | true => exact ends_sendChunk more ran engaged
  | false => exact ⟨none, rfl, .failed more ran, engaged.live⟩

end Firestarter
