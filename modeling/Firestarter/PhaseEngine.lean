import Firestarter.EpromOperations
import Firestarter.Observation

/-! The phase engine as a rule. An invariant that knows which stage of a command it is in and that
survives what the engine itself does, the two housekeeping callbacks and one turn of the main
phase, holds over every turn of the command. -/
namespace Firestarter

open Interactive Interactive.Prog

/-! ## Messages taken from the host -/

/-- A message was taken whole after link steps; a data message left its length and its bytes in
the handle. -/
inductive Delivered : OpMessageType → World → World → Prop
  | incomplete {s s' : World} (link : LinkStep s s') : Delivered .incomplete s s'
  | plain {s w : World} (kind : OpMessageType) (notData : kind ≠ .data)
      (taken : kind ≠ .incomplete) (link : LinkStep s w) :
      Delivered kind s { w with trace := .message kind [] :: w.trace }
  | data {s w : World} (size : U32) (link : LinkStep s w) :
      Delivered .data s
        { w with
          handle := { w.handle with dataSize := size }
          trace := .message .data (Handle.payload { w.handle with dataSize := size }) :: w.trace }

variable {env : Env} {s : World}

/-- What the scanner's turns end with: link steps so far, or a message after them. -/
def Scanned (s : World) (r : Unit ⊕ OpMessageType) (s' : World) : Prop :=
  match r with
  | .inl _ => LinkStep s s'
  | .inr kind => Delivered kind s s'

theorem ends_deliver {w : World} (kind : OpMessageType) (notData : kind ≠ .data)
    (taken : kind ≠ .incomplete) (link : LinkStep s w) :
    Ends (deliver kind []) env w (Scanned s) (LinkStep s) :=
  .plain kind notData taken link

theorem ends_takeDataPacket {w : World} (link : LinkStep s w) :
    Ends takeDataPacket env w (Scanned s) (LinkStep s) := by
  unfold takeDataPacket deliverFrame logIdU16
  refine Within.bind_ends (S := LinkStep) inferInstance (fun _ w₁ link₁ => ?_)
    fun _ h => trans_of LinkStep link h
  replace link₁ := trans_of LinkStep link link₁
  simp only [build, ends_bind, ends_outside, bind_assoc, pure_bind]
  refine (Within.ends (R := LinkStep) inferInstance w₁).mono (fun res w₂ link₂ => ?_)
    fun _ h => trans_of LinkStep link₁ h
  replace link₂ := trans_of LinkStep link₁ link₂
  split
  · refine Within.bind_ends (S := LinkStep) inferInstance (fun _ w₃ link₃ => ?_)
      fun _ h => trans_of LinkStep link₂ h
    exact ends_deliver .error (by decide) (by decide) (trans_of LinkStep link₂ link₃)
  · exact .data _ link₂

/-- A turn of the scanner goes round again after link steps, or delivers. -/
theorem ends_scanMessage {w : World} (link : LinkStep s w) :
    Ends scanMessage env w (Scanned s) (LinkStep s) := by
  have onward {α : Type} {m : Fw α} {f : α → Fw (Unit ⊕ OpMessageType)} {w : World}
      (link : LinkStep s w) [first : Within env LinkStep m]
      (rest : ∀ a w', LinkStep s w' → Ends (f a) env w' (Scanned s) (LinkStep s)) :
      Ends (m >>= f) env w (Scanned s) (LinkStep s) :=
    first.bind_ends (fun a w' moved => rest a w' (trans_of LinkStep link moved))
      fun _ moved => trans_of LinkStep link moved
  unfold scanMessage scanAck scanDone
  refine onward link fun available w link => ?_
  split
  · exact .incomplete link
  refine onward link fun peek w link => ?_
  split
  · refine onward link fun available w link => ?_
    split
    · exact .incomplete link
    refine onward link fun _ w link => onward link fun peek w link => ?_
    split
    · exact onward link fun _ w link => ends_deliver .ack (by decide) (by decide) link
    · exact link
  split
  · refine onward link fun available w link => ?_
    split
    · exact .incomplete link
    refine onward link fun taken w link => ?_
    split
    · exact ends_deliver .done (by decide) (by decide) link
    · exact link
  split
  · exact ends_takeDataPacket link
  · exact onward link fun _ w link => link

theorem ends_opGetMessage (s : World) :
    Ends opGetMessage env s (fun kind s' => Delivered kind s s') (LinkStep s) := by
  unfold opGetMessage whileLoop
  refine Within.bind_ends (S := LinkStep) inferInstance (fun available w link => ?_) fun _ h => h
  split
  · exact .incomplete link
  · simp only [ends_bind, ends_outside]
    refine ends_repeatUntil (fun _ w => LinkStep s w) (fun _ w link => ?_) (fun _ _ h => h) _ _ w
      link
    refine (ends_scanMessage link).mono (fun r w' scanned => ?_) fun _ h => h
    cases r <;> exact scanned

/-- Waiting for an ACK hears any number of data messages and then, if it is not cut short, one
message or none. -/
theorem ends_opWaitForAck {P : World → Prop} (link : ∀ w w', P w → LinkStep w w' → P w')
    (hears : ∀ kind w w', kind ≠ .ack → P w → Delivered kind w w' → P w') (start : P s) :
    Ends opWaitForAck env s
      (fun acked s' => if acked then ∃ w, P w ∧ Delivered .ack w s' else P s') P := by
  have onward {α : Type} {m : Fw α} {f : α → Fw (Unit ⊕ Bool)} {w : World} (holds : P w)
      {ended : Unit ⊕ Bool → World → Prop} [first : Within env LinkStep m]
      (rest : ∀ a w', P w' → Ends (f a) env w' ended P) : Ends (m >>= f) env w ended P :=
    first.bind_ends (fun a w' moved => rest a w' (link w w' holds moved))
      fun w' moved => link w w' holds moved
  unfold opWaitForAck ackTurn whileLoop
  refine Within.bind_ends (S := LinkStep) inferInstance (fun startedMs w moved => ?_)
    fun w moved => link s w start moved
  replace start := link s w start moved
  simp only [ends_bind, ends_outside]
  refine ends_repeatUntil (fun _ w => P w) (fun _ w holds => ?_) (fun _ _ h => h) _ _ w start
  refine onward holds fun now w holds => ?_
  split
  · exact onward holds fun _ w holds => holds
  rw [ends_bind]
  refine (ends_opGetMessage w).mono (fun kind w' heard => ?_) fun w' moved => link w w' holds moved
  split
  · rename_i acked
    subst acked
    exact ⟨w, holds, heard⟩
  rename_i notAck
  have holds := hears kind w w' notAck holds heard
  split
  · exact holds
  split
  · exact onward holds fun _ w holds => holds
  · exact onward holds fun _ w holds => holds

/-! ## Stages of a command -/

/-- Where a command is. The operation's state number tells most of it; a phase that has been opened
and one whose callback has returned share their number. -/
inductive Stage where
  | beforeInit | inInit | initServed | beforeMain | inMain | beforeEnd | inEnd | endServed | ended
  deriving DecidableEq, Repr

namespace Stage

def number : Stage → U8
  | beforeInit => 0
  | inInit | initServed => 1
  | beforeMain => 2
  | inMain => 3
  | beforeEnd => 4
  | inEnd | endServed => 5
  | ended => 6

/-- The stages a command can be in between two turns of the loop. -/
def isBoundary : Stage → Bool
  | inInit | initServed | inEnd | endServed => false
  | _ => true

/-- The stage an ACK of the host opens. -/
def opened : Stage → Option Stage
  | beforeInit => some inInit
  | beforeMain => some inMain
  | beforeEnd => some inEnd
  | _ => none

/-- Between the phases, and after the last one, the engine only listens. -/
def listens (st : Stage) : Bool := st.opened.isSome || st == ended

/-- The stage after a housekeeping callback, the one after its frame, and the frame. -/
def housekeeping : Stage → Option (Stage × Stage × U8)
  | inInit => some (initServed, beforeMain, msgInitDone)
  | inEnd => some (endServed, ended, msgEndDone)
  | _ => none

theorem number_and_state (st : Stage) : st.number &&& 0x3F = st.number := by cases st <;> rfl

theorem number_and_flag (st : Stage) : st.number &&& 0x40 = 0 := by cases st <;> rfl

theorem number_and_low (st : Stage) : st.number &&& 0x7F = st.number := by cases st <;> rfl

end Stage

namespace Handle

/-- What nothing changes while the command runs. -/
def parameters (h : Handle) : Handle :=
  { h with
    responseCode := 0, operationState := 0, address := 0, dataBuffer := fun _ => 0, dataSize := 0 }

/-- The callback of a housekeeping phase. -/
def housekeeper (h : Handle) : Stage → Option Callback
  | .inInit => h.firestarterOperationInit
  | .inEnd => h.firestarterOperationEnd
  | _ => none

/-- No phase of the command configures the memory again. -/
structure Settled (h : Handle) : Prop where
  init : h.firestarterOperationInit ≠ some .configureMemory
  main : h.firestarterOperationMain ≠ some .configureMemory
  finish : h.firestarterOperationEnd ≠ some .configureMemory

/-- Nor does a housekeeping callback. -/
theorem Settled.serves {h : Handle} {st : Stage} {callback : Callback} (settled : h.Settled)
    (found : h.housekeeper st = some callback) : callback ≠ .configureMemory := by
  rintro rfl
  cases st with
  | inInit => exact settled.init found
  | inEnd => exact settled.finish found
  | _ => cases found

end Handle

/-- The command accepted with this handle is in this stage. The flag of an operation in progress
is never up: no callback sets it. -/
structure Engaged (h : Handle) (st : Stage) (w : World) : Prop where
  parameters : w.handle.parameters = h.parameters
  number : w.handle.operationState &&& 0x7F = st.number
  comMode : w.comMode = true
  queue : w.QueuesReports

namespace Engaged

variable {h : Handle} {st : Stage} {w w' : World}

theorem stateNumber (e : Engaged h st w) : w.handle.stateNumber = st.number := by
  have low : w.handle.operationState &&& 0x3F = w.handle.operationState &&& 0x7F &&& 0x3F := by
    rw [BitVec.and_assoc]
    rfl
  rw [Handle.stateNumber, low, e.number, Stage.number_and_state]

theorem flag (e : Engaged h st w) : w.handle.operationState &&& 0x40 = 0 := by
  have low : w.handle.operationState &&& 0x40 = w.handle.operationState &&& 0x7F &&& 0x40 := by
    rw [BitVec.and_assoc]
    rfl
  rw [low, e.number, Stage.number_and_flag]

theorem calm (e : Engaged h st w) : w.handle.isOperationInProgress = false := by
  rw [Handle.isOperationInProgress, operationInProgress, e.flag]
  rfl

theorem started (e : Engaged h st w) (n : U8) :
    w.handle.isOperationStarted n = (st.number == n) := by
  rw [Handle.isOperationStarted, e.stateNumber]

theorem canStart (e : Engaged h st w) (n : U8) :
    w.handle.canOperationStart n = (st.number == n - 1) := e.started (n - 1)

/-- A field that the run leaves alone is the accepted one. -/
theorem field (e : Engaged h st w) {κ : Type} (f : Handle → κ) (kept : ∀ h, f h.parameters = f h) :
    f w.handle = f h := by
  rw [← kept w.handle, e.parameters, kept]

theorem link (e : Engaged h st w) (link : LinkStep w w') : Engaged h st w' where
  parameters := (congrArg (fun w : World => w.handle.parameters) link.kept).trans e.parameters
  number := (congrArg (fun w : World => w.handle.operationState &&& 0x7F) link.kept).trans e.number
  comMode := (congrArg World.comMode link.kept).trans e.comMode
  queue := (link.adds e.queue).1

theorem delivered {kind : OpMessageType} (e : Engaged h st w) (heard : Delivered kind w w') :
    Engaged h st w' := by
  cases heard with
  | incomplete link => exact e.link link
  | plain kind notData taken link => exact { e.link link with }
  | data size link => exact { e.link link with }

end Engaged

/-- The link can be spoken on: a frame goes out at once, and only reports wait. -/
structure Live (w : World) : Prop where
  comMode : w.comMode = true
  queue : w.QueuesReports

theorem Engaged.live {h : Handle} {st : Stage} {w : World} (e : Engaged h st w) : Live w :=
  ⟨e.comMode, e.queue⟩

theorem Live.link {w w' : World} (l : Live w) (link : LinkStep w w') : Live w' where
  comMode := (congrArg World.comMode link.kept).trans l.comMode
  queue := (link.adds l.queue).1

/-- The engine has moved the operation to this stage. -/
def World.inStage (w : World) (st : Stage) : World :=
  { w with
    handle := w.handle.withOperationState st.number
    trace := .advanced st.number :: w.trace }

theorem Handle.withOperationState_low (h : Handle) (st : Stage)
    (calm : h.operationState &&& 0x40 = 0) :
    (h.withOperationState st.number).operationState &&& 0x7F = st.number := by
  have flags : h.operationState &&& 0xC0 &&& 0x7F = h.operationState &&& 0x40 := by
    rw [BitVec.and_assoc]
    rfl
  show (h.operationState &&& 0xC0 ||| st.number) &&& 0x7F = st.number
  rw [BitVec.and_or_distrib_right, flags, calm, st.number_and_low]
  exact BitVec.zero_or

theorem Engaged.inStage {h : Handle} {st : Stage} {w : World} (e : Engaged h st w) (next : Stage) :
    Engaged h next (w.inStage next) where
  parameters := e.parameters
  number := w.handle.withOperationState_low next e.flag
  comMode := e.comMode
  queue := e.queue

theorem Handle.withOperationState_stateNumber (h : Handle) (st : Stage) :
    (h.withOperationState st.number).stateNumber = st.number := by
  have flags : h.operationState &&& 0xC0 &&& 0x3F = 0 := by
    rw [BitVec.and_assoc]
    exact BitVec.and_zero
  show (h.operationState &&& 0xC0 ||| st.number) &&& 0x3F = st.number
  rw [BitVec.and_or_distrib_right, flags, st.number_and_state]
  exact BitVec.zero_or

@[simp] theorem ends_advance_stage {w : World} {ended : Unit → World → Prop}
    {cutOff : World → Prop} (st : Stage) :
    Ends (advance fun h => h.withOperationState st.number) env w ended cutOff ↔
      ended () (w.inStage st) := by
  unfold advance World.inStage
  simp only [ends_bind, ends_setHandle, ends_getHandle, ends_note,
    Handle.withOperationState_stateNumber]

/-- Stepping the state number is moving to the stage that has it. -/
theorem Engaged.ends_advance_done {h : Handle} {st : Stage} {w : World} (e : Engaged h st w)
    (next : Stage) (succ : next.number = st.number + 1) {ended : Unit → World → Prop}
    {cutOff : World → Prop} :
    Ends (advance Handle.withOperationStateDone) env w ended cutOff ↔
      ended () (w.inStage next) := by
  have same : w.handle.withOperationStateDone = w.handle.withOperationState next.number := by
    rw [Handle.withOperationStateDone, Handle.withOperationState, e.stateNumber, succ]
  unfold advance World.inStage
  simp only [ends_bind, ends_setHandle, ends_getHandle, ends_note, same,
    Handle.withOperationState_stateNumber]

/-- In communication mode a short frame goes out at once. -/
theorem ends_logId {w : World} (comMode : w.comMode = true) (id : U8)
    {ended : Unit → World → Prop} {cutOff : World → Prop} :
    Ends (logId id) env w ended cutOff ↔
      ended () { w with trace := .emitted id [] :: w.trace } := by
  unfold logId rurpLogId firestarterEmitFrameWide
  simp [comMode]

/-! ## One callback -/

/-- The responses after which a command goes on. -/
def isGoodResponse (code : U8) : Bool :=
  code == responseCodeOk || code == responseCodeWarning || code == responseCodeData

/-- The callback is entered. -/
def World.calling (w : World) (callback : Callback) : World :=
  { w with trace := .called callback w.handle :: w.trace }

/-- The callback has returned. -/
def World.returning (w : World) (callback : Callback) : World :=
  { w with trace := .returned callback w.handle.responseCode :: w.trace }

/-- What one execution of a callback is made of: programmer mode, the callback, whose runs `D`
relates, communication mode, and the check of its response. -/
inductive Executed (callback : Callback) (D : World → World → Prop) (w : World) :
    OpResult → World → Prop
  | good {w₁ w₂ w₃ w' : World} (enter : ModeStep w w₁) (run : D (w₁.calling callback) w₂)
      (leave : ModeStep (w₂.returning callback) w₃) (comMode : w.comMode = true → w₃.comMode = true)
      (response : isGoodResponse w₂.handle.responseCode = true) (link : LinkStep w₃ w')
      (handle : w'.handle = { w₂.handle with responseCode := responseCodeOk }) :
      Executed callback D w .stop w'
  | bad {w₁ w₂ w' : World} (enter : ModeStep w w₁) (run : D (w₁.calling callback) w₂)
      (leave : ModeStep (w₂.returning callback) w') (comMode : w.comMode = true → w'.comMode = true)
      (response : isGoodResponse w₂.handle.responseCode = false) :
      Executed callback D w .error w'

/-- Where an execution can be cut off. -/
inductive CutShort (callback : Callback) (D : World → World → Prop) (C : World → World → Prop)
    (w : World) : World → Prop
  | entering {w' : World} (enter : ModeStep w w') : CutShort callback D C w w'
  | running {w₁ w' : World} (enter : ModeStep w w₁) (run : C (w₁.calling callback) w') :
      CutShort callback D C w w'
  | leaving {w₁ w₂ w₃ w' : World} (enter : ModeStep w w₁) (run : D (w₁.calling callback) w₂)
      (leave : ModeStep (w₂.returning callback) w₃) (link : LinkStep w₃ w') :
      CutShort callback D C w w'

/-- What the callback keeps of the handle, the response aside, the execution keeps. -/
theorem Executed.handle {callback : Callback} {D : World → World → Prop} {r : OpResult}
    {w w' : World} (ran : Executed callback D w r w') {κ : Type} (part : Handle → κ)
    (kept : ∀ w w', D w w' → part w'.handle = part w.handle)
    (response : ∀ h code, part { h with responseCode := code } = part h) :
    part w'.handle = part w.handle := by
  have entered {w₁ w₂ : World} (enter : ModeStep w w₁) (run : D (w₁.calling callback) w₂) :
      part w₂.handle = part w.handle := by
    have before : w₁.handle = w.handle := enter.handle
    rw [kept _ _ run, ← before]
    rfl
  cases ran with
  | good enter run leave comMode good link handle =>
    rw [handle, response]
    exact entered enter run
  | @bad w₁ w₂ _ enter run leave comMode bad =>
    have after : w'.handle = w₂.handle := leave.handle
    rw [after]
    exact entered enter run

/-- Programmer mode is the Uno's alone. -/
theorem ends_rurpSetProgrammerMode (w : World) :
    Ends rurpSetProgrammerMode env w
      (fun _ w' => ModeStep w w' ∧ (env.build.serialOnIo = false → w'.comMode = w.comMode))
      (ModeStep w) := by
  refine Within.and_ends (R := ModeStep) inferInstance ?_
  unfold rurpSetProgrammerMode
  rw [ends_bind, ends_build, ends_when]
  split
  · rename_i serialOnIo
    refine ends_any _ (fun _ _ absent => ?_) fun _ => trivial
    rw [serialOnIo] at absent
    cases absent
  · exact fun _ => Eq.refl w.comMode

theorem ends_rurpSetCommunicationMode (w : World) :
    Ends rurpSetCommunicationMode env w
      (fun _ w' => ModeStep w w' ∧
        ((env.build.serialOnIo = false → w.comMode = true) → w'.comMode = true))
      (ModeStep w) := by
  refine Within.and_ends (R := ModeStep) inferInstance ?_
  unfold rurpSetCommunicationMode
  simp only [ends_bind, ends_build, ends_when]
  split
  · refine ends_any _ (fun _ w₁ => ?_) fun _ => trivial
    refine ends_any _ (fun _ w₂ => ?_) fun _ => trivial
    simp only [ends_update]
    unfold flushDeferredLog
    simp only [ends_bind, ends_look]
    refine (ends_sendFrames w₂.deferredLog _).mono (fun _ w₃ sent => ?_) fun _ h => h.elim
    obtain ⟨new, rfl, frames⟩ := sent
    exact fun _ => rfl
  · rename_i absent
    exact fun comMode => comMode (by simpa using absent)

theorem ends_checkResponse (w : World) :
    Ends checkResponse env w
      (fun good w' => good = isGoodResponse w.handle.responseCode ∧
        if good then LinkStep w w' ∧ w'.handle = { w.handle with responseCode := responseCodeOk }
        else w' = w)
      (LinkStep w) := by
  have (payload : List U8) : Within env LinkStep (rurpCommunicationWrite payload) :=
    Within.update _ fun w => Moves.of_note _ rfl rfl
  have reset (w : World) : Ends opResetTimeout env w (fun _ w' => w'.handle = w.handle)
      (fun _ => True) := Eq.refl w.handle
  unfold checkResponse
  simp only [ends_bind, ends_getHandle]
  split
  · rename_i good
    have sent : Ends (when (w.handle.responseCode == responseCodeData)
        (rurpCommunicationWrite w.handle.payload)) env w (fun _ w' => w'.handle = w.handle)
        (fun _ => True) := Ends.when (fun _ => Eq.refl w.handle) fun _ => rfl
    rw [ends_bind]
    refine (Within.and_ends (R := LinkStep) inferInstance sent).mono (fun _ w₁ moved => ?_)
      fun _ link => link
    obtain ⟨link, same⟩ := moved
    rw [ends_bind]
    refine (Within.and_ends (R := LinkStep) inferInstance (reset w₁)).mono (fun _ w₂ moved => ?_)
      fun _ link' => trans_of LinkStep link link'
    obtain ⟨link₁, same₁⟩ := moved
    refine ⟨good.symm, ?_, ?_⟩
    · refine trans_of LinkStep (trans_of LinkStep link link₁) ?_
      exact Moves.of_silent rfl rfl rfl
    · show { w₂.handle with responseCode := responseCodeOk } = _
      rw [same₁, same]
  · rename_i bad
    refine ⟨?_, rfl⟩
    rw [isGoodResponse]
    simpa using bad

/-- The rule for one callback, from what its own runs do. -/
theorem ends_executeOperation {callback : Callback} {D C : World → World → Prop}
    (run : ∀ w, Ends (dispatch callback) env w (fun _ w' => D w w') (C w))
    (mode : ∀ w w', D w w' → w'.comMode = w.comMode) (w : World) :
    Ends (executeOperation dispatch (some callback)) env w
      (fun r w' => Executed callback D w r w') (CutShort callback D C w) := by
  unfold executeOperation
  rw [ends_bind]
  refine (ends_rurpSetProgrammerMode w).mono (fun _ w₁ enter => ?_) fun _ h => .entering h
  simp only [ends_bind, ends_getHandle, ends_note]
  refine (run (w₁.calling callback)).mono (fun _ w₂ ran => ?_) fun _ h => .running enter.1 h
  refine (ends_rurpSetCommunicationMode (w₂.returning callback)).mono (fun _ w₃ leave => ?_)
    fun _ h => .leaving enter.1 ran h (refl_of LinkStep _)
  have comMode (start : w.comMode = true) : w₃.comMode = true := by
    refine leave.2 fun absent => ?_
    have entered : w₁.comMode = w.comMode := enter.2 absent
    exact (mode _ _ ran).trans (entered.trans start)
  have left : w₃.handle = w₂.handle := leave.1.handle
  refine (ends_checkResponse w₃).mono (fun good w' checked => ?_) fun w' link => ?_
  · obtain ⟨isGood, moved⟩ := checked
    rw [left] at isGood
    cases good with
    | true =>
      obtain ⟨link, handle⟩ := moved
      rw [left] at handle
      exact .good enter.1 ran leave.1 comMode isGood.symm link handle
    | false =>
      obtain rfl : w' = w₃ := moved
      exact .bad enter.1 ran leave.1 comMode isGood.symm
  · exact .leaving enter.1 ran leave.1 link

theorem ends_callback {callback : Callback} (settled : callback ≠ .configureMemory) (w : World) :
    Ends (executeOperation dispatch (some callback)) env w
      (fun r w' => Executed callback CallbackStep w r w')
      (CutShort callback CallbackStep CallbackStep w) :=
  ends_executeOperation (fun w => (within_callback callback settled).ends w)
    (fun _ _ ran => by
      have kept := congrArg World.comMode ran.kept
      exact kept) w

namespace Engaged

variable {h : Handle} {st : Stage} {w w' : World}

/-- No part of an execution touches what a command is engaged in. -/
theorem executed {callback : Callback} {D : World → World → Prop} {r : OpResult}
    (e : Engaged h st w) (ran : Executed callback D w r w')
    (sub : ∀ w w', D w w' → CallbackStep w w') : Engaged h st w' := by
  have left {w₁ w₂ w₃ : World} (enter : ModeStep w w₁) (run : CallbackStep (w₁.calling callback) w₂)
      (leave : ModeStep (w₂.returning callback) w₃) (comMode : w₃.comMode = true) :
      Engaged h st w₃ := by
    have before : w₁.handle = w.handle := enter.handle
    have after : w₃.handle = w₂.handle := leave.handle
    have parameters := congrArg (fun w : World => w.handle.parameters) run.kept
    have parameters : w₂.handle.parameters = w₁.handle.parameters := parameters
    have number := congrArg (fun w : World => w.handle.operationState) run.kept
    have number : w₂.handle.operationState = w₁.handle.operationState := number
    refine ⟨?_, ?_, comMode, (leave.adds (run.adds (enter.adds e.queue).1).1).1⟩
    · rw [after, parameters, before, e.parameters]
    · rw [after, number, before, e.number]
  cases ran with
  | good enter run leave comMode response link =>
    exact (left enter (sub _ _ run) leave (comMode e.comMode)).link link
  | bad enter run leave comMode response =>
    exact left enter (sub _ _ run) leave (comMode e.comMode)

end Engaged

/-! ## The rule -/

/-- A housekeeping phase is closed: its frame goes out, and the next stage begins. -/
def World.closed (w : World) (next : Stage) (frame : U8) : World :=
  { w with trace := .emitted frame [] :: w.trace }.inStage next

/-- What is known of a command that was accepted with the handle `h` and whose main phase runs
`pump`: in each of its stages, when a turn has ended it, and always, a turn cut off included. -/
structure PhaseRule (env : Env) (h : Handle) (pump : Fw Bool) where
  holds : Stage → World → Prop
  closing : World → Prop
  always : World → Prop
  safe : ∀ {st : Stage} {w : World}, holds st w → always w
  settles : ∀ {st : Stage} {w : World}, holds st w → closing w
  lingers : ∀ {w w' : World}, closing w → LinkStep w w' → closing w'
  onward : ∀ {w w' : World}, always w → Live w → LinkStep w w' → always w'
  waits : ∀ {st : Stage} {w w' : World}, holds st w → LinkStep w w' → holds st w'
  hears : ∀ {st : Stage} {kind : OpMessageType} {w w' : World}, st.listens = true → holds st w →
    Delivered kind w w' → holds st w'
  opens : ∀ {st next : Stage} {w w₁ w₂ : World}, st.opened = some next → Engaged h st w →
    holds st w → Delivered .ack w w₁ → LinkStep w₁ w₂ → holds next (w₂.inStage next)
  lacks : ∀ {st served next : Stage} {frame : U8} {w : World},
    st.housekeeping = some (served, next, frame) → h.housekeeper st = none → holds st w →
    holds served w
  serves : ∀ {st served next : Stage} {frame : U8} {callback : Callback} {w : World},
    h.Settled → st.housekeeping = some (served, next, frame) → h.housekeeper st = some callback →
    Engaged h st w → holds st w →
    Ends (executeOperation dispatch (some callback)) env w
      (fun r w' => if r = .error then closing w' else holds served w') always
  closes : ∀ {st served next : Stage} {frame : U8} {w : World},
    st.housekeeping = some (served, next, frame) → Engaged h served w → holds served w →
    holds next (w.closed next frame)
  pumps : ∀ {w : World} {callback : Callback}, h.firestarterOperationMain = some callback →
    callback ≠ .configureMemory → Engaged h .inMain w → holds .inMain w →
    Ends pump env w
      (fun ok w' =>
        if ok then ∃ st, (st = .inMain ∨ st = .beforeEnd) ∧ Engaged h st w' ∧ holds st w'
        else Live w' ∧ closing w')
      always

namespace PhaseRule

variable {h : Handle} {pump : Fw Bool} (I : PhaseRule env h pump)

/-- In this stage, with what the invariant says of it. -/
def In (st : Stage) (w : World) : Prop := Engaged h st w ∧ I.holds st w

/-- Between two turns of a command that goes on. -/
def Between (w : World) : Prop := ∃ st, st.isBoundary = true ∧ I.In st w

theorem in_link {st : Stage} {w w' : World} (i : I.In st w) (link : LinkStep w w') : I.In st w' :=
  ⟨i.1.link link, I.waits i.2 link⟩

theorem in_delivered {st : Stage} {kind : OpMessageType} {w w' : World}
    (listens : st.listens = true) (i : I.In st w) (heard : Delivered kind w w') : I.In st w' :=
  ⟨i.1.delivered heard, I.hears listens i.2 heard⟩

/-- The wait for the ACK that opens a phase. -/
theorem ends_wait {st next : Stage} {w : World} (opening : st.opened = some next) (i : I.In st w) :
    Ends opWaitForAck env w
      (fun acked w' =>
        if acked then ∃ w, I.In st w ∧ Delivered .ack w w' else Live w' ∧ I.closing w')
      I.always := by
  have listens : st.listens = true := by simp [Stage.listens, opening]
  refine (ends_opWaitForAck (fun _ _ i link => I.in_link i link)
    (fun _ _ _ _ i heard => I.in_delivered listens i heard) i).mono (fun acked w' waited => ?_)
    fun w' i => I.safe i.2
  cases acked with
  | true => exact waited
  | false =>
    have i : I.In st w' := waited
    exact ⟨i.1.live, I.settles i.2⟩

/-- A housekeeping phase is opened by an ACK. -/
theorem ends_openPhase {st next : Stage} {w : World} (opening : st.opened = some next)
    (before : st.number = next.number - 1) (i : I.In st w) :
    Ends (openPhase next.number) env w
      (fun ok w' => if ok then I.In next w' else Live w' ∧ I.closing w') I.always := by
  have canStart : w.handle.canOperationStart next.number = true := by
    rw [i.1.canStart, before]
    exact beq_self_eq_true _
  unfold openPhase
  rw [ends_bind, ends_getHandle, if_pos canStart, ends_bind]
  refine (I.ends_wait opening i).mono (fun acked w₁ waited => ?_) fun _ safe => safe
  cases acked with
  | false => exact waited
  | true =>
    obtain ⟨w₀, i, heard⟩ := waited
    rw [if_pos rfl]
    refine Within.bind_ends (S := LinkStep) inferInstance (fun _ w₂ link => ?_) fun w₂ link => ?_
    · rw [ends_bind, ends_advance_stage]
      exact ⟨((i.1.delivered heard).link link).inStage next, I.opens opening i.1 i.2 heard link⟩
    · have listens : st.listens = true := by simp [Stage.listens, opening]
      exact I.safe (I.in_link (I.in_delivered listens i heard) link).2

/-- The callback of a housekeeping phase, if there is one. -/
theorem ends_serve {st served next : Stage} {frame : U8} {w : World} (settled : h.Settled)
    (house : st.housekeeping = some (served, next, frame)) (i : I.In st w) :
    Ends (executeOperation dispatch (h.housekeeper st)) env w
      (fun r w' => Engaged h st w' ∧ if r = .error then I.closing w' else I.holds served w')
      I.always := by
  rcases found : h.housekeeper st with _ | callback
  · exact ⟨i.1, I.lacks house found i.2⟩
  · have known : callback ≠ .configureMemory := settled.serves found
    refine ((ends_callback known w).and (I.serves settled house found i.1 i.2)).mono
      (fun r w' both => ?_) fun _ both => both.2
    exact ⟨i.1.executed both.1 fun _ _ step => step, both.2⟩

/-- A whole housekeeping phase: opened, served and closed. -/
theorem ends_houseKeepingFunc {st inner served next : Stage} {frame : U8} {w : World}
    (settled : h.Settled) (opening : st.opened = some inner)
    (house : inner.housekeeping = some (served, next, frame)) (i : I.In st w) :
    Ends (executeHouseKeepingFunc dispatch (h.housekeeper inner) inner.number) env w
      (fun r w' => if r = .proceed then I.In next w' else r = .error ∧ Live w' ∧ I.closing w')
      I.always := by
  have before : st.number = inner.number - 1 := by
    cases st <;> cases opening <;> rfl
  have number : served.number = inner.number := by
    cases inner <;> cases house <;> rfl
  have after : next.number = served.number + 1 := by
    cases inner <;> cases house <;> rfl
  have sent : (if inner.number == opInit then msgInitDone else msgEndDone) = frame := by
    cases inner <;> cases house <;> rfl
  have canStart : w.handle.canOperationStart inner.number = true := by
    rw [i.1.canStart, before]
    exact beq_self_eq_true _
  unfold executeHouseKeepingFunc
  rw [ends_bind, ends_getHandle, canStart, Bool.true_or, if_pos rfl, ends_bind]
  refine (I.ends_openPhase opening before i).mono (fun ok w₁ opened => ?_) fun _ safe => safe
  cases ok with
  | false => exact ⟨rfl, opened⟩
  | true =>
    rw [if_pos rfl, ends_bind]
    refine (I.ends_serve settled house opened).mono (fun r w₂ ran => ?_) fun _ safe => safe
    obtain ⟨engaged, ran⟩ := ran
    split
    · rename_i failed
      rw [if_pos failed] at ran
      exact ⟨rfl, engaged.live, ran⟩
    · rename_i good
      rw [if_neg good] at ran
      have served : Engaged h served w₂ := { engaged with number := engaged.number.trans number.symm }
      rw [ends_bind, ends_getHandle, served.calm, if_neg Bool.false_ne_true, sent, ends_bind,
        ends_logId served.comMode, ends_bind]
      have quiet : Engaged h _ { w₂ with trace := .emitted frame [] :: w₂.trace } :=
        { served with }
      rw [quiet.ends_advance_done next after]
      exact ⟨quiet.inStage next, I.closes house served ran⟩

/-- In any other stage the phase is passed over. -/
theorem ends_houseKeepingFunc_pass {st : Stage} {w : World} (e : Engaged h st w)
    (callback : Option Callback) (n : U8) (later : (st.number == n - 1) = false)
    (earlier : (st.number == n) = false) {ended : OpResult → World → Prop}
    {cutOff : World → Prop} :
    Ends (executeHouseKeepingFunc dispatch callback n) env w ended cutOff ↔ ended .proceed w := by
  unfold executeHouseKeepingFunc
  rw [ends_bind, ends_getHandle, e.canStart, e.started, later, earlier]
  exact Iff.rfl

/-- The housekeeping of one turn: it goes on in a stage of the invariant, or fails. -/
theorem ends_houseKeeping {st : Stage} {w : World} (settled : h.Settled)
    (boundary : st.isBoundary = true) (i : I.In st w) :
    Ends (executeHouseKeeping dispatch) env w
      (fun r w' => if r = .proceed then I.Between w' else r = .error ∧ Live w' ∧ I.closing w')
      I.always := by
  have init : w.handle.firestarterOperationInit = h.housekeeper .inInit :=
    i.1.field Handle.firestarterOperationInit fun _ => rfl
  have finish {w' : World} (e : Engaged h st w') :
      w'.handle.firestarterOperationEnd = h.housekeeper .inEnd :=
    e.field Handle.firestarterOperationEnd fun _ => rfl
  unfold executeHouseKeeping
  rw [ends_bind, ends_getHandle, Handle.isAllOperationsDone, i.1.started, i.1.started,
    i.1.canStart, init]
  cases st with
  | inInit | initServed | inEnd | endServed => cases boundary
  | beforeInit =>
    rw [if_neg (by decide), if_neg (by decide), if_neg (by decide), ends_bind]
    refine (I.ends_houseKeepingFunc settled rfl rfl i).mono (fun r w₁ ran => ?_) fun _ safe => safe
    cases r with
    | proceed =>
      have i : I.In .beforeMain w₁ := ran
      rw [if_neg (by decide), ends_bind, ends_getHandle,
        ends_houseKeepingFunc_pass i.1 _ _ (by decide) (by decide)]
      exact ⟨.beforeMain, rfl, i⟩
    | error => exact ran
    | stop => cases ran.1
  | beforeMain =>
    rw [if_neg (by decide), if_neg (by decide), if_pos (by decide), ends_bind]
    refine (I.ends_wait rfl i).mono (fun acked w₁ waited => ?_) fun _ safe => safe
    cases acked with
    | false => exact ⟨rfl, waited⟩
    | true =>
      obtain ⟨w₀, i, heard⟩ := waited
      rw [if_pos rfl]
      refine Within.bind_ends (S := LinkStep) inferInstance (fun _ w₂ link => ?_) fun w₂ link => ?_
      · have inMain : I.In .inMain (w₂.inStage .inMain) :=
          ⟨((i.1.delivered heard).link link).inStage .inMain, I.opens rfl i.1 i.2 heard link⟩
        rw [ends_bind]
        refine (ends_advance_stage .inMain).mpr ?_
        refine Within.bind_ends (S := LinkStep) inferInstance (fun _ w₃ link => ?_) fun w₃ link => ?_
        · exact ⟨.inMain, rfl, I.in_link inMain link⟩
        · exact I.safe (I.in_link inMain link).2
      · exact I.safe (I.in_link (I.in_delivered rfl i heard) link).2
  | inMain => exact ⟨.inMain, rfl, i⟩
  | beforeEnd =>
    rw [if_neg (by decide), if_neg (by decide), if_neg (by decide), ends_bind,
      ends_houseKeepingFunc_pass i.1 _ _ (by decide) (by decide), if_neg (by decide), ends_bind,
      ends_getHandle, finish i.1]
    refine (I.ends_houseKeepingFunc settled rfl rfl i).mono (fun r w₁ ran => ?_) fun _ safe => safe
    cases r with
    | proceed => exact ⟨.ended, rfl, ran⟩
    | error => exact ran
    | stop => cases ran.1
  | ended => exact ⟨.ended, rfl, i⟩

/-- One turn of a command: it goes on in a stage of the rule, or it is over. -/
theorem ends_turn {w : World} (settled : h.Settled) (between : I.Between w) :
    Ends (opExecuteStatefulOperation dispatch pump) env w
      (fun finished w' => if finished then Live w' ∧ I.closing w' else I.Between w') I.always := by
  obtain ⟨st, boundary, i⟩ := between
  have main : w.handle.firestarterOperationMain = h.firestarterOperationMain :=
    i.1.field Handle.firestarterOperationMain fun _ => rfl
  unfold opExecuteStatefulOperation
  rw [ends_bind, ends_getHandle, main]
  split
  · rename_i known
    obtain ⟨callback, found⟩ := Option.isSome_iff_exists.mp known
    have runs : callback ≠ .configureMemory := by
      rintro rfl
      exact settled.main found
    rw [Handle.isAllOperationsDone, i.1.started]
    split
    · rename_i ended
      obtain rfl : st = .ended := by
        cases st <;> first | rfl | cases ended
      rw [ends_bind]
      refine (ends_opGetMessage w).mono (fun kind w₁ heard => ?_) fun w₁ link => ?_
      · have i := I.in_delivered rfl i heard
        show if (kind != .incomplete) = true then Live w₁ ∧ I.closing w₁ else I.Between w₁
        split
        · exact ⟨i.1.live, I.settles i.2⟩
        · exact ⟨.ended, rfl, i⟩
      · exact I.safe (I.in_link i link).2
    · rw [ends_bind]
      refine (I.ends_houseKeeping settled boundary i).mono (fun r w₁ ran => ?_) fun _ safe => safe
      cases r with
      | error => exact ran.2
      | stop => cases ran.1
      | proceed =>
        obtain ⟨st, boundary, i⟩ : I.Between w₁ := ran
        rw [if_neg (by decide), ends_bind, ends_getHandle, i.1.started]
        split
        · rename_i main
          obtain rfl : st = .inMain := by
            cases st <;> first | rfl | cases main
          rw [ends_bind]
          refine (I.pumps found runs i.1 i.2).mono (fun ok w₂ pumped => ?_) fun _ safe => safe
          cases ok with
          | false => exact pumped
          | true =>
            obtain ⟨st, known, i⟩ := pumped
            refine ⟨st, ?_, i⟩
            cases known with
            | inl known => exact known ▸ rfl
            | inr known => exact known ▸ rfl
        · exact ⟨st, boundary, i⟩
  · refine Within.bind_ends (S := LinkStep) inferInstance (fun _ w₁ link => ?_) fun w₁ link => ?_
    · exact ⟨i.1.live.link link, I.lingers (I.settles i.2) link⟩
    · exact I.onward (I.safe i.2) i.1.live link

end PhaseRule

/-- An invariant of a command that was accepted with the handle `h` and whose main phase runs
`pump`: what holds in each stage, and what holds always, a failed or cut-off turn included. -/
structure PhaseInvariant (env : Env) (h : Handle) (pump : Fw Bool) where
  holds : Stage → World → Prop
  always : World → Prop
  safe : ∀ {st : Stage} {w : World}, holds st w → always w
  onward : ∀ {w w' : World}, always w → LinkStep w w' → always w'
  waits : ∀ {st : Stage} {w w' : World}, holds st w → LinkStep w w' → holds st w'
  hears : ∀ {st : Stage} {kind : OpMessageType} {w w' : World}, st.listens = true → holds st w →
    Delivered kind w w' → holds st w'
  opens : ∀ {st next : Stage} {w w₁ w₂ : World}, st.opened = some next → Engaged h st w →
    holds st w → Delivered .ack w w₁ → LinkStep w₁ w₂ → holds next (w₂.inStage next)
  lacks : ∀ {st served next : Stage} {frame : U8} {w : World},
    st.housekeeping = some (served, next, frame) → h.housekeeper st = none → holds st w →
    holds served w
  serves : ∀ {st served next : Stage} {frame : U8} {callback : Callback} {w : World},
    h.Settled → st.housekeeping = some (served, next, frame) → h.housekeeper st = some callback →
    Engaged h st w → holds st w →
    Ends (executeOperation dispatch (some callback)) env w
      (fun r w' => if r = .error then always w' else holds served w') always
  closes : ∀ {st served next : Stage} {frame : U8} {w : World},
    st.housekeeping = some (served, next, frame) → Engaged h served w → holds served w →
    holds next (w.closed next frame)
  pumps : ∀ {w : World} {callback : Callback}, h.firestarterOperationMain = some callback →
    callback ≠ .configureMemory → Engaged h .inMain w → holds .inMain w →
    Ends pump env w
      (fun ok w' =>
        if ok then ∃ st, (st = .inMain ∨ st = .beforeEnd) ∧ Engaged h st w' ∧ holds st w'
        else Live w' ∧ always w')
      always

namespace PhaseInvariant

variable {h : Handle} {pump : Fw Bool} (I : PhaseInvariant env h pump)

/-- In this stage, with what the invariant says of it. -/
def In (st : Stage) (w : World) : Prop := Engaged h st w ∧ I.holds st w

/-- Between two turns of a command that goes on. -/
def Between (w : World) : Prop := ∃ st, st.isBoundary = true ∧ I.In st w

theorem in_link {st : Stage} {w w' : World} (i : I.In st w) (link : LinkStep w w') : I.In st w' :=
  ⟨i.1.link link, I.waits i.2 link⟩

/-- An invariant is a rule that knows no more of the end than of any other moment. -/
def rule : PhaseRule env h pump where
  holds := I.holds
  closing := I.always
  always := I.always
  safe := I.safe
  settles := I.safe
  lingers := I.onward
  onward always _ link := I.onward always link
  waits := I.waits
  hears := I.hears
  opens := I.opens
  lacks := I.lacks
  serves := I.serves
  closes := I.closes
  pumps := I.pumps

/-- One turn of a command: the invariant still holds if the command goes on, and what holds always
holds however the turn ends. -/
theorem ends_turn {w : World} (settled : h.Settled) (between : I.Between w) :
    Ends (opExecuteStatefulOperation dispatch pump) env w
      (fun finished w' => if finished then Live w' ∧ I.always w' else I.Between w') I.always :=
  I.rule.ends_turn settled between

end PhaseInvariant

end Firestarter
