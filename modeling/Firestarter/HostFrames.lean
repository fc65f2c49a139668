import Firestarter.Firmware
import Firestarter.Observation

/-! What the conversation with the host leaves alone: everything the engine and the two pumps do
around a callback moves nothing but the transfer's own variables. A relation that allows this much
has the whole engine, as soon as it has the callbacks the handle names. -/
namespace Firestarter

open Interactive Interactive.Prog

set_option synthInstance.maxSize 4000

/-- A step that keeps one part of the world and adds only noise to the trace. -/
structure Grows {κ : Type} (part : World → κ) (noise : Event → Bool) (s s' : World) : Prop where
  kept : part s' = part s
  adds : ∃ new, s'.trace = new ++ s.trace ∧ ∀ e ∈ new, noise e = true

namespace Grows

variable {κ : Type} {part : World → κ} {noise : Event → Bool} {s s' : World}

theorem of_silent (kept : part s' = part s) (trace : s'.trace = s.trace) : Grows part noise s s' :=
  ⟨kept, [], trace, by simp⟩

theorem of_note (e : Event) (heard : noise e = true)
    (kept : part { s with trace := e :: s.trace } = part s) :
    Grows part noise s { s with trace := e :: s.trace } :=
  ⟨kept, [e], rfl, by simpa using heard⟩

instance : IsPreorder World (Grows part noise) where
  refl _ := of_silent rfl rfl
  trans s₁ s₂ s₃ h h' := by
    obtain ⟨new, trace, heard⟩ := h.adds
    obtain ⟨new', trace', heard'⟩ := h'.adds
    refine ⟨h'.kept.trans h.kept, new' ++ new, ?_, ?_⟩
    · rw [trace', trace, List.append_assoc]
    · intro e he
      cases List.mem_append.mp he with
      | inl he => exact heard' e he
      | inr he => exact heard e he

theorem of_bus (kept : part s' = part s) (same : s'.withoutBus = s.withoutBus) :
    Grows part noise s s' := by
  have trace := congrArg World.trace same
  exact of_silent kept trace

end Grows

/-- What a conversation leaves alone: the command's parameters and callbacks, the registers and
the latches, the configuration and the store. -/
def World.beyondTalk (w : World) : World :=
  { w.withoutBus with
    handle :=
      { w.handle with
        dataBuffer := fun _ => 0, dataSize := 0, responseCode := 0, operationState := 0
        address := 0 }
    timeoutStartedMs := 0, rx := [], comMode := true, deferredLog := [], trace := [] }

/-- A step of the conversation with the host; time goes on meanwhile. -/
structure TalkStep (s s' : World) : Prop
    extends Grows World.beyondTalk (fun e => !e.isBoundary && !e.isShieldNoise) s s' where
  later : s.now ≤ s'.now

variable {env : Env}

section

theorem TalkStep.of_silent {s s' : World} (kept : s'.beyondTalk = s.beyondTalk)
    (trace : s'.trace = s.trace) (now : s'.now = s.now) : TalkStep s s' :=
  ⟨Grows.of_silent kept trace, Nat.le_of_eq now.symm⟩

instance : IsPreorder World TalkStep where
  refl _ := TalkStep.of_silent rfl rfl rfl
  trans _ _ _ first rest :=
    ⟨trans_of (Grows _ _) first.toGrows rest.toGrows, Nat.le_trans first.later rest.later⟩

instance : BusFrame env TalkStep where
  bus s s' later same := by
    have kept := congrArg World.beyondTalk same
    exact ⟨Grows.of_bus kept same, later⟩

/-- A silent change of the transfer's variables. -/
theorem TalkStep.update (env : Env) (f : World → World)
    (kept : ∀ w, (f w).beyondTalk = w.beyondTalk) (trace : ∀ w, (f w).trace = w.trace)
    (now : ∀ w, (f w).now = w.now) : Within env TalkStep (update f : Fw Unit) :=
  Within.update f fun w => .of_silent (kept w) (trace w) (now w)

/-- And of the handle's. -/
theorem TalkStep.setHandle (env : Env) (f : Handle → Handle)
    (kept : ∀ w : World, World.beyondTalk { w with handle := f w.handle } = w.beyondTalk) :
    Within env TalkStep (setHandle f) := TalkStep.update env _ kept (fun _ => rfl) fun _ => rfl

/-- A note about the conversation. -/
theorem TalkStep.note (env : Env) (e : Event) (inside : e.isBoundary = false)
    (talk : e.isShieldNoise = false) : Within env TalkStep (note e) :=
  Within.update _ fun _ => ⟨Grows.of_note e (by rw [inside, talk]; rfl) rfl, Nat.le_refl _⟩

instance : QueueFrame TalkStep := ⟨fun _ _ => .of_silent rfl rfl rfl⟩

instance : BufferFrame TalkStep :=
  ⟨fun _ _ => .of_silent rfl rfl rfl, fun _ _ => .of_silent rfl rfl rfl⟩

instance : PrintFrame TalkStep :=
  ⟨fun s e print => ⟨Grows.of_note e (by cases e <;> first | rfl | cases print) rfl,
      Nat.le_refl _⟩, fun _ _ => .of_silent rfl rfl rfl⟩

instance : ReportFrame env TalkStep where
  report _ _ _ := inferInstance
  respond _ := TalkStep.setHandle env _ fun _ => rfl

instance : Within env TalkStep rurpSetProgrammerMode := by
  have := TalkStep.update env (fun w => { w with comMode := false }) (fun _ => rfl)
    (fun _ => rfl) fun _ => rfl
  unfold rurpSetProgrammerMode
  infer_instance

instance : Within env TalkStep rurpSetCommunicationMode := by
  have := TalkStep.update env (fun w => { w with comMode := true }) (fun _ => rfl)
    (fun _ => rfl) fun _ => rfl
  unfold rurpSetCommunicationMode whileLoop
  infer_instance

instance (kind : OpMessageType) (payload : List U8) :
    Within env TalkStep (deliver kind payload) := by
  have := TalkStep.note env (.message kind payload) rfl rfl
  unfold deliver
  infer_instance

instance : Within env TalkStep takeDataPacket := by
  have (res : Int) := TalkStep.setHandle env (fun h => { h with dataSize := BitVec.ofInt 32 res })
    fun _ => rfl
  unfold takeDataPacket deliverFrame
  infer_instance

instance : Within env TalkStep scanMessage := by
  unfold scanMessage scanAck scanDone
  infer_instance

instance : Within env TalkStep opGetMessage := by
  unfold opGetMessage whileLoop
  infer_instance

instance : Within env TalkStep opWaitForAck := by
  unfold opWaitForAck ackTurn whileLoop
  infer_instance

instance : Within env TalkStep setOperationWaitingForData := TalkStep.setHandle env _ fun _ => rfl

instance : Within env TalkStep clearOperationWaitingForData := TalkStep.setHandle env _ fun _ => rfl

instance (state : U8) : Within env TalkStep (advance fun h => h.withOperationState state) := by
  have := TalkStep.setHandle env (fun h => h.withOperationState state) fun _ => rfl
  have (number : U8) := TalkStep.note env (.advanced number) rfl rfl
  unfold advance
  infer_instance

instance : Within env TalkStep (advance Handle.withOperationStateDone) := by
  have := TalkStep.setHandle env Handle.withOperationStateDone fun _ => rfl
  have (number : U8) := TalkStep.note env (.advanced number) rfl rfl
  unfold advance
  infer_instance

instance : Within env TalkStep setOperationToDone := by
  unfold setOperationToDone
  infer_instance

instance : Within env TalkStep checkResponse := by
  unfold checkResponse
  infer_instance

instance (state : U8) : Within env TalkStep (openPhase state) := by
  unfold openPhase
  infer_instance

instance (opEnd : U32) : Within env TalkStep (sendChunk opEnd) := by
  have := TalkStep.setHandle env (fun h => { h with
    dataSize := if h.dataSize > opEnd - h.address then opEnd - h.address else h.dataSize })
    fun _ => rfl
  have := TalkStep.setHandle env (fun h => { h with address := h.address + h.dataSize })
    fun _ => rfl
  unfold sendChunk
  infer_instance

instance : Within env TalkStep logReady := by
  unfold logReady
  infer_instance

instance : Within env TalkStep dtReportChipFlags := by
  unfold dtReportChipFlags
  infer_instance

instance (msb lsb : U8) (ctrl : U16) (remapped view : U8) :
    Within env TalkStep (dtReportRegisters msb lsb ctrl remapped view) := by
  unfold dtReportRegisters
  infer_instance

instance : Within env TalkStep dtAwaitPayload := by
  unfold dtAwaitPayload whileLoop
  infer_instance

instance : Within env TalkStep dtReadByte := by
  unfold dtReadByte
  infer_instance

instance : Within env TalkStep dtWaitForButton := by
  unfold dtWaitForButton whileLoop rurpUserButtonPressed
  infer_instance

end

/-! ## A relation between states with known callbacks -/

section
variable {R : World → World → Prop} {known : Callback → Prop} {α : Type}

/-- Every callback the handle names is one of these. -/
def Handle.CallbacksIn (known : Callback → Prop) (h : Handle) : Prop :=
  ∀ c, h.firestarterOperationInit = some c ∨ h.firestarterOperationMain = some c ∨
    h.firestarterOperationEnd = some c → known c

/-- What keeps the callbacks and moves along the relation is within the guarded one. -/
theorem Guarded.of_kept {s s' : World}
    (init : s'.handle.firestarterOperationInit = s.handle.firestarterOperationInit)
    (main : s'.handle.firestarterOperationMain = s.handle.firestarterOperationMain)
    (finish : s'.handle.firestarterOperationEnd = s.handle.firestarterOperationEnd)
    (moved : R s s') : Guarded (Handle.CallbacksIn known) R s s' := by
  intro callbacks
  refine ⟨fun c named => callbacks c ?_, moved⟩
  rw [init, main, finish] at named
  exact named

end

/-! ## Relations that allow a conversation -/

/-- A relation that allows any conversation with the host. -/
class HostFrame (R : World → World → Prop) : Prop extends IsPreorder World R where
  talk : ∀ s s' : World, TalkStep s s' → R s s'

section
variable {R : World → World → Prop} [HostFrame R] {α : Type}

instance (priority := low) withinOfTalk (m : Fw α) [h : Within env TalkStep m] : Within env R m :=
  h.weaken HostFrame.talk

instance (priority := low) busOfTalk : BusFrame env R where
  bus s s' later same := HostFrame.talk s s' (BusFrame.bus env s s' later same)

instance (priority := low) reportOfTalk : ReportFrame env R where
  report _ _ _ := inferInstance
  respond _ := inferInstance

instance (callback : Callback) (h : Handle) : Within env TalkStep (note (.called callback h)) :=
  TalkStep.note env _ rfl rfl

instance (callback : Callback) (code : U8) :
    Within env TalkStep (note (.returned callback code)) := TalkStep.note env _ rfl rfl

/-! ## The engine around a callback -/

theorem within_executeOperation {callback : Option Callback}
    (runs : ∀ c, callback = some c → Within env R (dispatch c)) :
    Within env R (executeOperation dispatch callback) := by
  unfold executeOperation
  cases callback with
  | none => infer_instance
  | some c =>
    have := runs c rfl
    infer_instance

theorem within_opExecuteFunction {callback : Option Callback}
    (runs : ∀ c, callback = some c → Within env R (dispatch c)) :
    Within env R (opExecuteFunction dispatch callback) := by
  have := within_executeOperation runs
  unfold opExecuteFunction
  infer_instance

theorem within_executeHouseKeepingFunc {callback : Option Callback} (state : U8)
    (runs : ∀ c, callback = some c → Within env R (dispatch c)) :
    Within env R (executeHouseKeepingFunc dispatch callback state) := by
  have := within_executeOperation runs
  unfold executeHouseKeepingFunc
  infer_instance

/-! ## A turn of a command whose callbacks are known -/

variable {known : Callback → Prop}

instance : HostFrame (Guarded (Handle.CallbacksIn known) R) where
  talk s s' talk := by
    have init := congrArg (fun w : World => w.handle.firestarterOperationInit) talk.kept
    have main := congrArg (fun w : World => w.handle.firestarterOperationMain) talk.kept
    have finish := congrArg (fun w : World => w.handle.firestarterOperationEnd) talk.kept
    exact Guarded.of_kept init main finish (HostFrame.talk s s' talk)

section
variable {P : Handle → Prop} [HostFrame (Guarded P R)]
  (names : ∀ h, P h → ∀ c, h.firestarterOperationMain = some c → known c)
  (runs : ∀ c, known c → Within env (Guarded P R) (dispatch c))
include names runs

/-! The main phase runs no callback but the main one. -/

theorem within_singleStepOperationCallback :
    Within env (Guarded P R) (singleStepOperationCallback dispatch) := by
  unfold singleStepOperationCallback
  refine within_guardedHandle fun h there => ?_
  have := within_executeOperation fun c named => runs c (names h there c named)
  infer_instance

theorem within_processOutgoingData : Within env (Guarded P R) processOutgoingData := by
  unfold processOutgoingData
  refine within_guardedHandle fun h there => ?_
  have := within_opExecuteFunction fun c named => runs c (names h there c named)
  infer_instance

theorem within_processIncomingData : Within env (Guarded P R) processIncomingData := by
  have moved := TalkStep.setHandle env (fun h => { h with address := h.address + h.dataSize })
    fun _ => rfl
  have (opEnd : U32) (msg : OpMessageType) :
      Within env (Guarded P R) (processIncomingMessage opEnd msg) := by
    unfold processIncomingMessage
    refine within_bind inferInstance fun _ => within_guardedHandle fun h there => ?_
    have := within_opExecuteFunction fun c named => runs c (names h there c named)
    infer_instance
  unfold processIncomingData
  infer_instance

end

section
variable (runs : ∀ c, known c → Within env (Guarded (Handle.CallbacksIn known) R) (dispatch c))
include runs

theorem within_executeHouseKeeping :
    Within env (Guarded (Handle.CallbacksIn known) R) (executeHouseKeeping dispatch) := by
  unfold executeHouseKeeping
  refine within_guardedHandle fun h callbacks => ?_
  have init := within_executeHouseKeepingFunc opInit fun c named => runs c (callbacks c (.inl named))
  have finish : Within env (Guarded (Handle.CallbacksIn known) R)
      (getHandle >>= fun h => executeHouseKeepingFunc dispatch h.firestarterOperationEnd opEnd) :=
    within_guardedHandle fun h callbacks =>
      within_executeHouseKeepingFunc opEnd fun c named => runs c (callbacks c (.inr (.inr named)))
  infer_instance

theorem within_opExecuteStatefulOperation {pump : Fw Bool}
    (main : Within env (Guarded (Handle.CallbacksIn known) R) pump) :
    Within env (Guarded (Handle.CallbacksIn known) R) (opExecuteStatefulOperation dispatch pump) := by
  have := within_executeHouseKeeping runs
  unfold opExecuteStatefulOperation
  infer_instance

/-- The turn of a memory command. -/
theorem within_memoryTurn {cmd : U8} (memory : isMemoryCmd cmd = true) :
    Within env (Guarded (Handle.CallbacksIn known) R) (runCommand cmd) := by
  have names (h : Handle) (callbacks : h.CallbacksIn known) (c : Callback)
      (named : h.firestarterOperationMain = some c) : known c := callbacks c (.inr (.inl named))
  have single : Within env (Guarded (Handle.CallbacksIn known) R) (opExecuteSimpleOperation dispatch) :=
    within_opExecuteStatefulOperation runs (within_singleStepOperationCallback names runs)
  have read : Within env (Guarded (Handle.CallbacksIn known) R) epromRead :=
    within_opExecuteStatefulOperation runs (within_processOutgoingData names runs)
  have write : Within env (Guarded (Handle.CallbacksIn known) R) epromWrite :=
    within_opExecuteStatefulOperation runs (within_processIncomingData names runs)
  have erase : Within env (Guarded (Handle.CallbacksIn known) R) epromErase := by
    unfold epromErase
    infer_instance
  have checkChipId : Within env (Guarded (Handle.CallbacksIn known) R) epromCheckChipId := by
    unfold epromCheckChipId
    infer_instance
  simp only [isMemoryCmd, Bool.or_eq_true, beq_iff_eq] at memory
  obtain ((((((rfl | rfl) | rfl) | rfl) | rfl) | rfl) | rfl) := memory
  · exact ⟨read.moves⟩
  · exact ⟨write.moves⟩
  · exact ⟨erase.moves⟩
  · exact ⟨checkChipId.moves⟩
  · exact ⟨single.moves⟩
  · exact ⟨single.moves⟩
  · exact ⟨single.moves⟩

end

end

/-! ## A trace that only grows -/

/-- What was noted stays noted. -/
def Continues (s s' : World) : Prop := s.trace <:+ s'.trace

instance : HostFrame Continues where
  refl _ := List.suffix_rfl
  trans _ _ _ first rest := List.IsSuffix.trans first rest
  talk _ _ talk := by
    obtain ⟨new, trace, -⟩ := talk.adds
    exact ⟨new, trace.symm⟩

instance : SenseFrame Continues := ⟨fun _ e _ => ⟨[e], rfl⟩⟩
instance : StoreFrame Continues := ⟨fun _ e _ => ⟨[e], rfl⟩⟩
instance : LatchFrame Continues := ⟨fun _ reg byte _ _ => ⟨[.strobe reg byte], rfl⟩⟩

instance : CacheFrame Continues where
  cache _ _ _ _ _ := List.suffix_rfl
  control _ data := ⟨[.control data], rfl⟩
  addressed _ control latches offFor := ⟨[.addressed control latches offFor], rfl⟩

end Firestarter
