import Firestarter.MemoryUtils
import Firestarter.RunningClock

/-! Programs without a loop that waits: they end with the same value however long they are watched,
and neither the clock nor the count of questions goes back. -/
namespace Firestarter

open Interactive Interactive.Prog

set_option synthInstance.maxSize 4000

instance : IsPreorder World Later where
  refl _ := ⟨Nat.le_refl _, Nat.le_refl _⟩
  trans _ _ _ first rest := ⟨first.now.trans rest.now, first.asked.trans rest.asked⟩

/-- As a class, so that programs built from smaller ones inherit it. -/
class Brief {α : Type} (env : Env) (m : Fw α) : Prop where
  runs : ∀ w, ∃ a w', (∀ turns, m (env.watched turns) w = (some a, w')) ∧ Later w w'

variable {α β : Type} {env : Env}

theorem Brief.returns {m : Fw α} (brief : Brief env m) (w : World) :
    ∃ a w', Returns env.watched m w a w' ∧ Later w w' := by
  obtain ⟨a, w', run, later⟩ := brief.runs w
  exact ⟨a, w', .of_run run, later⟩

theorem Brief.ends (m : Fw α) [brief : Brief env m] (w : World) :
    Ends m env w (fun _ w' => Later w w') fun _ => False := by
  obtain ⟨a, w', run, later⟩ := brief.runs w
  have here : m env w = (some a, w') := run env.turns
  unfold Ends
  rw [here]
  exact later

/-- What one run ends with it returns. -/
theorem Brief.returns_ended {m : Fw α} [brief : Brief env m] {w : World}
    {ended : α → World → Prop} {cutOff : World → Prop} (ends : Ends m env w ended cutOff) :
    ∃ a w', Returns env.watched m w a w' ∧ ended a w' := by
  obtain ⟨a, w', run, -⟩ := brief.runs w
  exact ⟨a, w', .of_run run, (ends_iff.mp ends).1 a w' (run env.turns)⟩

theorem Brief.update (f : World → World) (later : ∀ w, Later w (f w)) :
    Brief env (update f : Fw Unit) := ⟨fun w => ⟨(), f w, fun _ => rfl, later w⟩⟩

/-- A change of something else than the clock. -/
theorem Brief.aside (f : World → World) (now : ∀ w, (f w).now = w.now)
    (asked : ∀ w, (f w).asked = w.asked) : Brief env (Prog.update f : Fw Unit) :=
  .update f fun w => ⟨Nat.le_of_eq (now w).symm, Nat.le_of_eq (asked w).symm⟩

instance (a : α) : Brief env (pure a : Fw α) := ⟨fun w => ⟨a, w, fun _ => rfl, refl_of Later w⟩⟩

instance : Brief env (look : Fw World) := ⟨fun w => ⟨w, w, fun _ => rfl, refl_of Later w⟩⟩

theorem brief_bind {m : Fw α} {f : α → Fw β} (first : Brief env m) (rest : ∀ a, Brief env (f a)) :
    Brief env (m >>= f) := by
  refine ⟨fun w => ?_⟩
  obtain ⟨a, v, run, later⟩ := first.runs w
  obtain ⟨b, w', run', later'⟩ := (rest a).runs v
  refine ⟨b, w', fun turns => ?_, trans_of Later later later'⟩
  rw [bind_run, run turns]
  exact run' turns

instance (m : Fw α) (f : α → Fw β) [first : Brief env m] [rest : ∀ a, Brief env (f a)] :
    Brief env (m >>= f) := brief_bind first rest

instance (c : Prop) [Decidable c] (m n : Fw α) [Brief env m] [Brief env n] :
    Brief env (if c then m else n) := by
  split <;> infer_instance

instance (c : Bool) (m : Fw Unit) [Brief env m] : Brief env (when c m) := by
  unfold Prog.when
  infer_instance

/-! ## Questions -/

/-- A question about anything but the number of turns. -/
theorem Brief.ask {question : Env → World → α}
    (same : ∀ turns, question (env.watched turns) = question env) : Brief env (ask question) := by
  refine ⟨fun w => ⟨question env w, { w with asked := w.asked + 1 }, fun turns => ?_,
    Nat.le_refl _, Nat.le_add_right ..⟩⟩
  rw [← same turns]
  rfl

instance : Brief env build := ⟨fun w => ⟨env.build, w, fun _ => rfl, refl_of Later w⟩⟩

instance : Brief env getHandle := ⟨fun w => ⟨w.handle, w, fun _ => rfl, refl_of Later w⟩⟩

instance (f : Handle → Handle) : Brief env (setHandle f) := .aside _ (fun _ => rfl) fun _ => rfl

instance (e : Event) : Brief env (note e) := .aside _ (fun _ => rfl) fun _ => rfl

instance : Brief env receive := by
  have : Brief env (Firestarter.ask Env.arrive) := .ask fun _ => rfl
  have (bytes : List U8) :
      Brief env (Prog.update fun w => { w with rx := w.rx ++ bytes } : Fw Unit) :=
    .aside _ (fun _ => rfl) fun _ => rfl
  unfold receive
  infer_instance

instance : Brief env rurpCommunicationPeak := by
  unfold rurpCommunicationPeak
  infer_instance

instance : Brief env rurpCommunicationRead := by
  have : Brief env (Prog.update fun w => { w with rx := w.rx.tail } : Fw Unit) :=
    .aside _ (fun _ => rfl) fun _ => rfl
  unfold rurpCommunicationRead
  infer_instance

instance (text : List U8) : Brief env (takeText text) := by
  induction text with
  | nil =>
    unfold takeText
    infer_instance
  | cons c rest ih =>
    unfold takeText
    infer_instance

instance : Brief env millis := by
  have : Brief env (Firestarter.ask Env.elapse) := .ask fun _ => rfl
  have (passed : Nat) :
      Brief env (Prog.update fun w => { w with now := w.now + passed } : Fw Unit) :=
    .update _ fun _ => ⟨Nat.le_add_right .., Nat.le_refl _⟩
  unfold millis
  infer_instance

instance (ms : U32) : Brief env (delay ms) := by
  have : Brief env (Firestarter.ask Env.elapse) := .ask fun _ => rfl
  have (passed : Nat) :
      Brief env (Prog.update fun w => { w with now := w.now + ms.toNat + passed } : Fw Unit) :=
    .update _ fun w => ⟨by dsimp only; omega, Nat.le_refl _⟩
  unfold delay
  infer_instance

instance (us : U16) : Brief env (delayMicroseconds us) := by
  unfold delayMicroseconds
  infer_instance

instance (us : U32) : Brief env (memUtilDelayUs us) := by
  unfold memUtilDelayUs
  infer_instance

/-! ## The chip -/

instance : Brief env rurpSetDataOutput := .aside _ (fun _ => rfl) fun _ => rfl

instance : Brief env rurpSetDataInput := by
  have (b : Build) : Brief env (Prog.update fun w =>
      { w with dataOutput := false, dataBus := if b.board == .py32f071 then w.dataBus else 0 } :
      Fw Unit) := .aside _ (fun _ => rfl) fun _ => rfl
  unfold rurpSetDataInput
  infer_instance

instance (data : U8) : Brief env (rurpWriteDataBuffer data) := by
  have : Brief env (Prog.update fun w => { w with dataBus := data } : Fw Unit) :=
    .aside _ (fun _ => rfl) fun _ => rfl
  unfold rurpWriteDataBuffer
  infer_instance

instance : Brief env rurpReadDataBuffer := .ask fun _ => rfl

/-- A strobe moves latches and nothing else. -/
theorem World.strobed_time (w : World) (reg : U8) :
    (w.strobed reg).now = w.now ∧ (w.strobed reg).asked = w.asked := by
  unfold World.strobed
  split
  · exact ⟨rfl, rfl⟩
  · split <;> exact ⟨rfl, rfl⟩

instance (pin : U8) (state : Bool) : Brief env (rurpSetControlPin pin state) := by
  have time (w : World) : Later w (if pin == chipEnable then { w with chipEnable := state }
      else if pin == outputEnable then { w with outputEnable := state }
      else if state then w.strobed pin
      else w) := by
    split
    · exact ⟨Nat.le_refl _, Nat.le_refl _⟩
    · split
      · exact ⟨Nat.le_refl _, Nat.le_refl _⟩
      · split
        · have same := w.strobed_time pin
          exact ⟨Nat.le_of_eq same.1.symm, Nat.le_of_eq same.2.symm⟩
        · exact refl_of Later w
  exact .update _ time

instance : Brief env rurpChipEnable := by
  unfold rurpChipEnable
  infer_instance

instance : Brief env rurpChipDisable := by
  unfold rurpChipDisable
  infer_instance

instance : Brief env rurpChipOutput := by
  unfold rurpChipOutput
  infer_instance

instance : Brief env rurpChipInput := by
  unfold rurpChipInput
  infer_instance

instance : Brief env rurpReadControlRegister := by
  unfold rurpReadControlRegister
  infer_instance

instance : Brief env rurpGetHardwareRevision := by
  unfold rurpGetHardwareRevision
  infer_instance

instance (reg : U8) (data : Reg) : Brief env (rurpInternalWriteToRegister reg data) := by
  unfold rurpInternalWriteToRegister
  infer_instance

instance (old data : Reg) : Brief env (writeControlRegister old data) := by
  have (now : U32) : Brief env (Prog.update fun w => { w with regulatorOffMs := now } : Fw Unit) :=
    .aside _ (fun _ => rfl) fun _ => rfl
  have : Brief env (Prog.update fun w => { w with controlRegister := data } : Fw Unit) :=
    .aside _ (fun _ => rfl) fun _ => rfl
  unfold writeControlRegister
  infer_instance

instance (reg : U8) (data : Reg) : Brief env (rurpWriteToRegister reg data) := by
  have : Brief env (Prog.update fun w => { w with lsbAddress := data.setWidth 8 } : Fw Unit) :=
    .aside _ (fun _ => rfl) fun _ => rfl
  have : Brief env (Prog.update fun w => { w with msbAddress := data.setWidth 8 } : Fw Unit) :=
    .aside _ (fun _ => rfl) fun _ => rfl
  unfold rurpWriteToRegister
  infer_instance

instance (address : U32) : Brief env (memUtilSetAddress address) := by
  unfold memUtilSetAddress
  infer_instance

instance (address : U32) : Brief env (memoryGetData address) := by
  unfold memoryGetData
  infer_instance

instance (address : U32) (data : U8) : Brief env (memorySetData address data) := by
  unfold memorySetData
  infer_instance

/-! ## Reports -/

instance (id : U8) (params : List U8) : Brief env (firestarterEmitFrameWide id params) := by
  unfold firestarterEmitFrameWide
  infer_instance

instance (id : U8) (params : List U8) : Brief env (rurpLogId id params) := by
  have : Brief env (Prog.update fun w =>
      { w with deferredLog := (deferredLogPush w.deferredLog id params).1 } : Fw Unit) :=
    .aside _ (fun _ => rfl) fun _ => rfl
  unfold rurpLogId
  infer_instance

instance (id : U8) : Brief env (logId id) := by
  unfold logId
  infer_instance

instance (id : U8) (v : U16) : Brief env (logIdU16 id v) := by
  unfold logIdU16
  infer_instance

instance (id : U8) (params : List U8) : Brief env (refuse id params) := by
  unfold refuse setResponseCode
  infer_instance

end Firestarter
