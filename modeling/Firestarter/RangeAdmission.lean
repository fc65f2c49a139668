import Firestarter.ArrayBounds
import Firestarter.WriteTransfer

/-! Whether a range that the decoder admits is refused later. The decoder, the two pumps and the
handlers each compute the end of the operation; where they agree on it, no command whose host
keeps to the range hears of it again. -/
namespace Firestarter

open Interactive Interactive.Prog

set_option synthInstance.maxSize 4000

variable {env : Env} {h : Handle} {w w' : World}

/-! ## Steps that send none of some frames -/

/-- No frame with one of these ids is sent, and none waits that did not wait before. -/
abbrev FramesStep (ids : U8 → Bool) (s s' : World) : Prop := s'.framesOf ids = s.framesOf ids

/-- No refusal of a range is sent. -/
abbrev RangeStep : World → World → Prop := FramesStep isRangeRefusal

section
variable {ids : U8 → Bool}

instance : IsPreorder World (FramesStep ids) where
  refl _ := rfl
  trans _ _ _ first rest := rest.trans first

instance : BusFrame env (FramesStep ids) where
  bus _ _ _ same := by
    have kept := congrArg (World.framesOf ids) same
    exact kept

instance : SenseFrame (FramesStep ids) where
  sense s e passive := framesOf_noted (by cases e <;> first | rfl | cases passive) s

instance : StoreFrame (FramesStep ids) where
  store s e store := framesOf_noted (by cases e <;> first | rfl | cases store) s

instance : LatchFrame (FramesStep ids) where
  strobe s reg byte _ _ := framesOf_noted (show (Event.strobe reg byte).sends ids = false from rfl) s

instance : CacheFrame (FramesStep ids) where
  cache _ _ _ _ _ := rfl
  control s data := framesOf_noted (show (Event.control data).sends ids = false from rfl) s
  addressed s control latches offFor :=
    framesOf_noted (show (Event.addressed control latches offFor).sends ids = false from rfl) s

/-- A frame goes out or waits. -/
theorem within_notice {R : World → World → Prop} [IsPreorder World R] {id : U8} (params : List U8)
    (sent : ∀ s : World, R s { s with trace := .emitted id params :: s.trace })
    (queued : ∀ s : World,
      R s { s with deferredLog := (deferredLogPush s.deferredLog id params).1 }) :
    Within env R (rurpLogId id params) := by
  have : Within env R (note (.emitted id params)) := Within.update _ sent
  have : Within env R (update fun w =>
      { w with deferredLog := (deferredLogPush w.deferredLog id params).1 } : Fw Unit) :=
    Within.update _ queued
  unfold rurpLogId firestarterEmitFrameWide build
  infer_instance

variable [SetApart ids]

theorem LinkStep.framesStep (link : LinkStep w w') : FramesStep ids w w' := by
  rw [FramesStep, ← World.framesOf_filter SetApart.apart w', link.framesOf,
    World.framesOf_filter SetApart.apart w]

theorem ModeStep.framesStep (step : ModeStep w w') : FramesStep ids w w' := by
  rw [FramesStep, ← World.framesOf_filter SetApart.apart w', step.framesOf,
    World.framesOf_filter SetApart.apart w]

/-- Another frame may go out or wait. -/
theorem within_otherFrame {id : U8} (other : ids id = false) (params : List U8) :
    Within env (FramesStep ids) (rurpLogId id params) :=
  within_notice params
    (framesOf_noted (show (Event.emitted id params).sends ids = false from other))
    (framesOf_pushed other params)

theorem guarded_otherFrame {P : Handle → Prop} {id : U8} (other : ids id = false)
    (params : List U8) : Within env (Guarded P (FramesStep ids)) (rurpLogId id params) :=
  within_notice params
    (fun s there =>
      ⟨there, framesOf_noted (show (Event.emitted id params).sends ids = false from other) s⟩)
    fun s there => ⟨there, framesOf_pushed other params s⟩

/-- A notice is none of them. -/
theorem SetApart.notice {id : U8} (notice : isNotice id = true) : ids id = false := by
  have other := notSetApart_of_isNotice notice
  cases apart : ids id with
  | true => exact absurd (SetApart.apart id apart) (by rw [other]; exact Bool.false_ne_true)
  | false => rfl

instance : NoticeFrame env (FramesStep ids) where
  notice _ params notice := within_otherFrame (SetApart.notice notice) params
  respond _ := Within.update _ fun _ => rfl

/-- Frames and responses leave a property of the rest of the handle alone. -/
theorem noticeFrame_guarded {P : Handle → Prop}
    (responds : ∀ h code, P h → P { h with responseCode := code }) :
    NoticeFrame env (Guarded P (FramesStep ids)) where
  notice _ params notice := guarded_otherFrame (SetApart.notice notice) params
  respond code := Within.update _ fun s there => ⟨responds s.handle code there, rfl⟩

/-- Progress refuses no range. -/
instance {P : Handle → Prop} : ProgressFrame env (Guarded P RangeStep) where
  progress params := guarded_otherFrame (by decide) params

end

/-! ## Callbacks -/

theorem operationEnd_le (h : Handle) : h.operationEnd ≤ h.memSize := by
  unfold Handle.operationEnd
  split
  · exact BitVec.le_refl _
  · rename_i bounded
    have bounded : ¬ h.regionEnd = 0 ∧ ¬ h.regionEnd > h.memSize := by simpa using bounded
    exact BitVec.not_lt.mp bounded.2

theorem rangeFits_iff (address size last : U32) :
    memUtilRangeFits address size last = true ↔ address.toNat + size.toNat ≤ last.toNat := by
  unfold memUtilRangeFits
  simp only [Bool.and_eq_true, decide_eq_true_eq]
  constructor
  · rintro ⟨start, rest⟩
    have rest := BitVec.le_def.mp rest
    rw [BitVec.toNat_sub_of_le start] at rest
    have start := BitVec.le_def.mp start
    omega
  · intro fits
    have start : address ≤ last := BitVec.le_def.mpr (by omega)
    refine ⟨start, BitVec.le_def.mpr ?_⟩
    rw [BitVec.toNat_sub_of_le start]
    omega

/-- What a callback asks of the cursor and the chunk before it refuses the range. -/
def Callback.allows (b : Build) : Callback → Handle → Prop
  | .memoryReadExecute, h => h.address ≤ h.memSize
  | .memoryWriteExecute, h | .epromWriteExecute, h => h.chunkFits b
  | _, _ => True

theorem Handle.chunkFits.inside {b : Build} (fits : h.chunkFits b) :
    h.address.toNat + h.dataSize.toNat ≤ h.operationEnd.toNat :=
  (rangeFits_iff _ _ _).mp fits.2

/-- A chunk that fits is admitted by every callback. -/
theorem Callback.allows_of_chunkFits {b : Build} (callback : Callback) (fits : h.chunkFits b) :
    callback.allows b h := by
  have start : h.address ≤ h.memSize := by
    have inside := fits.inside
    have last := BitVec.le_def.mp (operationEnd_le h)
    exact BitVec.le_def.mpr (by omega)
  cases callback <;> first | exact fits | exact start | trivial

/-- The handle has a chunk that fits, and the chunk stays there. -/
abbrev ChunkStep (b : Build) : World → World → Prop := Guarded (Handle.chunkFits b) RangeStep

section

instance : NoticeFrame env (ChunkStep b) := noticeFrame_guarded fun _ _ fits => fits

instance : Within env (ChunkStep env.build) memoryWriteExecute := by
  unfold memoryWriteExecute
  refine within_guardedHandle fun h fits => within_build ?_
  have refused : ¬ (decide (h.dataSize.toNat > env.build.dataBufferSize) ||
      !memUtilRangeFits h.address h.dataSize h.operationEnd) = true := by
    rw [fits.2, decide_eq_false (Nat.not_lt.mpr fits.1)]
    exact Bool.false_ne_true
  rw [if_neg refused]
  infer_instance

/-- The pass over the chunk stays inside the chip, for the chunk stays inside the region. -/
instance : Within env (ChunkStep env.build) memoryVerifyExecute := by
  unfold memoryVerifyExecute
  refine within_guardedHandle fun h fits => within_build ?_
  have inside : memUtilRangeFits h.address h.dataSize h.memSize = true := by
    have chunk := fits.inside
    have last := BitVec.le_def.mp (operationEnd_le h)
    exact (rangeFits_iff _ _ _).mpr (by omega)
  have refused : ¬ (decide (h.dataSize.toNat > env.build.dataBufferSize) ||
      !memUtilRangeFits h.address h.dataSize h.memSize) = true := by
    rw [inside, decide_eq_false (Nat.not_lt.mpr fits.1)]
    exact Bool.false_ne_true
  rw [if_neg refused]
  infer_instance

end

/-- A callback that admits the cursor and the chunk refuses no range. -/
theorem ends_callback_range (callback : Callback) (runs : callback ≠ .configureMemory)
    (admitted : callback.allows env.build w.handle) :
    Ends (dispatch callback) env w (fun _ w' => RangeStep w w') (RangeStep w) := by
  have chunk (fits : w.handle.chunkFits env.build) (reads : callback ≠ .memoryReadExecute) :
      Ends (dispatch callback) env w (fun _ w' => RangeStep w w') (RangeStep w) :=
    ((within_dispatch callback runs reads : Within env (ChunkStep env.build) _).ends w).mono
      (fun _ _ step => (step fits).2) fun _ step => (step fits).2
  have other [free : Within env RangeStep (dispatch callback)] :
      Ends (dispatch callback) env w (fun _ w' => RangeStep w w') (RangeStep w) := free.ends w
  cases callback with
  | configureMemory => exact (runs rfl).elim
  | memoryReadExecute =>
    have start : ¬ w.handle.address > w.handle.memSize := BitVec.not_lt.mpr admitted
    have (i : Nat) (data : U8) : Within env RangeStep (setHandle fun h =>
        { h with dataBuffer := storeByte h.dataBuffer i data }) := Within.update _ fun _ => rfl
    have (n : U32) : Within env RangeStep (setHandle fun h => { h with dataSize := n }) :=
      Within.update _ fun _ => rfl
    show Ends memoryReadExecute env w _ _
    unfold memoryReadExecute
    rw [ends_bind, ends_getHandle, ends_bind, ends_build, if_neg start]
    exact Within.ends inferInstance w
  | memoryWriteExecute => exact chunk admitted nofun
  | epromWriteExecute => exact chunk admitted nofun
  | _ =>
    refine @other ?_
    unfold dispatch
    infer_instance

/-- The callbacks that look at the range at all. -/
def Callback.checksRange : Callback → Bool
  | .memoryReadExecute | .memoryWriteExecute | .epromWriteExecute => true
  | _ => false

theorem Callback.allows_of_unchecked {b : Build} {callback : Callback}
    (unchecked : callback.checksRange = false) : callback.allows b h := by
  cases callback <;> trivial

/-- What a run of a callback does, as far as the range goes. -/
structure RangeRun (env : Env) (callback : Callback) (w w' : World) : Prop where
  step : CallbackStep w w'
  driver : callback ≠ .memoryReadExecute → DriverStep w w'
  range : callback.allows env.build w.handle → RangeStep w w'

theorem rangeRuns {callback : Callback} (runs : callback ≠ .configureMemory) :
    CallbackRuns env callback (RangeRun env callback) (RangeRun env callback) := by
  refine ⟨fun w => ?_, fun _ _ run => run.step⟩
  have step := (within_callback callback runs : Within env CallbackStep _).ends w
  have driver : Ends (dispatch callback) env w
      (fun _ w' => callback ≠ .memoryReadExecute → DriverStep w w')
      (fun w' => callback ≠ .memoryReadExecute → DriverStep w w') :=
    ends_imp fun reads => (within_dispatch callback runs reads : Within env DriverStep _).ends w
  have range : Ends (dispatch callback) env w
      (fun _ w' => callback.allows env.build w.handle → RangeStep w w')
      (fun w' => callback.allows env.build w.handle → RangeStep w w') :=
    ends_imp fun admitted => ends_callback_range callback runs admitted
  exact ((step.and driver).and range).mono (fun _ _ all => ⟨all.1.1, all.1.2, all.2⟩)
    fun _ all => ⟨all.1.1, all.1.2, all.2⟩

/-! ## What the host keeps to -/

/-- Each chunk of a write fits between the cursor, which stands behind the chunks before it, and the
end of the operation. -/
def ChunksFit (h : Handle) (es : List Event) : Prop :=
  ∀ pre payload post, mainData es = pre ++ payload :: post →
    h.address.toNat + pre.flatten.length + payload.length ≤ h.operationEnd.toNat

/-- The range of the command stands: a read does not start beyond its region, and the chunks of a
write fit. -/
def KeepsRange (h : Handle) (es : List Event) : Prop :=
  h.cmd = cmdRead ∧ (h.regionEnd = 0 ∨ h.address ≤ h.regionEnd) ∨
    h.cmd = cmdWrite ∧ ChunksFit h es

theorem mainData_append (es new : List Event) :
    mainData (es ++ new) = mainData es ++ readOff numberAfter mainDataOf (stateNumber es) new :=
  readOff_append numberAfter mainDataOf 0 es new

theorem KeepsRange.earlier {es new : List Event} (keeps : KeepsRange h (es ++ new)) :
    KeepsRange h es := by
  refine keeps.imp id fun ⟨writes, fit⟩ => ⟨writes, fun pre payload post same => ?_⟩
  refine fit pre payload (post ++ readOff numberAfter mainDataOf (stateNumber es) new) ?_
  rw [mainData_append, same, List.append_assoc, List.cons_append]

/-- What the decoder and the drivers have seen to when the command is accepted. -/
structure Granted (h : Handle) : Prop where
  house : ∀ {st : Stage} {callback : Callback}, h.housekeeper st = some callback →
    callback.checksRange = false
  reads : h.cmd = cmdRead →
    h.firestarterOperationMain = some .memoryReadExecute ∧ h.address ≤ h.memSize
  writes : h.cmd = cmdWrite →
    h.firestarterOperationMain ≠ some .memoryReadExecute ∧ h.address ≤ h.operationEnd

/-- All that the host has sent lies inside the region. -/
structure Inside (h : Handle) (data : List (List U8)) : Prop where
  moves : h.cmd = cmdRead ∨ h.cmd = cmdWrite
  start : h.address ≤ h.operationEnd
  chunks : h.cmd = cmdWrite → h.address.toNat + data.flatten.length ≤ h.operationEnd.toNat

theorem KeepsRange.moves {es : List Event} (keeps : KeepsRange h es) :
    h.cmd = cmdRead ∨ h.cmd = cmdWrite := keeps.imp And.left And.left

theorem Granted.inside (granted : Granted h) {es : List Event} (keeps : KeepsRange h es) :
    Inside h (mainData es) := by
  rcases keeps with ⟨reads, start⟩ | ⟨writes, fit⟩
  · refine ⟨.inl reads, ?_, fun writes => absurd (reads.symm.trans writes) (by decide)⟩
    unfold Handle.operationEnd
    split
    · exact (granted.reads reads).2
    · rename_i bounded
      have bounded : ¬ h.regionEnd = 0 ∧ ¬ h.regionEnd > h.memSize := by simpa using bounded
      exact start.resolve_left bounded.1
  · have start := (granted.writes writes).2
    refine ⟨.inr writes, start, fun _ => ?_⟩
    rcases List.eq_nil_or_concat (mainData es) with none | ⟨pre, payload, chunks⟩
    · rw [none]
      exact BitVec.le_def.mp start
    · have last := fit pre payload [] (by rw [chunks, List.concat_eq_append])
      rw [chunks, List.concat_eq_append, List.flatten_append, List.length_append]
      simpa [Nat.add_assoc] using last

/-! ## What every stage keeps -/

namespace Event

/-- An event that neither begins a command nor steps its state nor brings it a message. -/
def isBeside : Event → Bool
  | .accepted _ | .received | .advanced _ | .message .. => false
  | _ => true

variable {e : Event}

theorem isBeside_of_isNoise (noise : e.isNoise = true) : e.isBeside = true := by
  cases e <;> first | rfl | cases noise

theorem numberAfter_beside (beside : e.isBeside = true) (n : Nat) : numberAfter n e = n := by
  cases e <;> first | rfl | cases beside

theorem mainDataOf_beside (beside : e.isBeside = true) (n : Nat) : mainDataOf n e = [] := by
  cases e <;> first | rfl | cases beside

end Event

theorem stateNumber_beside (es : List Event) {new : List Event}
    (beside : ∀ e ∈ new, e.isBeside = true) : stateNumber (es ++ new) = stateNumber es := by
  induction new generalizing es with
  | nil => rw [List.append_nil]
  | cons e new ih =>
    rw [List.append_cons, ih _ fun e member => beside e (List.mem_cons_of_mem _ member),
      stateNumber_snoc, Event.numberAfter_beside (beside e List.mem_cons_self)]

theorem mainData_beside (es : List Event) {new : List Event}
    (beside : ∀ e ∈ new, e.isBeside = true) : mainData (es ++ new) = mainData es := by
  induction new generalizing es with
  | nil => rw [List.append_nil]
  | cons e new ih =>
    rw [List.append_cons, ih _ fun e member => beside e (List.mem_cons_of_mem _ member),
      mainData_quiet es (Event.mainDataOf_beside (beside e List.mem_cons_self) _)]

/-- As long as the host keeps to the range, nothing has refused it, and `K` is known of the state
number and the chunks so far. -/
def Spared (h : Handle) (K : Nat → List (List U8) → Prop) (w : World) : Prop :=
  Granted h ∧ w.QueuesReports ∧ ∃ es, commandEvents w.trace = some (h, es) ∧
    (KeepsRange h es → w.HoldsNone isRangeRefusal ∧ (∀ e ∈ es, e.refusesRange = false) ∧
      K (stateNumber es) (mainData es))

namespace Spared

variable {K K' : Nat → List (List U8) → Prop}

theorem mono (s : Spared h K w)
    (known : ∀ n data, Inside h data → K n data → K' n data) : Spared h K' w := by
  obtain ⟨granted, queue, es, events, safe⟩ := s
  refine ⟨granted, queue, es, events, fun keeps => ?_⟩
  obtain ⟨waiting, spared, before⟩ := safe keeps
  exact ⟨waiting, spared, known _ _ (granted.inside keeps) before⟩

theorem handle (s : Spared h K w) (f : Handle) : Spared h K { w with handle := f } := s

/-- A step of the engine or of a callback that admits the range. -/
theorem moves {κ : Type} {part : World → κ} {noise : Event → Bool} (s : Spared h K w)
    (moved : Moves part noise w w') (heard : ∀ e, noise e = true → e.isNoise = true)
    (same : h.cmd = cmdRead ∨ h.cmd = cmdWrite → RangeStep w w') : Spared h K w' := by
  obtain ⟨granted, queue, es, events, safe⟩ := s
  obtain ⟨queue', new, trace, noisy⟩ := moved.adds queue
  have noise : ∀ e ∈ new, e.isNoise = true := fun e member => heard e (noisy e member)
  have beside : ∀ e ∈ new.reverse, e.isBeside = true := fun e member =>
    Event.isBeside_of_isNoise (noise e (List.mem_reverse.mp member))
  refine ⟨granted, queue', es ++ new.reverse, ?_, fun keeps => ?_⟩
  · rw [trace, commandEvents_append new fun e member => Event.isBoundary_of_isNoise (noise e member),
      events]
    rfl
  · obtain ⟨waiting, spared, known⟩ := safe keeps.earlier
    obtain ⟨waiting, new', trace', quiet⟩ := moved.frames (same keeps.moves) queue waiting
    obtain rfl : new = new' := List.append_cancel_right (trace.symm.trans trace')
    refine ⟨waiting, fun e member => ?_, ?_⟩
    · cases List.mem_append.mp member with
      | inl earlier => exact spared e earlier
      | inr now =>
        rw [← Event.sends_range]
        exact (quiet e (List.mem_reverse.mp now)).2
    · rw [stateNumber_beside es beside, mainData_beside es beside]
      exact known

theorem link (s : Spared h K w) (link : LinkStep w w') : Spared h K w' :=
  s.moves link (fun _ => Event.isNoise_of_report) fun _ => link.framesStep

theorem mode (s : Spared h K w) (step : ModeStep w w') : Spared h K w' :=
  s.moves step (fun _ => Event.isNoise_of_report) fun _ => step.framesStep

/-- An event of the engine. -/
theorem note (s : Spared h K w) {e : Event} (inside : e.isBoundary = false)
    (quiet : e.refusesRange = false)
    (known : ∀ n data, K n data → K' (numberAfter n e) (data ++ mainDataOf n e)) :
    Spared h K' { w with trace := e :: w.trace } := by
  obtain ⟨granted, queue, es, events, safe⟩ := s
  refine ⟨granted, queue, es ++ [e], ?_, fun keeps => ?_⟩
  · rw [commandEvents_cons inside, events]
    rfl
  · obtain ⟨waiting, spared, before⟩ := safe keeps.earlier
    refine ⟨waiting, fun e' member => ?_, ?_⟩
    · cases List.mem_append.mp member with
      | inl earlier => exact spared e' earlier
      | inr now =>
        obtain rfl := List.mem_singleton.mp now
        exact quiet
    · rw [stateNumber_snoc, mainData_snoc]
      exact known _ _ before

theorem beside (s : Spared h K w) {e : Event} (beside : e.isBeside = true)
    (quiet : e.refusesRange = false) : Spared h K { w with trace := e :: w.trace } := by
  have inside : e.isBoundary = false := by
    cases e <;> first | rfl | cases beside
  refine s.note inside quiet fun n data known => ?_
  rw [Event.numberAfter_beside beside, Event.mainDataOf_beside beside, List.append_nil]
  exact known

theorem inStage (s : Spared h K w) (st : Stage) :
    Spared h (fun n data => n = st.number.toNat ∧ ∃ n₀, K n₀ data) (w.inStage st) := by
  have advanced : Spared h (fun n data => n = st.number.toNat ∧ ∃ n₀, K n₀ data)
      { w with trace := .advanced st.number :: w.trace } := by
    refine s.note rfl rfl fun n data known => ⟨rfl, n, ?_⟩
    show K n (data ++ [])
    rw [List.append_nil]
    exact known
  exact advanced

/-- Where the host keeps to the range, this refusal does not happen. -/
theorem refused (s : Spared h (fun _ _ => False) w) : Spared h K w.outOfRange := by
  obtain ⟨granted, queue, es, events, safe⟩ := s
  refine ⟨granted, queue, es ++ [.emitted msgErrOutOfRange []], ?_, fun keeps => ?_⟩
  · have same : commandEvents w.outOfRange.trace = _ := commandEvents_cons rfl w.trace
    rw [same, events]
    rfl
  · exact (safe keeps.earlier).2.2.elim

/-- A message, where another chunk would change nothing that is known. -/
theorem delivered {kind : OpMessageType} (s : Spared h K w) (heard : Delivered kind w w')
    (kept : ∀ data payload, K 3 data → kind = .data → K 3 (data ++ [payload])) :
    Spared h K w' := by
  cases heard with
  | incomplete link => exact s.link link
  | plain kind notData taken link =>
    refine (s.link link).note rfl rfl fun n data known => ?_
    have nothing : mainDataOf n (.message kind []) = [] := by
      cases kind <;> first | rfl | exact (notData rfl).elim
    rw [nothing, List.append_nil]
    exact known
  | @data _ w size link =>
    have taken (payload : List U8) :
        Spared h K { w with trace := .message .data payload :: w.trace } := by
      refine (s.link link).note rfl rfl fun n data known => ?_
      by_cases main : n = 3
      · subst main
        exact kept data payload known rfl
      · have nothing : mainDataOf n (.message .data payload) = [] := if_neg main
        rw [nothing, List.append_nil]
        exact known
    exact taken _

/-- A chunk of the main phase. -/
theorem chunk (s : Spared h K w) (main : ∀ n data, K n data → n = 3)
    (heard : Delivered .data w w') :
    Spared h (fun n data => n = 3 ∧ ∃ earlier, K 3 earlier ∧
      data = earlier ++ [w'.handle.payload]) w' := by
  cases heard with
  | plain _ notData => exact (notData rfl).elim
  | @data _ w size link =>
    have taken (payload : List U8) :
        Spared h (fun n data => n = 3 ∧ ∃ earlier, K 3 earlier ∧ data = earlier ++ [payload])
          { w with trace := .message .data payload :: w.trace } := by
      refine (s.link link).note rfl rfl fun n data known => ?_
      obtain rfl := main n data known
      exact ⟨rfl, data, known, rfl⟩
    exact taken _

variable {callback : Callback}

/-- A callback that admits the range leaves the command as it was. -/
theorem ran {w₁ : World} (s : Spared h K w)
    (admitted : h.cmd = cmdRead ∨ h.cmd = cmdWrite → callback.allows env.build w.handle)
    (enter : ModeStep w w₁) (run : RangeRun env callback (w₁.calling callback) w') :
    Spared h K w' := by
  have called : Spared h K (w₁.calling callback) := (s.mode enter).beside rfl rfl
  refine called.moves run.step (fun _ => id) fun moves => run.range ?_
  show callback.allows env.build w₁.handle
  rw [enter.handle]
  exact admitted moves

theorem executed {r : OpResult} (s : Spared h K w)
    (admitted : h.cmd = cmdRead ∨ h.cmd = cmdWrite → callback.allows env.build w.handle)
    (ran : Executed callback (RangeRun env callback) w r w') : Spared h K w' := by
  cases ran with
  | good enter run leave _ _ link =>
    have returned : Spared h K (World.returning _ callback) :=
      (s.ran admitted enter run).beside rfl rfl
    exact (returned.mode leave).link link
  | bad enter run leave =>
    have returned : Spared h K (World.returning _ callback) :=
      (s.ran admitted enter run).beside rfl rfl
    exact returned.mode leave

theorem cutShort (s : Spared h K w)
    (admitted : h.cmd = cmdRead ∨ h.cmd = cmdWrite → callback.allows env.build w.handle)
    (cut : CutShort callback (RangeRun env callback) (RangeRun env callback) w w') :
    Spared h K w' := by
  cases cut with
  | entering enter => exact s.mode enter
  | running enter run => exact s.ran admitted enter run
  | leaving enter run leave link =>
    have returned : Spared h K (World.returning _ callback) :=
      (s.ran admitted enter run).beside rfl rfl
    exact (returned.mode leave).link link

theorem chunkSent (s : Spared h K w) : Spared h K w.chunkSent := by
  have announced : Spared h K { w with trace := .emitted msgDataSending [] :: w.trace } :=
    s.beside rfl rfl
  unfold World.chunkSent
  split
  · exact announced.beside rfl rfl
  · exact announced

/-- While a read waits for its ACK. -/
theorem heard (s : Spared h K w) (deaf : ∀ data payload, K 3 data → K 3 (data ++ [payload]))
    (heard : Heard w w') : Spared h K w' := by
  induction heard with
  | start => exact s
  | link _ link ih => exact ih.link link
  | message _ _ message ih => exact ih.delivered message fun data payload known _ => deaf data payload known

end Spared

/-! ## The cursor -/

/-- Where the cursor is: a write has moved it past its chunks, a read leaves it inside the region. -/
structure CursorAt (h : Handle) (address : U32) (data : List (List U8)) : Prop where
  writes : h.cmd = cmdWrite → address.toNat = h.address.toNat + data.flatten.length
  reads : h.cmd = cmdRead → address ≤ h.operationEnd

theorem CursorAt.inside {address : U32} {data : List (List U8)} (cursor : CursorAt h address data)
    (inside : Inside h data) : address ≤ h.operationEnd := by
  rcases inside.moves with reads | writes
  · exact cursor.reads reads
  · refine BitVec.le_def.mpr ?_
    rw [cursor.writes writes]
    exact inside.chunks writes

/-- The events know the stage, and until the main phase is over where the cursor is. -/
structure Standing (h : Handle) (st : Stage) (address : U32) (n : Nat) (data : List (List U8)) :
    Prop where
  number : n = st.number.toNat
  cursor : st.number ≤ 3 → CursorAt h address data

/-- What is known in a stage of a command that has been spared so far. -/
def Stands (h : Handle) (st : Stage) (w : World) : Prop :=
  Spared h (Standing h st w.handle.address) w

theorem Standing.next {st next : Stage} {address : U32} {n n₀ : Nat} {data : List (List U8)}
    (known : Standing h st address n₀ data) (number : n = next.number.toNat)
    (later : next.number ≤ 3 → st.number ≤ 3) : Standing h next address n data :=
  ⟨number, fun early => known.cursor (later early)⟩

theorem LinkStep.address (link : LinkStep w w') : w'.handle.address = w.handle.address := by
  have kept := congrArg (fun w : World => w.handle.address) link.kept
  exact kept

theorem Delivered.address {kind : OpMessageType} (heard : Delivered kind w w') :
    w'.handle.address = w.handle.address := by
  cases heard with
  | incomplete link | plain _ _ _ link | data _ link => exact link.address

namespace Stands

variable {st next : Stage} {callback : Callback}

theorem link (s : Stands h st w) (link : LinkStep w w') : Stands h st w' := by
  unfold Stands
  rw [link.address]
  exact Spared.link s link

theorem delivered {kind : OpMessageType} (s : Stands h st w) (heard : Delivered kind w w')
    (other : st ≠ .inMain ∨ kind ≠ .data) : Stands h st w' := by
  unfold Stands
  rw [heard.address]
  refine Spared.delivered s heard fun data payload known isData => ?_
  have number := known.number
  rcases other with outside | notData
  · cases st <;> first | exact (outside rfl).elim | exact absurd number (by decide)
  · exact (notData isData).elim

/-- The engine moves on to a later stage. -/
theorem inStage (s : Stands h st w) (later : next.number ≤ 3 → st.number ≤ 3) :
    Stands h next (w.inStage next) :=
  (Spared.inStage s next).mono fun _ _ _ known => known.2.elim fun _ before =>
    before.next known.1 later

theorem executed {r : OpResult} (s : Stands h st w)
    (admitted : h.cmd = cmdRead ∨ h.cmd = cmdWrite → callback.allows env.build w.handle)
    (ran : Executed callback (RangeRun env callback) w r w') : Stands h st w' := by
  have same : w'.handle.address = w.handle.address :=
    ran.handle Handle.address (fun _ _ run => by
      have kept := congrArg (fun w : World => w.handle.address) run.step.kept
      exact kept) fun _ _ => rfl
  unfold Stands
  rw [same]
  exact Spared.executed s admitted ran

/-- The cursor is never beyond the region. -/
theorem overrun (s : Stands h .inMain w) (beyond : h.operationEnd < w.handle.address)
    {K : Nat → List (List U8) → Prop} : Spared h K w.outOfRange := by
  refine (Spared.mono s fun n data inside known => ?_).refused
  exact BitVec.not_lt.mpr ((known.cursor (by decide)).inside inside) beyond

/-- A chunk never reaches beyond the region. -/
theorem outside (s : Stands h .inMain w) (writes : h.cmd = cmdWrite) (heard : Delivered .data w w')
    (long : memUtilRangeFits w'.handle.address w'.handle.dataSize h.operationEnd = false)
    {K : Nat → List (List U8) → Prop} : Spared h K w'.answered.outOfRange := by
  have chunk := Spared.chunk s (fun _ _ known => known.number) heard
  have none : Spared h (fun _ _ => False) w' := by
    refine chunk.mono fun n data inside known => ?_
    obtain ⟨-, earlier, known, rfl⟩ := known
    have cursor := (known.cursor (by decide)).writes writes
    have fits := inside.chunks writes
    rw [List.flatten_append, List.flatten_singleton, List.length_append, Handle.payload_length,
      ← Nat.add_assoc, ← cursor, ← heard.address] at fits
    exact Bool.false_ne_true (long.symm.trans ((rangeFits_iff _ _ _).mpr fits))
  have answered : Spared h (fun _ _ => False) w'.answered := none
  exact answered.refused

end Stands

theorem Spared.mainDone {K : Nat → List (List U8) → Prop} (s : Spared h K w) :
    Stands h .beforeEnd w.mainDone := by
  have stage := (s.inStage .beforeEnd).beside (e := .emitted msgMainDone []) rfl rfl
  exact stage.mono fun _ _ _ known => ⟨known.1, fun early => absurd early (by decide)⟩

/-! ## The pumps -/

/-- Nothing is known but that nothing was refused. -/
abbrev Safe (h : Handle) : World → Prop := Spared h fun _ _ => True

theorem Spared.safe {K : Nat → List (List U8) → Prop} (s : Spared h K w) : Safe h w :=
  s.mono fun _ _ _ _ => trivial

theorem Safe.heard {kind : OpMessageType} (s : Safe h w) (heard : Delivered kind w w') : Safe h w' :=
  Spared.delivered s heard fun _ _ _ _ => trivial

/-- How a turn of the main phase leaves a command that is to be spared. -/
def SparedTurn (h : Handle) (ok : Bool) (w' : World) : Prop :=
  if ok then ∃ st, (st = .inMain ∨ st = .beforeEnd) ∧ Engaged h st w' ∧ Stands h st w'
  else Live w' ∧ Safe h w'

theorem Stands.turned {st : Stage} (s : Stands h st w') (turned : Turned h (some st) w') :
    SparedTurn h true w' := ⟨st, turned.1, turned.2, s⟩

variable {callback : Callback}

/-- A chunk that fits was written, and the cursor is past it. -/
theorem Stands.wrote {w₁ w₂ : World} (s : Stands h .inMain w) (writes : h.cmd = cmdWrite)
    (found : h.firestarterOperationMain = some callback)
    (heard : Delivered .data w w₁) (chunk : w₁.handle.chunkFits env.build)
    (ran : Executed callback (RangeRun env callback) w₁.answered .stop w₂) :
    Stands h .inMain w₂.movedOn := by
  have driver : callback ≠ .memoryReadExecute := by
    rintro rfl
    exact (s.1.writes writes).1 found
  have address : w₂.handle.address = w.handle.address := by
    refine Eq.trans (ran.handle Handle.address (fun _ _ run => ?_) fun _ _ => rfl) heard.address
    have kept := congrArg (fun w : World => w.handle.address) (run.driver driver).kept
    exact kept
  have size : w₂.handle.dataSize = w₁.handle.dataSize := by
    refine ran.handle Handle.dataSize (fun _ _ run => ?_) fun _ _ => rfl
    have kept := congrArg (fun w : World => w.handle.dataSize) (run.driver driver).kept
    exact kept
  have taken := (Spared.chunk s (fun _ _ known => known.number) heard).handle w₁.answered.handle
  have after := taken.executed (fun _ => callback.allows_of_chunkFits chunk) ran
  refine after.mono fun n data inside known => ?_
  obtain ⟨main, earlier, known, rfl⟩ := known
  refine ⟨main, fun _ => ⟨fun _ => ?_, fun reads => ?_⟩⟩
  · have cursor := (known.cursor (by decide)).writes writes
    have fits := inside.chunks writes
    have bound := h.operationEnd.isLt
    rw [List.flatten_append, List.flatten_singleton, List.length_append, Handle.payload_length]
      at fits ⊢
    show (w₂.handle.address + w₂.handle.dataSize).toNat = _
    rw [address, size, BitVec.toNat_add, cursor, Nat.mod_eq_of_lt (by omega), Nat.add_assoc]
  · exact absurd (reads.symm.trans writes) (by decide)

theorem sparesWrite (writes : h.cmd = cmdWrite) (known : callback ≠ .configureMemory)
    (found : h.firestarterOperationMain = some callback) (e : Engaged h .inMain w)
    (s : Stands h .inMain w) :
    Ends processIncomingData env w (fun ok w' => SparedTurn h ok w') (Safe h) := by
  have answered {kind : OpMessageType} {w₁ : World} (heard : Delivered kind w w₁) :
      Safe h w₁.answered := by
    have taken : Safe h w₁ := Safe.heard s.safe heard
    exact taken.handle _
  refine (ends_processIncomingData (rangeRuns known) found e).mono (fun ok w' turn => ?_)
    fun w' cut => ?_
  · obtain ⟨r, rfl, turn, turned⟩ := turn
    cases turn with
    | overrun beyond => exact ⟨turned, s.overrun (e.operationEnd ▸ beyond)⟩
    | complete reached link => exact (Spared.link s link).mainDone.turned turned
    | waiting link => exact (s.link link).turned turned
    | requested link first =>
      have asked := Spared.beside (s.link link) (e := .emitted msgOkReqData []) rfl rfl
      have stands : Stands h .inMain (World.requested _) := asked
      exact stands.turned turned
    | finished heard unbounded link => exact ((answered heard).link link).mainDone.turned turned
    | refused heard taken link => exact ⟨turned, (answered heard).link link⟩
    | outside heard long =>
      rw [(e.delivered heard).operationEnd] at long
      exact ⟨turned, s.outside writes heard long⟩
    | failed heard chunk ran =>
      exact ⟨turned, (answered heard).executed (fun _ => callback.allows_of_chunkFits chunk) ran⟩
    | wrote heard chunk ran => exact (s.wrote writes found heard chunk ran).turned turned
  · cases cut with
    | link link => exact (Spared.safe s).link link
    | answered heard link => exact (answered heard).link link
    | running heard chunk cut =>
      exact (answered heard).cutShort (fun _ => callback.allows_of_chunkFits chunk) cut

theorem sparesRead (reads : h.cmd = cmdRead) (known : callback ≠ .configureMemory)
    (found : h.firestarterOperationMain = some callback) (e : Engaged h .inMain w)
    (s : Stands h .inMain w) :
    Ends processOutgoingData env w (fun ok w' => SparedTurn h ok w') (Safe h) := by
  obtain rfl : callback = .memoryReadExecute :=
    Option.some.inj (found.symm.trans (s.1.reads reads).1)
  have admitted (more : w.handle.address < w.handle.operationEnd) :
      h.cmd = cmdRead ∨ h.cmd = cmdWrite →
        Callback.allows env.build .memoryReadExecute w.handle :=
    fun _ => BitVec.le_trans (BitVec.le_of_lt more) (operationEnd_le w.handle)
  have sent {w₁ w₂ : World} (more : w.handle.address < w.handle.operationEnd)
      (ran : Executed .memoryReadExecute (RangeRun env .memoryReadExecute) w .stop w₁)
      (heard : Heard (w₁.trimmed w.handle.operationEnd).chunkSent w₂) :
      Spared h (fun n _ => n = 3) w₂ := by
    have main : Spared h (fun n _ => n = 3) w := Spared.mono s fun _ _ _ known => known.number
    have trimmed : Spared h (fun n _ => n = 3) (w₁.trimmed w.handle.operationEnd) :=
      (main.executed (admitted more) ran).handle _
    exact trimmed.chunkSent.heard (fun _ _ main => main) heard
  have acked {w₂ w₃ : World} (s : Spared h (fun n _ => n = 3) w₂) (acked : Delivered .ack w₂ w₃) :
      Spared h (fun n _ => n = 3) w₃.movedOn :=
    (s.delivered acked fun _ _ main _ => main).handle _
  refine (ends_processOutgoingData (rangeRuns known) found e).mono (fun ok w' turn => ?_)
    fun w' cut => ?_
  · obtain ⟨r, rfl, turn, turned⟩ := turn
    cases turn with
    | overrun beyond => exact ⟨turned, s.overrun (e.operationEnd ▸ beyond)⟩
    | complete reached link => exact (Spared.link s link).mainDone.turned turned
    | failed more ran => exact ⟨turned, (Spared.safe s).executed (admitted more) ran⟩
    | unanswered more ran heard => exact ⟨turned, (sent more ran heard).safe⟩
    | sent more ran heard ack rest =>
      have stands : Stands h .inMain (World.movedOn _) :=
        (acked (sent more ran heard) ack).mono fun n data inside main => by
          refine ⟨main, fun _ => ⟨fun writes => ?_, fun _ => ?_⟩⟩
          · exact absurd (reads.symm.trans writes) (by decide)
          · rw [← e.operationEnd]
            exact BitVec.le_of_lt rest
      exact stands.turned turned
    | last more ran heard ack reached link =>
      exact ((acked (sent more ran heard) ack).link link).mainDone.turned turned
  · cases cut with
    | link link => exact (Spared.safe s).link link
    | running more cut => exact (Spared.safe s).cutShort (admitted more) cut
    | hearing more ran heard => exact (sent more ran heard).safe
    | ending more ran heard ack link => exact (acked (sent more ran heard) ack).safe.link link

theorem sparesSingle (notRead : h.cmd ≠ cmdRead) (notWrite : h.cmd ≠ cmdWrite)
    (known : callback ≠ .configureMemory) (found : h.firestarterOperationMain = some callback)
    (e : Engaged h .inMain w) (s : Stands h .inMain w) :
    Ends (singleStepOperationCallback dispatch) env w (fun ok w' => SparedTurn h ok w')
      (Safe h) := by
  -- neither a read nor a write: no host keeps to a range here
  have apart (moves : h.cmd = cmdRead ∨ h.cmd = cmdWrite) : callback.allows env.build w.handle :=
    moves.elim (fun reads => absurd reads notRead) fun writes => absurd writes notWrite
  refine (ends_singleStepOperationCallback (rangeRuns known) found e).mono (fun ok w' turn => ?_)
    fun w' cut => ?_
  · obtain ⟨r, rfl, turn, turned⟩ := turn
    cases turn with
    | failed ran => exact ⟨turned, (Spared.safe s).executed apart ran⟩
    | done ran link => exact ((Spared.executed s apart ran).link link).mainDone.turned turned
  · cases cut with
    | running cut => exact (Spared.safe s).cutShort apart cut
    | ending ran link => exact ((Spared.safe s).executed apart ran).link link

/-! ## The whole command -/

theorem Stage.closes_quietly {st served next : Stage} {frame : U8}
    (house : st.housekeeping = some (served, next, frame)) :
    served.number = st.number ∧ (next.number ≤ 3 → served.number ≤ 3) ∧
      Event.refusesRange (.emitted frame []) = false := by
  cases st with
  | inInit | inEnd =>
    cases house
    decide
  | _ => cases house

theorem Stage.opens_later {st next : Stage} (opening : st.opened = some next) :
    next.number ≤ 3 → st.number ≤ 3 := by
  cases st with
  | beforeInit | beforeMain | beforeEnd =>
    cases opening
    decide
  | _ => cases opening

theorem sparesServe {st served next : Stage} {frame : U8} (settled : h.Settled)
    (house : st.housekeeping = some (served, next, frame)) (found : h.housekeeper st = some callback)
    (s : Stands h st w) :
    Ends (executeOperation dispatch (some callback)) env w
      (fun r w' => if r = .error then Safe h w' else Stands h served w') (Safe h) := by
  have known : callback ≠ .configureMemory := settled.serves found
  have admitted (_ : h.cmd = cmdRead ∨ h.cmd = cmdWrite) : callback.allows env.build w.handle :=
    Callback.allows_of_unchecked (s.1.house found)
  have same := (Stage.closes_quietly house).1
  refine ((rangeRuns known).executes w).mono (fun r w' ran => ?_) fun w' cut => ?_
  · split
    · exact (Spared.safe s).executed admitted ran
    · refine Spared.mono (s.executed admitted ran) fun n data _ known => ?_
      exact known.next (same ▸ known.number) fun early => same ▸ early
  · exact (Spared.safe s).cutShort admitted cut

/-- A command that is spared, in each of its stages. -/
def sparedInvariant (env : Env) (h : Handle) : PhaseInvariant env h (mainPump h.cmd) where
  holds := Stands h
  always := Safe h
  safe stands := Spared.safe stands
  onward safe link := Spared.link safe link
  waits stands link := stands.link link
  hears {st _ _ _} listens stands heard := by
    refine stands.delivered heard (.inl ?_)
    rintro rfl
    cases listens
  opens opening _ stands heard link :=
    ((stands.delivered heard (.inr nofun)).link link).inStage (Stage.opens_later opening)
  lacks house _ stands := by
    refine Spared.mono stands fun n data _ known => ?_
    have same := (Stage.closes_quietly house).1
    exact known.next (same ▸ known.number) fun early => same ▸ early
  serves settled house found _ stands := sparesServe settled house found stands
  closes {_ served _ frame w} house _ stands := by
    obtain ⟨-, later, quiet⟩ := Stage.closes_quietly house
    have told : Stands h served { w with trace := .emitted frame [] :: w.trace } :=
      Spared.beside stands rfl quiet
    exact told.inStage later
  pumps found known e stands := by
    unfold mainPump
    split
    · rename_i reads
      exact sparesRead (beq_iff_eq.mp reads) known found e stands
    rename_i notRead
    split
    · rename_i writes
      exact sparesWrite (beq_iff_eq.mp writes) known found e stands
    · rename_i notWrite
      exact sparesSingle (by simpa using notRead) (by simpa using notWrite) known found e stands

instance {ids : U8 → Bool} [SetApart ids] : Within env (FramesStep ids) commandDone := by
  have mode {m : Fw Unit} (step : Within env ModeStep m) : Within env (FramesStep ids) m :=
    step.weaken fun _ _ => ModeStep.framesStep
  have := mode (m := rurpSetProgrammerMode) inferInstance
  have := mode (m := rurpSetCommunicationMode) inferInstance
  have : Within env (FramesStep ids) (setHandle fun h => { h with cmd := cmdIdle }) :=
    Within.update _ fun _ => rfl
  have : Within env (FramesStep ids) (note .finished) :=
    Within.update _ fun s => framesOf_noted rfl s
  unfold commandDone
  infer_instance

/-- The law: while the host keeps to the range, nothing refuses it. -/
def SparesRange (h : Handle) (es : List Event) : Prop :=
  KeepsRange h es → ∀ e ∈ es, e.refusesRange = false

theorem SparesRange.append {es new : List Event} (spares : SparesRange h es)
    (quiet : ∀ e ∈ new, e.refusesRange = false) : SparesRange h (es ++ new) := by
  intro keeps e member
  cases List.mem_append.mp member with
  | inl earlier => exact spares keeps.earlier e earlier
  | inr now => exact quiet e now

theorem Spared.spares {K : Nat → List (List U8) → Prop} (s : Spared h K w) :
    ∃ es, commandEvents w.trace = some (h, es) ∧ SparesRange h es := by
  obtain ⟨-, -, es, events, safe⟩ := s
  exact ⟨es, events, fun keeps => (safe keeps).2.1⟩

theorem ends_commandDone_spared (safe : Safe h w) (live : Live w) :
    Ends commandDone env w
      (fun _ w' => ∃ es, commandEvents w'.trace = some (h, es) ∧ SparesRange h es)
      (fun w' => ∃ es, commandEvents w'.trace = some (h, es) ∧ SparesRange h es) := by
  have ended := (@ends_commandDone env w live.queue fun _ => live.comMode).and
    (Within.ends (R := RangeStep) inferInstance w)
  refine ended.mono (fun _ w' both => ?_) fun w' both => ?_
  · obtain ⟨⟨-, w₀, step, rfl⟩, same⟩ := both
    have kept : RangeStep w w₀ := same
    have after : Safe h w₀ := safe.moves step (fun _ => id) fun _ => kept
    exact (after.beside (e := .finished) rfl rfl).spares
  · exact (safe.moves both.1 (fun _ => id) fun _ => both.2).spares

/-! ## What is granted -/

/-- The callbacks that open and close the command look at no range. -/
def Handle.Unchecked (h : Handle) : Prop :=
  (∀ c, h.firestarterOperationInit = some c → c.checksRange = false) ∧
    ∀ c, h.firestarterOperationEnd = some c → c.checksRange = false

theorem Driver.setUp_unchecked (driver : Driver) (b : Build) (hw : U8) (decoded : Handle) :
    (driver.setUp b hw decoded).Unchecked := by
  unfold Driver.setUp
  have generic : (decoded.withoutCallbacks.withMemoryCallbacks.withReadHighMask b hw).Unchecked :=
    ⟨nofun, nofun⟩
  revert generic
  generalize decoded.withoutCallbacks.withMemoryCallbacks.withReadHighMask b hw = h
  intro generic
  obtain ⟨init, finish⟩ := generic
  cases driver
  case sram => exact ⟨init, finish⟩
  all_goals
    simp only [Driver.configured, Handle.withFlashIntelCallbacks, Handle.withEeprom28cCallbacks,
      Handle.withFlashNorUnlockCallbacks, Handle.withFlash5vPageCallbacks, Handle.withEpromCallbacks]
    split_ifs
    all_goals refine ⟨fun c named => ?_, fun c named => ?_⟩
    all_goals first
    | exact init c named
    | exact finish c named
    | (cases named; rfl)
    | cases named

/-- A read has the same main callback for every driver. -/
theorem Driver.setUp_read (driver : Driver) (b : Build) (hw : U8) {decoded : Handle}
    (reads : decoded.cmd = cmdRead) :
    (driver.setUp b hw decoded).firestarterOperationMain = some .memoryReadExecute := by
  unfold Driver.setUp
  have main : (decoded.withoutCallbacks.withMemoryCallbacks.withReadHighMask b hw).firestarterOperationMain =
      some .memoryReadExecute := if_pos (beq_iff_eq.mpr reads)
  have cmd : (decoded.withoutCallbacks.withMemoryCallbacks.withReadHighMask b hw).cmd = cmdRead :=
    reads
  revert main cmd
  generalize decoded.withoutCallbacks.withMemoryCallbacks.withReadHighMask b hw = h
  intro main cmd
  cases driver
  case sram => exact main
  all_goals
    simp only [Driver.configured, Handle.withFlashIntelCallbacks, Handle.withEeprom28cCallbacks,
      Handle.withFlashNorUnlockCallbacks, Handle.withFlash5vPageCallbacks, Handle.withEpromCallbacks]
    rw [cmd]
    exact main

theorem validateMemory_start {cmd : U8} {p : Nat → U8} (valid : validateMemory cmd p = cmdDecodeOk)
    (moves : cmd = cmdRead ∨ cmd = cmdWrite) :
    be32 p cfMemoryOffAddress ≤ payloadEnd cmd p := by
  unfold validateMemory at valid
  rw [ite_pass_iff, ite_refuse_iff (by decide), ite_refuse_iff (by decide),
    ite_refuse_iff (by decide), ite_refuse_iff (by decide), ite_refuse_iff (by decide),
    ite_refuse_iff (by decide)] at valid
  obtain ⟨-, -, -, -, -, -, start, -⟩ := valid
  have listed : (cmd == cmdRead || cmd == cmdWrite) = true := by
    rw [Bool.or_eq_true, beq_iff_eq, beq_iff_eq]
    exact moves
  rw [listed, Bool.true_and, decide_eq_true_eq] at start
  exact BitVec.not_lt.mp start

/-- A decoded cursor starts inside what the decoder takes for the end of the operation. -/
theorem Decoded.start {b : Build} {decoded : Handle} (made : Decoded b decoded)
    (moves : decoded.cmd = cmdRead ∨ decoded.cmd = cmdWrite) :
    decoded.address ≤ if decoded.cmd = cmdWrite then decoded.operationEnd else decoded.memSize := by
  have memory : isMemoryCmd decoded.cmd = true := by
    rcases moves with reads | writes
    · rw [reads]
      rfl
    · rw [writes]
      rfl
  obtain ⟨h, p, same, valid⟩ := made.validated memory
  have start := validateMemory_start valid moves
  have address : decoded.address = be32 p cfMemoryOffAddress := congrArg Handle.address same
  have size : decoded.memSize = be32 p cfMemoryOffMemSize := congrArg Handle.memSize same
  have region : decoded.regionEnd = be32 p cfMemoryOffRegionEnd := congrArg Handle.regionEnd same
  unfold payloadEnd at start
  rw [← address, ← size, ← region] at start
  refine BitVec.le_trans start ?_
  rcases moves with reads | writes
  · rw [reads]
    exact BitVec.le_refl _
  · rw [writes]
    show (if decoded.regionEnd != 0 && decide (decoded.regionEnd < decoded.memSize) then
      decoded.regionEnd else decoded.memSize) ≤ decoded.operationEnd
    unfold Handle.operationEnd
    simp only [Bool.and_eq_true, bne_iff_ne, ne_eq, decide_eq_true_eq, Bool.or_eq_true, beq_iff_eq]
    split_ifs <;> bv_omega

/-- The range of a command is granted when it is accepted. -/
theorem granted_of_accepted (memory : isMemoryCmd w.handle.cmd = true) (accepted : Accepted env w) :
    Granted w.handle := by
  obtain ⟨driver, decoded, made, -, -, ⟨same, -, address⟩, -⟩ := accepted.setUp memory
  have unchanged := driver.configured_unconfigured
    (decoded.withoutCallbacks.withMemoryCallbacks.withReadHighMask env.build w.hardwareRevision)
  have unchangedCmd := congrArg Handle.cmd unchanged
  have unchangedSize := congrArg Handle.memSize unchanged
  have unchangedEnd := congrArg Handle.operationEnd unchanged
  have unchangedAddress := congrArg Handle.address unchanged
  have cmd : w.handle.cmd = decoded.cmd := (congrArg Handle.cmd same).trans unchangedCmd
  have size : w.handle.memSize = decoded.memSize :=
    (congrArg Handle.memSize same).trans unchangedSize
  have opEnd : w.handle.operationEnd = decoded.operationEnd :=
    (congrArg Handle.operationEnd same).trans unchangedEnd
  have address : w.handle.address = decoded.address := address.trans unchangedAddress
  refine ⟨fun {st callback} found => ?_, fun reads => ⟨?_, ?_⟩, fun writes => ⟨?_, ?_⟩⟩
  · obtain ⟨init, finish⟩ := driver.setUp_unchecked env.build w.hardwareRevision decoded
    cases st with
    | inInit => exact init _ ((congrArg Handle.firestarterOperationInit same).symm.trans found)
    | inEnd => exact finish _ ((congrArg Handle.firestarterOperationEnd same).symm.trans found)
    | _ => cases found
  · exact (congrArg Handle.firestarterOperationMain same).trans
      (driver.setUp_read env.build w.hardwareRevision (cmd.symm.trans reads))
  · have start := made.start (.inl (cmd.symm.trans reads))
    rw [← cmd, reads, ← address, ← size] at start
    exact start
  · exact accepted.writes writes
  · have start := made.start (.inr (cmd.symm.trans writes))
    rw [← cmd, writes, ← address, ← opEnd] at start
    exact start

theorem stands_of_granted (granted : Granted h) (queue : w.QueuesReports)
    (comMode : w.comMode = true) (same : w.handle = h) :
    Stands h .beforeInit { w with trace := .accepted h :: w.trace } := by
  refine ⟨granted, queue, [], rfl, fun keeps =>
    ⟨queue.holdsNone comMode _, fun _ member => absurd member List.not_mem_nil, ⟨rfl, fun _ => ?_⟩⟩⟩
  have inside := granted.inside keeps
  show CursorAt h w.handle.address []
  rw [same]
  exact ⟨fun _ => rfl, fun _ => inside.start⟩

/-! ## The runs -/

/-- That the host is spared is an invariant of the runs. -/
def sparedCommands (env : Env) : CommandInvariant env where
  toReadiness := Readiness.free env
  command h := sparedInvariant env h
  law := SparesRange
  powersUp := @Readiness.powersUp_free env
  begins memory accepted _ _ :=
    stands_of_granted (granted_of_accepted memory accepted) accepted.queue accepted.comMode rfl
  lawful {h w} safe := by
    have spared : Safe h w := safe
    exact spared.spares
  concludes safe live := ends_commandDone_spared safe live
  idles law quiet := law.append fun e member => Event.refusesRange_of_sends (quiet e member).2

/-- A host that answers a write within the region, and a read that was admitted, never hear that the
range is refused. The decoder lets a read start anywhere in the chip, but the pump ends it with the
region: a read that starts beyond its region is the one exception. -/
theorem range_admitted (seen : Seen env w) {es : List Event}
    (events : commandEvents w.trace = some (h, es)) (moves : h.cmd = cmdRead ∨ h.cmd = cmdWrite)
    (starts : h.cmd = cmdRead → h.regionEnd = 0 ∨ h.address ≤ h.regionEnd)
    (fits : h.cmd = cmdWrite → ChunksFit h es) : ∀ e ∈ es, e.refusesRange = false := by
  have memory : isMemoryCmd h.cmd = true := by
    rcases moves with reads | writes
    · rw [reads]
      rfl
    · rw [writes]
      rfl
  have keeps : KeepsRange h es :=
    moves.imp (fun reads => ⟨reads, starts reads⟩) fun writes => ⟨writes, fits writes⟩
  have spares : SparesRange h es :=
    (sparedCommands env).lawful_of_seen seen h es events memory
  exact spares keeps

/-- Chunks fit one by one when they fit together. -/
theorem chunksFit_of_total {es : List Event}
    (total : h.address.toNat + (mainData es).flatten.length ≤ h.operationEnd.toNat) :
    ChunksFit h es := by
  intro pre payload post chunks
  rw [chunks, List.flatten_append, List.flatten_cons, List.length_append, List.length_append] at total
  omega

/-- The write of four bytes in two chunks is refused nothing. -/
theorem range_admitted_sram_write : ∃ (w : World) (h : Handle) (es : List Event),
    commandEvents w.trace = some (h, es) ∧ h.cmd = cmdWrite ∧ mainData es = [[1, 2, 3], [4]] ∧
      ∀ e ∈ es, e.refusesRange = false := by
  have ran : commandAfter sramWriteEnv 4 (fun _ h es =>
      (h.cmd, h.address, h.operationEnd, mainData es)) =
        some (cmdWrite, 0, 4, [[1, 2, 3], [4]]) := by
    decide +kernel
  obtain ⟨w, h, es, -, seen, events, ran⟩ := exists_of_commandAfter ran
  obtain ⟨writes, ran⟩ := Prod.mk.inj ran
  obtain ⟨start, ran⟩ := Prod.mk.inj ran
  obtain ⟨opEnd, chunks⟩ := Prod.mk.inj ran
  have fits : ChunksFit h es := chunksFit_of_total (by rw [start, opEnd, chunks]; decide)
  refine ⟨w, h, es, events, writes, chunks, range_admitted seen events (.inr writes) ?_ fun _ => fits⟩
  exact fun reads => absurd (writes.symm.trans reads) (by decide)

/-- A Leonardo whose host reads from the third byte of an SRAM of four, in a region of one. -/
def beyondRegionEnv : Env :=
  (Env.still ⟨.leonardo, false⟩ 200).sends <|
    memoryFrame { cmd := cmdRead, memSize := 4, address := 2, regionEnd := 1,
                  protocol := protoSram32Pin, pins := 32, vppMv := 5000,
                  busConfig := { addressLines := [], rwLine := 0xFF, vppLine := 0xFF } } ++
      [asciiO, asciiK, asciiO, asciiK]

/-- The decoder admits the read, and the pump refuses its range. -/
theorem read_beyond_region_refused : ¬ ∀ (env : Env) (w : World) (h : Handle) (es : List Event),
    Seen env w → commandEvents w.trace = some (h, es) → h.cmd = cmdRead ∨ h.cmd = cmdWrite →
    (h.cmd = cmdWrite → ChunksFit h es) → ∀ e ∈ es, e.refusesRange = false := by
  intro never
  have ran : commandAfter beyondRegionEnv 4 (fun _ h es => (h.cmd, es.any Event.refusesRange)) =
      some (cmdRead, true) := by
    decide +kernel
  obtain ⟨w, h, es, -, seen, events, ran⟩ := exists_of_commandAfter ran
  obtain ⟨reads, refused⟩ := Prod.mk.inj ran
  obtain ⟨e, member, refuses⟩ := List.any_eq_true.mp refused
  have spared := never _ w h es seen events (.inl reads)
    (fun writes => absurd (reads.symm.trans writes) (by decide)) e member
  rw [spared] at refuses
  exact Bool.noConfusion refuses

end Firestarter
