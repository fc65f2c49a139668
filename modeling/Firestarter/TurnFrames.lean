import Firestarter.FirmwareFrames

/-! What the turns of the loop leave alone: the one that takes a frame up, and those of a command
whose callbacks are known. -/
namespace Firestarter

open Interactive Interactive.Prog

set_option synthInstance.maxSize 4000

variable {env : Env} {R : World → World → Prop} {w w' w₁ : World}

/-! ## Taking a frame up -/

/-- Whatever a frame brings: another handle, another configuration, and the marks of a command. -/
class SetupFrame (R : World → World → Prop) : Prop extends HostFrame R where
  handle : ∀ (s : World) (h : Handle), R s { s with handle := h }
  pointer : ∀ (s : World) (saved : Option ControlSetter),
    R s { s with epSetControlRegister := saved }
  config : ∀ (s : World) (config : Configuration) (stored : Option Configuration),
    R s { s with config := config, stored := stored }
  boundary : ∀ (s : World) (e : Event), e.isBoundary = true → R s { s with trace := e :: s.trace }

instance [SetupFrame R] : HandleFrame R :=
  ⟨fun s h _ => SetupFrame.handle s h, SetupFrame.pointer⟩

instance [SetupFrame R] (f : Handle → Handle) : Within env R (setHandle f) :=
  Within.update _ fun w => SetupFrame.handle w (f w.handle)

theorem within_receiveCommand [SetupFrame R] [HomeFrame env R] (done : Within env R commandDone) :
    Within env R receiveCommand := by
  have configures (c : Callback) (named : some Callback.configureMemory = some c) :
      Within env R (dispatch c) := by
    obtain rfl := Option.some.inj named
    exact (inferInstance : Within env R configureMemory)
  have := within_opExecuteFunction configures
  have : Within env R (note .received) := Within.update _ fun w => SetupFrame.boundary w _ rfl
  have (h : Handle) : Within env R (note (.accepted h)) :=
    Within.update _ fun w => SetupFrame.boundary w _ rfl
  have (config : Configuration) :
      Within env R (update fun w => { w with config := config } : Fw Unit) :=
    Within.update _ fun w => SetupFrame.config w config w.stored
  have (saved : Bool) : Within env R
      (update fun w => if saved then { w with stored := some w.config } else w : Fw Unit) := by
    refine Within.update _ fun w => ?_
    cases saved with
    | true => exact SetupFrame.config w w.config (some w.config)
    | false => exact refl_of R w
  have : Within env R applyConfigCommand := by
    unfold applyConfigCommand rurpConfigCommit rurpSaveConfig
    infer_instance
  have : Within env R parseCommand := by
    unfold parseCommand
    infer_instance
  have : Within env R initProgrammerFramed := by
    unfold initProgrammerFramed acceptCommand reportIdentity
    infer_instance
  unfold receiveCommand
  infer_instance

/-! ## The turn of a command whose callbacks are known -/

/-- A step that stays with its command. -/
def InCommand (R : World → World → Prop) (s s' : World) : Prop :=
  s'.handle.cmd = s.handle.cmd ∧ R s s'

/-- A callback that configures nothing keeps the callbacks and the command. -/
theorem guarded_callback {known : Callback → Prop} {callback : Callback}
    (settled : callback ≠ .configureMemory) (run : Within env R (dispatch callback)) :
    Within env (Guarded (Handle.CallbacksIn known) (InCommand R)) (dispatch callback) := by
  refine ⟨fun s => ?_⟩
  have own : Within env CallbackStep (dispatch callback) := within_callback callback settled
  have kept := (own.moves s).kept
  have init := congrArg (fun w : World => w.handle.firestarterOperationInit) kept
  have main := congrArg (fun w : World => w.handle.firestarterOperationMain) kept
  have finish := congrArg (fun w : World => w.handle.firestarterOperationEnd) kept
  have cmd := congrArg (fun w : World => w.handle.cmd) kept
  exact Guarded.of_kept init main finish ⟨cmd, run.moves s⟩

variable [HostFrame R]

instance : HostFrame (InCommand R) where
  refl s := ⟨rfl, refl_of R s⟩
  trans _ _ _ first rest := ⟨rest.1.trans first.1, trans_of R first.2 rest.2⟩
  talk s s' talk := by
    have cmd := congrArg (fun w : World => w.handle.cmd) talk.kept
    exact ⟨cmd, HostFrame.talk s s' talk⟩

theorem ends_memoryCommand {known : Callback → Prop}
    (settled : ∀ c, known c → c ≠ .configureMemory)
    (runs : ∀ c, known c → Within env R (dispatch c)) (memory : isMemoryCmd w.handle.cmd = true)
    (callbacks : w.handle.CallbacksIn known) :
    Ends (runCommand w.handle.cmd) env w
      (fun _ w' => R w w' ∧ w'.handle.cmd = w.handle.cmd ∧ w'.handle.CallbacksIn known) (R w) := by
  have turn := within_memoryTurn
    (fun c named => guarded_callback (settled c named) (runs c named)) memory
  refine (turn.ends w).mono (fun _ w' step => ?_) fun w' step => ?_
  · obtain ⟨callbacks', cmd, step⟩ := step callbacks
    exact ⟨step, cmd, callbacks'⟩
  · exact (step callbacks).2.2

/-! ## The turns of the loop -/

theorem ends_commandDone_idle (w : World) :
    Ends commandDone env w (fun _ w' => w'.handle.cmd = cmdIdle) (fun _ => True) := by
  unfold commandDone
  simp only [ends_bind]
  refine ends_any _ (fun _ w₁ => ?_) fun _ => trivial
  refine ends_any _ (fun _ w₂ => ?_) fun _ => trivial
  refine ends_any _ (fun _ w₃ => ?_) fun _ => trivial
  refine ends_any _ (fun _ w₄ => ?_) fun _ => trivial
  refine ends_any _ (fun _ w₅ => ?_) fun _ => trivial
  rw [ends_setHandle]
  refine (Within.ends (R := TalkStep) inferInstance _).mono (fun _ w₆ talk => ?_) fun _ _ => trivial
  have cmd := congrArg (fun w : World => w.handle.cmd) talk.kept
  exact cmd

/-- The states between two turns of the loop, from one on, as long as a command is running. -/
inductive WhileRunning (env : Env) (w₁ : World) : World → Prop
  | start : WhileRunning env w₁ w₁
  | turn {w w' : World} (before : WhileRunning env w₁ w) (busy : w.handle.cmd ≠ cmdIdle)
      (ran : loop env w = (some (), w')) : WhileRunning env w₁ w'

/-- Those states, and the state in which any of the turns is cut off. -/
inductive SeenWhileRunning (env : Env) (w₁ : World) : World → Prop
  | between {w : World} (states : WhileRunning env w₁ w) : SeenWhileRunning env w₁ w
  | inside {w : World} (states : WhileRunning env w₁ w) (busy : w.handle.cmd ≠ cmdIdle) :
      SeenWhileRunning env w₁ (loop env w).2

section
variable {runs : World → Prop} (talks : ∀ {w w' : World}, runs w → TalkStep w w' → runs w')
  (done : Within env R commandDone)
  (turns : ∀ {w : World}, runs w → Ends (runCommand w.handle.cmd) env w
    (fun _ w' => R w w' ∧ runs w') (R w))
include talks done turns

/-- One turn of a running command; it goes on with the next one, or the firmware is idle. -/
theorem ends_turn_within (busy : w.handle.cmd ≠ cmdIdle) (running : runs w) :
    Ends loop env w (fun _ w' => R w w' ∧ (w'.handle.cmd = cmdIdle ∨ runs w')) (R w) := by
  have finishes {v : World} (step : R w v) :
      Ends commandDone env v (fun _ w' => R w w' ∧ w'.handle.cmd = cmdIdle) (R w) :=
    ((done.ends v).and (ends_commandDone_idle v)).mono
      (fun _ w' both => ⟨trans_of R step both.1, both.2⟩) fun w' both => trans_of R step both.1
  have talked {v v' : World} (talk : TalkStep v v') : R v v' := HostFrame.talk v v' talk
  unfold loop
  rw [ends_bind, ends_look, if_neg (by simpa using busy)]
  refine Within.bind_ends (S := TalkStep) inferInstance (fun now w₁ talk => ?_)
    fun w₁ talk => talked talk
  split
  · refine Within.bind_ends (S := TalkStep) inferInstance (fun _ w₂ talk₂ => ?_)
      fun w₂ talk₂ => talked (trans_of TalkStep talk talk₂)
    rw [ends_bind]
    refine (finishes (talked (trans_of TalkStep talk talk₂))).mono (fun _ w₃ ended => ?_)
      fun _ h => h
    have quiet : Within env TalkStep (setResponseCode responseCodeOk) := inferInstance
    refine (quiet.ends w₃).mono (fun _ w₄ talk₄ => ?_) fun w₄ talk₄ => ?_
    · have cmd := congrArg (fun w : World => w.handle.cmd) talk₄.kept
      exact ⟨trans_of R ended.1 (talked talk₄), .inl (Eq.trans cmd ended.2)⟩
    · exact trans_of R ended.1 (talked talk₄)
  · unfold stepCommand
    refine Within.bind_ends (S := TalkStep) inferInstance (fun _ w₂ talk₂ => ?_)
      fun w₂ talk₂ => talked (trans_of TalkStep talk talk₂)
    replace talk := trans_of TalkStep talk talk₂
    have cmd := congrArg (fun w : World => w.handle.cmd) talk.kept
    have cmd : w₂.handle.cmd = w.handle.cmd := cmd
    rw [ends_bind, ← cmd]
    refine (turns (talks running talk)).mono (fun finished w₃ turned => ?_)
      fun w₃ step => trans_of R (talked talk) step
    have step := trans_of R (talked talk) turned.1
    refine Ends.when (fun _ => ?_) fun _ => ⟨step, .inr turned.2⟩
    exact (finishes step).mono (fun _ w' ended => ⟨ended.1, .inl ended.2⟩) fun _ h => h

/-- The command moves along the relation wherever it is looked at. -/
theorem within_seenWhileRunning (running : runs w₁) (seen : SeenWhileRunning env w₁ w) :
    R w₁ w := by
  have between {w : World} (states : WhileRunning env w₁ w) :
      R w₁ w ∧ (w.handle.cmd = cmdIdle ∨ runs w) := by
    induction states with
    | start => exact ⟨refl_of R w₁, .inr running⟩
    | turn before busy ran ih =>
      obtain ⟨earlier, goes⟩ := ih
      have turned := (ends_iff.mp
        (ends_turn_within talks done turns busy (goes.resolve_left busy))).1 () _ ran
      exact ⟨trans_of R earlier turned.1, turned.2⟩
  cases seen with
  | between states => exact (between states).1
  | inside states busy =>
    obtain ⟨earlier, goes⟩ := between states
    have turned := (ends_turn_within talks done turns busy (goes.resolve_left busy)).mono
      (fun _ _ both => both.1) fun _ step => step
    exact trans_of R earlier turned.state

end

end Firestarter
