import Firestarter.EpromRoutes
import Firestarter.FiveVolt
import Firestarter.WriteProgress

/-! The turns of one command, from the one that took its frame up to the one that ends it. A rule
for its phases, with what becomes of it when the command ends, holds of all of them. -/
namespace Firestarter

open Interactive Interactive.Prog

set_option synthInstance.maxSize 4000

variable {env : Env} {h : Handle} {w w' w₀ w₁ : World}

/-! ## The main phase of a command -/

/-- The handle still carries the parameters the command was accepted with. -/
def Handle.OfCommand (h h' : Handle) : Prop := h'.parameters = h.parameters

section
variable {R : World → World → Prop} [HostFrame R] {callback : Callback}

instance : HostFrame (Guarded h.OfCommand R) where
  talk s s' talk own := by
    have parameters := congrArg (fun w : World => w.handle.parameters) talk.kept
    exact ⟨Eq.trans parameters own, HostFrame.talk s s' talk⟩

omit [HostFrame R] in
theorem within_ofCommand (settled : callback ≠ .configureMemory)
    (run : Within env R (dispatch callback)) :
    Within env (Guarded h.OfCommand R) (dispatch callback) := by
  refine ⟨fun s own => ⟨?_, run.moves s⟩⟩
  have whole : Within env CallbackStep (dispatch callback) := within_callback callback settled
  have step := whole.moves s
  have parameters := congrArg (fun w : World => w.handle.parameters) step.kept
  exact Eq.trans parameters own

/-- What the main callback and the conversation move along, a turn of the main phase moves along. -/
theorem within_mainPump (found : h.firestarterOperationMain = some callback)
    (settled : callback ≠ .configureMemory) (run : Within env R (dispatch callback)) :
    Within env (Guarded h.OfCommand R) (mainPump h.cmd) := by
  have names (h' : Handle) (own : h.OfCommand h') (c : Callback)
      (named : h'.firestarterOperationMain = some c) : c = callback := by
    have main := congrArg Handle.firestarterOperationMain own
    have main : h'.firestarterOperationMain = h.firestarterOperationMain := main
    rw [main, found] at named
    exact (Option.some.inj named).symm
  have runs (c : Callback) (known : c = callback) :
      Within env (Guarded h.OfCommand R) (dispatch c) := by
    subst known
    exact within_ofCommand settled run
  unfold mainPump
  split
  · exact within_processOutgoingData names runs
  split
  · exact within_processIncomingData names runs
  · exact within_singleStepOperationCallback names runs

/-- The turn leaves the command engaged or has failed. -/
theorem ends_mainPump_engaged (found : h.firestarterOperationMain = some callback)
    (settled : callback ≠ .configureMemory) (e : Engaged h .inMain w) :
    Ends (mainPump h.cmd) env w (fun ok w' => ∃ r : Option Stage, ok = r.isSome ∧ Turned h r w')
      (fun _ => True) := by
  have runs : CallbackRuns env callback _ _ := CallbackRuns.of_within settled
  have turned {Turn : Option Stage → World → Prop} {ok : Bool} {w' : World}
      (so : ∃ r : Option Stage, ok = r.isSome ∧ Turn r w' ∧ Turned h r w') :
      ∃ r : Option Stage, ok = r.isSome ∧ Turned h r w' := by
    obtain ⟨r, same, -, turned⟩ := so
    exact ⟨r, same, turned⟩
  unfold mainPump
  split
  · exact (ends_processOutgoingData runs found e).mono (fun _ _ => turned) fun _ _ => trivial
  split
  · exact (ends_processIncomingData runs found e).mono (fun _ _ => turned) fun _ _ => trivial
  · exact (ends_singleStepOperationCallback runs found e).mono (fun _ _ => turned)
      fun _ _ => trivial

/-- A turn of the main phase, for a rule that keeps along the relation. -/
theorem ends_mainPump (found : h.firestarterOperationMain = some callback)
    (settled : callback ≠ .configureMemory) (run : Within env R (dispatch callback))
    (e : Engaged h .inMain w) :
    Ends (mainPump h.cmd) env w
      (fun ok w' => R w w' ∧
        if ok then ∃ st, (st = .inMain ∨ st = .beforeEnd) ∧ Engaged h st w' else Live w')
      (R w) := by
  have moved := (within_mainPump found settled run).ends w
  refine ((ends_mainPump_engaged found settled e).and moved).mono (fun ok w' both => ?_)
    fun w' both => (both.2 e.parameters).2
  obtain ⟨⟨r, rfl, turned⟩, moved⟩ := both
  refine ⟨(moved e.parameters).2, ?_⟩
  cases r with
  | none => exact turned
  | some st => exact ⟨st, turned⟩

end

/-! ## The rule over the turns -/

/-- A rule for the phases of a command, with what is known once it is over and what can be seen at
any moment of it. -/
structure CommandRule (env : Env) (h : Handle) extends PhaseRule env h (mainPump h.cmd) where
  ended : World → Prop
  seen : World → Prop
  shows : ∀ {w : World}, always w → seen w
  concludes : ∀ {w : World}, Live w → closing w →
    Ends commandDone env w (fun _ w' => ended w') seen
  rests : ∀ {w w' : World}, ended w → LinkStep w w' → ended w'
  remains : ∀ {w : World}, ended w → seen w

namespace CommandRule

variable (R : CommandRule env h)

/-- Between two turns: the command goes on, or it is over. -/
def OverOrBetween (w : World) : Prop :=
  (w.handle.cmd = cmdIdle ∧ R.ended w) ∨ R.Between w

theorem seen_of_overOrBetween (so : R.OverOrBetween w) : R.seen w := by
  rcases so with ⟨-, ended⟩ | ⟨st, -, i⟩
  · exact R.remains ended
  · exact R.shows (R.safe i.2)

theorem between_link (between : R.Between w) (link : LinkStep w w') : R.Between w' := by
  obtain ⟨st, boundary, i⟩ := between
  exact ⟨st, boundary, R.in_link i link⟩

theorem ends_over (live : Live w) (closing : R.closing w) :
    Ends commandDone env w (fun _ w' => w'.handle.cmd = cmdIdle ∧ R.ended w') R.seen :=
  ((ends_commandDone_idle w).and (R.concludes live closing)).mono (fun _ _ both => both)
    fun _ both => both.2

/-- One turn of the loop while the command is running. -/
theorem ends_turnOfLoop (memory : isMemoryCmd h.cmd = true) (settled : h.Settled)
    (between : R.Between w) : Ends loop env w (fun _ w' => R.OverOrBetween w') R.seen := by
  have cmd {v : World} (between : R.Between v) : v.handle.cmd = h.cmd := by
    obtain ⟨st, -, i⟩ := between
    exact i.1.field Handle.cmd fun _ => rfl
  have shown {v : World} (between : R.Between v) : R.seen v := R.seen_of_overOrBetween (.inr between)
  have busy : ¬ (w.handle.cmd == cmdIdle) = true := by
    intro idle
    have same : h.cmd = cmdIdle := (cmd between).symm.trans (beq_iff_eq.mp idle)
    rw [same] at memory
    cases memory
  unfold loop
  rw [ends_bind, ends_look, if_neg busy]
  refine Within.bind_ends (S := LinkStep) inferInstance (fun now w₁ link => ?_)
    fun w₁ link => shown (R.between_link between link)
  have between₁ := R.between_link between link
  split
  · refine Within.bind_ends (S := LinkStep) inferInstance (fun _ w₂ link => ?_)
      fun w₂ link => shown (R.between_link between₁ link)
    obtain ⟨st, -, i⟩ := R.between_link between₁ link
    rw [ends_bind]
    refine (R.ends_over i.1.live (R.settles i.2)).mono (fun _ w₃ through => ?_) fun _ => id
    have quiet : Within env LinkStep (setResponseCode responseCodeOk) := inferInstance
    refine (quiet.ends w₃).mono (fun _ w₄ link => ?_) fun w₄ link => ?_
    · have kept := congrArg (fun w : World => w.handle.cmd) link.kept
      exact .inl ⟨kept.trans through.1, R.rests through.2 link⟩
    · exact R.remains (R.rests through.2 link)
  · unfold stepCommand
    refine Within.bind_ends (S := LinkStep) inferInstance (fun _ w₂ link => ?_)
      fun w₂ link => shown (R.between_link between₁ link)
    have between₂ := R.between_link between₁ link
    rw [cmd between, ends_bind]
    refine (CommandInvariant.ends_runCommand_of_turn memory ((R.ends_turn settled between₂).mono
      (fun _ _ => id) fun _ => R.shows) fun w' link => ?_).mono (fun finished w₃ turned => ?_)
      fun _ => id
    · obtain ⟨st, -, i⟩ := R.between_link between₂ link
      exact ⟨⟨i.1.live, R.settles i.2⟩, R.shows (R.safe i.2)⟩
    · refine Ends.when (fun done => ?_) fun onward => ?_
      · rw [if_pos done] at turned
        exact (R.ends_over turned.1 turned.2).mono (fun _ _ through => .inl through) fun _ => id
      · rw [onward] at turned
        exact .inr turned

theorem of_whileRunning (memory : isMemoryCmd h.cmd = true) (settled : h.Settled)
    (between : R.Between w₁) (states : WhileRunning env w₁ w) : R.OverOrBetween w := by
  induction states with
  | start => exact .inr between
  | turn before busy ran ih =>
    have goes := ih.resolve_left fun through => busy through.1
    exact (ends_iff.mp (R.ends_turnOfLoop memory settled goes)).1 () _ ran

/-- What can be seen of the command, between its turns or in one that is cut off. -/
theorem of_seenWhileRunning (memory : isMemoryCmd h.cmd = true) (settled : h.Settled)
    (between : R.Between w₁) (states : SeenWhileRunning env w₁ w) : R.seen w := by
  cases states with
  | between states =>
    exact R.seen_of_overOrBetween (R.of_whileRunning memory settled between states)
  | inside states busy =>
    have goes := (R.of_whileRunning memory settled between states).resolve_left
      fun through => busy through.1
    exact ((R.ends_turnOfLoop memory settled goes).mono
      (fun _ _ => R.seen_of_overOrBetween) fun _ => id).state

end CommandRule

/-! ## The turn that takes the command up -/

/-- The turn before, with a frame for the memory. -/
structure TakesUp (R : Readiness env) (w₀ w₁ : World) : Prop where
  reach : Reach env w₀
  rest : R.rest w₀
  idle : w₀.handle.cmd = cmdIdle
  received : loop env w₀ = (some (), w₁)
  memory : isMemoryCmd w₁.handle.cmd = true

variable {R : Readiness env}

/-- The command was parsed and its memory set up, and nothing has happened since. -/
theorem TakesUp.parsed (t : TakesUp R w₀ w₁) :
    ∃ w, w₁ = { w with trace := .accepted w.handle :: w.trace } ∧ Parsed R w := by
  refine parsed_of_busy t.reach t.rest t.idle t.received fun idle => ?_
  have memory := t.memory
  rw [idle] at memory
  cases memory

/-- It stands before its first phase. -/
theorem TakesUp.begun (t : TakesUp R w₀ w₁) :
    (∃ w, w₁ = { w with trace := .accepted w.handle :: w.trace } ∧ Accepted env w ∧ R.ready w) ∧
      Engaged w₁.handle .beforeInit w₁ ∧ w₁.handle.Settled := by
  obtain ⟨w, rfl, parsed⟩ := t.parsed
  obtain ⟨decoded, known, setUp⟩ := parsed.memory t.memory
  obtain ⟨driver, found, allowed, same, setter⟩ := setUp.handle
  refine ⟨⟨w, rfl, ?_, setUp.ready⟩, ?_, CommandInvariant.settled_of_setUp same⟩
  · exact ⟨parsed.attended.comMode, parsed.attended.queue, parsed.state,
      fun _ => ⟨driver, decoded, known, found, allowed, same, setter⟩⟩
  · refine ⟨rfl, ?_, parsed.attended.comMode, parsed.attended.queue⟩
    show w.handle.operationState &&& 0x7F = 0
    rw [parsed.state]
    exact BitVec.zero_and

/-! ## The register between the commands -/

/-- From an empty control register to an empty one. -/
def EmptyStep (s s' : World) : Prop := s.controlRegister = 0 → s'.controlRegister = 0

instance : HostFrame EmptyStep where
  refl _ := id
  trans _ _ _ first rest := rest ∘ first
  talk s s' talk := by
    have control := congrArg World.controlRegister talk.kept
    exact Eq.trans control

theorem EmptyStep.within_write (reg : U8) :
    Within env EmptyStep (rurpWriteToRegister reg 0) := by
  have keeps (f : World → World) (same : ∀ w, (f w).controlRegister = w.controlRegister) :
      Within env EmptyStep (update f : Fw Unit) := Within.update f fun w => Eq.trans (same w)
  have lsb := keeps (fun w => { w with lsbAddress := (0 : Reg).setWidth 8 }) fun _ => rfl
  have msb := keeps (fun w => { w with msbAddress := (0 : Reg).setWidth 8 }) fun _ => rfl
  have (now : U32) := keeps (fun w => { w with regulatorOffMs := now }) fun _ => rfl
  have : Within env EmptyStep (update fun w => { w with controlRegister := 0 } : Fw Unit) :=
    Within.update _ fun _ _ => rfl
  have (data : Reg) : Within env EmptyStep (note (.control data)) := Within.update _ fun _ => id
  have (pin : U8) (state : Bool) : Within env EmptyStep (rurpSetControlPin pin state) := by
    refine Within.update _ fun w => ?_
    unfold World.strobed
    split_ifs <;> exact id
  have (reg : U8) (data : Reg) : Within env EmptyStep (rurpInternalWriteToRegister reg data) := by
    unfold rurpInternalWriteToRegister
    infer_instance
  have (old : Reg) : Within env EmptyStep (writeControlRegister old 0) := by
    unfold writeControlRegister
    infer_instance
  unfold rurpWriteToRegister
  infer_instance

/-- The end of a command empties the register. -/
theorem ends_commandDone_empty (w : World) :
    Ends commandDone env w (fun _ w' => w'.controlRegister = 0) (fun _ => True) := by
  have (reg : U8) : Within env EmptyStep (rurpWriteToRegister reg 0) := EmptyStep.within_write reg
  have : Within env EmptyStep (setHandle fun h => { h with cmd := cmdIdle }) :=
    Within.update _ fun _ => id
  have : Within env EmptyStep (note .finished) := Within.update _ fun _ => id
  unfold commandDone
  rw [ends_bind]
  refine ends_any _ (fun _ w₁ => ?_) fun _ => trivial
  rw [ends_bind]
  refine ends_any _ (fun _ w₂ => ?_) fun _ => trivial
  rw [ends_bind]
  refine (ends_writeControl w₂ 0).mono (fun _ w₃ written => ?_) fun _ => False.elim
  have rest : Within env EmptyStep (do
      rurpWriteToRegister leastSignificantByte 0
      rurpWriteToRegister mostSignificantByte 0
      setHandle fun h => { h with cmd := cmdIdle }
      rurpSetCommunicationMode
      note .finished) := inferInstance
  exact (rest.ends w₃).mono (fun _ _ step => step written.value) fun _ _ => trivial

/-- From address line 16 low to low. -/
def LowStep (s s' : World) : Prop :=
  s.controlRegister.getLsbD 0 = false → s'.controlRegister.getLsbD 0 = false

instance : HostFrame LowStep where
  refl _ := id
  trans _ _ _ first rest := rest ∘ first
  talk s s' talk := by
    have control := congrArg (fun w : World => w.controlRegister.getLsbD 0) talk.kept
    exact Eq.trans control

instance : HandleFrame LowStep := ⟨fun _ _ _ => id, fun _ _ => id⟩

/-- The address a memory is set up with has line 16 low. -/
theorem ends_setAddress_low (layout : env.build.hardwareRevision = true) (w : World) :
    Ends (memUtilSetAddress 0) env w (fun _ w' => w'.controlRegister.getLsbD 0 = false)
      (fun _ => True) := by
  unfold memUtilSetAddress rurpReadControlRegister rurpGetHardwareRevision
  rw [ends_bind]
  refine ends_any _ (fun _ w₁ => ?_) fun _ => trivial
  rw [ends_bind]
  refine ends_any _ (fun _ w₂ => ?_) fun _ => trivial
  simp only [ends_bind, ends_build, ends_look, ends_pure, ends_getHandle]
  refine (ends_writeControl w₂ _).mono (fun _ w₃ written => ?_) fun _ => False.elim
  rw [ends_note]
  show w₃.controlRegister.getLsbD 0 = false
  rw [written.value, topAddress_bit layout 0 (by decide)]
  rfl

/-- Setting a memory up switches nothing on, and leaves address line 16 low. -/
theorem ends_configureMemory_low (layout : env.build.hardwareRevision = true)
    (empty : w.controlRegister = 0) :
    Ends configureMemory env w
      (fun _ w' => NoHighVoltage env.build w'.controlRegister ∧
        w'.controlRegister.getLsbD 0 = false)
      (fun _ => True) := by
  have := FiveVoltStep.addressFrame layout
  have switches : Within env (FiveVoltStep env.build) configureMemory := inferInstance
  have from0 : w.controlRegister.getLsbD 0 = false := by
    rw [empty]
    rfl
  have stays {m : Fw Unit} (h : Handle) (quiet : Within env LowStep m) :
      Ends m env { w with handle := h } (fun _ w' => w'.controlRegister.getLsbD 0 = false)
        (fun _ => True) :=
    (quiet.ends _).mono (fun _ _ step => step from0) fun _ _ => trivial
  have line : Ends configureMemory env w (fun _ w' => w'.controlRegister.getLsbD 0 = false)
      (fun _ => True) := by
    unfold configureMemory
    simp only [ends_bind, ends_setHandle, ends_getHandle, ends_build]
    split
    · exact stays _ inferInstance
    rw [ends_bind, ends_setHandle]
    split
    · unfold configureNotImplemented
      rw [ends_bind, ends_setHandle, ends_bind, ends_getHandle]
      exact stays _ inferInstance
    · rename_i driver _
      have configures : Within env LowStep (configureDriver driver) := inferInstance
      unfold prepareBus
      rw [ends_bind, ends_bind, ends_memUtilSetReadHighMask, ends_bind, ends_getHandle, ends_bind]
      refine ends_any _ (fun _ w₁ => ?_) fun _ => trivial
      refine (ends_setAddress_low layout w₁).mono (fun _ w₂ low => ?_) fun _ => id
      exact (configures.ends w₂).mono (fun _ _ step => step low) fun _ _ => trivial
  refine ((switches.ends w).and line).mono (fun _ w' both => ⟨(both.1 ?_).1, both.2⟩)
    fun _ _ => trivial
  rw [empty]
  exact NoHighVoltage.zero env.build

/-- Nothing but an idle firmware listens, and then the register is empty. -/
def Readiness.emptyRegister (env : Env) : Readiness env where
  rest w := w.controlRegister = 0
  fresh w := w.controlRegister = 0
  ready w := env.build.hardwareRevision = true →
    NoHighVoltage env.build w.controlRegister ∧ w.controlRegister.getLsbD 0 = false
  receives empty := empty
  rests empty step := by
    have control := congrArg World.controlRegister step.kept
    exact Eq.trans control empty
  listens empty step := by
    have control := congrArg World.controlRegister step.kept
    exact Eq.trans control empty
  waits low step := by
    have control := congrArg World.controlRegister step.kept
    have control : _ = _ := control
    exact fun layout => control ▸ low layout
  configures {w} empty := by
    by_cases layout : env.build.hardwareRevision = true
    · exact (ends_configureMemory_low layout empty).mono (fun _ _ low _ => low) fun _ => id
    · exact ends_any _ (fun _ _ there => absurd there layout) fun _ => trivial
  settles empty := empty
  passes _ empty := empty
  finishes := ends_commandDone_empty

theorem Readiness.powersUp_emptyRegister (w : World) :
    Ends setup env w (fun _ w' => (Readiness.emptyRegister env).rest w') (fun _ => True) := by
  unfold setup rurpBoardSetup
  rw [ends_bind, ends_bind, ends_build, ends_bind]
  refine ends_any _ (fun _ w₁ => ?_) fun _ => trivial
  rw [ends_bind]
  refine ends_any _ (fun _ w₂ => ?_) fun _ => trivial
  rw [ends_bind]
  refine ends_any _ (fun _ w₃ => ?_) fun _ => trivial
  rw [ends_bind]
  refine ends_any _ (fun _ w₄ => ?_) fun _ => trivial
  rw [ends_bind]
  refine (ends_writeControl w₄ 0).mono (fun _ w₅ written => ?_) fun _ => False.elim
  refine (Within.ends (R := EmptyStep) ?opened w₅).mono (fun _ w₆ step => ?_) fun _ _ => trivial
  case opened =>
    unfold whileLoop
    cases env.build.board <;> infer_instance
  have empty := step written.value
  refine Within.bind_ends (S := IdleStep) inferInstance (fun _ w₇ step₇ => ?_) fun _ _ => trivial
  rw [ends_bind, ends_build]
  refine Within.bind_ends (S := IdleStep) inferInstance (fun _ w₈ step₈ => ?_) fun _ _ => trivial
  rw [ends_setHandle]
  have kept : (Readiness.emptyRegister env).rest w₈ :=
    (Readiness.emptyRegister env).rests empty (trans_of IdleStep step₇ step₈).shieldStep
  exact kept

/-- The runs of any commands, as far as the register between them is concerned. -/
def emptyRegisterRuns (env : Env) : CommandInvariant env where
  toReadiness := Readiness.emptyRegister env
  command h := (commandLaw env h).invariant
  law _ _ := True
  powersUp _ := Readiness.powersUp_emptyRegister _
  begins _ accepted _ _ := ⟨accepted.queue, [], rfl, trivial⟩
  lawful kept := kept.2
  concludes kept live := EventLaw.ends_concluded kept live
  idles _ _ := trivial

/-- Whenever the firmware is idle, the control register is empty. -/
theorem emptyRegister_of_idle (reach : Reach env w) (idle : w.handle.cmd = cmdIdle) :
    w.controlRegister = 0 := by
  cases (emptyRegisterRuns env).running_of_reach reach with
  | idle _ rest => exact rest
  | memory h memory _ between =>
    obtain ⟨st, -, i⟩ := between
    have same : w.handle.cmd = h.cmd := i.1.field Handle.cmd fun _ => rfl
    rw [← same, idle] at memory
    cases memory
  | other _ _ busy => exact (busy idle).elim

/-- So no switch of it is on. -/
theorem noHighVoltage_of_idle (reach : Reach env w) (idle : w.handle.cmd = cmdIdle) :
    NoHighVoltage env.build w.controlRegister := by
  rw [emptyRegister_of_idle reach idle]
  exact NoHighVoltage.zero env.build

/-- Any memory command of a run is taken up from such a state. -/
theorem takesUp_emptyRegister (reach : Reach env w₀) (idle : w₀.handle.cmd = cmdIdle)
    (received : loop env w₀ = (some (), w₁)) (memory : isMemoryCmd w₁.handle.cmd = true) :
    TakesUp (Readiness.emptyRegister env) w₀ w₁ :=
  ⟨reach, emptyRegister_of_idle reach idle, idle, received, memory⟩

/-! ## Runs on fixed inputs -/

/-- Some turns of a command after it was taken up, if none of them is cut off. -/
def turnsAfter (env : Env) (w₁ : World) : Nat → Option World
  | 0 => some w₁
  | n + 1 => do
    let w ← turnsAfter env w₁ n
    if w.handle.cmd = cmdIdle then none
    else
      match loop env w with
      | (some (), w') => some w'
      | (none, _) => none

theorem whileRunning_of_turnsAfter {n : Nat} (after : turnsAfter env w₁ n = some w) :
    WhileRunning env w₁ w := by
  induction n generalizing w with
  | zero =>
    obtain rfl := Option.some.inj after
    exact .start
  | succ n ih =>
    obtain ⟨v, earlier, after⟩ := Option.bind_eq_some_iff.mp after
    split at after
    · cases after
    · rename_i busy
      split at after
      · rename_i ran
        obtain rfl := Option.some.inj after
        exact .turn (ih earlier) busy ran
      · cases after

theorem exists_of_turnsAfter {α : Type} {n : Nat} {told : World → World → α} {a : α}
    (ran : ((stateAfter env .blank 0).bind fun w₀ => (stateAfter env .blank 1).bind fun w₁ =>
      (turnsAfter env w₁ n).map fun w => (w₀.handle.cmd, told w₁ w)) = some (cmdIdle, a)) :
    ∃ w₀ w₁ w, stateAfter env .blank 0 = some w₀ ∧ w₀.handle.cmd = cmdIdle ∧
      loop env w₀ = (some (), w₁) ∧ WhileRunning env w₁ w ∧ told w₁ w = a := by
  obtain ⟨w₀, first, ran⟩ := Option.bind_eq_some_iff.mp ran
  obtain ⟨w₁, second, ran⟩ := Option.bind_eq_some_iff.mp ran
  obtain ⟨w, after, ran⟩ := Option.map_eq_some_iff.mp ran
  obtain ⟨idle, told⟩ := Prod.mk.inj ran
  obtain ⟨v, same, second⟩ := Option.bind_eq_some_iff.mp second
  obtain rfl := Option.some.inj (same.symm.trans first)
  refine ⟨v, w₁, w, first, idle, ?_, whileRunning_of_turnsAfter after, told⟩
  split at second
  · rename_i taken
    obtain rfl := Option.some.inj second
    exact taken
  · cases second

/-- The events of a command, newest first. -/
def eventsSince (w₁ w : World) : List Event := w.trace.take (w.trace.length - w₁.trace.length)

theorem eventsSince_eq {new : List Event} (trace : w.trace = new ++ w₁.trace) : eventsSince w₁ w = new := by
  unfold eventsSince
  rw [trace, List.length_append, Nat.add_sub_cancel, List.take_left]

end Firestarter
