import Firestarter.CommandSetup

/-! The runs of the firmware, seen as the runs of its commands: an invariant that a memory command
keeps from its acceptance to its end holds of the events of every memory command of every run. -/
namespace Firestarter

open Interactive Interactive.Prog

set_option synthInstance.maxSize 4000

variable {env : Env}

/-! ## Commands without a chip -/

/-- A step of any command: it neither begins another one nor takes its place. -/
abbrev CommandStep (env : Env) : World → World → Prop :=
  Moves (fun w => (w.handle.cmd, env.build.serialOnIo || w.comMode)) fun e => !e.isBoundary

theorem LinkStep.commandStep {s s' : World} (h : LinkStep s s') : CommandStep env s s' :=
  Moves.mono h (fun w => (w.handle.cmd, env.build.serialOnIo || w.comMode)) (fun _ => rfl)
    fun e noise => by rw [Event.isBoundary_of_report noise]; rfl

theorem DriverStep.commandStep {s s' : World} (h : DriverStep s s') : CommandStep env s s' :=
  Moves.mono h (fun w => (w.handle.cmd, env.build.serialOnIo || w.comMode)) (fun _ => rfl)
    fun e noise => by rw [Event.isBoundary_of_isNoise noise]; rfl

section

instance (priority := low) commandOfLink {α : Type} (m : Fw α) [h : Within env LinkStep m] :
    Within env (CommandStep env) m := h.weaken fun _ _ => LinkStep.commandStep

instance : BusFrame env (CommandStep env) where
  bus s s' _ same := by
    have kept := congrArg (fun w : World => (w.handle.cmd, env.build.serialOnIo || w.comMode)) same
    exact Moves.of_bus kept same

instance : SenseFrame (CommandStep env) where
  sense s e passive := (SenseFrame.sense (R := DriverStep) s e passive).commandStep

instance : LatchFrame (CommandStep env) where
  strobe s reg byte latches offAt :=
    (LatchFrame.strobe (R := DriverStep) s reg byte latches offAt).commandStep

instance : CacheFrame (CommandStep env) where
  cache s lsb msb control offMs :=
    (CacheFrame.cache (R := DriverStep) s lsb msb control offMs).commandStep
  control s data := (CacheFrame.control (R := DriverStep) s data).commandStep
  addressed s control latches offFor :=
    (CacheFrame.addressed (R := DriverStep) s control latches offFor).commandStep

instance : ReportFrame env (CommandStep env) where
  report id params report := (ReportFrame.report (R := DriverStep) id params report).weaken
    fun _ _ => DriverStep.commandStep
  respond code := (ReportFrame.respond (R := DriverStep) code).weaken
    fun _ _ => DriverStep.commandStep

/-- Only the Uno class changes modes, and there the mode is not kept. -/
theorem ModeStep.commandStep {s s' : World} (serialOnIo : env.build.serialOnIo = true)
    (h : ModeStep s s') : CommandStep env s s' :=
  Moves.mono h (fun w => (w.handle.cmd, true)) (fun _ => by rw [serialOnIo]; rfl)
    fun e noise => by rw [Event.isBoundary_of_report noise]; rfl

instance : Within env (CommandStep env) rurpSetProgrammerMode := by
  cases serialOnIo : env.build.serialOnIo with
  | true =>
    exact (inferInstance : Within env ModeStep rurpSetProgrammerMode).weaken
      fun _ _ => ModeStep.commandStep serialOnIo
  | false =>
    unfold rurpSetProgrammerMode
    have : Within env (CommandStep env) (when env.build.serialOnIo do
        update fun w => { w with comMode := false }
        rurpSerialEnd) := by
      rw [serialOnIo]
      exact Within.pure ()
    infer_instance

instance : Within env (CommandStep env) rurpSetCommunicationMode := by
  cases serialOnIo : env.build.serialOnIo with
  | true =>
    exact (inferInstance : Within env ModeStep rurpSetCommunicationMode).weaken
      fun _ _ => ModeStep.commandStep serialOnIo
  | false =>
    unfold rurpSetCommunicationMode
    refine within_iff_ends.mpr fun w => ?_
    rw [ends_bind, ends_build]
    refine Ends.when (fun there => ?_) fun _ => refl_of (CommandStep env) w
    rw [serialOnIo] at there
    cases there

theorem Delivered.commandStep {kind : OpMessageType} {s s' : World} (h : Delivered kind s s') :
    CommandStep env s s' := by
  cases h with
  | incomplete link => exact link.commandStep
  | plain kind notData taken link =>
    refine trans_of (CommandStep env) link.commandStep ?_
    exact Moves.of_note _ rfl rfl
  | @data _ w size link =>
    refine trans_of (CommandStep env) link.commandStep ?_
    exact ⟨rfl, fun reports => ⟨reports, [_], rfl, by simp [Event.isBoundary]⟩⟩

instance : Within env (CommandStep env) opGetMessage :=
  within_iff_ends.mpr fun w => (ends_opGetMessage w).mono (fun _ _ heard => heard.commandStep)
    fun _ link => link.commandStep

instance (text : List U8) : Within env (CommandStep env) (note (.printed text)) :=
  Within.update _ fun _ => Moves.of_note _ rfl rfl

/-- A change of the handle that keeps the command is a step of it. -/
theorem CommandStep.setHandle (env : Env) (f : Handle → Handle) (cmd : ∀ h, (f h).cmd = h.cmd) :
    Within env (CommandStep env) (setHandle f) :=
  Within.update _ fun w => Moves.of_silent (by simp only [cmd]) rfl rfl

instance : Within env LinkStep logReady := by
  unfold logReady logIdU16
  infer_instance

instance : Within env (CommandStep env) hwReadVoltage := by
  have := CommandStep.setHandle env (fun h => { h with operationState := 1 }) fun _ => rfl
  unfold hwReadVoltage hwStartVoltage hwSampleVoltage
  infer_instance

instance : Within env (CommandStep env) fwGetVersion := by
  unfold fwGetVersion
  infer_instance

instance : Within env (CommandStep env) hwGetVersion := by
  unfold hwGetVersion
  infer_instance

instance : Within env (CommandStep env) hwGetConfig := by
  unfold hwGetConfig sampleBandgap
  infer_instance

instance : Within env LinkStep dtAwaitPayload := by
  unfold dtAwaitPayload whileLoop
  infer_instance

instance : Within env LinkStep dtReadByte := by
  unfold dtReadByte
  infer_instance

instance : Within env LinkStep dtReportChipFlags := by
  unfold dtReportChipFlags
  infer_instance

instance (msb lsb : U8) (ctrl : U16) (remapped view : U8) :
    Within env LinkStep (dtReportRegisters msb lsb ctrl remapped view) := by
  unfold dtReportRegisters
  infer_instance

instance : Within env (CommandStep env) dtHold := by
  unfold dtHold dtWaitForButton whileLoop rurpUserButtonPressed
  infer_instance

instance (msb lsb high low : U8) :
    Within env (CommandStep env) (dtApplyRegisters msb lsb high low) := by
  unfold dtApplyRegisters
  infer_instance

instance : Within env (CommandStep env) dtSetRegisters := by
  unfold dtSetRegisters
  infer_instance

instance : Within env (CommandStep env) memUtilSetReadHighMask :=
  within_iff_ends.mpr fun w => (ends_memUtilSetReadHighMask w).mpr (Moves.of_silent rfl rfl rfl)

instance : Within env (CommandStep env) dtSetAddress := by
  unfold dtSetAddress
  refine within_bind inferInstance fun _ => within_bind inferInstance fun _ =>
    within_bind inferInstance fun _ => within_bind inferInstance fun _ =>
    within_bind inferInstance fun _ => within_bind inferInstance fun _ => ?_
  infer_instance

instance (ctrl : Reg) : Within env (CommandStep env) (dtSampleAdc ctrl) := by
  unfold dtSampleAdc
  infer_instance

instance : Within env (CommandStep env) dtReadAdc := by
  unfold dtReadAdc dtEmitAdcFrame
  infer_instance

end

/-- The turn of any other command keeps its events its own. -/
theorem within_runCommand (cmd : U8) (other : isMemoryCmd cmd = false) :
    Within env (CommandStep env) (runCommand cmd) := by
  unfold runCommand
  simp only [isMemoryCmd, Bool.or_eq_false_iff] at other
  obtain ⟨⟨⟨⟨⟨⟨read, write⟩, erase⟩, chipId⟩, unlock⟩, lock⟩, status⟩ := other
  rw [read, write, erase, chipId, unlock, lock, status]
  simp only [Bool.false_eq_true, if_false]
  infer_instance

/-! ## Power-up -/

section

instance : Within env IdleStep rurpLoadConfig := by
  have := IdleStep.update env
    (fun w => match w.stored with
      | some config => { w with config := config }
      | none => { w with config := { w.config with version := 0 :: w.config.version.tail } })
    (fun w => by cases w.stored <;> rfl) (fun w => by cases w.stored <;> rfl)
    (fun w => by cases w.stored <;> rfl)
  have (config : Configuration) := IdleStep.update env (fun w => { w with config := config })
    (fun _ => rfl) (fun _ => rfl) fun _ => rfl
  unfold rurpLoadConfig rurpValidateConfig
  infer_instance

instance : Within env IdleStep rurpDetectHardwareRevision := by
  have (revision : U8) := IdleStep.update env (fun w => { w with revision := revision })
    (fun _ => rfl) (fun _ => rfl) fun _ => rfl
  unfold rurpDetectHardwareRevision
  infer_instance

end

/-- The three boards end their setup ready to speak. -/
theorem ends_rurpBoardSetup {w : World} (comMode : w.comMode = true) :
    Ends rurpBoardSetup env w (fun _ w' => EndStep w w' ∧ w'.comMode = true) (EndStep w) := by
  have driven {m : Fw Unit} (h : Within env DriverStep m) {w : World} (comMode : w.comMode = true) :
      Ends m env w (fun _ w' => EndStep w w' ∧ w'.comMode = true) (EndStep w) := by
    refine (h.ends w).mono (fun _ w' moved => ⟨?_, ?_⟩) fun w' moved => ?_
    · exact Moves.endStep moved fun _ noise => noise
    · have kept := congrArg World.comMode moved.kept
      exact kept.trans comMode
    · exact Moves.endStep moved fun _ noise => noise
  have onward {m : Fw Unit} {f : Unit → Fw Unit} {v : World} (moved : EndStep w v)
      (comMode : v.comMode = true) (first : Within env DriverStep m)
      (rest : ∀ v', EndStep w v' → v'.comMode = true →
        Ends (f ()) env v' (fun _ w' => EndStep w w' ∧ w'.comMode = true) (EndStep w)) :
      Ends (m >>= f) env v (fun _ w' => EndStep w w' ∧ w'.comMode = true) (EndStep w) := by
    refine (ends_bind _ _).mpr ((driven first comMode).mono (fun _ v' h => ?_) fun v' h => ?_)
    · exact rest v' (trans_of EndStep moved h.1) h.2
    · exact trans_of EndStep moved h
  have last {m : Fw Unit} {v : World} (moved : EndStep w v)
      (h : Ends m env v (fun _ w' => EndStep v w' ∧ w'.comMode = true) (EndStep v)) :
      Ends m env v (fun _ w' => EndStep w w' ∧ w'.comMode = true) (EndStep w) :=
    h.mono (fun _ _ h => ⟨trans_of EndStep moved h.1, h.2⟩) fun _ h => trans_of EndStep moved h
  have speaks (v : World) (comMode : v.comMode = true) :
      Ends rurpSetCommunicationMode env v (fun _ w' => EndStep v w' ∧ w'.comMode = true)
        (EndStep v) := by
    refine (ends_rurpSetCommunicationMode v).mono (fun _ w' h => ⟨?_, h.2 fun _ => comMode⟩)
      fun w' h => ?_
    · exact Moves.endStep h.1 fun _ => Event.isNoise_of_report
    · exact Moves.endStep h fun _ => Event.isNoise_of_report
  unfold rurpBoardSetup
  rw [ends_bind, ends_build]
  refine onward (refl_of EndStep w) comMode inferInstance fun _ moved comMode =>
    onward moved comMode inferInstance fun _ moved comMode =>
    onward moved comMode inferInstance fun _ moved comMode =>
    onward moved comMode inferInstance fun _ moved comMode =>
    onward moved comMode inferInstance fun v moved comMode => ?_
  cases env.build.board with
  | uno => exact last moved (speaks v comMode)
  | uno328pb => exact last moved (speaks v comMode)
  | leonardo =>
    refine last moved (driven ?_ comMode)
    unfold whileLoop
    infer_instance
  | py32f071 =>
    refine last moved (driven ?_ comMode)
    unfold rurpSerialBegin whileLoop
    infer_instance

theorem ends_setup {w : World} (fresh : w.PoweredUp) :
    Ends setup env w (fun _ w' => Idle w' ∧ commandEvents w'.trace = none)
      (fun w' => commandEvents w'.trace = none) := by
  have comMode : w.comMode = true := by rw [fresh]
  have queue : w.QueuesReports := by
    rw [fresh]
    exact ⟨nofun, fun _ => rfl⟩
  have events : commandEvents w.trace = none := by rw [fresh]; rfl
  have quiet {v v' : World} {κ : Type} {part : World → κ} {noise : Event → Bool}
      (moved : Moves part noise v v') (queue : v.QueuesReports)
      (inside : ∀ e, noise e = true → e.isBoundary = false) (events : commandEvents v.trace = none) :
      v'.QueuesReports ∧ commandEvents v'.trace = none :=
    ⟨(moved.adds queue).1, commandEvents_none_of_moves moved queue inside events⟩
  unfold setup
  rw [ends_bind]
  refine (ends_rurpBoardSetup comMode).mono (fun _ w₁ moved => ?_)
    fun w₁ moved => (quiet moved queue (fun _ => Event.isBoundary_of_isNoise) events).2
  obtain ⟨moved, comMode⟩ := moved
  obtain ⟨queue, events⟩ := quiet moved queue (fun _ => Event.isBoundary_of_isNoise) events
  refine Within.bind_ends (S := IdleStep) inferInstance (fun _ w₂ moved => ?_)
    fun w₂ moved => (quiet moved queue (fun _ => Event.isBoundary_of_idle) events).2
  have kept := congrArg World.comMode moved.kept
  replace comMode : w₂.comMode = true := kept.trans comMode
  obtain ⟨queue, events⟩ := quiet moved queue (fun _ => Event.isBoundary_of_idle) events
  rw [ends_bind, ends_build]
  refine Within.bind_ends (S := IdleStep) inferInstance (fun _ w₃ moved => ?_)
    fun w₃ moved => (quiet moved queue (fun _ => Event.isBoundary_of_idle) events).2
  have kept := congrArg World.comMode moved.kept
  obtain ⟨queue, events⟩ := quiet moved queue (fun _ => Event.isBoundary_of_idle) events
  exact ⟨⟨rfl, kept.trans comMode, queue⟩, events⟩

/-! ## The rule over runs -/

/-- The main phase of a memory command. -/
def mainPump (cmd : U8) : Fw Bool :=
  if cmd == cmdRead then processOutgoingData
  else if cmd == cmdWrite then processIncomingData
  else singleStepOperationCallback dispatch

/-- An invariant of every memory command and the law it gives for the command's events. -/
structure CommandInvariant (env : Env) extends Readiness env where
  command : ∀ h : Handle, PhaseInvariant env h (mainPump h.cmd)
  law : Handle → List Event → Prop
  powersUp : ∀ {w : World}, w.PoweredUp →
    Ends setup env w (fun _ w' => rest w') (fun _ => True)
  begins : ∀ {w : World}, isMemoryCmd w.handle.cmd = true → Accepted env w → ready w →
    commandEvents w.trace = none →
    (command w.handle).holds .beforeInit { w with trace := .accepted w.handle :: w.trace }
  lawful : ∀ {h : Handle} {w : World}, (command h).always w →
    ∃ es, commandEvents w.trace = some (h, es) ∧ law h es
  concludes : ∀ {h : Handle} {w : World}, (command h).always w → Live w →
    Ends commandDone env w
      (fun _ w' => ∃ es, commandEvents w'.trace = some (h, es) ∧ law h es)
      (fun w' => ∃ es, commandEvents w'.trace = some (h, es) ∧ law h es)
  idles : ∀ {h : Handle} {es new : List Event}, law h es →
    (∀ e ∈ new, e.isReportNoise = true ∧ e.sends isSetApart = false) → law h (es ++ new)

namespace CommandInvariant

variable (I : CommandInvariant env)

/-- The events of the last memory command obey the law. -/
def Lawful (w : World) : Prop :=
  ∀ h es, commandEvents w.trace = some (h, es) → isMemoryCmd h.cmd = true → I.law h es

/-- What holds between two turns of the loop. -/
inductive Running (w : World) : Prop
  | idle (idle : Idle w) (rest : I.rest w) (lawful : I.Lawful w)
  | memory (h : Handle) (memory : isMemoryCmd h.cmd = true) (settled : h.Settled)
      (between : (I.command h).Between w)
  | other (live : env.build.serialOnIo = false → w.comMode = true) (queue : w.QueuesReports)
      (busy : w.handle.cmd ≠ cmdIdle) (other : isMemoryCmd w.handle.cmd = false)
      (events : ∃ h es, commandEvents w.trace = some (h, es) ∧ h.cmd = w.handle.cmd)

theorem lawful_of_known {h : Handle} {w : World}
    (known : ∃ es, commandEvents w.trace = some (h, es) ∧ I.law h es) : I.Lawful w := by
  obtain ⟨es, events, law⟩ := known
  intro h' es' events' _
  rw [events] at events'
  obtain ⟨rfl, rfl⟩ := Prod.mk.inj (Option.some.inj events')
  exact law

theorem lawful_of_always {h : Handle} {w : World} (always : (I.command h).always w) :
    I.Lawful w := I.lawful_of_known (I.lawful always)

theorem lawful_of_none {w : World} (absent : commandEvents w.trace = none) : I.Lawful w := by
  intro h es events
  rw [absent] at events
  cases events

theorem lawful_of_other {w : World}
    (events : ∃ h es, commandEvents w.trace = some (h, es) ∧ isMemoryCmd h.cmd = false) :
    I.Lawful w := by
  obtain ⟨h, es, events, other⟩ := events
  intro h' es' events' memory
  rw [events] at events'
  obtain ⟨rfl, rfl⟩ := Prod.mk.inj (Option.some.inj events')
  rw [other] at memory
  cases memory

theorem lawful_of_link {w w' : World} (lawful : I.Lawful w) (idle : Idle w)
    (link : LinkStep w w') : I.Lawful w' := by
  have waiting := idle.queue.holdsNone idle.comMode isSetApart
  obtain ⟨-, new, trace, heard⟩ := link.frames link.framesOf idle.queue waiting
  intro h es after memory
  rw [trace, commandEvents_append new fun e member => Event.isBoundary_of_report (heard e member).1]
    at after
  obtain ⟨⟨h', es'⟩, before, same⟩ := Option.map_eq_some_iff.mp after
  obtain ⟨rfl, rfl⟩ := Prod.mk.inj same
  exact I.idles (lawful h' es' before memory)
    fun e member => heard e (List.mem_reverse.mp member)

/-- A command ends from any moment of it. -/
theorem ends_done {h : Handle} {w : World} (live : Live w) (always : (I.command h).always w) :
    Ends commandDone env w (fun _ w' => I.Running w') I.Lawful := by
  refine (((ends_commandDone live.queue fun _ => live.comMode).and (I.finishes w)).and
    (I.concludes always live)).mono (fun _ w' done => ?_) fun w' done => ?_
  · exact .idle done.1.1.1 done.1.2 (I.lawful_of_known done.2)
  · exact I.lawful_of_known done.2

theorem Running.link {w w' : World} (running : I.Running w) (link : LinkStep w w') :
    I.Running w' := by
  cases running with
  | idle idle rest lawful =>
    have cmd := congrArg (fun w : World => w.handle.cmd) link.kept
    have live := Live.link ⟨idle.comMode, idle.queue⟩ link
    exact .idle ⟨cmd.trans idle.cmd, live.comMode, live.queue⟩
      (I.rests rest link.idleStep.shieldStep) (I.lawful_of_link lawful idle link)
  | memory h memory settled between =>
    obtain ⟨st, boundary, i⟩ := between
    exact .memory h memory settled ⟨st, boundary, (I.command h).in_link i link⟩
  | other live queue busy other events =>
    have cmd := congrArg (fun w : World => w.handle.cmd) link.kept
    have mode := congrArg World.comMode link.kept
    have cmd : w'.handle.cmd = w.handle.cmd := cmd
    obtain ⟨queue', new, heard, after⟩ := link.events queue fun _ => Event.isBoundary_of_report
    refine .other (fun absent => mode.trans (live absent)) queue' (cmd ▸ busy) (cmd ▸ other) ?_
    obtain ⟨h, es, events, same⟩ := events
    exact ⟨h, es ++ new, by rw [after, events]; rfl, same.trans cmd.symm⟩

theorem lawful_of_running {w : World} (running : I.Running w) : I.Lawful w := by
  cases running with
  | idle idle rest lawful => exact lawful
  | memory h memory settled between =>
    obtain ⟨st, boundary, i⟩ := between
    exact I.lawful_of_always ((I.command h).safe i.2)
  | other live queue busy other events =>
    obtain ⟨h, es, events, same⟩ := events
    exact I.lawful_of_other ⟨h, es, events, same ▸ other⟩

/-- A parsed command that needs the memory is settled. -/
theorem settled_of_setUp {w : World} {driver : Driver} {b : Build} {hw : U8} {decoded : Handle}
    (same : SameSetup w.handle (driver.setUp b hw decoded)) : w.handle.Settled := by
  obtain ⟨init, main, finish⟩ := driver.setUp_settled b hw decoded
  have initSame := congrArg Handle.firestarterOperationInit same.1
  have mainSame := congrArg Handle.firestarterOperationMain same.1
  have endSame := congrArg Handle.firestarterOperationEnd same.1
  exact ⟨fun h => init (initSame.symm.trans h), fun h => main (mainSame.symm.trans h),
    fun h => finish (endSame.symm.trans h)⟩

theorem running_of_accepted {w : World} (parsed : Parsed I.toReadiness w) :
    I.Running { w with trace := .accepted w.handle :: w.trace } := by
  cases memory : isMemoryCmd w.handle.cmd with
  | true =>
    obtain ⟨decoded, known, setUp⟩ := parsed.memory memory
    obtain ⟨driver, found, allowed, same, setter⟩ := setUp.handle
    have accepted : Accepted env w :=
      ⟨parsed.attended.comMode, parsed.attended.queue, parsed.state,
        fun _ => ⟨driver, decoded, known, found, allowed, same, setter⟩⟩
    refine .memory w.handle memory (settled_of_setUp same) ⟨.beforeInit, rfl, ?_, ?_⟩
    · refine ⟨rfl, ?_, parsed.attended.comMode, parsed.attended.queue⟩
      show w.handle.operationState &&& 0x7F = 0
      rw [parsed.state]
      exact BitVec.zero_and
    · exact I.begins memory accepted setUp.ready parsed.attended.events
  | false =>
    have listening := parsed.other memory
    by_cases idle : w.handle.cmd = cmdIdle
    · refine .idle ⟨idle, listening.comMode, listening.queue⟩
        (I.passes w.handle (I.settles listening.fresh)) ?_
      exact I.lawful_of_other ⟨w.handle, [], rfl, memory⟩
    · exact .other (fun _ => listening.comMode) listening.queue idle memory
        ⟨w.handle, [], rfl, rfl⟩

theorem ends_idleTurn {w : World} (idle : Idle w) (rest : I.rest w) (lawful : I.Lawful w) :
    Ends receiveCommand env w (fun _ w' => I.Running w') I.Lawful := by
  refine (ends_receiveCommand (R := I.toReadiness) idle rest).mono (fun _ w' attended => ?_)
    fun w' cut => ?_
  · cases attended with
    | nothing link => exact Running.link I (.idle idle rest lawful) link
    | refused idle rest events => exact .idle idle rest (I.lawful_of_none events)
    | accepted parsed => exact I.running_of_accepted parsed
  · cases cut with
    | inl link => exact I.lawful_of_link lawful idle link
    | inr events => exact I.lawful_of_none events

/-- The turn of a memory command is the engine's, or a refusal. -/
theorem ends_runCommand_of_turn {cmd : U8} {w : World} {A B C : World → Prop}
    (memory : isMemoryCmd cmd = true)
    (turn : Ends (opExecuteStatefulOperation dispatch (mainPump cmd)) env w
      (fun finished w' => if finished then Live w' ∧ A w' else B w') C)
    (refused : ∀ w', LinkStep w w' → (Live w' ∧ A w') ∧ C w') :
    Ends (runCommand cmd) env w (fun finished w' => if finished then Live w' ∧ A w' else B w') C := by
  simp only [isMemoryCmd, Bool.or_eq_true, beq_iff_eq] at memory
  refine (ends_bind _ _).mpr ?_
  obtain ((((((rfl | rfl) | rfl) | rfl) | rfl) | rfl) | rfl) := memory
  · exact turn
  · exact turn
  · show Ends epromErase env w _ _
    unfold epromErase
    rw [ends_bind, ends_getHandle]
    split
    · exact turn
    · refine Within.bind_ends (S := LinkStep) inferInstance (fun _ w' link => ?_) fun w' link => ?_
      · exact (refused w' link).1
      · exact (refused w' link).2
  · show Ends epromCheckChipId env w _ _
    unfold epromCheckChipId
    rw [ends_bind, ends_getHandle]
    split
    · refine Within.bind_ends (S := LinkStep) inferInstance (fun _ w' link => ?_) fun w' link => ?_
      · exact (refused w' link).1
      · exact (refused w' link).2
    · exact turn
  · exact turn
  · exact turn
  · exact turn

theorem ends_memoryTurn {h : Handle} {w : World} (memory : isMemoryCmd h.cmd = true)
    (settled : h.Settled) (between : (I.command h).Between w) :
    Ends (runCommand h.cmd) env w
      (fun finished w' =>
        if finished then Live w' ∧ (I.command h).always w' else (I.command h).Between w')
      (I.command h).always := by
  refine ends_runCommand_of_turn memory ((I.command h).ends_turn settled between) fun w' link => ?_
  obtain ⟨st, boundary, i⟩ := between
  have always := (I.command h).safe ((I.command h).in_link i link).2
  exact ⟨⟨i.1.live.link link, always⟩, always⟩

/-- A command without a chip ends from any moment of it. -/
theorem ends_otherDone {w : World} (live : env.build.serialOnIo = false → w.comMode = true)
    (queue : w.QueuesReports)
    (events : ∃ h es, commandEvents w.trace = some (h, es) ∧ isMemoryCmd h.cmd = false) :
    Ends commandDone env w (fun _ w' => I.Running w') I.Lawful := by
  have own {w' : World} (step : EndStep w w') :
      ∃ h es, commandEvents w'.trace = some (h, es) ∧ isMemoryCmd h.cmd = false := by
    obtain ⟨h, es, events, other⟩ := events
    obtain ⟨-, new, heard, after⟩ := step.events queue fun _ => Event.isBoundary_of_isNoise
    exact ⟨h, es ++ new, by rw [after, events]; rfl, other⟩
  refine ((ends_commandDone queue live).and (I.finishes w)).mono (fun _ w' done => ?_)
    fun w' done => I.lawful_of_other (own done.1)
  obtain ⟨⟨idle, w₀, step, rfl⟩, rest⟩ := done
  obtain ⟨h, es, events, other⟩ := own step
  refine .idle idle rest (I.lawful_of_other ⟨h, es ++ [.finished], ?_, other⟩)
  show Option.map _ (commandEvents w₀.trace) = _
  rw [events]
  rfl

/-- The step of any command that is running. -/
theorem ends_stepCommand {w : World} (running : I.Running w) (busy : w.handle.cmd ≠ cmdIdle) :
    Ends (stepCommand w.handle.cmd) env w (fun _ w' => I.Running w') I.Lawful := by
  unfold stepCommand
  refine Within.bind_ends (S := LinkStep) inferInstance (fun _ w₁ link => ?_) fun w₁ link => ?_
  · have cmd := congrArg (fun w : World => w.handle.cmd) link.kept
    have cmd : w₁.handle.cmd = w.handle.cmd := cmd
    rw [← cmd] at busy ⊢
    cases Running.link I running link with
    | idle idle rest lawful => exact (busy idle.cmd).elim
    | memory h memory settled between =>
      have same : w₁.handle.cmd = h.cmd := by
        obtain ⟨st, boundary, i⟩ := between
        exact i.1.field Handle.cmd fun _ => rfl
      rw [same, ends_bind]
      refine (I.ends_memoryTurn memory settled between).mono (fun finished w₂ turned => ?_)
        fun w₂ always => I.lawful_of_always always
      refine Ends.when (fun done => ?_) fun onward => ?_
      · rw [if_pos done] at turned
        exact I.ends_done turned.1 turned.2
      · rw [onward] at turned
        exact .memory h memory settled turned
    | other live queue busy other events =>
      obtain ⟨h, es, events, same⟩ := events
      have own {w₂ : World} (moved : CommandStep env w₁ w₂) :
          ∃ es, commandEvents w₂.trace = some (h, es) := by
        obtain ⟨-, new, heard, after⟩ := moved.events queue fun _ inside => by simpa using inside
        exact ⟨es ++ new, by rw [after, events]; rfl⟩
      refine Within.bind_ends (within_runCommand _ other) (fun finished w₂ moved => ?_)
        fun w₂ moved => ?_
      · obtain ⟨es, events⟩ := own moved
        have cmd : w₂.handle.cmd = w₁.handle.cmd := congrArg Prod.fst moved.kept
        have mode : (env.build.serialOnIo || w₂.comMode) = (env.build.serialOnIo || w₁.comMode) :=
          congrArg Prod.snd moved.kept
        have live₂ (absent : env.build.serialOnIo = false) : w₂.comMode = true := by
          rw [absent, Bool.false_or, Bool.false_or] at mode
          exact mode.trans (live absent)
        have queue₂ := (moved.adds queue).1
        refine Ends.when (fun _ => ?_) fun _ => ?_
        · exact I.ends_otherDone live₂ queue₂ ⟨h, es, events, same ▸ other⟩
        · exact .other live₂ queue₂ (cmd ▸ busy) (cmd ▸ other) ⟨h, es, events, same.trans cmd.symm⟩
      · obtain ⟨es, events⟩ := own moved
        exact I.lawful_of_other ⟨h, es, events, same ▸ other⟩
  · exact I.lawful_of_running (Running.link I running link)

/-- A command whose time is up. -/
theorem ends_timeout {w : World} (running : I.Running w) (busy : w.handle.cmd ≠ cmdIdle) :
    Ends commandDone env w (fun _ w' => I.Running w') I.Lawful := by
  cases running with
  | idle idle rest lawful => exact (busy idle.cmd).elim
  | memory h memory settled between =>
    obtain ⟨st, boundary, i⟩ := between
    exact I.ends_done i.1.live ((I.command h).safe i.2)
  | other live queue busy other events =>
    obtain ⟨h, es, events, same⟩ := events
    exact I.ends_otherDone live queue ⟨h, es, events, same ▸ other⟩

/-- One turn of the loop. -/
theorem ends_loop {w : World} (running : I.Running w) :
    Ends loop env w (fun _ w' => I.Running w') I.Lawful := by
  unfold loop
  rw [ends_bind, ends_look]
  split
  · rename_i idle
    have idle : w.handle.cmd = cmdIdle := by simpa using idle
    cases running with
    | idle idle rest lawful => exact I.ends_idleTurn idle rest lawful
    | memory h memory settled between =>
      obtain ⟨st, boundary, i⟩ := between
      have same : w.handle.cmd = h.cmd := i.1.field Handle.cmd fun _ => rfl
      rw [← same, idle] at memory
      cases memory
    | other live queue busy other events => exact (busy idle).elim
  · rename_i busy
    have busy : w.handle.cmd ≠ cmdIdle := by simpa using busy
    refine Within.bind_ends (S := LinkStep) inferInstance (fun now w₁ link => ?_)
      fun w₁ link => I.lawful_of_running (Running.link I running link)
    have cmd := congrArg (fun w : World => w.handle.cmd) link.kept
    have cmd : w₁.handle.cmd = w.handle.cmd := cmd
    replace running := Running.link I running link
    split
    · refine Within.bind_ends (S := LinkStep) inferInstance (fun _ w₂ link₂ => ?_)
        fun w₂ link₂ => I.lawful_of_running (Running.link I running link₂)
      have cmd₂ := congrArg (fun w : World => w.handle.cmd) link₂.kept
      have cmd₂ : w₂.handle.cmd = w₁.handle.cmd := cmd₂
      rw [ends_bind]
      refine (I.ends_timeout (Running.link I running link₂) ?_).mono (fun _ w₃ running => ?_)
        fun _ lawful => lawful
      · rw [cmd₂, cmd]
        exact busy
      · refine (Within.ends (R := LinkStep) inferInstance w₃).mono (fun _ w₄ link => ?_)
          fun w₄ link => ?_
        · exact Running.link I running link
        · exact I.lawful_of_running (Running.link I running link)
    · rw [← cmd]
      exact I.ends_stepCommand running (cmd ▸ busy)

theorem running_of_reach {w : World} (reach : Reach env w) : I.Running w := by
  induction reach with
  | setup fresh ran =>
    have started := ((ends_setup fresh).mono (fun _ _ h => h) fun _ _ => trivial).and
      (I.powersUp fresh)
    obtain ⟨⟨idle, events⟩, rest⟩ := (ends_iff.mp started).1 () _ ran
    exact .idle idle rest (I.lawful_of_none events)
  | loop before ran running => exact (ends_iff.mp (I.ends_loop running)).1 () _ ran

/-- Whenever one looks at a run, the events of its last memory command obey the law. -/
theorem lawful_of_seen {w : World} (seen : Seen env w) : I.Lawful w := by
  cases seen with
  | setup fresh =>
    have started := ends_iff.mp (@ends_setup env _ fresh)
    rcases ran : setup env _ with ⟨_ | _, w'⟩
    · exact I.lawful_of_none (started.2 w' ran)
    · exact I.lawful_of_none (started.1 () w' ran).2
  | loop before =>
    have turned := ends_iff.mp (I.ends_loop (I.running_of_reach before))
    rcases ran : loop env _ with ⟨_ | _, w'⟩
    · exact turned.2 w' ran
    · exact I.lawful_of_running (turned.1 () w' ran)

end CommandInvariant

/-- Nothing need be known of the world between the commands. -/
def Readiness.free (env : Env) : Readiness env where
  rest _ := True
  fresh _ := True
  ready _ := True
  receives _ := trivial
  rests _ _ := trivial
  listens _ _ := trivial
  waits _ _ := trivial
  configures _ := ends_any _ (fun _ _ => trivial) fun _ => trivial
  settles _ := trivial
  passes _ _ := trivial
  finishes _ := ends_any _ (fun _ _ => trivial) fun _ => trivial

theorem Readiness.powersUp_free : ∀ {w : World}, w.PoweredUp →
    Ends setup env w (fun _ w' => (Readiness.free env).rest w') (fun _ => True) :=
  fun _ => ends_any _ (fun _ _ => trivial) fun _ => trivial

/-! ## One run -/

/-- What can be told of the command that began last, some turns of the loop after power-up. -/
def commandAfter {α : Type} (env : Env) (n : Nat) (told : World → Handle → List Event → α) :
    Option α := do
  let w ← stateAfter env .blank n
  let (h, es) ← commandEvents w.trace
  return told w h es

theorem exists_of_commandAfter {α : Type} {n : Nat} {told : World → Handle → List Event → α} {a : α}
    (ran : commandAfter env n told = some a) : ∃ w h es, Reach env w ∧ Seen env w ∧
      commandEvents w.trace = some (h, es) ∧ told w h es = a := by
  obtain ⟨w, after, ran⟩ := Option.bind_eq_some_iff.mp ran
  obtain ⟨⟨h, es⟩, events, ran⟩ := Option.bind_eq_some_iff.mp ran
  obtain ⟨reach, seen⟩ := reach_stateAfter World.blank_poweredUp after
  exact ⟨w, h, es, reach, seen, events, Option.some.inj ran⟩

end Firestarter
