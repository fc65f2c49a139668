import Firestarter.Pin1Steps

/-! A read that raises the line of its supply over the pin-1 switch first waits until the supply
is discharged. The wait is made when the frame is taken up; here is that nothing on the way to the
first turn of the command undoes it. -/
namespace Firestarter

open Interactive Interactive.Prog

set_option synthInstance.maxSize 4000

variable {env : Env} {w w' : World}

/-! ## The wait of a read -/

/-- A read that raises the line of its supply over the switch. -/
def Handle.ReadsOverSwitch (h : Handle) : Prop :=
  h.cmd = cmdRead ∧ h.busConfig.readHighNeedsRegOff = true

/-- Set up to read so, the firmware has waited for the discharge. -/
def World.Waited (w : World) : Prop :=
  w.handle.firestarterOperationMain ≠ none → w.handle.ReadsOverSwitch → w.Discharged

theorem World.Waited.talk (waited : w.Waited) (talk : TalkStep w w') : w'.Waited := by
  have main := congrArg (fun w : World => w.handle.firestarterOperationMain) talk.kept
  have cmd := congrArg (fun w : World => w.handle.cmd) talk.kept
  have bus := congrArg (fun w : World => w.handle.busConfig) talk.kept
  have main : w'.handle.firestarterOperationMain = w.handle.firestarterOperationMain := main
  have cmd : w'.handle.cmd = w.handle.cmd := cmd
  have bus : w'.handle.busConfig = w.handle.busConfig := bus
  unfold World.Waited Handle.ReadsOverSwitch
  rw [main, cmd, bus]
  exact fun named reads =>
    (waited named reads).later talk.registersKept.regulatorOffAt talk.later

theorem World.Waited.of_other (other : w.handle.cmd ≠ cmdRead) : w.Waited :=
  fun _ reads => (other reads.1).elim

/-- The clock may have gone round since the regulator went off; the wait is then a longer one. -/
theorem ends_memUtilWaitVpeDischarged (clocked : w.Clocked) :
    Ends memUtilWaitVpeDischarged env w (fun _ w' => w'.Discharged) (fun _ => True) := by
  obtain ⟨offAt, told, after, before⟩ := clocked
  unfold memUtilWaitVpeDischarged
  show Ends (when (BitVec.ofNat 32 (w.now + env.elapse w) - w.regulatorOffMs < rurpVpeDischargeMs)
      (delay (rurpVpeDischargeMs - (BitVec.ofNat 32 (w.now + env.elapse w) - w.regulatorOffMs))))
    env { w with asked := w.asked + 1, now := w.now + env.elapse w } _ _
  generalize elapsed : BitVec.ofNat 32 (w.now + env.elapse w) - w.regulatorOffMs = ms
  have short : ms.toNat ≤ w.now + env.elapse w - offAt := by
    rw [← elapsed, told, BitVec.toNat_sub, BitVec.toNat_ofNat, BitVec.toNat_ofNat]
    omega
  have due : rurpVpeDischargeMs.toNat = 200 := rfl
  refine Ends.when (fun soon => ?_) fun long => ?_
  · have soon : ms.toNat < 200 := of_decide_eq_true soon
    have rest : (rurpVpeDischargeMs - ms).toNat = 200 - ms.toNat :=
      BitVec.toNat_sub_of_le (Nat.le_of_lt soon)
    unfold delay ask
    show _ ≤ _
    dsimp only
    rw [rest, due]
    omega
  · have long : ¬ ms.toNat < 200 := of_decide_eq_false long
    show _ ≤ _
    dsimp only
    rw [due]
    omega

theorem ends_prepareBus_waited (rest : w.Rest env.build) :
    Ends prepareBus env w
      (fun _ w' => w'.Agreed env.build ∧ (w'.handle.ReadsOverSwitch → w'.Discharged))
      (fun _ => True) := by
  unfold prepareBus
  rw [ends_bind, ends_memUtilSetReadHighMask, ends_bind, ends_getHandle, ends_bind]
  have rest : World.Rest env.build (w.withReadHighMask env.build) := rest.of_kept rfl rfl
  generalize w.withReadHighMask env.build = v at rest ⊢
  have wait : Ends (when (v.handle.cmd == cmdRead && v.handle.busConfig.readHighNeedsRegOff)
      memUtilWaitVpeDischarged) env v
      (fun _ v' => v'.Rest env.build ∧ v'.handle = v.handle ∧
        (v.handle.ReadsOverSwitch → v'.Discharged)) (fun _ => True) := by
    refine Ends.when (fun _ => ?_) fun none => ⟨rest, rfl, fun reads => ?_⟩
    · have quiet := (inferInstance : Within env RegistersKept memUtilWaitVpeDischarged).ends v
      have silent := (inferInstance : Within env Silent memUtilWaitVpeDischarged).ends v
      exact ((quiet.and silent).and (ends_memUtilWaitVpeDischarged rest.clocked)).mono
        (fun _ v' so => ⟨so.1.1.rest rest, so.1.2.handle, fun _ => so.2⟩) fun _ _ => trivial
    · rw [reads.1, reads.2] at none
      cases none
  refine wait.mono (fun _ v' so => ?_) fun _ => id
  obtain ⟨rest, handle, waited⟩ := so
  refine (ends_addressed false rest.toAgreed 0).mono (fun _ w' landed => ?_) fun _ => False.elim
  have off : v'.controlRegister.getLsbD 7 = false := by
    rw [rest.control]
    exact BitVec.getLsbD_zero
  refine ⟨landed.agreed, fun reads => ?_⟩
  rw [landed.setting.handle, handle] at reads
  exact (waited reads).later (landed.off off) landed.later

instance : HandleFrame RegistersKept :=
  ⟨fun _ _ _ => ⟨rfl, rfl, Nat.le_refl _⟩, fun _ _ => ⟨rfl, rfl, Nat.le_refl _⟩⟩

/-- A driver's settings neither drive a register nor touch the bus configuration. -/
theorem ends_configureDriver_waited (driver : Driver)
    (waited : w.handle.ReadsOverSwitch → w.Discharged) :
    Ends (configureDriver driver) env w (fun _ w' => w'.Waited) (fun _ => True) := by
  have quiet := (inferInstance : Within env RegistersKept (configureDriver driver)).ends w
  refine (quiet.and (ends_configureDriver driver w)).mono (fun _ w' so => ?_) fun _ _ => trivial
  obtain ⟨quiet, -, ⟨same, -⟩, -⟩ := so
  have cmd := congrArg Handle.cmd same
  have bus := congrArg Handle.busConfig same
  have unconfigured := congrArg Handle.busConfig (driver.configured_unconfigured w.handle)
  have cmd : w'.handle.cmd = w.handle.cmd := cmd.trans (driver.configured_cmd w.handle)
  have bus : w'.handle.busConfig = w.handle.busConfig := bus.trans unconfigured
  intro _ reads
  unfold Handle.ReadsOverSwitch at reads
  rw [cmd, bus] at reads
  exact (waited reads).later quiet.regulatorOffAt quiet.later

theorem ends_configureMemory_waited (rest : w.Rest env.build) :
    Ends configureMemory env w (fun _ w' => w'.Waited) (fun _ => True) := by
  -- A memory that is refused has no callback.
  have refusal {v : World} (none : v.handle.firestarterOperationMain = none) (id : U8) [ReportId id]
      (params : List U8) :
      Ends (refuse id params) env v (fun _ w' => w'.Waited) (fun _ => True) := by
    refine ((inferInstance : Within env TalkStep (refuse id params)).ends v).mono
      (fun _ w' talk => ?_) fun _ _ => trivial
    exact World.Waited.talk (fun named => absurd none named) talk
  unfold configureMemory
  simp only [ends_bind, ends_setHandle, ends_getHandle, ends_build]
  split
  · exact refusal rfl _ _
  · rw [ends_bind, ends_setHandle]
    split
    · unfold configureNotImplemented
      rw [ends_bind, ends_setHandle, ends_bind, ends_getHandle]
      exact refusal rfl _ _
    · have rest : World.Rest env.build
          { w with handle := w.handle.withoutCallbacks.withMemoryCallbacks } :=
        rest.of_kept rfl rfl
      rw [ends_bind]
      refine (ends_prepareBus_waited rest).mono (fun _ w₁ prepared => ?_) fun _ => id
      exact ends_configureDriver_waited _ prepared.2

theorem ends_configures_waited (rest : w.Rest env.build) :
    Ends (opExecuteFunction dispatch (some .configureMemory)) env w (fun _ w' => w'.Waited)
      (fun _ => True) := by
  unfold opExecuteFunction executeOperation
  rw [Option.isNone_some, if_neg Bool.false_ne_true, ends_bind]
  refine Within.bind_ends (S := TalkStep) inferInstance (fun _ w₁ talk => ?_) fun _ _ => trivial
  rw [ends_bind, ends_getHandle, ends_bind, ends_note, ends_bind]
  have rest : World.Rest env.build
      { w₁ with trace := .called .configureMemory w₁.handle :: w₁.trace } :=
    World.Rest.of_kept (talk.registersKept.rest rest) rfl rfl
  show Ends configureMemory env _ _ _
  refine (ends_configureMemory_waited rest).mono (fun _ w₂ waited => ?_) fun _ => id
  rw [ends_bind, ends_getHandle, ends_bind, ends_note]
  have waited : World.Waited { w₂ with
      trace := .returned .configureMemory w₂.handle.responseCode :: w₂.trace } := waited
  refine Within.bind_ends (S := TalkStep) inferInstance (fun _ w₃ talk => ?_) fun _ _ => trivial
  refine Within.bind_ends (S := TalkStep) inferInstance (fun ok w₄ talk₂ => ?_) fun _ _ => trivial
  have waited := (waited.talk talk).talk talk₂
  cases ok <;> exact waited

theorem ends_parseCommand_waited (rest : w.Rest env.build) :
    Ends parseCommand env w (fun ok w' => ok = true → w'.Waited) (fun _ => True) := by
  unfold parseCommand
  rw [ends_bind, ends_build, ends_bind, ends_getHandle]
  dsimp only
  rw [ends_bind, ends_setHandle]
  have rest : World.Rest env.build { w with handle := (cmdDecode env.build w.handle).1 } :=
    rest.of_kept rfl rfl
  split
  · rw [ends_bind]
    exact ends_any _ (fun _ _ ok => nomatch ok) fun _ => trivial
  split
  · rw [ends_bind]
    exact ends_any _ (fun _ _ ok => nomatch ok) fun _ => trivial
  split
  · rw [ends_bind]
    exact ends_any _ (fun _ _ ok => nomatch ok) fun _ => trivial
  split
  · rw [ends_bind]
    refine (ends_configures_waited rest).mono (fun done w₁ waited => ?_) fun _ => id
    split
    · exact fun _ => waited
    · rw [ends_bind]
      exact ends_any _ (fun _ _ ok => nomatch ok) fun _ => trivial
  rename_i other
  have notRead : (cmdDecode env.build w.handle).1.cmd ≠ cmdRead := by
    intro read
    rw [read] at other
    exact other rfl
  split
  · refine (Within.ends (R := IdleStep) inferInstance _).mono (fun ok w' moved => ?_)
      fun _ _ => trivial
    have cmd := congrArg (fun w : World => w.handle.cmd) moved.kept
    have cmd : w'.handle.cmd = (cmdDecode env.build w.handle).1.cmd := cmd
    exact fun _ => .of_other (cmd ▸ notRead)
  · exact fun _ => .of_other notRead

theorem ends_initProgrammerFramed_waited (rest : w.Rest env.build) :
    Ends initProgrammerFramed env w (fun ok w' => ok = true → w'.Waited) (fun _ => True) := by
  have : Within env TalkStep reportIdentity := by
    unfold reportIdentity
    infer_instance
  unfold initProgrammerFramed
  refine Within.bind_ends (S := RestStep env.build) inferInstance (fun _ v step => ?_)
    fun _ _ => trivial
  rw [ends_bind, ends_getHandle]
  split
  · rw [ends_bind]
    exact ends_any _ (fun _ _ ok => nomatch ok) fun _ => trivial
  rw [ends_bind]
  refine (ends_parseCommand_waited (step rest)).mono (fun parsed w₁ waited => ?_) fun _ => id
  split
  · have waited := waited ‹_›
    unfold acceptCommand
    rw [ends_bind]
    refine Within.bind_ends (S := TalkStep) inferInstance (fun _ w₂ talk => ?_) fun _ _ => trivial
    rw [ends_bind, ends_outside, ends_bind, ends_look]
    dsimp only
    refine Within.bind_ends (S := TalkStep) inferInstance (fun _ w₃ talk₂ => ?_) fun _ _ => trivial
    refine Within.bind_ends (S := TalkStep) inferInstance (fun _ w₄ talk₃ => ?_) fun _ _ => trivial
    rw [ends_bind, ends_getHandle, ends_note]
    have waited := ((waited.talk talk).talk talk₂).talk talk₃
    exact fun _ => waited
  · exact fun ok => nomatch ok

/-- A turn that takes up a read has waited. -/
theorem ends_receiveCommand_waited (rest : w.Rest env.build) (idle : w.handle.cmd = cmdIdle) :
    Ends receiveCommand env w (fun _ w' => w'.Waited) (fun _ => True) := by
  have listens {v : World} (cmd : v.handle.cmd = cmdIdle) : v.Waited := by
    refine .of_other ?_
    rw [cmd]
    decide
  unfold receiveCommand
  refine Within.bind_ends (S := TalkStep) inferInstance (fun n w₁ talk => ?_) fun _ _ => trivial
  have cmd := congrArg (fun w : World => w.handle.cmd) talk.kept
  have cmd : w₁.handle.cmd = cmdIdle := Eq.trans cmd idle
  have rest : w₁.Rest env.build := talk.registersKept.rest rest
  refine Ends.when (fun _ => ?_) fun _ => listens cmd
  rw [ends_bind, ends_note, ends_bind, ends_build]
  refine Within.bind_ends (S := TalkStep) inferInstance (fun size w₂ talk => ?_) fun _ _ => trivial
  have cmd₂ := congrArg (fun w : World => w.handle.cmd) talk.kept
  have cmd : w₂.handle.cmd = cmdIdle := Eq.trans cmd₂ cmd
  have rest : w₂.Rest env.build := talk.registersKept.rest (rest.of_kept rfl rfl)
  split
  · refine Within.bind_ends (S := RestStep env.build) inferInstance (fun _ v step => ?_)
      fun _ _ => trivial
    rw [ends_bind]
    refine (ends_initProgrammerFramed_waited (step rest)).mono (fun ok w₃ waited => ?_)
      fun _ => id
    refine Ends.when (fun _ => ?_) fun good => waited (by simpa using good)
    exact (ends_commandDone_idle w₃).mono (fun _ _ cmd => listens cmd) fun _ => id
  · exact ((inferInstance : Within env TalkStep (logId msgErrEmptyInput)).ends w₂).mono
      (fun _ w₃ talk => (listens cmd).talk talk) fun _ _ => trivial

end Firestarter
