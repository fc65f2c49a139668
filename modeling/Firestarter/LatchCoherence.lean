import Firestarter.AddressLines
import Firestarter.ChipAccess
import Firestarter.FirmwareFrames

/-! The three latches against their caches, over whole runs. Every register write goes through the
cache but one: the development command that strobes a raw control byte. Where that byte is 0 the
caches always tell what the latches hold, and a board at rest has nothing switched on. -/
namespace Firestarter

open Interactive Interactive.Prog

set_option synthInstance.maxSize 4000

variable {env : Env} {b : Build} {s s' w w' : World}

/-! ## The record of the regulator -/

/-- The firmware's record of when the regulator went off is not older than the fall in the latch,
and not ahead of the clock. -/
def World.Clocked (w : World) : Prop :=
  ∃ offAt, w.regulatorOffMs = BitVec.ofNat 32 offAt ∧ w.regulatorOffAt ≤ offAt ∧ offAt ≤ w.now

theorem World.Clocked.later (clocked : w.Clocked) (ms : w'.regulatorOffMs = w.regulatorOffMs)
    (at' : w'.regulatorOffAt = w.regulatorOffAt) (later : w.now ≤ w'.now) : w'.Clocked := by
  obtain ⟨offAt, told, after, before⟩ := clocked
  exact ⟨offAt, ms.trans told, at' ▸ after, before.trans later⟩

/-- The strobe switches the regulator off. -/
def Latches.falls (latches : Latches) (byte : U8) : Bool :=
  latches.control &&& 0x80 != 0 && byte &&& 0x80 == 0

theorem falls_eq (latches : Latches) (byte : U8) :
    latches.falls byte = (latches.control.getLsbD 7 && !byte.getLsbD 7) := by
  have bit (v : U8) : (v &&& 0x80 != 0) = v.getLsbD 7 := and_bit_ne_zero v 7
  unfold Latches.falls
  rw [bit, ← Bool.not_not (byte &&& 0x80 == 0)]
  exact congrArg (fun c => _ && !c) (bit byte)

/-- The comparison before the record is made. -/
theorem regulator_falls (old data : Reg) :
    decide (old &&& ctrlVppRegulatorEnable > data &&& ctrlVppRegulatorEnable) =
      (old.getLsbD 7 && !data.getLsbD 7) := by
  have bit : ctrlVppRegulatorEnable = BitVec.twoPow 16 7 := by decide
  rw [bit, BitVec.and_twoPow, BitVec.and_twoPow]
  cases old.getLsbD 7 <;> cases data.getLsbD 7 <;> decide

theorem ends_strobe_low (w : World) {reg : U8} (data : Reg)
    (low : reg = leastSignificantByte ∨ reg = mostSignificantByte) :
    Ends (rurpInternalWriteToRegister reg data) env w
      (fun _ w' => w.now ≤ w'.now ∧ w'.regulatorOffMs = w.regulatorOffMs ∧
        w'.regulatorOffAt = w.regulatorOffAt) (fun _ => False) := by
  unfold rurpInternalWriteToRegister
  simp only [ends_bind, ends_build, ends_when, rurpWriteDataBuffer, rurpSetDataOutput, ends_update,
    rurpSetControlPin, delayMicroseconds, delay, ask, ends_look, ends_outside, ends_pure]
  rcases low with rfl | rfl
  all_goals
    split <;> exact ⟨Nat.le_trans (Nat.le_add_right _ _) (Nat.le_add_right _ _), rfl, rfl⟩

theorem ends_strobe_control (w : World) (data : Reg) :
    Ends (rurpInternalWriteToRegister controlRegister data) env w
      (fun _ w' => w.now ≤ w'.now ∧ w'.regulatorOffMs = w.regulatorOffMs ∧
        w'.regulatorOffAt =
          if w.latches.falls (data.setWidth 8) then w.now else w.regulatorOffAt)
      (fun _ => False) := by
  unfold rurpInternalWriteToRegister
  simp only [ends_bind, ends_build, ends_when, rurpWriteDataBuffer, rurpSetDataOutput, ends_update,
    rurpSetControlPin, delayMicroseconds, delay, ask, ends_look, ends_outside, ends_pure]
  split <;> exact ⟨Nat.le_trans (Nat.le_add_right _ _) (Nat.le_add_right _ _), rfl, rfl⟩

/-- What a register write does to the record, and to a regulator that is off. -/
structure Timed (w w' : World) : Prop where
  later : w.now ≤ w'.now
  clocked : w.Clocked → w'.Clocked
  off : w.controlRegister.getLsbD 7 = false → w'.regulatorOffAt = w.regulatorOffAt

theorem Timed.refl (w : World) : Timed w w := ⟨Nat.le_refl _, id, fun _ => rfl⟩

theorem Timed.of_still (later : w.now ≤ w'.now) (ms : w'.regulatorOffMs = w.regulatorOffMs)
    (at' : w'.regulatorOffAt = w.regulatorOffAt) : Timed w w' :=
  ⟨later, fun clocked => clocked.later ms at' later, fun _ => at'⟩

/-- Where a fall in the latch is one of the cached register, its time is recorded. -/
theorem ends_control_timed {data : Reg}
    (told : w.latches.falls (physicalControl env.build w.hardwareRevision data) = true →
      w.controlRegister.getLsbD 7 = true ∧ data.getLsbD 7 = false) :
    Ends (rurpWriteToRegister controlRegister data) env w (fun _ w' => Timed w w')
      (fun _ => False) := by
  have strobes (v : World) (trace : List Event) (latches : v.latches = w.latches) :
      Ends (do
        rurpInternalWriteToRegister controlRegister
          ((physicalControl env.build w.hardwareRevision data).setWidth 16)
        when (w.controlRegister &&& ctrlVppP1Enable > data &&& ctrlVppP1Enable)
          (delayMicroseconds 4))
      env { v with controlRegister := data, trace := trace } (fun _ w' => v.now ≤ w'.now ∧
        w'.regulatorOffMs = v.regulatorOffMs ∧
        w'.regulatorOffAt =
          if w.latches.falls (physicalControl env.build w.hardwareRevision data) then v.now
          else v.regulatorOffAt) (fun _ => False) := by
    rw [ends_bind]
    refine (ends_strobe_control _ _).mono (fun _ w₁ strobed => ?_) fun _ => id
    obtain ⟨later, ms, offAt⟩ := strobed
    rw [BitVec.setWidth_setWidth_of_le _ (by decide), BitVec.setWidth_eq, latches] at offAt
    refine Ends.when (fun _ => ⟨?_, ms, offAt⟩) fun _ => ⟨later, ms, offAt⟩
    exact later.trans (Nat.le_trans (Nat.le_add_right _ _) (Nat.le_add_right _ _))
  show Ends (when (true && w.controlRegister != data) (writeControlRegister w.controlRegister data))
    env w _ _
  refine Ends.when (fun _ => ?_) fun _ => Timed.refl w
  unfold writeControlRegister
  rw [ends_bind, regulator_falls]
  refine Ends.when (fun falls => ?_) fun stays => ?_
  · refine (strobes { w with asked := w.asked + 1, now := w.now + env.elapse w
                             regulatorOffMs := BitVec.ofNat 32 (w.now + env.elapse w) } _ rfl).mono
      (fun _ w' strobed => ?_) fun _ => id
    obtain ⟨later, ms, offAt⟩ := strobed
    have later₀ : w.now ≤ w'.now := Nat.le_trans (Nat.le_add_right _ _) later
    refine ⟨later₀, fun clocked => ⟨w.now + env.elapse w, ms, ?_, later⟩, fun off => ?_⟩
    · obtain ⟨_, -, after, before⟩ := clocked
      rw [offAt]
      split
      · exact Nat.le_refl _
      · exact (after.trans before).trans (Nat.le_add_right _ _)
    · rw [off] at falls
      cases falls
  · refine (strobes w _ rfl).mono (fun _ w' strobed => ?_) fun _ => id
    obtain ⟨later, ms, offAt⟩ := strobed
    rw [if_neg fun fell => ?_] at offAt
    · exact .of_still later ms offAt
    · rw [(told fell).1, (told fell).2] at stays
      cases stays

/-- Every board that knows its revision, and every build without one, has the regulator's bit. -/
theorem physicalControl_regulator (b : Build) (hw : U8) (data : Reg) :
    (physicalControl b hw data).getLsbD 7 =
      (data.getLsbD 7 && (!b.hardwareRevision || isSupportedRevision hw)) := by
  unfold physicalControl
  cases layout : b.hardwareRevision with
  | false => simp
  | true =>
    cases supported : isSupportedRevision hw with
    | true =>
      rw [if_pos rfl, mapCtrlReg_bit supported data 7 (by decide)]
      simp [latchBit]
    | false =>
      unfold isSupportedRevision at supported
      obtain ⟨early, late⟩ := Bool.or_eq_false_iff.mp supported
      unfold mapCtrlReg
      simp [early, late]

/-- Latches that agree with the caches fall with them. -/
theorem World.Coherent.told (coherent : w.Coherent b) {data : Reg}
    (falls : w.latches.falls (physicalControl b w.hardwareRevision data) = true) :
    w.controlRegister.getLsbD 7 = true ∧ data.getLsbD 7 = false := by
  rw [falls_eq, coherent, physicalControl_regulator, physicalControl_regulator] at falls
  revert falls
  cases w.controlRegister.getLsbD 7 <;> cases data.getLsbD 7 <;>
    cases !b.hardwareRevision || isSupportedRevision w.hardwareRevision <;> simp

theorem ends_low_timed {reg : U8} (low : reg = leastSignificantByte ∨ reg = mostSignificantByte)
    (data : Reg) : Ends (rurpWriteToRegister reg data) env w (fun _ w' => Timed w w')
      (fun _ => False) := by
  rcases low with rfl | rfl
  · show Ends (when (w.lsbAddress != data.setWidth 8) _) env w _ _
    refine Ends.when (fun _ => ?_) fun _ => Timed.refl w
    exact (ends_strobe_low _ data (.inl rfl)).mono
      (fun _ _ so => .of_still so.1 so.2.1 so.2.2) fun _ => id
  · show Ends (when (w.msbAddress != data.setWidth 8) _) env w _ _
    refine Ends.when (fun _ => ?_) fun _ => Timed.refl w
    exact (ends_strobe_low _ data (.inr rfl)).mono
      (fun _ _ so => .of_still so.1 so.2.1 so.2.2) fun _ => id

theorem ends_write_timed (coherent : w.Coherent env.build) (reg : U8) (data : Reg) :
    Ends (rurpWriteToRegister reg data) env w (fun _ w' => Timed w w') (fun _ => False) := by
  by_cases low : reg = leastSignificantByte ∨ reg = mostSignificantByte
  · exact ends_low_timed low data
  by_cases control : reg = controlRegister
  · rw [control]
    exact ends_control_timed coherent.told
  · obtain ⟨lsb, msb⟩ := not_or.mp low
    unfold rurpWriteToRegister
    rw [ends_bind, ends_look, beq_false_of_ne lsb, beq_false_of_ne msb, beq_false_of_ne control]
    exact Timed.refl w

/-! ## Steps that keep the agreement -/

/-- The latches hold what the caches say, and the record of the regulator is sound. -/
structure World.Agreed (b : Build) (w : World) : Prop where
  coherent : w.Coherent b
  clocked : w.Clocked

/-- The latches, the caches and the record. -/
def World.registers (w : World) : Latches × U8 × U8 × Reg × U32 × Nat :=
  (w.latches, w.lsbAddress, w.msbAddress, w.controlRegister, w.regulatorOffMs, w.regulatorOffAt)

/-- What the agreement is about stays, while time goes on. -/
structure RegistersKept (s s' : World) : Prop where
  kept : s'.registers = s.registers
  revision : s'.hardwareRevision = s.hardwareRevision
  later : s.now ≤ s'.now

/-- A set of registers, with the clock further on. -/
structure SameRegisters (w w' : World) : Prop where
  latches : w'.latches = w.latches
  lsb : w'.lsbAddress = w.lsbAddress
  msb : w'.msbAddress = w.msbAddress
  control : w'.controlRegister = w.controlRegister
  clocked : w.Clocked → w'.Clocked

theorem sameRegisters_of (kept : w'.registers = w.registers) (later : w.now ≤ w'.now) :
    SameRegisters w w' :=
  ⟨congrArg (fun r => r.1) kept, congrArg (fun r => r.2.1) kept, congrArg (fun r => r.2.2.1) kept,
    congrArg (fun r => r.2.2.2.1) kept, fun clocked =>
      clocked.later (congrArg (fun r => r.2.2.2.2.1) kept) (congrArg (fun r => r.2.2.2.2.2) kept)
        later⟩

/-- From latches that agree with the caches to latches that do. -/
def CoherentStep (b : Build) (s s' : World) : Prop := s.Agreed b → s'.Agreed b

/-- A step of the running command that does so. -/
def LatchStep (b : Build) (s s' : World) : Prop :=
  s'.handle.cmd = s.handle.cmd ∧ CoherentStep b s s'

/-- Agreement with nothing on the control register. -/
structure World.Rest (b : Build) (w : World) : Prop extends w.Agreed b where
  control : w.controlRegister = 0

/-- From such a state to such a state. -/
def RestStep (b : Build) (s s' : World) : Prop := s.Rest b → s'.Rest b

theorem RegistersKept.same (kept : RegistersKept s s') : SameRegisters s s' :=
  sameRegisters_of kept.kept kept.later

theorem RegistersKept.coherent (kept : RegistersKept s s') : CoherentStep b s s' := by
  intro agreed
  have same := kept.same
  refine ⟨?_, same.clocked agreed.clocked⟩
  unfold World.Coherent
  rw [same.latches, same.lsb, same.msb, same.control, kept.revision]
  exact agreed.coherent

theorem RegistersKept.control (kept : RegistersKept s s') :
    s'.controlRegister = s.controlRegister := kept.same.control

theorem RegistersKept.rest (kept : RegistersKept s s') : RestStep b s s' := fun rest =>
  ⟨kept.coherent rest.toAgreed, kept.control.trans rest.control⟩

theorem TalkStep.registersKept (talk : TalkStep s s') : RegistersKept s s' := by
  have kept := congrArg World.registers talk.kept
  have revision := congrArg World.hardwareRevision talk.kept
  exact ⟨kept, revision, talk.later⟩

instance : HostFrame RegistersKept where
  refl _ := ⟨rfl, rfl, Nat.le_refl _⟩
  trans _ _ _ first rest := ⟨rest.kept.trans first.kept, rest.revision.trans first.revision,
    first.later.trans rest.later⟩
  talk _ _ talk := talk.registersKept

instance : HostFrame (CoherentStep b) where
  refl _ := id
  trans _ _ _ first rest := rest ∘ first
  talk _ _ talk := talk.registersKept.coherent

instance : HostFrame (LatchStep b) where
  refl _ := ⟨rfl, id⟩
  trans _ _ _ first rest := ⟨rest.1.trans first.1, rest.2 ∘ first.2⟩
  talk s s' talk := by
    have cmd := congrArg (fun w : World => w.handle.cmd) talk.kept
    exact ⟨cmd, talk.registersKept.coherent⟩

instance : HostFrame (RestStep b) where
  refl _ := id
  trans _ _ _ first rest := rest ∘ first
  talk _ _ talk := talk.registersKept.rest

theorem LatchStep.of_kept (cmd : s'.handle.cmd = s.handle.cmd) (kept : s'.registers = s.registers)
    (revision : s'.hardwareRevision = s.hardwareRevision) (now : s'.now = s.now) :
    LatchStep b s s' := ⟨cmd, RegistersKept.coherent ⟨kept, revision, Nat.le_of_eq now.symm⟩⟩

instance : SenseFrame (LatchStep b) := ⟨fun _ _ _ => .of_kept rfl rfl rfl rfl⟩
instance : StoreFrame (LatchStep b) := ⟨fun _ _ _ => .of_kept rfl rfl rfl rfl⟩
instance : HandleFrame (LatchStep b) :=
  ⟨fun _ _ cmd => .of_kept cmd rfl rfl rfl, fun _ _ => .of_kept rfl rfl rfl rfl⟩

/-- What a write settles agrees again. -/
theorem ends_agreed {reg : U8} {data control : Reg} {lsb msb : U8} (agreed : w.Agreed env.build)
    (settles : Ends (rurpWriteToRegister reg data) env w
      (fun _ => Settles env.build w lsb msb control) (fun _ => False)) :
    Ends (rurpWriteToRegister reg data) env w
      (fun _ w' => w'.Agreed env.build ∧ w'.controlRegister = control) (fun _ => False) :=
  (settles.and (ends_write_timed agreed.coherent reg data)).mono
    (fun _ _ both => ⟨⟨both.1.coherent, both.2.clocked agreed.clocked⟩, both.1.control⟩)
    fun _ both => both.1

/-- What a write through the cache leaves of latches that agree with the caches. -/
structure WrittenTo (b : Build) (reg : U8) (data : Reg) (w w' : World) : Prop where
  agreed : w'.Agreed b
  setting : SameSetting w w'
  timed : Timed w w'
  control : w'.controlRegister = if reg = controlRegister then data else w.controlRegister

/-- A write through the cache keeps the agreement, whatever register it names. -/
theorem ends_write_agreed (agreed : w.Agreed env.build) (reg : U8) (data : Reg) :
    Ends (rurpWriteToRegister reg data) env w (fun _ => WrittenTo env.build reg data w)
      (fun _ => False) := by
  have timed := @ends_write_timed env w agreed.coherent reg data
  have settled {lsb msb : U8} {control : Reg}
      (settles : Ends (rurpWriteToRegister reg data) env w
        (fun _ => Settles env.build w lsb msb control) (fun _ => False))
      (told : control = if reg = controlRegister then data else w.controlRegister) :
      Ends (rurpWriteToRegister reg data) env w (fun _ => WrittenTo env.build reg data w)
        (fun _ => False) :=
    (settles.and timed).mono (fun _ _ both => ⟨⟨both.1.coherent, both.2.clocked agreed.clocked⟩,
      both.1.setting, both.2, both.1.control.trans told⟩) fun _ both => both.1
  by_cases lsb : reg = leastSignificantByte
  · subst lsb
    exact settled (ends_write_lsb agreed.coherent data) rfl
  by_cases msb : reg = mostSignificantByte
  · subst msb
    exact settled (ends_write_msb agreed.coherent data) rfl
  by_cases control : reg = controlRegister
  · subst control
    exact settled (ends_write_control agreed.coherent data) rfl
  · unfold rurpWriteToRegister
    rw [ends_bind, ends_look, beq_false_of_ne lsb, beq_false_of_ne msb, beq_false_of_ne control]
    exact ⟨agreed, ⟨rfl, rfl, rfl⟩, Timed.refl w, (if_neg control).symm⟩

theorem coherent_write (reg : U8) (data : Reg) :
    Within env (CoherentStep env.build) (rurpWriteToRegister reg data) := by
  refine within_iff_ends.mpr fun s => ?_
  by_cases agreed : s.Agreed env.build
  · exact (ends_write_agreed agreed reg data).mono (fun _ _ written _ => written.agreed)
      fun _ never => never.elim
  · exact ends_any _ (fun _ _ there => absurd there agreed) fun _ there => absurd there agreed

instance : RegisterFrame env (LatchStep env.build) where
  write reg data := by
    refine ⟨fun s => ⟨?_, (coherent_write reg data).moves s⟩⟩
    have silent := (inferInstance : Within env Silent (rurpWriteToRegister reg data)).moves s
    exact congrArg Handle.cmd silent.handle
  addressed _ _ _ _ := .of_kept rfl rfl rfl rfl

/-! ## Power-up -/

/-- Every revision latches 0 for an empty control register. -/
theorem physicalControl_zero (b : Build) (hw : U8) : physicalControl b hw 0 = 0 := by
  unfold physicalControl mapCtrlReg
  split
  · split
    · rfl
    · split <;> rfl
  · rfl

/-- At rest the control latch is empty, whatever the revision is taken for. -/
theorem rest_iff : w.Rest b ↔
    w.latches = ⟨w.lsbAddress, w.msbAddress, 0⟩ ∧ w.controlRegister = 0 ∧ w.Clocked := by
  constructor
  · intro rest
    have coherent := rest.coherent
    unfold World.Coherent at coherent
    rw [rest.control, physicalControl_zero] at coherent
    exact ⟨coherent, rest.control, rest.clocked⟩
  · rintro ⟨latches, control, clocked⟩
    refine ⟨⟨?_, clocked⟩, control⟩
    unfold World.Coherent
    rw [control, physicalControl_zero, latches]

/-- Another configuration or another revision changes nothing there. -/
theorem World.Rest.of_same (rest : w.Rest b) (same : SameRegisters w w') : w'.Rest b := by
  rw [rest_iff] at rest ⊢
  rw [same.latches, same.lsb, same.msb, same.control]
  exact ⟨rest.1, rest.2.1, same.clocked rest.2.2⟩

theorem World.Rest.of_kept (rest : w.Rest b) (kept : w'.registers = w.registers)
    (now : w'.now = w.now) : w'.Rest b :=
  rest.of_same (sameRegisters_of kept (Nat.le_of_eq now.symm))

theorem RestStep.update (env : Env) (f : World → World)
    (kept : ∀ w, (f w).registers = w.registers) (now : ∀ w, (f w).now = w.now) :
    Within env (RestStep b) (update f : Fw Unit) :=
  Within.update f fun w rest => rest.of_kept (kept w) (now w)

instance (f : Handle → Handle) : Within env (RestStep b) (setHandle f) :=
  RestStep.update env _ (fun _ => rfl) fun _ => rfl

instance (e : Event) : Within env (RestStep b) (note e) :=
  RestStep.update env _ (fun _ => rfl) fun _ => rfl

instance (config : Configuration) :
    Within env (RestStep b) (update fun w => { w with config := config } : Fw Unit) :=
  RestStep.update env _ (fun _ => rfl) fun _ => rfl

instance : Within env (RestStep b) rurpSaveConfig := by
  have (saved : Bool) : Within env (RestStep b)
      (update fun w => if saved then { w with stored := some w.config } else w : Fw Unit) := by
    refine RestStep.update env _ ?_ ?_
    all_goals
      intro w
      cases saved <;> rfl
  unfold rurpSaveConfig
  infer_instance

instance : Within env (RestStep b) rurpLoadConfig := by
  have loads : Within env (RestStep b) (update fun w =>
      match w.stored with
      | some config => { w with config := config }
      | none => { w with config := { w.config with version := 0 :: w.config.version.tail } } :
      Fw Unit) := by
    refine RestStep.update env _ ?_ ?_
    all_goals
      intro w
      dsimp only
      split <;> rfl
  unfold rurpLoadConfig rurpValidateConfig
  infer_instance

instance : Within env (RestStep b) rurpDetectHardwareRevision := by
  have (revision : U8) : Within env (RestStep b)
      (update fun w => { w with revision := revision } : Fw Unit) :=
    RestStep.update env _ (fun _ => rfl) fun _ => rfl
  unfold rurpDetectHardwareRevision
  infer_instance

/-- Whatever the latches held at power-up, the three writes of the setup reach them: the caches
start with values that are none of theirs. -/
theorem ends_setup_rest (fresh : w.PoweredUp) :
    Ends setup env w (fun _ w' => w'.Rest env.build ∧ w'.handle.cmd = cmdIdle)
      (fun _ => True) := by
  have onward {m : Fw Unit} {f : Unit → Fw Unit} {v : World} (rest : v.Rest env.build)
      (h : Within env (RestStep env.build) m)
      (last : ∀ v', v'.Rest env.build → Ends (f ()) env v'
        (fun _ w' => w'.Rest env.build ∧ w'.handle.cmd = cmdIdle) (fun _ => True)) :
      Ends (m >>= f) env v (fun _ w' => w'.Rest env.build ∧ w'.handle.cmd = cmdIdle)
        (fun _ => True) :=
    h.bind_ends (fun _ v' step => last v' (step rest)) fun _ _ => trivial
  unfold setup rurpBoardSetup
  rw [ends_bind, ends_bind, ends_build]
  refine Within.bind_ends (S := RegistersKept) inferInstance (fun _ w₁ disabled => ?_)
    fun _ _ => trivial
  refine Within.bind_ends (S := RegistersKept) inferInstance (fun _ w₂ input => ?_)
    fun _ _ => trivial
  have kept : RegistersKept w w₂ := trans_of _ disabled input
  have same := kept.same
  have clocked : w.Clocked := by
    rw [fresh]
    exact ⟨0, rfl, Nat.le_refl _, Nat.le_refl _⟩
  have lsb : w₂.lsbAddress = 0xFF := by rw [same.lsb, fresh]
  have msb : w₂.msbAddress = 0xFF := by rw [same.msb, fresh]
  have control : w₂.controlRegister = 0xFF := by rw [same.control, fresh]
  rw [ends_bind]
  refine ((ends_latch_lsb fun same => ?_).and (ends_low_timed (.inl rfl) 0)).mono
    (fun _ w₃ first => ?_) fun _ both => both.1.elim
  · rw [lsb] at same
    exact absurd same (by decide)
  obtain ⟨first, timed⟩ := first
  rw [ends_bind]
  refine ((ends_latch_msb fun same => ?_).and (ends_low_timed (.inr rfl) 0)).mono
    (fun _ w₄ second => ?_) fun _ both => both.1.elim
  · rw [first.msb, msb] at same
    exact absurd same (by decide)
  obtain ⟨second, timed₂⟩ := second
  have full : w₄.controlRegister = 0xFF := by rw [second.control, first.control, control]
  have told : w₄.controlRegister.getLsbD 7 = true ∧ (0 : Reg).getLsbD 7 = false := by
    rw [full]
    decide
  rw [ends_bind]
  refine ((ends_latch_control fun same => ?_).and (ends_control_timed fun _ => told)).mono
    (fun _ w₅ third => ?_) fun _ both => both.1.elim
  · rw [full] at same
    exact absurd same (by decide)
  obtain ⟨third, timed₃⟩ := third
  have rest : w₅.Rest env.build := by
    rw [rest_iff, third.latches, third.lsb, third.msb, third.control, second.latches, second.lsb,
      second.msb, first.latches, first.lsb, physicalControl_zero]
    exact ⟨rfl, rfl, timed₃.clocked (timed₂.clocked (timed.clocked (same.clocked clocked)))⟩
  refine (Within.ends (R := RestStep env.build) ?opened w₅).mono (fun _ w₆ step => ?_)
    fun _ _ => trivial
  case opened =>
    unfold whileLoop
    cases env.build.board <;> infer_instance
  refine onward (step rest) inferInstance fun w₇ rest => ?_
  rw [ends_bind, ends_build]
  refine onward rest inferInstance fun w₈ rest => ?_
  rw [ends_setHandle]
  exact ⟨rest.of_kept rfl rfl, rfl⟩

/-! ## Between two commands -/

/-- `command_done` empties the registers, and with them the latches. -/
theorem ends_commandDone_rest (agreed : w.Agreed env.build) :
    Ends commandDone env w (fun _ w' => w'.Rest env.build ∧ w'.handle.cmd = cmdIdle)
      (fun _ => True) := by
  unfold commandDone
  refine Within.bind_ends (S := RegistersKept) inferInstance (fun _ w₁ silent => ?_)
    fun _ _ => trivial
  refine Within.bind_ends (S := RegistersKept) inferInstance (fun _ w₂ disabled => ?_)
    fun _ _ => trivial
  have agreed := disabled.coherent (silent.coherent agreed)
  rw [ends_bind]
  refine (ends_agreed agreed (ends_write_control agreed.coherent 0)).mono (fun _ w₃ first => ?_)
    fun _ => False.elim
  rw [ends_bind]
  refine (ends_agreed first.1 (ends_write_lsb first.1.coherent 0)).mono (fun _ w₄ second => ?_)
    fun _ => False.elim
  rw [ends_bind]
  refine (ends_agreed second.1 (ends_write_msb second.1.coherent 0)).mono (fun _ w₅ third => ?_)
    fun _ => False.elim
  have rest : w₅.Rest env.build := ⟨third.1, third.2.trans (second.2.trans first.2)⟩
  rw [ends_bind, ends_setHandle]
  refine Within.bind_ends (S := TalkStep) inferInstance (fun _ w₆ talk => ?_) fun _ _ => trivial
  have cmd := congrArg (fun w : World => w.handle.cmd) talk.kept
  rw [ends_note]
  exact ⟨(talk.registersKept.rest (rest.of_kept rfl rfl)).of_kept rfl rfl, cmd⟩

/-- A command was taken up, or refused: only one that works on a chip has written registers. -/
structure TakenUp (b : Build) (w : World) : Prop extends w.Agreed b where
  control : isMemoryCmd w.handle.cmd = false → w.controlRegister = 0

theorem World.Rest.takenUp (rest : w.Rest b) : TakenUp b w := ⟨rest.toAgreed, fun _ => rest.control⟩

theorem TakenUp.talk (taken : TakenUp b w) (talk : TalkStep w w') : TakenUp b w' := by
  have cmd := congrArg (fun w : World => w.handle.cmd) talk.kept
  have cmd : w'.handle.cmd = w.handle.cmd := cmd
  refine ⟨talk.registersKept.coherent taken.toAgreed, fun other => ?_⟩
  rw [talk.registersKept.control]
  exact taken.control (cmd ▸ other)

theorem ends_parseCommand_rest (rest : w.Rest env.build) :
    Ends parseCommand env w (fun _ w' => TakenUp env.build w') (fun _ => True) := by
  have quiet {m : Fw Bool} {v : World} (rest : v.Rest env.build)
      (h : Within env (RestStep env.build) m) :
      Ends m env v (fun _ w' => TakenUp env.build w') (fun _ => True) :=
    (h.ends v).mono (fun _ _ step => (step rest).takenUp) fun _ _ => trivial
  unfold parseCommand
  rw [ends_bind, ends_build, ends_bind, ends_getHandle]
  dsimp only
  rw [ends_bind, ends_setHandle]
  have rest : World.Rest env.build { w with handle := (cmdDecode env.build w.handle).1 } :=
    rest.of_kept rfl rfl
  split
  · exact quiet rest inferInstance
  split
  · exact quiet rest inferInstance
  split
  · exact quiet rest inferInstance
  split
  · rename_i memory
    have configures : Within env (LatchStep env.build)
        (opExecuteFunction dispatch (some .configureMemory)) :=
      within_opExecuteFunction fun _ _ => inferInstance
    refine configures.bind_ends (fun done w₁ step => ?_) fun _ _ => trivial
    have taken : TakenUp env.build w₁ := by
      refine ⟨step.2 rest.toAgreed, fun other => ?_⟩
      rw [step.1] at other
      exact absurd memory (by simp [other])
    split
    · exact taken
    · refine Within.bind_ends (S := TalkStep) inferInstance (fun _ w₂ talk => ?_)
        fun _ _ => trivial
      exact taken.talk talk
  split
  · have : Within env (RestStep env.build) applyConfigCommand := by
      unfold applyConfigCommand rurpConfigCommit
      infer_instance
    exact quiet rest inferInstance
  · exact rest.takenUp

theorem ends_acceptCommand_rest (taken : TakenUp env.build w) :
    Ends acceptCommand env w (fun _ w' => TakenUp env.build w') (fun _ => True) := by
  have : Within env TalkStep reportIdentity := by
    unfold reportIdentity
    infer_instance
  unfold acceptCommand
  refine Within.bind_ends (S := TalkStep) inferInstance (fun _ w₁ talk => ?_) fun _ _ => trivial
  rw [ends_bind, ends_outside, ends_bind, ends_look]
  dsimp only
  refine Within.bind_ends (S := TalkStep) inferInstance (fun _ w₂ talk₂ => ?_) fun _ _ => trivial
  refine Within.bind_ends (S := TalkStep) inferInstance (fun _ w₃ talk₃ => ?_) fun _ _ => trivial
  have taken := ((taken.talk talk).talk talk₂).talk talk₃
  rw [ends_bind, ends_getHandle, ends_note]
  exact ⟨⟨taken.coherent, taken.clocked⟩, taken.control⟩

theorem ends_initProgrammerFramed_rest (rest : w.Rest env.build) :
    Ends initProgrammerFramed env w (fun _ w' => TakenUp env.build w') (fun _ => True) := by
  unfold initProgrammerFramed
  refine Within.bind_ends (S := RestStep env.build) inferInstance (fun _ w₁ step => ?_)
    fun _ _ => trivial
  replace rest := step rest
  rw [ends_bind, ends_getHandle]
  split
  · exact (Within.ends (R := RestStep env.build) inferInstance w₁).mono
      (fun _ _ step => (step rest).takenUp) fun _ _ => trivial
  · rw [ends_bind]
    refine (ends_parseCommand_rest rest).mono (fun parsed w₂ taken => ?_) fun _ => id
    split
    · rw [ends_bind]
      exact (ends_acceptCommand_rest taken).mono (fun _ _ taken => taken) fun _ => id
    · exact taken

theorem ends_receiveCommand_rest (rest : w.Rest env.build) :
    Ends receiveCommand env w (fun _ w' => TakenUp env.build w') (fun _ => True) := by
  unfold receiveCommand
  refine Within.bind_ends (S := RestStep env.build) inferInstance (fun n w₁ step => ?_)
    fun _ _ => trivial
  replace rest := step rest
  refine Ends.when (fun _ => ?_) fun _ => rest.takenUp
  rw [ends_bind, ends_note, ends_bind, ends_build]
  refine Within.bind_ends (S := RestStep env.build) inferInstance (fun size w₂ step => ?_)
    fun _ _ => trivial
  replace rest := step (rest.of_kept rfl rfl)
  split
  · refine Within.bind_ends (S := RestStep env.build) inferInstance (fun _ w₃ step => ?_)
      fun _ _ => trivial
    rw [ends_bind]
    refine (ends_initProgrammerFramed_rest (step rest)).mono (fun ok w₄ taken => ?_) fun _ => id
    refine Ends.when (fun _ => ?_) fun _ => taken
    exact (ends_commandDone_rest taken.toAgreed).mono (fun _ _ done => done.1.takenUp) fun _ => id
  · exact (Within.ends (R := RestStep env.build) inferInstance w₂).mono
      (fun _ _ step => (step rest).takenUp) fun _ _ => trivial

/-! ## The raw control byte -/

/-- The four bytes of a `dt_set_registers` payload. -/
structure DtPayload where
  msb : U8
  lsb : U8
  high : U8
  low : U8
  deriving DecidableEq, Repr

/-- What the command does with them. -/
def DtPayload.apply (p : DtPayload) : Fw Bool := do
  dtReportChipFlags
  dtApplyRegisters p.msb p.lsb p.high p.low
  return true

/-- The half of `dt_set_registers` that listens. -/
def dtTakePayload : Fw (Option DtPayload) := do
  if (← opGetMessage) = .ack then
    if ← dtAwaitPayload then
      let msb ← dtReadByte
      let lsb ← dtReadByte
      let high ← dtReadByte
      let low ← dtReadByte
      return some ⟨msb, lsb, high, low⟩
    else return none
  else return none

def dtApplyPayload : Option DtPayload → Fw Bool
  | none => return false
  | some p => p.apply

theorem dtSetRegisters_eq : dtSetRegisters = dtTakePayload >>= dtApplyPayload := by
  unfold dtSetRegisters dtTakePayload
  rw [bind_assoc]
  congr 1
  funext message
  by_cases ack : message = .ack
  · rw [if_pos ack, if_pos ack, bind_assoc]
    congr 1
    funext waiting
    cases waiting with
    | false => simp [dtApplyPayload]
    | true => simp [dtApplyPayload, DtPayload.apply]
  · rw [if_neg ack, if_neg ack, pure_bind]
    rfl

/-- Nothing but 0 is strobed past the cache. -/
def DtPayload.Tame (p : DtPayload) : Prop :=
  dtFirestarterReg p.high = true ∨ (dtCtrlReg p.high p.low).setWidth 8 = (0 : U8)

instance (p : DtPayload) : Decidable p.Tame := inferInstanceAs (Decidable (_ ∨ _))

/-- The register payload that a turn of the loop takes from the host, if it takes one. -/
def turnPayload : Fw (Option DtPayload) := do
  let w ← look
  if fsTimeoutExpired w.timeoutStartedMs timeoutMs (← millis) then return none
  else
    setResponseCode responseCodeOk
    if w.handle.cmd == cmdDevRegister && (← build).devTools then dtTakePayload else return none

/-- The turn from here strobes no raw control byte but 0. -/
def TameTurn (env : Env) (w : World) : Prop :=
  ∀ p, (turnPayload env w).1 = some (some p) → p.Tame

/-- A tame payload leaves latches that agree with their caches. -/
theorem ends_apply_coherent {p : DtPayload} (rest : w.Rest env.build) (tame : p.Tame) :
    Ends p.apply env w (fun _ w' => w'.Agreed env.build) (fun _ => True) := by
  unfold DtPayload.apply
  refine Within.bind_ends (S := TalkStep) inferInstance (fun _ w₁ talk => ?_) fun _ _ => trivial
  rw [ends_bind]
  unfold dtApplyRegisters rurpGetHardwareRevision
  rw [ends_bind, ends_build, ends_bind, ends_bind, ends_look, ends_pure]
  refine Within.bind_ends (S := TalkStep) inferInstance (fun _ w₂ talk₂ => ?_) fun _ _ => trivial
  refine Within.bind_ends (S := TalkStep) inferInstance (fun _ w₃ talk₃ => ?_) fun _ _ => trivial
  refine Within.bind_ends (S := TalkStep) inferInstance (fun _ w₄ talk₄ => ?_) fun _ _ => trivial
  have rest : w₄.Rest env.build :=
    (trans_of TalkStep talk (trans_of TalkStep talk₂ (trans_of TalkStep talk₃ talk₄))).registersKept.rest rest
  rw [ends_bind]
  refine (ends_agreed rest.toAgreed (ends_write_lsb rest.coherent _)).mono (fun _ w₅ first => ?_)
    fun _ => False.elim
  rw [ends_bind]
  refine (ends_agreed first.1 (ends_write_msb first.1.coherent _)).mono (fun _ w₆ second => ?_)
    fun _ => False.elim
  have rest : w₆.Rest env.build := ⟨second.1, second.2.trans (first.2.trans rest.control)⟩
  have held {v : World} (agreed : v.Agreed env.build) :
      Ends (do dtHold; pure true) env v (fun _ w' => w'.Agreed env.build) (fun _ => True) :=
    (Within.ends (R := LatchStep env.build) inferInstance v).mono (fun _ _ step => step.2 agreed)
      fun _ _ => trivial
  dsimp only
  split
  · rw [ends_bind]
    refine (ends_agreed rest.toAgreed (ends_write_control rest.coherent _)).mono
      (fun _ w₇ third => ?_) fun _ => False.elim
    have held := held third.1
    rw [ends_bind] at held
    exact held
  · rename_i raw
    have empty : (dtCtrlReg p.high p.low).setWidth 8 = (0 : U8) := tame.resolve_left raw
    have byte (c : Bool) : (if c then dtCtrlReg p.high p.low
        else ((dtCtrlReg p.high p.low).setWidth 8 : U8).setWidth 16).setWidth 8 = (0 : U8) := by
      cases c with
      | true => exact empty
      | false =>
        rw [if_neg Bool.false_ne_true, empty]
        rfl
    have dark : ¬ w₆.latches.falls 0 = true := by
      rw [falls_eq, (rest_iff.mp rest).1]
      simp
    rw [ends_bind]
    refine ((ends_internalWrite w₆ controlRegister _ (.inr (.inr rfl))).and
      (ends_strobe_control w₆ _)).mono (fun _ w₇ strobed => ?_) fun _ both => both.1.elim
    obtain ⟨⟨setting, lsb, msb, control, latches⟩, later, ms, offAt⟩ := strobed
    rw [byte] at offAt
    have same : w₇.latches = w₆.latches := by
      rw [latches, byte]
      have before := (rest_iff.mp rest).1
      rw [before]
      rfl
    have held := held (rest.of_same ⟨same, lsb, msb, control, fun clocked =>
      clocked.later ms (offAt.trans (if_neg dark)) later⟩).toAgreed
    rw [ends_bind] at held
    exact held

/-! ## Turns and runs -/

/-- Between two turns: the agreement, and nothing on the register where no chip is worked on. -/
structure Steady (b : Build) (w : World) : Prop extends w.Agreed b where
  control : w.handle.cmd = cmdIdle ∨ w.handle.cmd = cmdDevRegister → w.controlRegister = 0

theorem TakenUp.steady (taken : TakenUp b w) : Steady b w := by
  refine ⟨taken.toAgreed, fun resting => taken.control ?_⟩
  rcases resting with cmd | cmd <;> rw [cmd] <;> rfl

theorem Steady.talk (steady : Steady b w) (talk : TalkStep w w') : Steady b w' := by
  have cmd := congrArg (fun w : World => w.handle.cmd) talk.kept
  have cmd : w'.handle.cmd = w.handle.cmd := cmd
  refine ⟨talk.registersKept.coherent steady.toAgreed, fun resting => ?_⟩
  rw [cmd] at resting
  rw [talk.registersKept.control]
  exact steady.control resting

/-- The command's own step, for every command but the one with the raw byte. -/
theorem ends_runCommand_steady (steady : Steady env.build w)
    (other : (w.handle.cmd == cmdDevRegister && env.build.devTools) = false)
    (busy : w.handle.cmd ≠ cmdIdle) :
    Ends (runCommand w.handle.cmd) env w (fun _ w' => Steady env.build w') (fun _ => True) := by
  by_cases register : w.handle.cmd = cmdDevRegister
  · have noTools : env.build.devTools = false := by
      rw [register] at other
      simpa using other
    have unknown : Ends (runCommand cmdDevRegister) env w (fun _ w' => TalkStep w w')
        (fun _ => True) := by
      unfold runCommand
      rw [ends_bind, ends_build, noTools]
      have logged : Within env TalkStep
          (do logIdU8 msgErrUnknownCmd cmdDevRegister; return true) := inferInstance
      exact (logged.ends w).mono (fun _ _ talk => talk) fun _ _ => trivial
    rw [register]
    exact unknown.mono (fun _ _ talk => steady.talk talk) fun _ => id
  · have step : Within env (LatchStep env.build) (runCommand w.handle.cmd) :=
      within_anyCommand _ fun here => absurd here register
    refine (step.ends w).mono (fun _ w' step => ?_) fun _ _ => trivial
    refine ⟨step.2 steady.toAgreed, fun resting => ?_⟩
    rw [step.1] at resting
    exact (resting.elim busy register).elim

/-- The step of the command with the raw byte. -/
theorem ends_runRegisters_steady (devTools : env.build.devTools = true) (rest : w.Rest env.build)
    (steady : Steady env.build w)
    (tame : ∀ p, (dtTakePayload env w).1 = some (some p) → p.Tame) :
    Ends (runCommand cmdDevRegister) env w
      (fun done w' => w'.Agreed env.build ∧ (done = false → Steady env.build w'))
      (fun _ => True) := by
  have listens : Within env TalkStep dtTakePayload := by
    unfold dtTakePayload
    infer_instance
  have step : Ends dtSetRegisters env w
      (fun done w' => w'.Agreed env.build ∧ (done = false → Steady env.build w'))
      (fun _ => True) := by
    rw [dtSetRegisters_eq, ends_bind]
    refine ((listens.ends w).and (ends_run dtTakePayload env w)).mono (fun taken w₁ both => ?_)
      fun _ _ => trivial
    obtain ⟨talk, ran⟩ := both
    cases taken with
    | none => exact ⟨(steady.talk talk).toAgreed, fun _ => steady.talk talk⟩
    | some p =>
      have tame : p.Tame := tame p (by rw [ran])
      have applied := ends_apply_coherent (talk.registersKept.rest rest) tame
      have always : Ends p.apply env w₁ (fun done _ => done = true) (fun _ => True) := by
        unfold DtPayload.apply
        rw [ends_bind]
        refine ends_any _ (fun _ w₂ => ?_) fun _ => trivial
        rw [ends_bind]
        exact ends_any _ (fun _ _ => rfl) fun _ => trivial
      refine (applied.and always).mono (fun done w₂ both => ?_) fun _ _ => trivial
      obtain ⟨agreed, rfl⟩ := both
      exact ⟨agreed, nofun⟩
  unfold runCommand
  rw [ends_bind, ends_build, devTools]
  exact step

/-- One turn of the loop. -/
theorem ends_loop_steady (steady : Steady env.build w) (tame : TameTurn env w) :
    Ends loop env w (fun _ w' => Steady env.build w') (fun _ => True) := by
  unfold loop
  rw [ends_bind, ends_look]
  split
  · rename_i idle
    have idle : w.handle.cmd = cmdIdle := by simpa using idle
    exact (ends_receiveCommand_rest ⟨steady.toAgreed, steady.control (.inl idle)⟩).mono
      (fun _ _ taken => taken.steady) fun _ => id
  · rename_i busy
    have busy : w.handle.cmd ≠ cmdIdle := by simpa using busy
    rw [ends_bind]
    have timed : Ends millis env w (fun now w₁ => TalkStep w w₁ ∧ millis env w = (some now, w₁))
        (fun _ => True) :=
      ((Within.ends (R := TalkStep) inferInstance w).and (ends_run millis env w)).mono
        (fun _ _ both => both) fun _ _ => trivial
    refine timed.mono (fun now w₁ so => ?_) fun _ => id
    obtain ⟨talk, ran⟩ := so
    have steady₁ := steady.talk talk
    split
    · refine Within.bind_ends (S := TalkStep) inferInstance (fun _ w₂ talk₂ => ?_) fun _ _ => trivial
      rw [ends_bind]
      refine (ends_commandDone_rest (steady₁.talk talk₂).toAgreed).mono (fun _ w₃ done => ?_)
        fun _ => id
      exact (Within.ends (R := TalkStep) inferInstance w₃).mono
        (fun _ _ talk => done.1.takenUp.steady.talk talk) fun _ _ => trivial
    · rename_i running
      unfold stepCommand setResponseCode
      rw [ends_bind, ends_setHandle, ends_bind]
      have cmd := congrArg (fun w : World => w.handle.cmd) talk.kept
      have cmd : w₁.handle.cmd = w.handle.cmd := cmd
      have steady₂ : Steady env.build
          { w₁ with handle := { w₁.handle with responseCode := responseCodeOk } } :=
        ⟨⟨steady₁.coherent, steady₁.clocked⟩, steady₁.control⟩
      have finish {done : Bool} {v : World} (steady : Steady env.build v) :
          Ends (when done commandDone) env v (fun _ w' => Steady env.build w') (fun _ => True) := by
        refine Ends.when (fun _ => ?_) fun _ => steady
        exact (ends_commandDone_rest steady.toAgreed).mono (fun _ _ done => done.1.takenUp.steady)
          fun _ => id
      cases register : w.handle.cmd == cmdDevRegister && env.build.devTools with
      | false =>
        rw [← cmd] at register busy ⊢
        exact (ends_runCommand_steady steady₂ register busy).mono
          (fun _ _ steady => finish steady) fun _ => id
      | true =>
        obtain ⟨here, devTools⟩ := Bool.and_eq_true_iff.mp register
        have here : w.handle.cmd = cmdDevRegister := by simpa using here
        have rest : World.Rest env.build
            { w₁ with handle := { w₁.handle with responseCode := responseCodeOk } } :=
          ⟨steady₂.toAgreed, steady₂.control (.inr (cmd.trans here))⟩
        rw [here]
        refine (ends_runRegisters_steady devTools rest steady₂ fun p taken => tame p ?_).mono
          (fun done w₂ so => ?_) fun _ => id
        · unfold turnPayload setResponseCode
          rw [bind_run, look_run]
          dsimp only
          rw [bind_run, ran]
          dsimp only
          rw [if_neg running]
          show ((if w.handle.cmd == cmdDevRegister && env.build.devTools then dtTakePayload
            else pure none) env
              { w₁ with handle := { w₁.handle with responseCode := responseCodeOk } }).1 = _
          rw [if_pos register]
          exact taken
        · refine Ends.when (fun _ => ?_) fun unfinished => so.2 unfinished
          exact (ends_commandDone_rest so.1).mono (fun _ _ done => done.1.takenUp.steady)
            fun _ => id

/-- The states between the turns of a run in which no raw byte but 0 is strobed. -/
inductive TameReach (env : Env) : World → Prop
  | setup {w w' : World} (fresh : w.PoweredUp) (ran : setup env w = (some (), w')) :
      TameReach env w'
  | loop {w w' : World} (before : TameReach env w) (tame : TameTurn env w)
      (ran : loop env w = (some (), w')) : TameReach env w'

theorem tameReach_of_stateAfter (after : stateAfter env .blank 0 = some w) : TameReach env w := by
  rw [stateAfter] at after
  split at after
  · rename_i ran
    obtain rfl := Option.some.inj after
    exact .setup World.blank_poweredUp ran
  · cases after

theorem TameReach.reach (tame : TameReach env w) : Reach env w := by
  induction tame with
  | setup fresh ran => exact .setup fresh ran
  | loop before tame ran ih => exact .loop ih ran

theorem steady_of_tameReach (reach : TameReach env w) : Steady env.build w := by
  induction reach with
  | setup fresh ran =>
    exact ((ends_iff.mp (ends_setup_rest fresh)).1 () _ ran).1.takenUp.steady
  | loop before tame ran steady =>
    exact (ends_iff.mp (ends_loop_steady steady tame)).1 () _ ran

/-- In such a run the latches hold what the caches say between all turns, and a board at rest has an
empty control latch. -/
theorem latches_match_caches (reach : TameReach env w) :
    w.Coherent env.build ∧ (w.handle.cmd = cmdIdle → w.latches.control = 0) := by
  have steady := steady_of_tameReach reach
  refine ⟨steady.coherent, fun idle => ?_⟩
  have rest : w.Rest env.build := ⟨steady.toAgreed, steady.control (.inl idle)⟩
  rw [(rest_iff.mp rest).1]

/-- A Leonardo built with the development tools, whose host writes the control register: the regulator
bit, with or without the mark of a logical value. -/
def registerEnv (high : U8) : Env :=
  (Env.still ⟨.leonardo, true⟩ 200).sends <|
    memoryFrame { cmd := cmdDevRegister
                  busConfig := { addressLines := [], rwLine := 0xFF, vppLine := 0xFF } } ++
      [asciiO, asciiK, 0, 0, high, 0x80]

theorem latches_match_caches_logical : ∃ w : World, w.handle.cmd = cmdIdle ∧
    w.Coherent (registerEnv 0x80).build ∧ (w.handle.cmd = cmdIdle → w.latches.control = 0) := by
  have ran : ((stateAfter (registerEnv 0x80) .blank 0).bind fun w₀ =>
      (loop (registerEnv 0x80) w₀).1.bind fun _ =>
        (loop (registerEnv 0x80) (loop (registerEnv 0x80) w₀).2).1.map fun _ =>
          ((turnPayload (registerEnv 0x80) w₀).1,
            (turnPayload (registerEnv 0x80) (loop (registerEnv 0x80) w₀).2).1,
            (loop (registerEnv 0x80) (loop (registerEnv 0x80) w₀).2).2.handle.cmd)) =
      some (some none, some (some ⟨0, 0, 0x80, 0x80⟩), cmdIdle) := by
    decide +kernel
  obtain ⟨w₀, after, ran⟩ := Option.bind_eq_some_iff.mp ran
  obtain ⟨_, first, ran⟩ := Option.bind_eq_some_iff.mp ran
  obtain ⟨_, second, ran⟩ := Option.map_eq_some_iff.mp ran
  obtain ⟨none, ran⟩ := Prod.mk.inj ran
  obtain ⟨payload, idle⟩ := Prod.mk.inj ran
  have tame₀ : TameTurn (registerEnv 0x80) w₀ := by
    intro p taken
    rw [none] at taken
    cases taken
  have tame₁ : TameTurn (registerEnv 0x80) (loop (registerEnv 0x80) w₀).2 := by
    intro p taken
    rw [payload] at taken
    obtain rfl := Option.some.inj (Option.some.inj taken)
    decide
  have reach₁ := (tameReach_of_stateAfter after).loop tame₀ (Prod.ext first rfl)
  exact ⟨_, idle, latches_match_caches (reach₁.loop tame₁ (Prod.ext second rfl))⟩

/-- The raw byte is on the latch and stays there: the cache says 0, so nothing clears it. -/
theorem raw_byte_outlives_command :
    ¬ ∀ (env : Env) (w : World), Reach env w →
      w.Coherent env.build ∧ (w.handle.cmd = cmdIdle → w.latches.control = 0) := by
  intro claim
  have ran : (stateAfter (registerEnv 0) .blank 2).map (fun w => (w.handle.cmd, w.latches.control)) =
      some (cmdIdle, 0x80) := by
    decide +kernel
  obtain ⟨w, after, told⟩ := Option.map_eq_some_iff.mp ran
  obtain ⟨idle, raw⟩ := Prod.mk.inj told
  have clear := (claim _ w (reach_stateAfter World.blank_poweredUp after).1).2 idle
  rw [raw] at clear
  exact absurd clear (by decide)

end Firestarter
