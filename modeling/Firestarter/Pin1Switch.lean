import Firestarter.ReadDischarge

/-! The pin-1 switch of a board of revision 2 has its latch bit in common with bus line 21, so an
address may throw it. A read sees to it that nothing is behind the switch then; here is which
commands never put a programming voltage on the pin that way. -/
namespace Firestarter

open Interactive Interactive.Prog

set_option synthInstance.maxSize 4000

variable {env : Env} {b : Build} {due : Bool} {w w' w₀ w₁ : World}

/-! ## The lines of a frame -/

/-- A frame that puts nothing on line 21 but the supply of a pin-1 part. -/
structure Handle.LeavesLine21 (h : Handle) : Prop where
  lines : ∀ line ∈ h.busConfig.listed, line ≠ vppP132Dip
  rwLine : h.busConfig.rwLine ≠ vppP132Dip
  vppLine : h.busConfig.vppLine = vppP132Dip → h.usingP1AsVpp = true
  staticHigh : h.busConfig.staticHighMask.getLsbD 21 = false

theorem Handle.leavesLine21_iff {h : Handle} : h.LeavesLine21 ↔
    (∀ line ∈ h.busConfig.listed, line ≠ vppP132Dip) ∧ h.busConfig.rwLine ≠ vppP132Dip ∧
      (h.busConfig.vppLine = vppP132Dip → h.usingP1AsVpp = true) ∧
      h.busConfig.staticHighMask.getLsbD 21 = false :=
  ⟨fun leaves => ⟨leaves.lines, leaves.rwLine, leaves.vppLine, leaves.staticHigh⟩,
    fun leaves => ⟨leaves.1, leaves.2.1, leaves.2.2.1, leaves.2.2.2⟩⟩

instance (h : Handle) : Decidable h.LeavesLine21 := decidable_of_iff _ Handle.leavesLine21_iff.symm

section
variable {hw : U8} {f : MemoryFrame} {received h : Handle}

theorem MemoryFrame.remapped_line21 (wellFormed : f.WellFormed)
    (unlisted : ∀ line ∈ f.lines, line ≠ vppP132Dip) (address : U32) :
    ((f.configured b hw received).busConfig.remapped address).getLsbD 21 = false := by
  by_cases none : f.lines = []
  · have empty : (f.configured b hw received).busConfig.remapped address = 0xFFFF &&& address := by
      show (if (f.table.getD 0 0xFF != 0xFF) = true then _
        else (if f.lines = [] then 0xFFFF else lineMask f.lines) &&& address) = _
      rw [MemoryFrame.table, none]
      rfl
    rw [empty, BitVec.getLsbD_and]
    rfl
  · refine f.remapped_unlisted wellFormed none address fun line member same => ?_
    exact unlisted line member (BitVec.eq_of_toNat_eq same)

/-- On a board of revision 2 line 21 has the switch. -/
theorem vppLineSwitchesVpp_pin1 (layout : b.hardwareRevision = true)
    (rev2 : isRevision2 hw = true) : vppLineSwitchesVpp b hw vppP132Dip = true := by
  have physical : physicalControl b hw ctrlAddressLine18 = 0x08 := by
    unfold physicalControl mapCtrlReg
    rw [layout, if_pos rfl, if_pos rev2]
    rfl
  show (physicalControl b hw ctrlAddressLine18 &&& _ != 0) = true
  rw [physical]
  rfl

/-- A read that raises it over the switch does so with the regulator off. -/
theorem MemoryFrame.readHigh_line21 (wellFormed : f.WellFormed)
    (layout : b.hardwareRevision = true) (rev2 : isRevision2 hw = true) {readWrite : U32}
    {control : Reg}
    (raised : (readHighBits (f.configured b hw received).busConfig readWrite control).getLsbD 21 =
      true) :
    (f.configured b hw received).busConfig.readHighNeedsRegOff = true ∧
      control.getLsbD 7 = false := by
  have mask : (f.configured b hw received).busConfig.readHighMask =
      if (f.vppLine != cfLineAbsent && (f.configured b hw received).usingP1AsVpp) = true then
        lineBit f.vppLine
      else 0 := rfl
  have needs : (f.configured b hw received).busConfig.readHighNeedsRegOff =
      (f.vppLine != cfLineAbsent && (f.configured b hw received).usingP1AsVpp &&
        vppLineSwitchesVpp b hw f.vppLine) := rfl
  unfold readHighBits at raised
  dsimp only at raised
  rw [ite_getLsbD, Bool.and_eq_true_iff, mask, ite_getLsbD] at raised
  obtain ⟨free, shown⟩ := raised
  obtain ⟨supply, line⟩ := Bool.and_eq_true_iff.mp shown
  have here : f.vppLine = vppP132Dip := by
    rcases wellFormed.vppLine with absent | onBus
    · rw [absent] at supply
      cases supply
    · rw [lineBit_getLsbD onBus] at line
      have line : 21 = f.vppLine.toNat := of_decide_eq_true line
      exact BitVec.eq_of_toNat_eq line.symm
  have needed : (f.configured b hw received).busConfig.readHighNeedsRegOff = true := by
    rw [needs, supply, here, vppLineSwitchesVpp_pin1 layout rev2]
    rfl
  rw [needed, if_pos rfl] at free
  have off : control &&& (ctrlVppP1Enable ||| ctrlVppRegulatorEnable) = 0 :=
    beq_iff_eq.mp (Bool.and_eq_true_iff.mp free).2
  have bit := congrArg (fun v => v.getLsbD 7) off
  have set : (ctrlVppP1Enable ||| ctrlVppRegulatorEnable).getLsbD 7 = true := by decide
  simp only [BitVec.getLsbD_and, set, Bool.and_true] at bit
  exact ⟨needed, bit⟩

/-- The other terms of the remap leave the line alone. -/
theorem MemoryFrame.remap_line21 (wellFormed : f.WellFormed)
    (leaves : (f.configured b hw received).LeavesLine21) {address readWrite : U32} {control : Reg}
    (direction : readWrite = readFlag ∨ readWrite = writeFlag)
    (raised : (memUtilRemapAddressBus (f.configured b hw received) address readWrite
      control).getLsbD 21 = true) :
    (readHighBits (f.configured b hw received).busConfig readWrite control).getLsbD 21 = true := by
  obtain ⟨lines, rwLine, vppLine, staticHigh⟩ := leaves
  rw [f.configured_listed wellFormed] at lines
  have rwOff (present : Bool) :
      (if present = true then readWrite <<< f.rwLine.toNat else 0).getLsbD 21 = false := by
    have off : (readWrite <<< f.rwLine.toNat).getLsbD 21 = false :=
      readWrite_other direction (Ne.symm rwLine)
    rw [ite_getLsbD, off, Bool.and_false]
  have vppOff : (if (f.vppLine != 0xFF && !(f.configured b hw received).usingP1AsVpp) = true then
      lineBit f.vppLine else 0).getLsbD 21 = false := by
    rw [ite_getLsbD]
    by_cases here : f.vppLine = vppP132Dip
    · rw [vppLine here, Bool.not_true, Bool.and_false, Bool.false_and]
    · rcases wellFormed.vppLine with absent | onBus
      · rw [absent]
        rfl
      · have off : (lineBit f.vppLine).getLsbD 21 = false := lineBit_other onBus (Ne.symm here)
        rw [off, Bool.and_false]
  by_contra low
  rw [memUtilRemapAddressBus_eq, BitVec.getLsbD_or, f.remapped_line21 wellFormed lines,
    Bool.false_or] at raised
  unfold Handle.steadyLines at raised
  dsimp only at raised
  rw [BitVec.getLsbD_or, BitVec.getLsbD_or, BitVec.getLsbD_or] at raised
  have none := Bool.or_eq_false_iff.mpr ⟨Bool.or_eq_false_iff.mpr ⟨Bool.or_eq_false_iff.mpr
    ⟨rwOff (f.rwLine != 0xFF), vppOff⟩, Bool.eq_false_iff.mpr low⟩, staticHigh⟩
  exact Bool.false_ne_true (none.symm.trans raised)

/-- For a handle that has the lines of such a frame. -/
theorem readsOverSwitch_of_raised (layout : b.hardwareRevision = true)
    (rev2 : isRevision2 hw = true) (wellFormed : f.WellFormed)
    (bus : h.busConfig = (f.configured b hw received).busConfig)
    (pins : h.pins = (f.configured b hw received).pins) (leaves : h.LeavesLine21)
    {address readWrite : U32} {control : Reg}
    (direction : readWrite = readFlag ∨ readWrite = writeFlag)
    (raised : (memUtilRemapAddressBus h address readWrite control).getLsbD 21 = true) :
    h.busConfig.readHighNeedsRegOff = true ∧ control.getLsbD 7 = false := by
  have pin1 : h.usingP1AsVpp = (f.configured b hw received).usingP1AsVpp := by
    unfold Handle.usingP1AsVpp
    rw [bus, pins]
  have leaves : (f.configured b hw received).LeavesLine21 := by
    obtain ⟨lines, rwLine, vppLine, staticHigh⟩ := leaves
    rw [bus] at lines rwLine vppLine staticHigh
    rw [pin1] at vppLine
    exact ⟨lines, rwLine, vppLine, staticHigh⟩
  unfold memUtilRemapAddressBus at raised
  rw [bus, pin1] at raised
  rw [bus]
  exact f.readHigh_line21 wellFormed layout rev2
    (f.remap_line21 wellFormed leaves direction raised)

end

/-- The decoder made the handle of a memory command of a memory frame. -/
theorem Decoded.exists_memory_frame {decoded : Handle} (made : Decoded b decoded)
    (kind : cfPayloadKind decoded.cmd = .memory) :
    ∃ received, ∃ f : MemoryFrame, f.WellFormed ∧
      decoded = (CommandFrame.memory f).apply received := by
  obtain ⟨received, -, decodes⟩ := made
  rcases cmdDecode_cases b received with ⟨admitted, same⟩ | ⟨-, res, bad, same⟩
  · obtain ⟨f, wellFormed, bytes⟩ := exists_frame admitted
    have decoded : decoded = f.apply received :=
      (Prod.mk.inj (decodes.symm.trans same)).1.trans (admitted_of_frame wellFormed bytes).2
    cases f with
    | memory f => exact ⟨received, f, wellFormed, decoded⟩
    | config f =>
      have wellFormed : f.WellFormed b := wellFormed
      rw [decoded] at kind
      exact absurd (wellFormed.kind.symm.trans kind) nofun
    | bare cmd flags =>
      have none : cfPayloadKind cmd = .none ∧ _ := wellFormed
      rw [decoded] at kind
      exact absurd (none.1.symm.trans kind) nofun
  · exact (bad (Prod.mk.inj (same.symm.trans decodes)).2).elim

/-- The memory of the command was set up for its lines. -/
theorem sparesLine21_of_parsed {R : Readiness env} (layout : env.build.hardwareRevision = true)
    (parsed : Parsed R w) (memory : isMemoryCmd w.handle.cmd = true)
    (rev2 : isRevision2 w.hardwareRevision = true) (leaves : w.handle.LeavesLine21)
    (guarded : due = true → w.handle.busConfig.readHighNeedsRegOff = false) :
    w.handle.SparesLine21 due := by
  obtain ⟨decoded, made, setUp⟩ := parsed.memory memory
  obtain ⟨driver, -, -, ⟨same, -⟩, -⟩ := setUp.handle
  have unconfigured : (driver.setUp env.build w.hardwareRevision decoded).unconfigured =
      (decoded.withReadHighMask env.build w.hardwareRevision).unconfigured :=
    driver.configured_unconfigured _
  have unchangedCmd := congrArg Handle.cmd unconfigured
  have unchangedBus := congrArg Handle.busConfig unconfigured
  have unchangedPins := congrArg Handle.pins unconfigured
  have cmd : w.handle.cmd = decoded.cmd := (congrArg Handle.cmd same).trans unchangedCmd
  have bus : w.handle.busConfig =
      (decoded.withReadHighMask env.build w.hardwareRevision).busConfig :=
    (congrArg Handle.busConfig same).trans unchangedBus
  have pins : w.handle.pins = (decoded.withReadHighMask env.build w.hardwareRevision).pins :=
    (congrArg Handle.pins same).trans unchangedPins
  rw [cmd] at memory
  obtain ⟨received, f, wellFormed, rfl⟩ :=
    made.exists_memory_frame (payloadKind_of_memory memory)
  intro address readWrite control direction raised
  obtain ⟨overSwitch, off⟩ :=
    readsOverSwitch_of_raised layout rev2 wellFormed bus pins leaves direction raised
  refine ⟨Bool.eq_false_iff.mpr fun isDue => ?_, off⟩
  rw [guarded isDue] at overSwitch
  cases overSwitch

/-! ## The turns of a command -/

theorem sparing_of_dark (layout : env.build.hardwareRevision = true)
    (dark : Dark env.build due w₁) (runs : RunsOnFiveVolts w₁) (seen : SeenWhileRunning env w₁ w) :
    Sparing due w₁ w := by
  have : AddressFrame env (Upholds (Dark env.build due) due) := Dark.addressFrame layout
  have done : Within env (Upholds (Dark env.build due) due) commandDone :=
    Upholds.within_commandDone fun _ => Dark.within_write (NoHighVoltage.zero env.build)
  have step : Upholds (Dark env.build due) due w₁ w :=
    within_seenWhileRunning RunsOnFiveVolts.talk done ends_runCommand_fiveVolt runs seen
  exact (step dark).2

/-- A memory command that is running, set up by a driver. -/
def RunsSettled (w : World) : Prop :=
  isMemoryCmd w.handle.cmd = true ∧ w.handle.CallbacksIn (· ≠ .configureMemory)

theorem RunsSettled.talk (runs : RunsSettled w) (talk : TalkStep w w') : RunsSettled w' := by
  have cmd := congrArg (fun w : World => w.handle.cmd) talk.kept
  have cmd : w'.handle.cmd = w.handle.cmd := cmd
  have kept : Guarded (Handle.CallbacksIn (· ≠ .configureMemory)) Continues w w' :=
    HostFrame.talk w w' talk
  exact ⟨cmd ▸ runs.1, (kept runs.2).1⟩

theorem sparing_of_clear (layout : env.build.hardwareRevision = true)
    (clear : Clear env.build due w₁) (runs : RunsSettled w₁) (seen : SeenWhileRunning env w₁ w) :
    Sparing due w₁ w := by
  have : FetchFrame env (Upholds (Clear env.build due) due) := Clear.fetchFrame layout
  have : DepositFrame env (Upholds (Clear env.build due) due) := Clear.depositFrame layout
  have : HomeFrame env (Upholds (Clear env.build due) due) := Clear.homeFrame layout
  have done : Within env (Upholds (Clear env.build due) due) commandDone :=
    Upholds.within_commandDone fun _ => inferInstance
  have turns {w : World} (runs : RunsSettled w) :
      Ends (runCommand w.handle.cmd) env w
        (fun _ w' => Upholds (Clear env.build due) due w w' ∧ RunsSettled w')
        (Upholds (Clear env.build due) due w) := by
    refine (ends_memoryCommand (fun _ => id) (fun _ => within_settled) runs.1 runs.2).mono
      (fun _ w' so => ?_) fun _ => id
    obtain ⟨step, cmd, callbacks⟩ := so
    exact ⟨step, cmd ▸ runs.1, callbacks⟩
  have step : Upholds (Clear env.build due) due w₁ w :=
    within_seenWhileRunning RunsSettled.talk done turns runs seen
  exact (step clear).2

instance (reg : U8) (data : Reg) : Within env (Sparing due) (rurpWriteToRegister reg data) :=
  Sparing.within_write reg data

/-- The raw register command writes no address. -/
theorem sparing_of_registers (register : w₁.handle.cmd = cmdDevRegister)
    (seen : SeenWhileRunning env w₁ w) : Sparing due w₁ w := by
  have : Within env (Sparing due) (setHandle fun h => { h with cmd := cmdIdle }) :=
    Within.update _ fun _ => Grows.of_silent rfl rfl
  have := TalkStep.note env .finished rfl rfl
  have done : Within env (Sparing due) commandDone := by
    unfold commandDone
    infer_instance
  have registers : Within env (Sparing due) (runCommand cmdDevRegister) := by
    have unknown : Within env (Sparing due)
        (do logIdU8 msgErrUnknownCmd cmdDevRegister; return true) := inferInstance
    have applied (msb lsb high low : U8) :
        Within env (Sparing due) (dtApplyRegisters msb lsb high low) := by
      unfold dtApplyRegisters
      infer_instance
    have known : Within env (Sparing due) dtSetRegisters := by
      unfold dtSetRegisters
      infer_instance
    unfold runCommand
    refine within_bind inferInstance fun b => ?_
    cases devTools : b.devTools with
    | true => exact ⟨known.moves⟩
    | false => exact ⟨unknown.moves⟩
  have turns {w : World} (runs : w.handle.cmd = cmdDevRegister) :
      Ends (runCommand w.handle.cmd) env w
        (fun _ w' => Sparing due w w' ∧ w'.handle.cmd = cmdDevRegister) (Sparing due w) := by
    have own := @within_runCommand env cmdDevRegister rfl
    rw [runs]
    refine ((own.ends w).and (registers.ends w)).mono (fun _ w' step => ?_) fun _ step => step.2
    have cmd := congrArg Prod.fst step.1.kept
    exact ⟨step.2, Eq.trans cmd runs⟩
  have talks {w w' : World} (runs : w.handle.cmd = cmdDevRegister) (talk : TalkStep w w') :
      w'.handle.cmd = cmdDevRegister := by
    have cmd := congrArg (fun w : World => w.handle.cmd) talk.kept
    exact Eq.trans cmd runs
  exact within_seenWhileRunning talks done turns register seen

/-- An idle firmware takes no register payload. -/
theorem tameTurn_of_idle (idle : w.handle.cmd = cmdIdle) : TameTurn env w := by
  have none : Ends turnPayload env w (fun p _ => p = Option.none) (fun _ => True) := by
    unfold turnPayload setResponseCode
    rw [ends_bind, ends_look, ends_bind]
    refine ends_any _ (fun now w₁ => ?_) fun _ => trivial
    split
    · rfl
    · rw [ends_bind, ends_setHandle, ends_bind, ends_build, idle]
      rfl
  intro p taken
  have took : turnPayload env w = (some (some p), (turnPayload env w).2) := Prod.ext taken rfl
  cases (ends_iff.mp none).1 _ _ took

/-- The command puts nothing on line 21 but the supply of a pin-1 part; or it never needs more than
five volts, and before a read the regulator has been off for as long as the discharge takes. -/
def World.GuardsPin1 (w : World) : Prop :=
  w.handle.LeavesLine21 ∨
    w.handle.OnFiveVoltPath ∧ (w.handle.cmd = cmdRead → w.Discharged)

/-- In a run that strobes no raw control byte but 0, the turn that takes up a frame spares pin 1,
and so does every later turn of a command that guards the pin. -/
theorem pin1_spared (layout : env.build.hardwareRevision = true) (tame : TameReach env w₀)
    (idle : w₀.handle.cmd = cmdIdle) :
    Sparing true w₀ (loop env w₀).2 ∧
    ∀ w₁, loop env w₀ = (some (), w₁) → cfPayloadKind w₁.handle.cmd = .memory →
      isRevision2 w₁.hardwareRevision = true →
      (isMemoryCmd w₁.handle.cmd = true → w₁.GuardsPin1) →
        ∀ w, SeenWhileRunning env w₁ w → Sparing (w₁.handle.cmd == cmdRead) w₁ w := by
  have steady := steady_of_tameReach tame
  have rest : w₀.Rest env.build := ⟨steady.toAgreed, steady.control (.inl idle)⟩
  refine ⟨sparing_of_idle layout rest idle, fun w₁ received kind rev2 guards w seen => ?_⟩
  have busy : w₁.handle.cmd ≠ cmdIdle := by
    intro idle
    rw [idle] at kind
    cases kind
  have listens : receiveCommand env w₀ = (some (), w₁) := (loop_of_idle idle).symm.trans received
  have agreed : w₁.Agreed env.build :=
    (steady_of_tameReach (tame.loop (tameTurn_of_idle idle) received)).toAgreed
  have off : NoHighVoltage env.build w₁.controlRegister := by
    have step := (within_receiveCommand_fiveVolt layout).moves w₀
    rw [listens, FiveVoltStep, rest.control] at step
    exact (step (NoHighVoltage.zero env.build)).1
  have waited : w₁.Waited :=
    (ends_iff.mp (ends_receiveCommand_waited rest idle)).1 () w₁ listens
  obtain ⟨v, rfl, parsed⟩ :=
    parsed_of_busy (R := Readiness.free env) tame.reach trivial idle received busy
  have dark (runs : RunsOnFiveVolts v) (discharged : v.handle.cmd = cmdRead → v.Discharged) :
      Sparing (v.handle.cmd == cmdRead) { v with trace := .accepted v.handle :: v.trace } w :=
    sparing_of_dark layout ⟨agreed, off, fun isDue => discharged (beq_iff_eq.mp isDue)⟩ runs seen
  cases memory : isMemoryCmd v.handle.cmd with
  | true =>
    obtain ⟨decoded, -, setUp⟩ := parsed.memory memory
    obtain ⟨driver, -, -, same, -⟩ := setUp.handle
    have settled : v.handle.Settled := CommandInvariant.settled_of_setUp same
    rcases guards memory with leaves | ⟨path, discharged⟩
    · by_cases overSwitch : v.handle.ReadsOverSwitch
      · have cmd : v.handle.cmd = decoded.cmd :=
          (congrArg Handle.cmd same.1).trans (driver.setUp_cmd _ _ _)
        have main : v.handle.firestarterOperationMain = some .memoryReadExecute :=
          (congrArg Handle.firestarterOperationMain same.1).trans
            (driver.setUp_read _ _ (cmd.symm.trans overSwitch.1))
        have named : v.handle.firestarterOperationMain ≠ none := by
          rw [main]
          nofun
        exact dark (runsOnFiveVolts_of_parsed parsed (.inl overSwitch.1)) fun _ =>
          waited named overSwitch
      · have spares : v.handle.SparesLine21 (v.handle.cmd == cmdRead) :=
          sparesLine21_of_parsed layout parsed memory rev2 leaves fun isDue =>
            Bool.eq_false_iff.mpr fun needs => overSwitch ⟨beq_iff_eq.mp isDue, needs⟩
        have callbacks : v.handle.CallbacksIn (· ≠ .configureMemory) := by
          rintro _ (named | named | named) rfl
          · exact settled.init named
          · exact settled.main named
          · exact settled.finish named
        exact sparing_of_clear layout ⟨agreed, spares⟩ ⟨memory, callbacks⟩ seen
    · exact dark (runsOnFiveVolts_of_parsed parsed path) discharged
  | false =>
    rcases devCommand_of_payloadKind kind memory with address | register
    · refine dark (.inr address) fun read => ?_
      rw [read] at memory
      cases memory
    · exact sparing_of_registers register seen

/-- An address write had the switch on without the driver's asking. -/
def Event.throwsPin1 : Event → Bool
  | .addressed logical latches _ => latches.control.getLsbD 3 && !logical.getLsbD 3
  | _ => false

/-- A Leonardo on a Rev 2.0 shield whose host runs a command on a 32-pin EPROM. -/
def pin1Env (cmd vppLine : U8) (staticHighMask : U32) : Env :=
  (Env.still ⟨.leonardo, false⟩ 200).sends <|
    memoryFrame { cmd := cmd, memSize := 4, protocol := protoEprom32Pin, pins := 32, vppMv := 13900
                  chipId := 0x1234,
                  busConfig := { addressLines := [0, 1], rwLine := 0xFF, vppLine := vppLine
                                 staticHighMask := staticHighMask } } ++
      [asciiO, asciiK, asciiO, asciiK, asciiO, asciiK]

/-- What such a run tells of the pin: the command and the board, whether the frame leaves line 21
alone, whether the switch was thrown, and whether the pin was spared. -/
def pin1Told (w₁ w : World) : (U8 × U8) × Bool × Bool × Bool :=
  ((w₁.handle.cmd, w₁.hardwareRevision), decide w₁.handle.LeavesLine21,
    (eventsSince w₁ w).any Event.throwsPin1,
    (eventsSince w₁ w).all (Event.sparesPin1 (w₁.handle.cmd == cmdRead)))

/-- A read holds pin 1 high through the switch, the supply behind it long discharged. -/
theorem pin1_spared_read : ∃ w₁ w : World, w₁.handle.cmd = cmdRead ∧
    (eventsSince w₁ w).any Event.throwsPin1 = true ∧ Sparing true w₁ w := by
  obtain ⟨w₀, w₁, w, booted, idle, received, states, told⟩ := @exists_of_turnsAfter
    (pin1Env cmdRead vppP132Dip 0) _ 3 pin1Told ((cmdRead, revision20), true, true, true)
    (by decide +kernel)
  obtain ⟨command, told⟩ := Prod.mk.inj told
  obtain ⟨read, revision⟩ := Prod.mk.inj command
  obtain ⟨leaves, told⟩ := Prod.mk.inj told
  obtain ⟨thrown, -⟩ := Prod.mk.inj told
  have spared := (@pin1_spared (pin1Env cmdRead vppP132Dip 0) _ rfl
    (tameReach_of_stateAfter booted) idle).2 w₁ received (by rw [read]; rfl)
    (by rw [revision]; rfl) (fun _ => .inl (of_decide_eq_true leaves)) w (.between states)
  rw [read] at spared
  exact ⟨w₁, w, read, thrown, spared⟩

/-- Held high for a part whose identifier is read, the same line has the regulated rail on pin 1. -/
theorem rail_on_pin1 : ¬ ∀ (env : Env) (w₀ w₁ w : World), env.build.hardwareRevision = true →
    Reach env w₀ → w₀.handle.cmd = cmdIdle → loop env w₀ = (some (), w₁) →
    cfPayloadKind w₁.handle.cmd = .memory → isRevision2 w₁.hardwareRevision = true →
    SeenWhileRunning env w₁ w → Sparing (w₁.handle.cmd == cmdRead) w₁ w := by
  intro claim
  obtain ⟨w₀, w₁, w, booted, idle, received, states, told⟩ := @exists_of_turnsAfter
    (pin1Env cmdCheckChipId 0xFF 0x200000) _ 2 pin1Told
    ((cmdCheckChipId, revision20), false, true, false) (by decide +kernel)
  have reach := (reach_stateAfter World.blank_poweredUp booted).1
  obtain ⟨command, told⟩ := Prod.mk.inj told
  obtain ⟨check, revision⟩ := Prod.mk.inj command
  obtain ⟨-, told⟩ := Prod.mk.inj told
  obtain ⟨-, spares⟩ := Prod.mk.inj told
  obtain ⟨-, new, trace, heard⟩ := claim _ w₀ w₁ w rfl reach idle received (by rw [check]; rfl)
    (by rw [revision]; rfl) (.between states)
  rw [eventsSince_eq trace, List.all_eq_true.mpr heard] at spares
  cases spares

end Firestarter
