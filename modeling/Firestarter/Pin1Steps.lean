import Firestarter.CommandTurns
import Firestarter.LatchCoherence

/-! The pin-1 switch of a board of revision 2 has its latch bit in common with bus line 21, so an
address may throw it: what has to hold of the registers for that to do no harm, and which accesses
and which settings of a driver keep it so. -/
namespace Firestarter

open Interactive Interactive.Prog

set_option synthInstance.maxSize 4000

/-! ## The switch after an address write -/

/-- Where the latch has the switch on without the driver's asking, the regulator is off in that same
latch and, where a discharge is due, has been off for as long as one takes. -/
def Event.sparesPin1 (due : Bool) : Event → Bool
  | .addressed logical latches offFor =>
    decide (latches.control.getLsbD 3 = true → logical.getLsbD 3 = false →
      latches.control.getLsbD 7 = false ∧ (due = true → rurpVpeDischargeMs.toNat ≤ offFor))
  | _ => true

/-- Every address write on the way spares the pin. -/
abbrev Sparing (due : Bool) : World → World → Prop := Grows (fun _ => ()) (Event.sparesPin1 due)

/-- From a state with the property to one that has it, the pin spared on the way. -/
def Upholds (J : World → Prop) (due : Bool) (s s' : World) : Prop := J s → J s' ∧ Sparing due s s'

/-- A property of the registers, their record, and what the handle says of the bus. -/
class Steadfast (J : World → Prop) : Prop where
  keeps : ∀ {s s' : World}, RegistersKept s s' → s'.handle.busConfig = s.handle.busConfig →
    s'.handle.pins = s.handle.pins → J s → J s'

variable {env : Env} {b : Build} {due : Bool} {J : World → Prop} {s s' w w' w₀ : World}

theorem Event.sparesPin1_of_talk {e : Event} (talk : (!e.isBoundary && !e.isShieldNoise) = true) :
    e.sparesPin1 due = true := by
  cases e <;> first | rfl | cases talk

instance : HostFrame (Sparing due) where
  refl s := refl_of (Sparing due) s
  trans _ _ _ first rest := trans_of (Sparing due) first rest
  talk _ _ talk := by
    obtain ⟨new, trace, heard⟩ := talk.adds
    exact ⟨rfl, new, trace, fun e member => Event.sparesPin1_of_talk (heard e member)⟩

instance [Steadfast J] : HostFrame (Upholds J due) where
  refl s there := ⟨there, refl_of (Sparing due) s⟩
  trans _ _ _ first rest there := by
    obtain ⟨there, spares⟩ := first there
    obtain ⟨there, spares'⟩ := rest there
    exact ⟨there, trans_of (Sparing due) spares spares'⟩
  talk s s' talk there := by
    have bus := congrArg (fun w : World => w.handle.busConfig) talk.kept
    have pins := congrArg (fun w : World => w.handle.pins) talk.kept
    exact ⟨Steadfast.keeps talk.registersKept bus pins there, HostFrame.talk s s' talk⟩

/-- A note about anything but an address write. -/
theorem Upholds.note [Steadfast J] (s : World) (e : Event) (other : e.sparesPin1 due = true) :
    Upholds J due s { s with trace := e :: s.trace } := fun there =>
  ⟨Steadfast.keeps (s := s) ⟨rfl, rfl, Nat.le_refl _⟩ rfl rfl there, Grows.of_note e other rfl⟩

instance [Steadfast J] : SenseFrame (Upholds J due) where
  sense s e passive := Upholds.note s e (by cases e <;> first | rfl | cases passive)

instance [Steadfast J] : StoreFrame (Upholds J due) where
  store s e store := Upholds.note s e (by cases e <;> first | rfl | cases store)

/-! ## Register writes -/

instance : BusFrame env (Sparing due) where
  bus _ _ _ same := Grows.of_bus rfl same

instance : LatchFrame (Sparing due) where
  strobe _ reg byte _ _ := ⟨rfl, [.strobe reg byte], rfl, by simp [Event.sparesPin1]⟩

/-- A register write is no address write. -/
theorem Sparing.within_write (reg : U8) (data : Reg) :
    Within env (Sparing due) (rurpWriteToRegister reg data) := by
  have silent (f : World → World) (trace : ∀ w, (f w).trace = w.trace) :
      Within env (Sparing due) (update f : Fw Unit) :=
    Within.update f fun w => Grows.of_silent rfl (trace w)
  have := silent (fun w => { w with lsbAddress := data.setWidth 8 }) fun _ => rfl
  have := silent (fun w => { w with msbAddress := data.setWidth 8 }) fun _ => rfl
  have := silent (fun w => { w with controlRegister := data }) fun _ => rfl
  have (now : U32) := silent (fun w => { w with regulatorOffMs := now }) fun _ => rfl
  have : Within env (Sparing due) (note (.control data)) :=
    Within.update _ fun w => Grows.of_note _ rfl rfl
  have (old : Reg) : Within env (Sparing due) (writeControlRegister old data) := by
    unfold writeControlRegister
    infer_instance
  unfold rurpWriteToRegister
  infer_instance

/-- A program that neither leaves the property nor throws the switch. -/
theorem Upholds.within_of_ends {α : Type} {m : Fw α}
    (runs : ∀ s, J s → Ends m env s (fun _ s' => J s' ∧ Sparing due s s')
      (fun s' => J s' ∧ Sparing due s s')) : Within env (Upholds J due) m := by
  refine within_iff_ends.mpr fun s => ?_
  by_cases there : J s
  · exact (runs s there).mono (fun _ _ so _ => so) fun _ so _ => so
  · exact ends_any _ (fun _ _ here => absurd here there) fun _ here => absurd here there

theorem Upholds.within_write {reg : U8} {data : Reg}
    (keeps : ∀ s, J s → Ends (rurpWriteToRegister reg data) env s (fun _ s' => J s')
      (fun _ => False)) : Within env (Upholds J due) (rurpWriteToRegister reg data) :=
  Upholds.within_of_ends fun s there =>
    ((keeps s there).and ((Sparing.within_write reg data).ends s)).mono (fun _ _ both => both)
      fun _ both => both.1.elim

/-- What an address write does to latches that agree with the caches. -/
structure AddressedTo (b : Build) (due : Bool) (bus : U32) (w w' : World) : Prop where
  agreed : w'.Agreed b
  setting : SameSetting w w'
  later : w.now ≤ w'.now
  off : w.controlRegister.getLsbD 7 = false → w'.regulatorOffAt = w.regulatorOffAt
  control : w'.controlRegister =
    memUtilCalculateTopAddressRegister b w.hardwareRevision w.handle.pins w.controlRegister bus
  spares : (Event.addressed w'.controlRegister w'.latches
      (w'.now - w'.regulatorOffAt)).sparesPin1 due = true → Sparing due w w'

theorem ends_addressed (due : Bool) (agreed : w.Agreed env.build) (bus : U32) :
    Ends (memUtilSetAddress bus) env w (fun _ => AddressedTo env.build due bus w)
      (fun _ => False) := by
  have write (v : World) (agreed : v.Agreed env.build) (reg : U8) (data : Reg) :
      Ends (rurpWriteToRegister reg data) env v
        (fun _ v' => WrittenTo env.build reg data v v' ∧ Sparing due v v') (fun _ => False) :=
    ((ends_write_agreed agreed reg data).and ((Sparing.within_write reg data).ends v)).mono
      (fun _ _ both => both) fun _ both => both.1
  unfold memUtilSetAddress
  rw [ends_bind]
  refine (write w agreed _ _).mono (fun _ w₁ so => ?_) fun _ => id
  obtain ⟨lsb, spares₁⟩ := so
  have control₁ : w₁.controlRegister = w.controlRegister := lsb.control
  rw [ends_bind]
  refine (write w₁ lsb.agreed _ _).mono (fun _ w₂ so => ?_) fun _ => id
  obtain ⟨msb, spares₂⟩ := so
  have control₂ : w₂.controlRegister = w.controlRegister := msb.control.trans control₁
  show Ends (rurpWriteToRegister controlRegister
      (memUtilCalculateTopAddressRegister env.build w₂.hardwareRevision w₂.handle.pins
        w₂.controlRegister bus) >>= _) env w₂ _ _
  rw [ends_bind]
  refine (write w₂ msb.agreed _ _).mono (fun _ w₃ so => ?_) fun _ => id
  obtain ⟨top, spares₃⟩ := so
  refine ⟨⟨top.agreed.coherent, top.agreed.clocked⟩, ⟨?_, ?_, ?_⟩, ?_, fun off => ?_, ?_,
    fun spares => ?_⟩
  · exact top.setting.handle.trans (msb.setting.handle.trans lsb.setting.handle)
  · exact top.setting.config.trans (msb.setting.config.trans lsb.setting.config)
  · exact top.setting.revision.trans (msb.setting.revision.trans lsb.setting.revision)
  · exact lsb.timed.later.trans (msb.timed.later.trans top.timed.later)
  · have off₁ := lsb.timed.off off
    have off₂ := msb.timed.off (control₁ ▸ off)
    exact (top.timed.off (control₂ ▸ off)).trans (off₂.trans off₁)
  · have control := top.control
    rw [if_pos rfl, msb.setting.hardwareRevision, lsb.setting.hardwareRevision,
      msb.setting.handle, lsb.setting.handle, control₂] at control
    exact control
  · refine trans_of (Sparing due) spares₁ (trans_of (Sparing due) spares₂
      (trans_of (Sparing due) spares₃ ?_))
    exact Grows.of_note _ spares rfl

/-- The end of a command empties the registers. -/
theorem Upholds.within_commandDone [Steadfast J]
    (writes : ∀ reg, Within env (Upholds J due) (rurpWriteToRegister reg 0)) :
    Within env (Upholds J due) commandDone := by
  have : Within env (Upholds J due) (setHandle fun h => { h with cmd := cmdIdle }) :=
    Within.update _ fun s there =>
      ⟨Steadfast.keeps (s := s) ⟨rfl, rfl, Nat.le_refl _⟩ rfl rfl there, Grows.of_silent rfl rfl⟩
  have := TalkStep.note env .finished rfl rfl
  unfold commandDone
  infer_instance

/-! ## A register without a switch on -/

/-- The regulator has been off for as long as the discharge takes. -/
def World.Discharged (w : World) : Prop := w.regulatorOffAt + rurpVpeDischargeMs.toNat ≤ w.now

theorem World.Discharged.later (discharged : w.Discharged)
    (off : w'.regulatorOffAt = w.regulatorOffAt) (later : w.now ≤ w'.now) : w'.Discharged := by
  unfold World.Discharged
  rw [off]
  exact Nat.le_trans discharged later

/-- No switch is on, and where a discharge is due it is over. -/
structure Dark (b : Build) (due : Bool) (w : World) : Prop extends w.Agreed b where
  off : NoHighVoltage b w.controlRegister
  discharged : due = true → w.Discharged

theorem NoHighVoltage.regulator {control : Reg} (off : NoHighVoltage b control) :
    control.getLsbD 7 = false := by
  have bit := congrArg (fun v => v.getLsbD 7) off
  have set : (highVoltageBits b).getLsbD 7 = true := by
    unfold highVoltageBits epromHvRouteBits ctrlVppVpeDropEnable
    cases b.hardwareRevision <;> rfl
  simp only [BitVec.getLsbD_and, set, Bool.and_true] at bit
  exact bit

theorem RegistersKept.regulatorOffAt (kept : RegistersKept s s') :
    s'.regulatorOffAt = s.regulatorOffAt := by
  have offAt := congrArg (fun r => r.2.2.2.2.2) kept.kept
  exact offAt

instance : Steadfast (Dark b due) where
  keeps kept _ _ dark :=
    ⟨kept.coherent dark.toAgreed, kept.control ▸ dark.off,
      fun isDue => (dark.discharged isDue).later kept.regulatorOffAt kept.later⟩

instance : HandleFrame (Upholds (Dark b due) due) where
  handle _ _ _ dark :=
    ⟨⟨⟨dark.coherent, dark.clocked⟩, dark.off, dark.discharged⟩, Grows.of_silent rfl rfl⟩
  pointer _ _ dark :=
    ⟨⟨⟨dark.coherent, dark.clocked⟩, dark.off, dark.discharged⟩, Grows.of_silent rfl rfl⟩

theorem Dark.within_write {reg : U8} {data : Reg} (off : NoHighVoltage env.build data) :
    Within env (Upholds (Dark env.build due) due) (rurpWriteToRegister reg data) := by
  refine Upholds.within_write fun s dark => ?_
  refine (ends_write_agreed dark.toAgreed reg data).mono (fun _ s' written => ?_) fun _ => id
  have still := written.timed.off dark.off.regulator
  refine ⟨written.agreed, ?_, fun isDue => (dark.discharged isDue).later still written.timed.later⟩
  rw [written.control]
  split
  · exact off
  · exact dark.off

instance : LowerFrame env (Upholds (Dark env.build due) due) where
  lower bit := by
    have (bit : Reg) :
        Within env (Upholds (Dark env.build due) due) (memorySetControlRegister bit false) := by
      refine ⟨fun s dark => ?_⟩
      have lowered : Within env (Upholds (Dark env.build due) due)
          (rurpWriteToRegister controlRegister (s.controlRegister &&& ~~~bit)) :=
        Dark.within_write (dark.off.and _)
      exact lowered.moves s dark
    have (bit : Reg) : Within env (Upholds (Dark env.build due) due)
        (epromInternalSetControlRegister bit false) := by
      unfold epromInternalSetControlRegister
      infer_instance
    unfold setControlRegister
    infer_instance

/-- The switch may be thrown, but there is nothing behind it. -/
theorem Dark.addressFrame (layout : env.build.hardwareRevision = true) :
    AddressFrame env (Upholds (Dark env.build due) due) where
  address bus := by
    refine Upholds.within_of_ends fun s dark => ?_
    refine (ends_addressed due dark.toAgreed bus).mono (fun _ s' landed => ?_) fun _ => False.elim
    have off : NoHighVoltage env.build s'.controlRegister := by
      rw [landed.control]
      exact dark.off.topAddress layout _ _ _
    have discharged (isDue : due = true) : s'.Discharged :=
      (dark.discharged isDue).later (landed.off dark.off.regulator) landed.later
    refine ⟨⟨landed.agreed, off, discharged⟩, landed.spares (decide_eq_true fun _ _ => ⟨?_, ?_⟩)⟩
    · rw [landed.agreed.coherent, physicalControl_regulator, off.regulator, Bool.false_and]
    · exact fun isDue => Nat.le_sub_of_add_le' (discharged isDue)

/-! ## Addresses that leave line 21 low -/

/-- Where an address of the command raises line 21, no discharge is due and the regulator is off. -/
def Handle.SparesLine21 (due : Bool) (h : Handle) : Prop :=
  ∀ (address readWrite : U32) (control : Reg), readWrite = readFlag ∨ readWrite = writeFlag →
    (memUtilRemapAddressBus h address readWrite control).getLsbD 21 = true →
      due = false ∧ control.getLsbD 7 = false

/-- Whatever switches the driver throws itself. -/
structure Clear (b : Build) (due : Bool) (w : World) : Prop extends w.Agreed b where
  spares : w.handle.SparesLine21 due

theorem Handle.SparesLine21.of_same {h h' : Handle} (spares : h.SparesLine21 due)
    (bus : h'.busConfig = h.busConfig) (pins : h'.pins = h.pins) : h'.SparesLine21 due := by
  intro address readWrite control direction raised
  refine spares address readWrite control direction ?_
  unfold memUtilRemapAddressBus Handle.usingP1AsVpp at raised ⊢
  rw [bus, pins] at raised
  exact raised

instance : Steadfast (Clear b due) where
  keeps kept bus pins clear :=
    ⟨kept.coherent clear.toAgreed, clear.spares.of_same bus pins⟩

instance (reg : U8) (data : Reg) :
    Within env (Upholds (Clear env.build due) due) (rurpWriteToRegister reg data) := by
  refine Upholds.within_write fun s clear => ?_
  refine (ends_write_agreed clear.toAgreed reg data).mono (fun _ s' written => ?_) fun _ => id
  exact ⟨written.agreed, written.setting.handle ▸ clear.spares⟩

instance (bit : Reg) (state : Bool) :
    Within env (Upholds (Clear env.build due) due) (setControlRegister bit state) := by
  unfold setControlRegister epromInternalSetControlRegister memorySetControlRegister
  infer_instance

instance : LowerFrame env (Upholds (Clear env.build due) due) := ⟨fun _ => inferInstance⟩

instance : RaiseFrame env (Upholds (Clear env.build due) due) := ⟨fun _ => inferInstance⟩

/-- The switch has its own bit, and line 21 another one. -/
theorem physicalControl_pin1 {hw : U8} {data : Reg}
    (on : (physicalControl b hw data).getLsbD 3 = true) :
    data.getLsbD 3 = true ∨ data.getLsbD 5 = true := by
  unfold physicalControl at on
  cases layout : b.hardwareRevision with
  | false =>
    rw [layout] at on
    exact .inl (by simpa using on)
  | true =>
    rw [layout, if_pos rfl] at on
    cases supported : isSupportedRevision hw with
    | true =>
      rw [mapCtrlReg_bit supported data 3 (by decide)] at on
      have on : (data.getLsbD 3 || isRevision2 hw && data.getLsbD 5) = true := on
      exact (Bool.or_eq_true_iff.mp on).imp_right fun both => (Bool.and_eq_true_iff.mp both).2
    | false =>
      unfold isSupportedRevision at supported
      obtain ⟨early, late⟩ := Bool.or_eq_false_iff.mp supported
      unfold mapCtrlReg at on
      simp [early, late] at on

section
variable (layout : env.build.hardwareRevision = true)
include layout

theorem Clear.ends_address (clear : Clear env.build due s) {bus : U32}
    (spared : bus.getLsbD 21 = true → due = false ∧ s.controlRegister.getLsbD 7 = false) :
    Ends (memUtilSetAddress bus) env s
      (fun _ s' => Clear env.build due s' ∧ Sparing due s s') (fun _ => False) := by
  refine (ends_addressed due clear.toAgreed bus).mono (fun _ s' landed => ?_) fun _ => id
  refine ⟨⟨landed.agreed, landed.setting.handle ▸ clear.spares⟩,
    landed.spares (decide_eq_true fun on asked => ?_)⟩
  rw [landed.agreed.coherent] at on ⊢
  have line := (physicalControl_pin1 on).resolve_left (by rw [asked]; exact Bool.false_ne_true)
  rw [landed.control, topAddress_bit layout 5 (by decide)] at line
  obtain ⟨notDue, off⟩ := spared line
  refine ⟨?_, fun isDue => by rw [notDue] at isDue; cases isDue⟩
  rw [physicalControl_regulator, landed.control, topAddress_bit layout 7 (by decide)]
  show (s.controlRegister.getLsbD 7 && _) = false
  rw [off, Bool.false_and]

/-- An access begins with the address on its lines, as the handle and the register then are. -/
theorem Clear.within_access {α : Type} {address readWrite : U32}
    (direction : readWrite = readFlag ∨ readWrite = writeFlag) {f : Handle → Fw α}
    (rest : ∀ h, Within env (Upholds (Clear env.build due) due) (f h)) :
    Within env (Upholds (Clear env.build due) due) (do
      let h ← getHandle
      memUtilSetAddress (memUtilRemapAddressBus h address readWrite (← rurpReadControlRegister))
      f h) := by
  refine Upholds.within_of_ends fun s clear => ?_
  show Ends (memUtilSetAddress (memUtilRemapAddressBus s.handle address readWrite
    s.controlRegister) >>= fun _ => f s.handle) env s _ _
  rw [ends_bind]
  refine (clear.ends_address layout (clear.spares _ _ _ direction)).mono (fun _ s₁ so => ?_)
    fun _ => False.elim
  obtain ⟨clear₁, spares⟩ := so
  have onward {s' : World} (step : Upholds (Clear env.build due) due s₁ s') :
      Clear env.build due s' ∧ Sparing due s s' :=
    ⟨(step clear₁).1, trans_of (Sparing due) spares (step clear₁).2⟩
  exact ((rest s.handle).ends s₁).mono (fun _ _ => onward) fun _ => onward

theorem Clear.fetchFrame : FetchFrame env (Upholds (Clear env.build due) due) where
  fetch address := by
    unfold memoryGetData
    exact within_bind inferInstance fun _ =>
      Clear.within_access layout (.inl rfl) fun _ => inferInstance

theorem Clear.depositFrame : DepositFrame env (Upholds (Clear env.build due) due) where
  deposit address data := by
    unfold memorySetData
    exact within_bind inferInstance fun _ =>
      Clear.within_access layout (.inr rfl) fun _ => inferInstance
  flip address data := by
    unfold fuFlashFlipData
    exact within_bind inferInstance fun _ =>
      Clear.within_access layout (.inr rfl) fun _ => inferInstance

theorem Clear.homeFrame : HomeFrame env (Upholds (Clear env.build due) due) where
  home := by
    refine Upholds.within_of_ends fun s clear => ?_
    exact (clear.ends_address layout fun raised => absurd raised (by decide)).mono
      (fun _ _ => id) fun _ => False.elim

end

/-! ## Taking a frame up -/

/-- The switch is off, and neither it nor line 21 is asked for. -/
structure Low (w : World) : Prop where
  latch : w.latches.control.getLsbD 3 = false
  switch : w.controlRegister.getLsbD 3 = false
  line : w.controlRegister.getLsbD 5 = false

instance : Steadfast Low where
  keeps kept _ _ low := by
    have same := kept.same
    exact ⟨same.latches ▸ low.latch, same.control ▸ low.switch, same.control ▸ low.line⟩

instance : SetupFrame (Upholds Low due) where
  handle _ _ low := ⟨⟨low.latch, low.switch, low.line⟩, Grows.of_silent rfl rfl⟩
  pointer _ _ low := ⟨⟨low.latch, low.switch, low.line⟩, Grows.of_silent rfl rfl⟩
  config _ _ _ low := ⟨⟨low.latch, low.switch, low.line⟩, Grows.of_silent rfl rfl⟩
  boundary s e boundary := Upholds.note s e (by cases e <;> first | rfl | cases boundary)

theorem Low.within_write {reg : U8} {data : Reg}
    (free : reg = controlRegister → data.getLsbD 3 = false ∧ data.getLsbD 5 = false) :
    Within env (Upholds Low due) (rurpWriteToRegister reg data) := by
  refine Upholds.within_write fun w low => ?_
  by_cases lsb : reg = leastSignificantByte
  · subst lsb
    show Ends (when (w.lsbAddress != data.setWidth 8) _) env w _ _
    refine Ends.when (fun _ => ?_) fun _ => low
    refine (ends_internalWrite _ leastSignificantByte data (.inl rfl)).mono (fun _ w' so => ?_)
      fun _ => id
    obtain ⟨-, -, -, control, latches⟩ := so
    exact ⟨latches ▸ low.latch, control ▸ low.switch, control ▸ low.line⟩
  by_cases msb : reg = mostSignificantByte
  · subst msb
    show Ends (when (w.msbAddress != data.setWidth 8) _) env w _ _
    refine Ends.when (fun _ => ?_) fun _ => low
    refine (ends_internalWrite _ mostSignificantByte data (.inr (.inl rfl))).mono
      (fun _ w' so => ?_) fun _ => id
    obtain ⟨-, -, -, control, latches⟩ := so
    exact ⟨latches ▸ low.latch, control ▸ low.switch, control ▸ low.line⟩
  by_cases control : reg = controlRegister
  · subst control
    by_cases same : w.controlRegister = data
    · show Ends (when (true && w.controlRegister != data) _) env w _ _
      refine Ends.when (fun differs => ?_) fun _ => low
      rw [same, bne_self_eq_false] at differs
      cases differs
    · refine (ends_latch_control fun held => absurd held same).mono (fun _ w' written => ?_)
        fun _ => id
      obtain ⟨switch, line⟩ := free rfl
      refine ⟨?_, written.control ▸ switch, written.control ▸ line⟩
      rw [written.latches]
      refine Bool.eq_false_iff.mpr fun on => ?_
      rcases physicalControl_pin1 on with on | on
      · exact Bool.false_ne_true (switch.symm.trans on)
      · exact Bool.false_ne_true (line.symm.trans on)
  · unfold rurpWriteToRegister
    rw [ends_bind, ends_look, beq_false_of_ne lsb, beq_false_of_ne msb, beq_false_of_ne control]
    exact low

/-- The bus is put at rest with line 21 low, whatever pins the frame names. -/
theorem Low.homeFrame (layout : env.build.hardwareRevision = true) :
    HomeFrame env (Upholds Low due) where
  home := by
    have write {v : World} (low : Low v) {reg : U8} {data : Reg}
        (free : reg = controlRegister → data.getLsbD 3 = false ∧ data.getLsbD 5 = false) :
        Ends (rurpWriteToRegister reg data) env v (fun _ v' => Low v' ∧ Sparing due v v')
          (fun v' => Low v' ∧ Sparing due v v') :=
      ((Low.within_write free).ends v).mono (fun _ _ step => step low) fun _ step => step low
    have later {u v v' : World} (spares : Sparing due u v) (so : Low v' ∧ Sparing due v v') :
        Low v' ∧ Sparing due u v' := ⟨so.1, trans_of (Sparing due) spares so.2⟩
    refine Upholds.within_of_ends fun s low => ?_
    unfold memUtilSetAddress
    rw [ends_bind]
    refine (write low fun here => absurd here (by decide)).mono (fun _ s₁ first => ?_) fun _ => id
    rw [ends_bind]
    refine (write first.1 fun here => absurd here (by decide)).mono (fun _ s₂ second => ?_)
      fun _ => later first.2
    have so := later first.2 second
    show Ends (rurpWriteToRegister controlRegister
        (memUtilCalculateTopAddressRegister env.build s₂.hardwareRevision s₂.handle.pins
          s₂.controlRegister 0) >>= _) env s₂ _ _
    rw [ends_bind]
    refine (write so.1 fun _ => ⟨?_, ?_⟩).mono (fun _ s₃ third => ?_) fun _ => later so.2
    · rw [topAddress_bit layout 3 (by decide)]
      exact so.1.switch
    · rw [topAddress_bit layout 5 (by decide)]
      rfl
    · have so := later so.2 third
      have spared : Event.sparesPin1 due
          (.addressed s₃.controlRegister s₃.latches (s₃.now - s₃.regulatorOffAt)) = true :=
        decide_eq_true fun on => absurd (so.1.latch.symm.trans on) Bool.false_ne_true
      exact ⟨⟨so.1.latch, so.1.switch, so.1.line⟩,
        trans_of (Sparing due) so.2 (Grows.of_note _ spared rfl)⟩

/-- The turn that takes a frame up spares the pin, whatever frame it is. -/
theorem sparing_of_idle (layout : env.build.hardwareRevision = true) (rest : w₀.Rest env.build)
    (idle : w₀.handle.cmd = cmdIdle) : Sparing due w₀ (loop env w₀).2 := by
  have : HomeFrame env (Upholds Low due) := Low.homeFrame layout
  have empty (reg : U8) : Within env (Upholds Low due) (rurpWriteToRegister reg 0) :=
    Low.within_write fun _ => ⟨rfl, rfl⟩
  have low : Low w₀ := by
    refine ⟨?_, ?_, ?_⟩
    · rw [(rest_iff.mp rest).1]
      exact BitVec.getLsbD_zero
    all_goals
      rw [rest.control]
      exact BitVec.getLsbD_zero
  rw [loop_of_idle idle]
  exact ((within_receiveCommand (Upholds.within_commandDone empty)).moves w₀ low).2

end Firestarter
