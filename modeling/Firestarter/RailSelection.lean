import Firestarter.VoltageGate

/-! The rail a 27C part is programmed from, against the rail that was measured. The control latch
tells the regulator and the drop resistor; the driver selects them once for the measurement and once
for each block, and every address written in between makes the register anew. -/
namespace Firestarter

open Interactive Interactive.Prog

set_option synthInstance.maxSize 4000

variable {env : Env} {b : Build} {hw : U8} {w w' w'' v w₁ : World}

/-! ## What the latch presents -/

/-- The enable of the regulator and the selection of the drop resistor. -/
structure RailState where
  regulator : Bool
  drop : Bool
  deriving DecidableEq, Repr

/-- The two have the same wires on every board that can measure the rail. -/
def Latches.rail (latches : Latches) : RailState :=
  ⟨latches.control.getLsbD 7, latches.control.getLsbD 0⟩

/-- The part is programmed from behind the drop resistor. -/
def Handle.usesDrop (b : Build) (h : Handle) : Bool := (epromHvRouteMask b h).getLsbD 8

/-- The selection of the resistor outlives an address write. -/
def Handle.keepsDrop (hw : U8) (h : Handle) : Bool := h.pins < 32 || isRevision2 hw

/-- Address line 16 while this address is written. -/
def Handle.line16 (h : Handle) (address : U32) : Bool :=
  (memUtilRemapAddressBus h address writeFlag 0).getLsbD 16

/-- What the wire of the resistor carries while this address is written: before Rev 2 it is the one
of address line 16. -/
def Handle.dropAt (b : Build) (hw : U8) (h : Handle) (address : U32) : Bool :=
  h.usesDrop b && h.keepsDrop hw || !isRevision2 hw && h.line16 address

def Event.isPulse : Event → Bool
  | .wrote .. => true
  | _ => false

/-- A reading is made with the rail of the part, and a pulse given with what its address leaves
of it. -/
def Event.fitsRail (b : Build) (hw : U8) (h : Handle) : Event → Bool
  | .measured _ latches => latches.rail == ⟨true, h.usesDrop b⟩
  | .wrote address _ latches => latches.rail == ⟨true, h.dropAt b hw address⟩
  | _ => true

/-- In a write, the direction leaves nothing to the register. -/
theorem remapAddressBus_write (h : Handle) (address : U32) (control : Reg) :
    memUtilRemapAddressBus h address writeFlag control =
      memUtilRemapAddressBus h address writeFlag 0 := by
  have none (control : Reg) : readHighBits h.busConfig writeFlag control = 0 := by
    have other : (writeFlag == readFlag) = false := by decide
    unfold readHighBits
    simp [other]
  unfold memUtilRemapAddressBus
  dsimp only
  rw [none, none]

/-! ## The mask of the rail -/

theorem switched_bit {control bit : Reg} (state : Bool) {n : Nat} (inside : n < 16) :
    (switched control bit state).getLsbD n =
      if state then control.getLsbD n || bit.getLsbD n
      else control.getLsbD n && !bit.getLsbD n := by
  cases state <;> simp [switched, inside]

theorem hvRouteMask_bits (layout : b.hardwareRevision = true) (h : Handle) :
    (epromHvRouteMask b h).getLsbD 7 = true ∧ (epromHvRouteMask b h).getLsbD 0 = false := by
  rcases epromHvRouteMask_either b h with mask | mask <;> rw [mask]
  · decide
  · unfold epromHvRouteBits
    rw [vppVpeDropEnable_eq layout]
    decide

/-- Whatever stands in for VPE, switching all off takes the regulator and the resistor out. -/
theorem allOff_bits (layout : b.hardwareRevision = true) (h : Handle) :
    (h.vpeRoute (epromHvAllOffMask b)).getLsbD 7 = true ∧
      (h.vpeRoute (epromHvAllOffMask b)).getLsbD 8 = true := by
  unfold Handle.vpeRoute epromHvAllOffMask
  rw [vppVpeDropEnable_eq layout]
  cases h.usingP1AsVpp <;> decide

theorem vppRoute_bits (h : Handle) :
    h.vppRoute.getLsbD 7 = false ∧ h.vppRoute.getLsbD 8 = false := by
  unfold Handle.vppRoute
  cases h.usingP1AsVpp <;> decide

/-- What a register that was latched presents to the rail. -/
theorem rail_of_latch {latches : Latches} {control : Reg} (layout : b.hardwareRevision = true)
    (supported : isSupportedRevision hw = true)
    (latch : latches.control = physicalControl b hw control) :
    latches.rail =
      ⟨control.getLsbD 7, control.getLsbD 8 || !isRevision2 hw && control.getLsbD 0⟩ := by
  unfold Latches.rail
  rw [latch]
  unfold physicalControl
  rw [if_pos layout, mapCtrlReg_bit supported control 7 (by decide),
    mapCtrlReg_bit supported control 0 (by decide)]
  rfl

/-! ## Steps beside the rail -/

/-- What the driver is set to for the command: what a reading is judged by, and its setters. -/
def World.footing (w : World) : (Configuration × U8 × Handle) × Option ControlSetter :=
  (w.standard, w.epSetControlRegister)

def Event.isRailEvent (e : Event) : Bool := e.isReading || e.isPulse

/-- The rail was not read, and no pulse given. -/
abbrev RailIdle : World → World → Prop := Grows World.footing fun e => !e.isRailEvent

/-- Besides, the register and its latch stay. -/
abbrev Aside : World → World → Prop :=
  Grows (fun w => (w.footing, w.controlRegister, w.latches)) fun e => !e.isRailEvent

/-- Every reading and every pulse meets the rail of this part. -/
abbrev Fitting (b : Build) (hw : U8) (h : Handle) : World → World → Prop :=
  Grows (fun _ => ()) (Event.fitsRail b hw h)

theorem Event.fitsRail_of_other {e : Event} {h : Handle} (other : (!e.isRailEvent) = true) :
    e.fitsRail b hw h = true := by
  cases e <;> first | rfl | cases other

theorem RailIdle.fitting {h : Handle} (step : RailIdle w w') : Fitting b hw h w w' := by
  obtain ⟨-, new, trace, others⟩ := step
  exact ⟨rfl, new, trace, fun e member => Event.fitsRail_of_other (others e member)⟩

theorem Aside.unpulsed (step : Aside w w') : RailIdle w w' :=
  ⟨congrArg Prod.fst step.kept, step.adds⟩

namespace RailIdle

theorem of_note {e : Event} (other : e.isRailEvent = false) :
    RailIdle w { w with trace := e :: w.trace } := Grows.of_note e (by simp [other]) rfl

instance : HostFrame RailIdle where
  talk s s' talk := by
    have kept := congrArg World.footing talk.kept
    have kept : s'.footing = s.footing := kept
    obtain ⟨new, trace, heard⟩ := talk.adds
    refine ⟨kept, new, trace, fun e member => ?_⟩
    have heard := heard e member
    cases e <;> first | rfl | cases heard

instance : ReadFrame RailIdle := ⟨fun _ _ _ _ => of_note rfl⟩

instance : LatchFrame RailIdle where
  strobe s reg byte latches offAt := by
    have noted : RailIdle s { s with trace := .strobe reg byte :: s.trace } := of_note rfl
    refine trans_of RailIdle noted ?_
    exact Grows.of_silent rfl rfl

instance : CacheFrame RailIdle where
  cache _ _ _ _ _ := Grows.of_silent rfl rfl
  control _ _ := of_note rfl
  addressed _ _ _ _ := of_note rfl

end RailIdle

namespace Aside

theorem of_note {e : Event} (other : e.isRailEvent = false) :
    Aside w { w with trace := e :: w.trace } := Grows.of_note e (by simp [other]) rfl

instance : HostFrame Aside where
  talk s s' talk := by
    have kept := congrArg (fun w : World => (w.footing, w.controlRegister, w.latches)) talk.kept
    obtain ⟨new, trace, heard⟩ := talk.adds
    refine ⟨kept, new, trace, fun e member => ?_⟩
    have heard := heard e member
    cases e <;> first | rfl | cases heard

instance : ReadFrame Aside := ⟨fun _ _ _ _ => of_note rfl⟩

theorem of_report {e : Event} (noise : e.isReportNoise = true) : (!e.isRailEvent) = true := by
  cases e <;> first | rfl | cases noise

theorem of_link (queue : w.QueuesReports) (link : LinkStep w w') : Aside w w' := by
  have kept := congrArg (fun w : World => (w.footing, w.controlRegister, w.latches)) link.kept
  exact Grows.of_link queue link kept fun _ => of_report

theorem of_mode (queue : w.QueuesReports) (mode : ModeStep w w') : Aside w w' := by
  have kept := congrArg (fun w : World => (w.footing, w.controlRegister, w.latches)) mode.kept
  exact Grows.of_mode queue mode kept fun _ => of_report

theorem of_delivered {kind : OpMessageType} (queue : w.QueuesReports)
    (heard : Delivered kind w w') : Aside w w' ∧ w'.QueuesReports := by
  cases heard with
  | incomplete link => exact ⟨of_link queue link, (link.adds queue).1⟩
  | plain kind notData taken link =>
    exact ⟨trans_of Aside (of_link queue link) (of_note rfl), (link.adds queue).1⟩
  | @data _ v size link =>
    refine ⟨trans_of Aside (of_link queue link) ?_, (link.adds queue).1⟩
    exact ⟨rfl, [_], rfl, by simp [Event.isRailEvent, Event.isReading, Event.isPulse]⟩

theorem of_stage (w : World) (st : Stage) : Aside w (w.inStage st) :=
  ⟨rfl, [_], rfl, by simp [Event.isRailEvent, Event.isReading, Event.isPulse]⟩

theorem control (step : Aside w w') : w'.controlRegister = w.controlRegister :=
  congrArg (fun k => k.2.1) step.kept

theorem latches (step : Aside w w') : w'.latches = w.latches :=
  congrArg (fun k => k.2.2) step.kept

end Aside

/-! ## The states of the rail -/

/-- The driver stands as it did when the command was accepted. -/
structure Aligned (b : Build) (w₁ w : World) : Prop where
  layout : b.hardwareRevision = true
  supported : isSupportedRevision w₁.hardwareRevision = true
  setters : EpromSetters w
  standard : w.standard = w₁.standard

namespace Aligned

theorem unpulsed (aligned : Aligned b w₁ w) (step : RailIdle w w') : Aligned b w₁ w' := by
  have standard : w'.standard = w.standard := congrArg Prod.fst step.kept
  have pointer : w'.epSetControlRegister = w.epSetControlRegister := congrArg Prod.snd step.kept
  have setter := World.standard_field standard Handle.firestarterSetControlRegister fun _ => rfl
  exact ⟨aligned.layout, aligned.supported,
    ⟨setter.trans aligned.setters.handle, pointer.trans aligned.setters.saved⟩,
    standard.trans aligned.standard⟩

theorem hardwareRevision (aligned : Aligned b w₁ w) :
    w.hardwareRevision = w₁.hardwareRevision := by
  have config : w.config = w₁.config := congrArg Prod.fst aligned.standard
  have revision : w.revision = w₁.revision := congrArg (fun s => s.2.1) aligned.standard
  unfold World.hardwareRevision
  rw [config, revision]

theorem pins (aligned : Aligned b w₁ w) : w.handle.pins = w₁.handle.pins :=
  World.standard_field aligned.standard Handle.pins fun _ => rfl

theorem mask (aligned : Aligned b w₁ w) (b' : Build) :
    epromHvRouteMask b' w.handle = epromHvRouteMask b' w₁.handle :=
  World.standard_field aligned.standard (epromHvRouteMask b') fun _ => rfl

theorem bus (aligned : Aligned b w₁ w) (address : U32) (control : Reg) :
    memUtilRemapAddressBus w.handle address writeFlag control =
      memUtilRemapAddressBus w₁.handle address writeFlag 0 := by
  rw [remapAddressBus_write]
  exact World.standard_field aligned.standard (memUtilRemapAddressBus · address writeFlag 0)
    fun _ => rfl

end Aligned

/-- The regulator and the drop resistor are off. -/
structure RailOff (b : Build) (w₁ w : World) : Prop extends Aligned b w₁ w where
  regulator : w.controlRegister.getLsbD 7 = false
  drop : w.controlRegister.getLsbD 8 = false

/-- The rail is up, the latch tells it, and the resistor is where an address write leaves it. -/
structure Selected (b : Build) (w₁ w : World) : Prop extends Aligned b w₁ w where
  latch : w.latches.control = physicalControl b w₁.hardwareRevision w.controlRegister
  regulator : w.controlRegister.getLsbD 7 = true
  drop : (w.controlRegister.getLsbD 8 && w₁.handle.keepsDrop w₁.hardwareRevision) =
    (w₁.handle.usesDrop b && w₁.handle.keepsDrop w₁.hardwareRevision)

/-- Between two blocks the rail is off or up. -/
def Ready (b : Build) (w₁ w : World) : Prop := RailOff b w₁ w ∨ Selected b w₁ w

theorem RailOff.aside (off : RailOff b w₁ w) (step : Aside w w') : RailOff b w₁ w' :=
  ⟨off.toAligned.unpulsed step.unpulsed, step.control ▸ off.regulator, step.control ▸ off.drop⟩

theorem Selected.aside (selected : Selected b w₁ w) (step : Aside w w') : Selected b w₁ w' := by
  refine ⟨selected.toAligned.unpulsed step.unpulsed, ?_, ?_, ?_⟩
  · rw [step.latches, step.control]
    exact selected.latch
  · rw [step.control]
    exact selected.regulator
  · rw [step.control]
    exact selected.drop

theorem Ready.aside (ready : Ready b w₁ w) (step : Aside w w') : Ready b w₁ w' :=
  ready.imp (·.aside step) (·.aside step)

theorem Ready.aligned (ready : Ready b w₁ w) : Aligned b w₁ w :=
  ready.elim (·.toAligned) (·.toAligned)

/-! A note, of whatever event, changes none of it. -/

theorem Aligned.noted (aligned : Aligned b w₁ w) (e : Event) :
    Aligned b w₁ { w with trace := e :: w.trace } :=
  ⟨aligned.layout, aligned.supported, ⟨aligned.setters.handle, aligned.setters.saved⟩,
    aligned.standard⟩

theorem Selected.noted (selected : Selected b w₁ w) (e : Event) :
    Selected b w₁ { w with trace := e :: w.trace } :=
  ⟨selected.toAligned.noted e, selected.latch, selected.regulator, selected.drop⟩

/-! ## Writing the register -/

/-- A switch of the register reaches its latch, if the register changes or the latch has it. -/
theorem ends_setControlRegister_latch (setters : EpromSetters w) (bit : Reg) (state : Bool)
    (held : w.controlRegister = switched w.controlRegister (w.handle.vpeRoute bit) state →
      w.latches.control = physicalControl env.build w.hardwareRevision w.controlRegister) :
    Ends (setControlRegister bit state) env w
      (fun _ w' => RailIdle w w' ∧
        w'.controlRegister = switched w.controlRegister (w.handle.vpeRoute bit) state ∧
        w'.latches.control = physicalControl env.build w.hardwareRevision w'.controlRegister)
      (fun _ => False) := by
  have written : Ends (setControlRegister bit state) env w
      (fun _ => Writes w w.lsbAddress w.msbAddress
        (switched w.controlRegister (w.handle.vpeRoute bit) state)
        { w.latches with
          control := physicalControl env.build w.hardwareRevision
            (switched w.controlRegister (w.handle.vpeRoute bit) state) })
      (fun _ => False) := by
    unfold setControlRegister epromInternalSetControlRegister memorySetControlRegister
    rw [ends_bind, ends_getHandle, setters.handle, if_neg (by decide), if_pos rfl, ends_bind,
      ends_getHandle, ends_bind, ends_look, if_pos setters.saved, ends_bind]
    unfold rurpReadControlRegister
    rw [ends_bind, ends_look, ends_pure]
    exact ends_latch_control fun same => same ▸ held same
  have quiet : Within env RailIdle (setControlRegister bit state) := inferInstance
  refine ((quiet.ends w).and written).mono (fun _ w' both => ⟨both.1, both.2.control, ?_⟩)
    fun _ both => both.2
  rw [both.2.latches, both.2.control]

/-- The rail comes up with the resistor the part needs. -/
theorem ends_raiseRail (off : RailOff env.build w₁ w) :
    Ends (setControlRegister (epromHvRouteMask env.build w.handle) true) env w
      (fun _ w' => RailIdle w w' ∧ Selected env.build w₁ w' ∧
        w'.controlRegister.getLsbD 8 = w₁.handle.usesDrop env.build ∧
        w'.controlRegister.getLsbD 0 = w.controlRegister.getLsbD 0)
      (fun _ => False) := by
  obtain ⟨rail, line⟩ := hvRouteMask_bits off.layout w₁.handle
  have aligned := off.toAligned
  have mask := aligned.mask env.build
  have through := Handle.vpeRoute_other w.handle (hvRouteMask_parts env.build w₁.handle).2.1
  have bit (n : Nat) (inside : n < 16) :
      (switched w.controlRegister (w.handle.vpeRoute (epromHvRouteMask env.build w.handle))
        true).getLsbD n =
        (w.controlRegister.getLsbD n || (epromHvRouteMask env.build w₁.handle).getLsbD n) := by
    rw [mask, through, switched_bit true inside]
    rfl
  refine (ends_setControlRegister_latch off.setters _ true fun same => ?_).mono
    (fun _ w' raised => ?_) fun _ => id
  · have up := bit 7 (by decide)
    rw [← same, off.regulator, rail] at up
    cases up
  · obtain ⟨step, value, latch⟩ := raised
    have drop : w'.controlRegister.getLsbD 8 = w₁.handle.usesDrop env.build := by
      rw [value, bit 8 (by decide), off.drop]
      rfl
    rw [off.hardwareRevision] at latch
    refine ⟨step, ⟨aligned.unpulsed step, latch, ?_, ?_⟩, drop, ?_⟩
    · rw [value, bit 7 (by decide), rail, Bool.or_true]
    · rw [drop]
    · rw [value, bit 0 (by decide), line, Bool.or_false]

/-- Taking a mask out that has the regulator and the resistor leaves the rail off. -/
theorem ends_allOff (aligned : Aligned env.build w₁ w) :
    Ends epromHvAllOff env w (fun _ w' => RailIdle w w' ∧ RailOff env.build w₁ w')
      (fun _ => False) := by
  obtain ⟨regulator, drop⟩ := allOff_bits aligned.layout w.handle
  have quiet : Within env RailIdle epromHvAllOff := inferInstance
  have lowered : Ends epromHvAllOff env w
      (fun _ w' => w'.controlRegister =
        switched w.controlRegister (w.handle.vpeRoute (epromHvAllOffMask env.build)) false)
      (fun _ => False) := by
    unfold epromHvAllOff
    rw [ends_bind, ends_build]
    exact (ends_setControlRegister aligned.setters _ _).mono (fun _ _ done => done.value)
      fun _ => id
  refine ((quiet.ends w).and lowered).mono (fun _ w' both => ?_) fun _ both => both.2
  obtain ⟨step, value⟩ := both
  refine ⟨step, aligned.unpulsed step, ?_, ?_⟩
  · rw [value, switched_bit false (by decide), regulator]
    exact Bool.and_false _
  · rw [value, switched_bit false (by decide), drop]
    exact Bool.and_false _

/-! ## Addresses and pulses -/

/-- A write of one of the two low latches leaves the control register and its latch. -/
theorem ends_writeLow (w : World) {reg : U8} (low : reg = leastSignificantByte ∨
    reg = mostSignificantByte) (data : Reg) :
    Ends (rurpWriteToRegister reg data) env w
      (fun _ w' => SameSetting w w' ∧ w'.controlRegister = w.controlRegister ∧
        w'.latches.control = w.latches.control) (fun _ => False) := by
  rcases low with rfl | rfl
  · show Ends (when (w.lsbAddress != data.setWidth 8) _) env w _ _
    refine Ends.when (fun _ => ?_) fun _ => ⟨⟨rfl, rfl, rfl⟩, rfl, rfl⟩
    refine (ends_internalWrite _ leastSignificantByte data (.inl rfl)).mono ?_ fun _ => id
    rintro _ w' ⟨setting, -, -, control, latches⟩
    exact ⟨⟨setting.handle, setting.config, setting.revision⟩, control,
      by rw [latches]; rfl⟩
  · show Ends (when (w.msbAddress != data.setWidth 8) _) env w _ _
    refine Ends.when (fun _ => ?_) fun _ => ⟨⟨rfl, rfl, rfl⟩, rfl, rfl⟩
    refine (ends_internalWrite _ mostSignificantByte data (.inr (.inl rfl))).mono ?_ fun _ => id
    rintro _ w' ⟨setting, -, -, control, latches⟩
    exact ⟨⟨setting.handle, setting.config, setting.revision⟩, control,
      by rw [latches]; rfl⟩

/-- An address write makes the register anew, and its latch with it. -/
theorem ends_setAddress_latch
    (latch : w.latches.control = physicalControl env.build w.hardwareRevision w.controlRegister)
    (bus : U32) :
    Ends (memUtilSetAddress bus) env w
      (fun _ w' => RailIdle w w' ∧
        w'.controlRegister = memUtilCalculateTopAddressRegister env.build w.hardwareRevision
          w.handle.pins w.controlRegister bus ∧
        w'.latches.control = physicalControl env.build w.hardwareRevision w'.controlRegister)
      (fun _ => False) := by
  have quiet : Within env RailIdle (memUtilSetAddress bus) := inferInstance
  have written : Ends (memUtilSetAddress bus) env w
      (fun _ w' => w'.controlRegister = memUtilCalculateTopAddressRegister env.build
          w.hardwareRevision w.handle.pins w.controlRegister bus ∧
        w'.latches.control = physicalControl env.build w.hardwareRevision w'.controlRegister)
      (fun _ => False) := by
    unfold memUtilSetAddress
    rw [ends_bind]
    refine (ends_writeLow w (.inl rfl) _).mono (fun _ v₁ first => ?_) fun _ => id
    rw [ends_bind]
    refine (ends_writeLow v₁ (.inr rfl) _).mono (fun _ v₂ second => ?_) fun _ => id
    obtain ⟨setting, control, same⟩ := first
    obtain ⟨setting', control', same'⟩ := second
    have hw := setting'.hardwareRevision.trans setting.hardwareRevision
    show Ends (rurpWriteToRegister controlRegister
      (memUtilCalculateTopAddressRegister env.build v₂.hardwareRevision v₂.handle.pins
        v₂.controlRegister bus) >>= _) env v₂ _ _
    rw [hw, setting'.handle, setting.handle, control', control, ends_bind]
    refine (ends_latch_control fun same₃ => ?_).mono (fun _ v₃ third => ?_) fun _ => id
    · rw [same', same, latch, hw, ← same₃, control', control]
    · show v₃.controlRegister = _ ∧ v₃.latches.control = _
      rw [third.latches, third.control, hw]
      exact ⟨rfl, rfl⟩
  exact ((quiet.ends w).and written).mono (fun _ _ both => ⟨both.1, both.2⟩) fun _ both => both.2

theorem ends_setAddress_selected (selected : Selected env.build w₁ w) (bus : U32) :
    Ends (memUtilSetAddress bus) env w
      (fun _ w' => RailIdle w w' ∧ Selected env.build w₁ w' ∧
        w'.latches.rail = ⟨true, w₁.handle.usesDrop env.build &&
          w₁.handle.keepsDrop w₁.hardwareRevision ||
            !isRevision2 w₁.hardwareRevision && bus.getLsbD 16⟩)
      (fun _ => False) := by
  have aligned := selected.toAligned
  refine (ends_setAddress_latch (aligned.hardwareRevision ▸ selected.latch) bus).mono
    (fun _ w' written => ?_) fun _ => id
  obtain ⟨step, value, latch⟩ := written
  rw [aligned.hardwareRevision] at value latch
  rw [aligned.pins] at value
  have drop : w'.controlRegister.getLsbD 8 = (w₁.handle.usesDrop env.build &&
      w₁.handle.keepsDrop w₁.hardwareRevision) := by
    rw [value, topAddress_bit aligned.layout 8 (by decide)]
    exact selected.drop
  have regulator : w'.controlRegister.getLsbD 7 = true := by
    rw [value, topAddress_bit aligned.layout 7 (by decide)]
    exact selected.regulator
  have line : w'.controlRegister.getLsbD 0 = bus.getLsbD 16 := by
    rw [value, topAddress_bit aligned.layout 0 (by decide)]
    rfl
  refine ⟨step, ⟨aligned.unpulsed step, latch, regulator, ?_⟩, ?_⟩
  · rw [drop, Bool.and_assoc, Bool.and_self]
  · rw [rail_of_latch aligned.layout aligned.supported latch, regulator, drop, line]

/-- While the rail is up it stays up, and what is read or given meets it. -/
def RailStep (b : Build) (w₁ w w' : World) : Prop :=
  Selected b w₁ w →
    Selected b w₁ w' ∧ Fitting b w₁.hardwareRevision w₁.handle w w'

namespace RailStep

theorem of_aside (step : Aside w w') : RailStep b w₁ w w' := fun selected =>
  ⟨selected.aside step, step.unpulsed.fitting⟩

instance : HostFrame (RailStep b w₁) where
  refl w selected := ⟨selected, refl_of _ w⟩
  trans _ _ _ first rest selected := by
    obtain ⟨selected, fits⟩ := first selected
    obtain ⟨selected, fits'⟩ := rest selected
    exact ⟨selected, trans_of _ fits fits'⟩
  talk s s' talk := of_aside (HostFrame.talk s s' talk)

instance : ReadFrame (RailStep b w₁) := ⟨fun _ _ _ _ => of_aside (Aside.of_note rfl)⟩

/-- What is known from a rail that is up is all there is to know. -/
theorem within {α : Type} {m : Fw α}
    (steps : ∀ w, Selected env.build w₁ w → Ends m env w
      (fun _ w' => Selected env.build w₁ w' ∧
        Fitting env.build w₁.hardwareRevision w₁.handle w w') (fun _ => False)) :
    Within env (RailStep env.build w₁) m := by
  refine within_iff_ends.mpr fun w => ?_
  by_cases selected : Selected env.build w₁ w
  · exact (steps w selected).mono (fun _ _ done _ => done) fun _ never => never.elim
  · exact ends_any _ (fun _ _ there => absurd there selected) fun _ there => absurd there selected

instance : AddressFrame env (RailStep env.build w₁) where
  address bus := within fun _ selected => (ends_setAddress_selected selected bus).mono
    (fun _ _ done => ⟨done.2.1, done.1.fitting⟩) fun _ => id

end RailStep

/-- A pulse meets the rail as its address leaves it. -/
theorem ends_memorySetData_selected (selected : Selected env.build w₁ w) (address : U32)
    (data : U8) :
    Ends (memorySetData address data) env w
      (fun _ w' => Selected env.build w₁ w' ∧
        Fitting env.build w₁.hardwareRevision w₁.handle w w') (fun _ => False) := by
  unfold memorySetData rurpReadControlRegister
  refine Within.bind_completes (S := Aside) fun _ v₁ first => ?_
  have ready := selected.aside first
  rw [ends_bind, ends_getHandle, ends_bind, ends_bind, ends_look, ends_pure,
    ready.bus address v₁.controlRegister, ends_bind]
  refine (ends_setAddress_selected ready _).mono (fun _ v₂ addressed => ?_) fun _ => id
  obtain ⟨step, selected₂, rail⟩ := addressed
  refine Within.bind_completes (S := Aside) fun _ v₃ put => ?_
  refine Within.bind_completes (S := Aside) fun _ v₄ settled => ?_
  refine Within.bind_completes (S := Aside) fun _ v₅ enabled => ?_
  have beside : Aside v₂ v₅ := trans_of Aside put (trans_of Aside settled enabled)
  rw [ends_bind, ends_look, ends_bind, ends_note]
  have pulse : Fitting env.build w₁.hardwareRevision w₁.handle v₅
      { v₅ with trace := .wrote address data v₅.latches :: v₅.trace } := by
    refine Grows.of_note _ ?_ rfl
    rw [beside.latches]
    exact beq_iff_eq.mpr rail
  have noted := (selected₂.aside beside).noted (.wrote address data v₅.latches)
  have last : Completes env (do
      memUtilDelayUs v₁.handle.pulseDelay
      rurpChipDisable) := inferInstance
  refine (last.within (R := Aside) inferInstance _).mono (fun _ v₆ done => ?_) fun _ => id
  refine ⟨noted.aside done, ?_⟩
  have before : RailIdle w v₅ := trans_of RailIdle first.unpulsed
    (trans_of RailIdle step beside.unpulsed)
  exact trans_of _ before.fitting (trans_of _ pulse done.unpulsed.fitting)

instance (address : U32) (data : U8) :
    Within env (RailStep env.build w₁) (memorySetData address data) :=
  RailStep.within fun _ selected => ends_memorySetData_selected selected address data

/-! ## A block -/

/-- The route to the chip leaves the rail as it is. -/
theorem ends_setRoute_selected (selected : Selected env.build w₁ w) (state : Bool) :
    Ends (setControlRegister ctrlVpeEnable state) env w
      (fun _ w' => Selected env.build w₁ w' ∧
        Fitting env.build w₁.hardwareRevision w₁.handle w w') (fun _ => False) := by
  have aligned := selected.toAligned
  obtain ⟨regulator, drop⟩ := vppRoute_bits w.handle
  refine (ends_setControlRegister_latch aligned.setters _ state fun _ => ?_).mono
    (fun _ w' done => ?_) fun _ => id
  · exact aligned.hardwareRevision ▸ selected.latch
  · obtain ⟨step, value, latch⟩ := done
    rw [aligned.hardwareRevision] at latch
    rw [Handle.vpeRoute_vpe] at value
    have kept {n : Nat} (inside : n < 16) (apart : w.handle.vppRoute.getLsbD n = false) :
        w'.controlRegister.getLsbD n = w.controlRegister.getLsbD n := by
      rw [value, switched_bit state inside, apart]
      cases state <;> simp
    refine ⟨⟨aligned.unpulsed step, latch, ?_, ?_⟩, step.fitting⟩
    · rw [kept (by decide) regulator]
      exact selected.regulator
    · rw [kept (by decide) drop]
      exact selected.drop

theorem ends_pulsePass_selected (selected : Selected env.build w₁ w) (h : Handle)
    (base groupLen : Nat) (pending : Nat → Bool) :
    Ends (pulsePass h base groupLen pending) env w
      (fun _ w' => Selected env.build w₁ w' ∧
        Fitting env.build w₁.hardwareRevision w₁.handle w w') (fun _ => False) := by
  unfold pulsePass
  rw [ends_bind]
  refine (ends_setRoute_selected selected true).mono (fun _ v₁ up => ?_) fun _ => id
  refine Within.bind_completes (S := RailStep env.build w₁) fun _ v₂ settled => ?_
  refine Within.bind_completes (S := RailStep env.build w₁) fun _ v₃ pulsed => ?_
  refine Within.bind_completes (S := RailStep env.build w₁) fun _ v₄ held => ?_
  have between : RailStep env.build w₁ v₁ v₄ := trans_of _ settled (trans_of _ pulsed held)
  obtain ⟨selected₄, fits⟩ := between up.1
  exact (ends_setRoute_selected selected₄ false).mono
    (fun _ _ down => ⟨down.1, trans_of _ up.2 (trans_of _ fits down.2)⟩) fun _ => id

theorem regulator_bit (control : Reg) :
    (control &&& ctrlVppRegulatorEnable == 0) = !control.getLsbD 7 := by
  have bit : ctrlVppRegulatorEnable = BitVec.twoPow 16 7 := by decide
  rw [← and_bit_ne_zero control 7, bit, bne, Bool.not_not]

/-- The rail is up before the first pass, whether the block before left it up or not. -/
theorem ends_epromRegulatorUp_selected (ready : Ready env.build w₁ w) :
    Ends (epromRegulatorUp env.build w.handle) env w
      (fun _ w' => Selected env.build w₁ w' ∧
        Fitting env.build w₁.hardwareRevision w₁.handle w w') (fun _ => False) := by
  unfold epromRegulatorUp rurpReadControlRegister
  rw [ends_bind, ends_bind, ends_look, ends_pure, regulator_bit]
  refine Ends.when (fun down => ?_) fun up => ?_
  · have off : RailOff env.build w₁ w := ready.resolve_right fun selected => by
      rw [selected.regulator] at down
      cases down
    rw [ends_bind]
    refine (ends_raiseRail off).mono (fun _ v₁ raised => ?_) fun _ => id
    obtain ⟨step, selected, -⟩ := raised
    exact (Completes.within (R := Aside) inferInstance inferInstance v₁).mono
      (fun _ _ waited => ⟨selected.aside waited,
        trans_of _ step.fitting waited.unpulsed.fitting⟩) fun _ => id
  · refine ⟨ready.resolve_left fun off => ?_, refl_of _ w⟩
    rw [off.regulator] at up
    cases up

/-- The rail in the course of a block that began in `v`. -/
def railRule (env : Env) (w₁ v : World) : BlockRule env (RailStep env.build w₁) where
  up w := Selected env.build w₁ w ∧ Fitting env.build w₁.hardwareRevision w₁.handle v w
  left w := Ready env.build w₁ w ∧ Fitting env.build w₁.hardwareRevision w₁.handle v w
  scans up scan := ⟨(scan up.1).1, trans_of _ up.2 (scan up.1).2⟩
  settles up := ⟨.inr up.1, up.2⟩
  pulses h base groupLen pending up :=
    (ends_pulsePass_selected up.1 h base groupLen pending).mono
      (fun _ _ pulsed => ⟨pulsed.1, trans_of _ up.2 pulsed.2⟩) fun _ => id
  fails address pulseCount msgId _ up := by
    unfold epromInternalReportBudgetFailure
    rw [ends_bind]
    refine (ends_allOff up.1.toAligned).mono (fun _ v₁ down => ?_) fun _ => id
    exact (Completes.within (R := Aside) inferInstance inferInstance v₁).mono
      (fun _ _ told => ⟨.inl (down.2.aside told),
        trans_of _ up.2 (trans_of _ down.1.fitting told.unpulsed.fitting)⟩) fun _ => id

theorem ends_epromWriteExecute_ready (ready : Ready env.build w₁ w) :
    Ends epromWriteExecute env w
      (fun _ w' => Ready env.build w₁ w' ∧
        Fitting env.build w₁.hardwareRevision w₁.handle w w') (fun _ => False) := by
  have body : Ends epromInternalWriteExecuteBody env w (fun _ => (railRule env w₁ w).left)
      (fun _ => False) := by
    refine (railRule env w₁ w).ends_writeBody (fun _ _ _ => ?_)
      (ends_epromRegulatorUp_selected ready)
    exact (Completes.within (R := Aside) inferInstance inferInstance w).mono
      (fun _ _ told => ⟨ready.aside told, told.unpulsed.fitting⟩) fun _ => id
  unfold epromWriteExecute epromOffOnError
  rw [ends_bind]
  refine body.mono (fun _ v₁ left => ?_) fun _ => id
  obtain ⟨ready₁, fits⟩ := left
  rw [ends_bind, ends_getHandle]
  refine Ends.when (fun _ => ?_) fun _ => ⟨ready₁, fits⟩
  exact (ends_allOff ready₁.aligned).mono
    (fun _ _ down => ⟨.inl down.2, trans_of _ fits down.1.fitting⟩) fun _ => id

/-! ## The measurement -/

/-- How the INIT callback finds the rail: the drop resistor's wire carries nothing else. -/
structure AtReading (b : Build) (w₁ w : World) : Prop extends RailOff b w₁ w where
  line : w.controlRegister.getLsbD 0 = false
  measurable : isRevision0 b w₁.hardwareRevision = false

theorem AtReading.aside (before : AtReading b w₁ w) (step : Aside w w') : AtReading b w₁ w' :=
  ⟨before.toRailOff.aside step, step.control ▸ before.line, before.measurable⟩

/-- The rail was read as the part has it, and no pulse given. -/
structure Metered (b : Build) (w₁ w w' : World) : Prop where
  fits : Fitting b w₁.hardwareRevision w₁.handle w w'
  unpulsed : Grows (fun _ => ()) (fun e => !e.isPulse) w w'
  reading : ∃ new e, w'.trace = new ++ w.trace ∧ e ∈ new ∧ e.isReading = true

theorem RailIdle.pulseless (step : RailIdle w w') :
    Grows (fun _ => ()) (fun e => !e.isPulse) w w' := by
  obtain ⟨-, new, trace, others⟩ := step
  refine ⟨rfl, new, trace, fun e member => ?_⟩
  have others := others e member
  cases e <;> first | rfl | cases others

namespace Metered

theorem before (step : RailIdle w w') (metered : Metered b w₁ w' w'') : Metered b w₁ w w'' := by
  obtain ⟨new, e, trace, member, reading⟩ := metered.reading
  obtain ⟨new', trace', -⟩ := step.adds
  refine ⟨trans_of _ step.fitting metered.fits, trans_of _ step.pulseless metered.unpulsed,
    new ++ new', e, ?_, List.mem_append_left _ member, reading⟩
  rw [trace, trace', List.append_assoc]

theorem after (metered : Metered b w₁ w w') (step : RailIdle w' w'') : Metered b w₁ w w'' := by
  obtain ⟨new, e, trace, member, reading⟩ := metered.reading
  obtain ⟨new', trace', -⟩ := step.adds
  refine ⟨trans_of _ metered.fits step.fitting, trans_of _ metered.unpulsed step.pulseless,
    new' ++ new, e, ?_, List.mem_append_right _ member, reading⟩
  rw [trace', trace, List.append_assoc]

theorem of_note {millivolts : U16} (rail : w.latches.rail = ⟨true, w₁.handle.usesDrop b⟩) :
    Metered b w₁ w { w with trace := .measured millivolts w.latches :: w.trace } :=
  ⟨Grows.of_note _ (beq_iff_eq.mpr rail) rfl, Grows.of_note _ rfl rfl,
    [_], _, rfl, List.mem_singleton_self _, rfl⟩

end Metered

theorem ends_readVoltage_metered (aligned : Aligned env.build w₁ w)
    (rail : w.latches.rail = ⟨true, w₁.handle.usesDrop env.build⟩) :
    Ends rurpReadVoltageMv env w
      (fun _ w' => Metered env.build w₁ w w' ∧ Aligned env.build w₁ w') (RailIdle w) := by
  have read {v : World} (quiet : Aside w v) (millivolts : U16) :
      Metered env.build w₁ w { v with trace := .measured millivolts v.latches :: v.trace } ∧
        Aligned env.build w₁ { v with trace := .measured millivolts v.latches :: v.trace } := by
    have here : v.latches.rail = ⟨true, w₁.handle.usesDrop env.build⟩ := by
      rw [quiet.latches]
      exact rail
    exact ⟨(Metered.of_note here).before quiet.unpulsed,
      (aligned.unpulsed quiet.unpulsed).noted _⟩
  unfold rurpReadVoltageMv
  rw [ends_bind, ends_build]
  split
  · refine Within.bind_ends (S := Aside) inferInstance (fun _ v₁ quiet => ?_) fun _ quiet =>
      quiet.unpulsed
    refine Within.bind_ends (S := Aside) inferInstance (fun _ v₂ quiet₂ => ?_) fun _ quiet₂ =>
      (trans_of Aside quiet quiet₂).unpulsed
    exact read (trans_of Aside quiet quiet₂) _
  · refine Within.bind_ends (S := Aside) inferInstance (fun _ v₁ quiet => ?_) fun _ quiet =>
      quiet.unpulsed
    refine Within.bind_ends (S := Aside) inferInstance (fun _ v₂ quiet₂ => ?_) fun _ quiet₂ =>
      (trans_of Aside quiet quiet₂).unpulsed
    exact read (trans_of Aside quiet quiet₂) _

theorem ends_epromMeasureVpp_metered (before : AtReading env.build w₁ w) :
    Ends epromMeasureVpp env w
      (fun _ w' => Metered env.build w₁ w w' ∧ RailOff env.build w₁ w')
      (fun w' => RailIdle w w' ∨ Metered env.build w₁ w w') := by
  unfold epromMeasureVpp
  refine Within.bind_ends (S := Aside) inferInstance (fun _ v₁ warned => ?_) fun _ warned =>
    .inl warned.unpulsed
  replace before := before.aside warned
  rw [ends_bind, ends_build, ends_bind, ends_getHandle, ends_bind]
  refine (ends_raiseRail before.toRailOff).mono (fun _ v₂ raised => ?_) fun _ => False.elim
  obtain ⟨step, selected, drop, line⟩ := raised
  replace step : RailIdle w v₂ := trans_of RailIdle warned.unpulsed step
  have rail : v₂.latches.rail = ⟨true, w₁.handle.usesDrop env.build⟩ := by
    rw [rail_of_latch selected.layout selected.supported selected.latch, selected.regulator, drop,
      line, before.line, Bool.and_false, Bool.or_false]
  refine Within.bind_ends (S := Aside) inferInstance (fun _ v₃ settled => ?_) fun _ settled =>
    .inl (trans_of RailIdle step settled.unpulsed)
  replace step : RailIdle w v₃ := trans_of RailIdle step settled.unpulsed
  rw [ends_bind]
  refine (ends_readVoltage_metered (selected.aside settled).toAligned
    (settled.latches ▸ rail)).mono (fun _ v₄ read => ?_) fun _ cut =>
      .inl (trans_of RailIdle step cut)
  have metered := read.1.before step
  refine Within.bind_ends (S := Aside) inferInstance (fun _ v₅ judged => ?_) fun _ judged =>
    .inr (metered.after judged.unpulsed)
  exact (ends_allOff (read.2.unpulsed judged.unpulsed)).mono
    (fun _ _ down => ⟨(metered.after judged.unpulsed).after down.1, down.2⟩) fun _ => False.elim

/-- The rail was read and is off again, or the callback has failed before. -/
def Gauged (b : Build) (w₁ w w' : World) : Prop :=
  w'.handle.responseCode = responseCodeError ∧ RailIdle w w' ∨
    Metered b w₁ w w' ∧ RailOff b w₁ w'

theorem ends_epromCheckVpp_gauged (before : AtReading env.build w₁ w) :
    Ends epromCheckVpp env w (fun _ w' => Gauged env.build w₁ w w')
      (fun w' => RailIdle w w' ∨ Metered env.build w₁ w w') := by
  unfold epromCheckVpp rurpGetHardwareRevision
  rw [ends_bind, ends_build, ends_bind, ends_bind, ends_look, ends_pure, before.hardwareRevision,
    before.measurable, if_neg Bool.false_ne_true, ends_bind]
  cases good : calibrationIsPlausible env.build w.config with
  | true =>
    refine (ends_refuseBadCalibration_good good).mono (fun refused w' passed => ?_)
      fun _ never => never.elim
    obtain ⟨rfl, rfl⟩ := passed
    exact Ends.when (fun _ => (ends_epromMeasureVpp_metered before).mono (fun _ _ => .inr)
      fun _ => id) nofun
  | false =>
    have quiet : Within env RailIdle memUtilRefuseBadCalibration := inferInstance
    refine ((quiet.ends w).and (ends_refuseBadCalibration good)).mono (fun refused w' so => ?_)
      fun _ so => .inl so.1
    obtain ⟨step, rfl, refused⟩ := so
    exact Ends.when nofun fun _ => .inl ⟨refused.error, step⟩

/-! ## The rest of the INIT callback -/

/-- What follows the measurement: it raises the rail for itself and takes it down again, and is
passed over after an error. -/
theorem Gauged.ends_rest {m : Fw Unit} (gauged : Gauged env.build w₁ w w')
    (quiet : RailOff env.build w₁ w' →
      Ends m env w' (fun _ w'' => RailIdle w' w'' ∧ RailOff env.build w₁ w'') (RailIdle w'))
    (failed : w'.handle.responseCode = responseCodeError →
      Ends m env w' (fun _ w'' => w''.handle.responseCode = responseCodeError ∧ RailIdle w' w'')
        (RailIdle w')) :
    Ends m env w' (fun _ w'' => Gauged env.build w₁ w w'')
      (fun w'' => RailIdle w w'' ∨ Metered env.build w₁ w w'') := by
  rcases gauged with ⟨error, step⟩ | ⟨metered, off⟩
  · exact (failed error).mono (fun _ _ so => .inl ⟨so.1, trans_of RailIdle step so.2⟩)
      fun _ so => .inl (trans_of RailIdle step so)
  · exact (quiet off).mono (fun _ _ so => .inr ⟨metered.after so.1, so.2⟩)
      fun _ so => .inr (metered.after so)

theorem Gauged.ends_when {m : Fw Unit} {c : Bool} (gauged : Gauged env.build w₁ w w')
    (skipped : w'.handle.responseCode = responseCodeError → c = false)
    (quiet : RailOff env.build w₁ w' →
      Ends m env w' (fun _ w'' => RailIdle w' w'' ∧ RailOff env.build w₁ w'') (RailIdle w')) :
    Ends (when c m) env w' (fun _ w'' => Gauged env.build w₁ w w'')
      (fun w'' => RailIdle w w'' ∨ Metered env.build w₁ w w'') := by
  refine gauged.ends_rest (fun off => ?_) fun error => ?_
  · exact Ends.when (fun _ => quiet off) fun _ => ⟨refl_of RailIdle w', off⟩
  · rw [skipped error]
    exact ⟨error, refl_of RailIdle w'⟩

/-- A step that leaves the rail to itself, on the way to what follows. -/
theorem RailIdle.bind_ends {α β : Type} {m : Fw α} {f : α → Fw β} {ended : β → World → Prop}
    (step : RailIdle w w') (quiet : Within env RailIdle m)
    (rest : ∀ a w'', RailIdle w w'' → Ends (f a) env w'' ended (RailIdle w)) :
    Ends (m >>= f) env w' ended (RailIdle w) :=
  Within.bind_ends quiet (fun a w'' more => rest a w'' (trans_of RailIdle step more))
    fun _ more => trans_of RailIdle step more

/-- Then all is switched off. -/
theorem Aligned.ends_off (aligned : Aligned env.build w₁ w) (step : RailIdle w w') :
    Ends epromHvAllOff env w' (fun _ w'' => RailIdle w w'' ∧ RailOff env.build w₁ w'')
      (RailIdle w) :=
  (ends_allOff (aligned.unpulsed step)).mono
    (fun _ _ down => ⟨trans_of RailIdle step down.1, down.2⟩) fun _ => False.elim

/-- An error outlives it. -/
theorem ends_allOff_error (error : w.handle.responseCode = responseCodeError) :
    Ends epromHvAllOff env w
      (fun _ w' => w'.handle.responseCode = responseCodeError ∧ RailIdle w w') (RailIdle w) := by
  have quiet : Within env RailIdle epromHvAllOff := inferInstance
  have kept : Ends epromHvAllOff env w (fun _ w' => w'.handle.responseCode = responseCodeError)
      (fun _ => True) := by
    unfold epromHvAllOff
    rw [ends_bind, ends_build]
    exact (ends_lower_error error).mono (fun _ _ so => so.1) fun _ _ => trivial
  exact ((quiet.ends w).and kept).mono (fun _ _ both => ⟨both.2, both.1⟩) fun _ both => both.1

theorem ends_epromInternalCheckChipId_off (aligned : Aligned env.build w₁ w) (errorCode : U8) :
    Ends (epromInternalCheckChipId errorCode) env w
      (fun _ w' => RailIdle w w' ∧ RailOff env.build w₁ w') (RailIdle w) := by
  unfold epromInternalCheckChipId epromGetChipId
  simp only [bind_assoc, pure_bind]
  refine RailIdle.bind_ends (refl_of RailIdle w) inferInstance fun _ _ step => ?_
  refine step.bind_ends inferInstance fun _ _ step => ?_
  refine step.bind_ends inferInstance fun _ _ step => ?_
  refine step.bind_ends inferInstance fun _ _ step => ?_
  refine step.bind_ends inferInstance fun high _ step => ?_
  refine step.bind_ends inferInstance fun low _ step => ?_
  rw [ends_bind]
  refine (aligned.ends_off step).mono (fun _ v off => ?_) fun _ => id
  exact (Within.ends (R := Aside) inferInstance v).mono
    (fun _ _ told => ⟨trans_of RailIdle off.1 told.unpulsed, off.2.aside told⟩)
    fun _ told => trans_of RailIdle off.1 told.unpulsed

theorem ends_epromInternalErase_off (aligned : Aligned env.build w₁ w) :
    Ends epromInternalErase env w (fun _ w' => RailIdle w w' ∧ RailOff env.build w₁ w')
      (RailIdle w) := by
  unfold epromInternalErase
  refine RailIdle.bind_ends (refl_of RailIdle w) inferInstance fun _ _ step => ?_
  refine step.bind_ends inferInstance fun _ _ step => ?_
  refine step.bind_ends inferInstance fun _ _ step => ?_
  refine step.bind_ends inferInstance fun _ _ step => ?_
  refine step.bind_ends inferInstance fun _ _ step => ?_
  refine step.bind_ends inferInstance fun _ _ step => ?_
  refine step.bind_ends inferInstance fun _ _ step => ?_
  refine step.bind_ends inferInstance fun _ _ step => ?_
  refine step.bind_ends inferInstance fun _ _ step => ?_
  exact aligned.ends_off step

theorem ends_epromWriteInit_gauged (before : AtReading env.build w₁ w) :
    Ends epromWriteInit env w (fun _ w' => Gauged env.build w₁ w w')
      (fun w' => RailIdle w w' ∨ Metered env.build w₁ w w') := by
  unfold epromWriteInit epromInternalWriteInitBody epromGenericInit
  rw [ends_bind, ends_bind, ends_bind]
  refine (ends_epromCheckVpp_gauged before).mono (fun _ v₁ gauged => ?_) fun _ => id
  rw [ends_bind, ends_getHandle]
  refine (gauged.ends_when (fun error => by simp [error]) fun off =>
    ends_epromInternalCheckChipId_off off.toAligned _).mono (fun _ v₂ gauged => ?_) fun _ => id
  rw [ends_bind, ends_getHandle]
  refine (gauged.ends_when (fun error => by simp [error]) fun off => ?_).mono
    (fun _ v₃ gauged => ?_) fun _ => id
  · split
    · exact (Within.ends (R := Aside) inferInstance v₂).mono
        (fun _ _ told => ⟨told.unpulsed, off.aside told⟩) fun _ told => told.unpulsed
    · exact ends_epromInternalErase_off off.toAligned
  · unfold epromOffOnError
    refine gauged.ends_rest (fun off => ?_) fun error => ?_
    · rw [ends_bind, ends_getHandle]
      refine Ends.when (fun _ => ?_) fun _ => ⟨refl_of RailIdle v₃, off⟩
      exact off.toAligned.ends_off (refl_of RailIdle v₃)
    · rw [ends_bind, ends_getHandle, error]
      refine Ends.when (fun _ => ?_) nofun
      exact ends_allOff_error error

/-! ## The command -/

/-- The rail between two blocks, and what the block makes of it. -/
def ReadyStep (b : Build) (w₁ w w' : World) : Prop :=
  Ready b w₁ w → Ready b w₁ w' ∧ Fitting b w₁.hardwareRevision w₁.handle w w'

instance : HostFrame (ReadyStep b w₁) where
  refl w ready := ⟨ready, refl_of _ w⟩
  trans _ _ _ first rest ready := by
    obtain ⟨ready, fits⟩ := first ready
    obtain ⟨ready, fits'⟩ := rest ready
    exact ⟨ready, trans_of _ fits fits'⟩
  talk s s' talk ready := by
    have step : Aside s s' := HostFrame.talk s s' talk
    exact ⟨ready.aside step, step.unpulsed.fitting⟩

theorem within_epromWriteExecute : Within env (ReadyStep env.build w₁) epromWriteExecute := by
  refine within_iff_ends.mpr fun w => ?_
  by_cases ready : Ready env.build w₁ w
  · exact (ends_epromWriteExecute_ready ready).mono (fun _ _ done _ => done) fun _ never =>
      never.elim
  · exact ends_any _ (fun _ _ there => absurd there ready) fun _ there => absurd there ready

/-- What can be seen at any moment: no pulse before the measurement, and all fits after it. -/
def RailSeen (b : Build) (w₁ w : World) : Prop :=
  RailIdle w₁ w ∨ ∃ v, Metered b w₁ w₁ v ∧ Fitting b w₁.hardwareRevision w₁.handle v w

theorem RailSeen.onward (seen : RailSeen b w₁ w) (step : RailIdle w w') : RailSeen b w₁ w' := by
  rcases seen with quiet | ⟨v, metered, fits⟩
  · exact .inl (trans_of RailIdle quiet step)
  · exact .inr ⟨v, metered, trans_of _ fits step.fitting⟩

theorem RailSeen.of_metered (metered : Metered b w₁ w₁ w) : RailSeen b w₁ w :=
  .inr ⟨w, metered, refl_of _ w⟩

/-- Past the measurement, with the rail as a block finds it. -/
structure Proceeds (b : Build) (w₁ w : World) : Prop where
  ready : Ready b w₁ w
  metered : ∃ v, Metered b w₁ w₁ v ∧ Fitting b w₁.hardwareRevision w₁.handle v w

theorem Proceeds.seen (proceeds : Proceeds b w₁ w) : RailSeen b w₁ w := .inr proceeds.metered

theorem Proceeds.aside (proceeds : Proceeds b w₁ w) (step : Aside w w') : Proceeds b w₁ w' := by
  obtain ⟨v, metered, fits⟩ := proceeds.metered
  exact ⟨proceeds.ready.aside step, v, metered, trans_of _ fits step.unpulsed.fitting⟩

/-- What is known in a stage of the command. -/
abbrev Railing (b : Build) (w₁ : World) (st : Stage) : World → Prop :=
  st.Knows (Aside w₁) (Proceeds b w₁)

namespace Railing

variable {st : Stage}

theorem seen (railing : Railing b w₁ st w) : RailSeen b w₁ w :=
  railing.either.elim (fun early => .inl early.unpulsed) (·.seen)

theorem aside (railing : Railing b w₁ st w) (step : Aside w w') (queue : w'.QueuesReports) :
    Railing b w₁ st w' :=
  railing.onward queue (trans_of Aside · step) (·.aside step)

theorem link (railing : Railing b w₁ st w) (link : LinkStep w w') : Railing b w₁ st w' :=
  railing.aside (.of_link railing.1 link) (link.adds railing.1).1

theorem delivered {kind : OpMessageType} (railing : Railing b w₁ st w)
    (heard : Delivered kind w w') : Railing b w₁ st w' :=
  have step := Aside.of_delivered railing.1 heard
  railing.aside step.1 step.2

end Railing

/-- A write of a 27C part as it is accepted. -/
structure RailOpening (env : Env) (h : Handle) (w₁ : World) : Prop where
  handle : w₁.handle = h
  before : AtReading env.build w₁ w₁
  init : h.firestarterOperationInit = some .epromWriteInit
  main : h.firestarterOperationMain = some .epromWriteExecute
  finish : h.firestarterOperationEnd = none

/-- The runs of the INIT callback, with what is known of one that finds the rail off. -/
def GaugeRun (env : Env) (w₁ : World) (after : World → World → Prop) (w w' : World) : Prop :=
  CallbackStep w w' ∧ (AtReading env.build w₁ w → after w w')

theorem gaugeRuns (env : Env) (w₁ : World) : CallbackRuns env .epromWriteInit
    (GaugeRun env w₁ (Gauged env.build w₁))
    (GaugeRun env w₁ fun w w' => RailIdle w w' ∨ Metered env.build w₁ w w') where
  step _ _ ran := ran.1
  ends w := by
    have whole : Within env CallbackStep (dispatch .epromWriteInit) :=
      within_callback .epromWriteInit (by decide)
    by_cases before : AtReading env.build w₁ w
    · exact ((whole.ends w).and (ends_epromWriteInit_gauged before)).mono
        (fun _ _ both => ⟨both.1, fun _ => both.2⟩) fun _ both => ⟨both.1, fun _ => both.2⟩
    · exact (whole.ends w).mono (fun _ _ step => ⟨step, fun there => absurd there before⟩)
        fun _ step => ⟨step, fun there => absurd there before⟩

/-- The INIT callback of the command. -/
theorem ends_serveGauge (before : AtReading env.build w₁ w₁) (queue : w.QueuesReports)
    (early : Aside w₁ w) :
    Ends (executeOperation dispatch (some .epromWriteInit)) env w
      (fun r w' => if r = .error then w'.QueuesReports ∧ RailSeen env.build w₁ w'
        else w'.QueuesReports ∧ Proceeds env.build w₁ w')
      (RailSeen env.build w₁) := by
  have came {v w₂ : World} {after : World → World → Prop} (enter : ModeStep w v)
      (run : GaugeRun env w₁ after (v.calling .epromWriteInit) w₂) :
      Aside w₁ (v.calling .epromWriteInit) ∧ after (v.calling .epromWriteInit) w₂ ∧
        w₂.QueuesReports := by
    have entered : Aside w (v.calling .epromWriteInit) :=
      trans_of Aside (.of_mode queue enter) (.of_note rfl)
    have calling := trans_of Aside early entered
    have queued : (v.calling .epromWriteInit).QueuesReports := (enter.adds queue).1
    exact ⟨calling, run.2 (before.aside calling), (run.1.adds queued).1⟩
  have left {w₂ w₃ : World} (queued : w₂.QueuesReports)
      (leave : ModeStep (w₂.returning .epromWriteInit) w₃) : Aside w₂ w₃ ∧ w₃.QueuesReports :=
    ⟨trans_of Aside (.of_note rfl) (.of_mode queued leave), (leave.adds queued).1⟩
  have seen {v w₂ : World} (calling : Aside w₁ v)
      (so : RailIdle v w₂ ∨ Metered env.build w₁ v w₂) : RailSeen env.build w₁ w₂ :=
    so.elim (fun quiet => .inl (trans_of RailIdle calling.unpulsed quiet))
      fun metered => .of_metered (metered.before calling.unpulsed)
  refine ((gaugeRuns env w₁).executes w).mono (fun r w' executed => ?_) fun w' cut => ?_
  · cases executed with
    | @good v w₂ w₃ _ enter run leave comMode response link handle =>
      obtain ⟨calling, gauged, queued⟩ := came enter run
      obtain ⟨after, queued₃⟩ := left queued leave
      rw [if_neg (by decide)]
      obtain ⟨metered, off⟩ := gauged.resolve_left fun failed => by
        rw [failed.1] at response
        cases response
      have onward := trans_of Aside after (Aside.of_link queued₃ link)
      have metered := (metered.before calling.unpulsed).after onward.unpulsed
      exact ⟨(link.adds queued₃).1, .inl (off.aside onward), w', metered, refl_of _ w'⟩
    | @bad v w₂ _ enter run leave comMode response =>
      obtain ⟨calling, gauged, queued⟩ := came enter run
      obtain ⟨after, queued'⟩ := left queued leave
      rw [if_pos rfl]
      exact ⟨queued', (seen calling (gauged.imp And.right And.left)).onward after.unpulsed⟩
  · cases cut with
    | entering enter => exact .inl (trans_of Aside early (.of_mode queue enter)).unpulsed
    | running enter run =>
      obtain ⟨calling, so, -⟩ := came enter run
      exact seen calling so
    | leaving enter run leave link =>
      obtain ⟨calling, gauged, queued⟩ := came enter run
      obtain ⟨after, queued'⟩ := left queued leave
      have onward := trans_of Aside after (Aside.of_link queued' link)
      exact (seen calling (gauged.imp And.right And.left)).onward onward.unpulsed

/-- Ending the command reads nothing and gives no pulse. -/
theorem within_commandDone_unpulsed : Within env RailIdle commandDone := by
  have finished : Within env RailIdle (note .finished) :=
    Within.update _ fun _ => RailIdle.of_note rfl
  have idle : Within env RailIdle (setHandle fun h => { h with cmd := cmdIdle }) :=
    Within.update _ fun _ => Grows.of_silent rfl rfl
  unfold commandDone
  infer_instance

/-- The rule of a write of a 27C part, as far as its rail is concerned. -/
def railSelectionRule (env : Env) {h : Handle} {w₁ : World} (opening : RailOpening env h w₁) :
    CommandRule env h where
  holds := Railing env.build w₁
  closing w := w.QueuesReports ∧ RailSeen env.build w₁ w
  always := RailSeen env.build w₁
  safe railing := railing.seen
  settles railing := ⟨railing.1, railing.seen⟩
  lingers closing link :=
    ⟨(link.adds closing.1).1, closing.2.onward (Aside.of_link closing.1 link).unpulsed⟩
  onward seen live link := seen.onward (Aside.of_link live.queue link).unpulsed
  waits railing link := railing.link link
  hears _ railing heard := railing.delivered heard
  opens {st next _ _ _} opened _ railing heard link := by
    have same : st.isEarly = next.isEarly := by
      cases st <;> cases opened <;> rfl
    have replied := (railing.delivered heard).link link
    exact (replied.aside (.of_stage _ next) replied.1).past same
  lacks {st _ _ _ _} house lacking railing := by
    cases st <;> cases house
    · cases opening.init.symm.trans lacking
    · exact railing.past rfl
  serves {st _ _ _ callback _} settled house found e railing := by
    cases st <;> cases house
    · obtain rfl := Option.some.inj (opening.init.symm.trans found)
      refine (ends_serveGauge opening.before railing.1 railing.2).mono (fun r w' so => ?_)
        fun _ => id
      split at so
      · rename_i failed
        rw [if_pos failed]
        exact so
      · rename_i fine
        rw [if_neg fine]
        exact .of_late rfl so.1 so.2
    · cases opening.finish.symm.trans found
  closes {st served next frame w} house _ railing := by
    have closed : Aside w (w.closed next frame) :=
      ⟨rfl, [.advanced next.number, .emitted frame []], rfl, by
        simp [Event.isRailEvent, Event.isReading, Event.isPulse]⟩
    cases st <;> cases house
    all_goals exact .of_late rfl railing.1 ((railing.late rfl).aside closed)
  pumps {w callback} found settled e railing := by
    obtain rfl := Option.some.inj (opening.main.symm.trans found)
    have proceeds := railing.late rfl
    have seen {w' : World} (moved : ReadyStep env.build w₁ w w') : Proceeds env.build w₁ w' := by
      obtain ⟨ready, fits⟩ := moved proceeds.ready
      obtain ⟨v, metered, before⟩ := proceeds.metered
      exact ⟨ready, v, metered, trans_of _ before fits⟩
    refine (ends_mainPump found settled within_epromWriteExecute e).mono (fun ok w' so => ?_)
      fun _ moved => (seen moved).seen
    have onward := seen so.1
    cases ok with
    | false => exact ⟨so.2, so.2.queue, onward.seen⟩
    | true =>
      obtain ⟨st, known, engaged⟩ := so.2
      refine ⟨st, known, engaged, .of_late ?_ engaged.queue onward⟩
      rcases known with rfl | rfl <;> rfl
  ended w := w.QueuesReports ∧ RailSeen env.build w₁ w
  seen := RailSeen env.build w₁
  shows := id
  concludes live closing := by
    refine ((within_commandDone_unpulsed.ends _).and (ends_commandDone_down live)).mono
      (fun _ w' done => ?_) fun w' done => closing.2.onward done.1
    exact ⟨done.2.2.2, closing.2.onward done.1⟩
  rests closing link :=
    ⟨(link.adds closing.1).1, closing.2.onward (Aside.of_link closing.1 link).unpulsed⟩
  remains closing := closing.2

/-! ## The pulses of a run against its measurement -/

def Event.measuredRail : Event → Option RailState
  | .measured _ latches => some latches.rail
  | _ => none

/-- A pulse comes after a measurement, and its latch presents what the law makes of the rail
measured. The older events are listed newest first. -/
def Event.meets (law : U32 → RailState → RailState) (older : List Event) : Event → Bool
  | .wrote address _ latches =>
    older.any Event.isReading &&
      (older.filterMap Event.measuredRail).all fun measured => latches.rail == law address measured
  | _ => true

/-- So does every pulse of these events, newest first. -/
def pulsesMeet (law : U32 → RailState → RailState) : List Event → Bool
  | [] => true
  | e :: older => e.meets law older && pulsesMeet law older

/-- What a pulse at this address makes of the rail that was measured: before Rev 2 the resistor of
a 32-pin part is let go, and address line 16 has its wire. -/
def Handle.pulseRail (hw : U8) (h : Handle) (address : U32) (measured : RailState) : RailState :=
  { measured with
    drop :=
      if isRevision2 hw then measured.drop
      else measured.drop && h.pins < 32 || h.line16 address }

variable {h : Handle} {new earlier : List Event}

theorem Handle.pulseRail_measured (hw : U8) (h : Handle) (address : U32) :
    h.pulseRail hw address ⟨true, h.usesDrop b⟩ = ⟨true, h.dropAt b hw address⟩ := by
  unfold Handle.pulseRail Handle.dropAt Handle.keepsDrop
  cases isRevision2 hw <;> simp

/-- Events without a pulse meet any law. -/
theorem pulsesMeet_of_unpulsed {law : U32 → RailState → RailState}
    (unpulsed : ∀ e ∈ new, (!e.isPulse) = true) : pulsesMeet law new = true := by
  induction new with
  | nil => rfl
  | cons e older ih =>
    have here := unpulsed e List.mem_cons_self
    have meets : e.meets law older = true := by
      cases e <;> first | rfl | cases here
    rw [pulsesMeet, meets, Bool.true_and]
    exact ih fun e member => unpulsed e (List.mem_cons_of_mem _ member)

/-- A pulse that fits the rail meets what was measured, after a reading of that rail. -/
theorem Event.meets_of_fits {e : Event} {older : List Event} (fits : e.fitsRail b hw h = true)
    (fit : ∀ e ∈ older, e.fitsRail b hw h = true) (reading : older.any Event.isReading = true) :
    e.meets (h.pulseRail hw) older = true := by
  cases e with
  | wrote address data latches =>
    have rail : latches.rail = ⟨true, h.dropAt b hw address⟩ := beq_iff_eq.mp fits
    show (older.any Event.isReading && _) = true
    rw [reading, Bool.true_and, List.all_eq_true]
    intro measured member
    obtain ⟨m, member, read⟩ := List.mem_filterMap.mp member
    have known : measured = ⟨true, h.usesDrop b⟩ := by
      have fit := fit m member
      cases m with
      | measured millivolts latches =>
        obtain rfl := Option.some.inj read
        exact beq_iff_eq.mp fit
      | _ => cases read
    rw [known, Handle.pulseRail_measured, rail, beq_self_eq_true]
  | _ => rfl

theorem pulsesMeet_of_fits (fits : ∀ e ∈ new, e.fitsRail b hw h = true)
    (fit : ∀ e ∈ earlier, e.fitsRail b hw h = true) (reading : earlier.any Event.isReading = true)
    (meet : pulsesMeet (h.pulseRail hw) earlier = true) :
    pulsesMeet (h.pulseRail hw) (new ++ earlier) = true := by
  induction new with
  | nil => exact meet
  | cons e older ih =>
    have before : ∀ e ∈ older ++ earlier, e.fitsRail b hw h = true := fun e member =>
      (List.mem_append.mp member).elim (fun member => fits e (List.mem_cons_of_mem _ member))
        (fit e)
    have read : (older ++ earlier).any Event.isReading = true := by
      rw [List.any_append, reading, Bool.or_true]
    have here := Event.meets_of_fits (fits e List.mem_cons_self) before read
    rw [List.cons_append, pulsesMeet, here, Bool.true_and]
    exact ih fun e member => fits e (List.mem_cons_of_mem _ member)

theorem RailSeen.pulses (seen : RailSeen b w₁ w) :
    ∃ new, w.trace = new ++ w₁.trace ∧
      pulsesMeet (w₁.handle.pulseRail w₁.hardwareRevision) new = true := by
  rcases seen with quiet | ⟨v, metered, fits⟩
  · obtain ⟨-, new, trace, unpulsed⟩ := quiet.pulseless
    exact ⟨new, trace, pulsesMeet_of_unpulsed unpulsed⟩
  · obtain ⟨new, e, trace, member, reading⟩ := metered.reading
    obtain ⟨-, first, trace₁, fit⟩ := metered.fits
    obtain ⟨-, first', trace₁', unpulsed⟩ := metered.unpulsed
    obtain rfl := List.append_cancel_right (trace₁.symm.trans trace)
    obtain rfl := List.append_cancel_right (trace₁'.symm.trans trace₁)
    obtain ⟨-, later, trace₂, fits⟩ := fits
    refine ⟨later ++ _, ?_, pulsesMeet_of_fits fits fit ?_ (pulsesMeet_of_unpulsed unpulsed)⟩
    · rw [trace₂, trace, List.append_assoc]
    · exact List.any_eq_true.mpr ⟨e, member, reading⟩

/-- The callbacks of a write, as the EPROM driver installs them. -/
theorem setUp_epromWrite (b : Build) (hw : U8) {decoded : Handle} (write : decoded.cmd = cmdWrite) :
    (Driver.eprom.setUp b hw decoded).firestarterOperationInit = some .epromWriteInit ∧
      (Driver.eprom.setUp b hw decoded).firestarterOperationMain = some .epromWriteExecute ∧
      (Driver.eprom.setUp b hw decoded).firestarterOperationEnd = none := by
  have cmd : (decoded.withoutCallbacks.withMemoryCallbacks.withReadHighMask b hw).cmd = cmdWrite :=
    write
  unfold Driver.setUp Driver.configured Handle.withEpromCallbacks
  dsimp only
  rw [cmd]
  exact ⟨rfl, rfl, rfl⟩

/-- An accepted write of a 27C part has been set up by that driver. -/
theorem eprom_of_accepted (accepted : Accepted env w)
    (eprom : w.handle.protocol ∈ [protoEprom28Pin, protoEprom32Pin, protoEprom24Pin])
    (write : w.handle.cmd = cmdWrite) :
    ∃ decoded, decoded.cmd = cmdWrite ∧
      w.handle.parameters =
        (Driver.eprom.setUp env.build w.hardwareRevision decoded).parameters ∧
      w.epSetControlRegister = some .memorySetControlRegister := by
  have memory : isMemoryCmd w.handle.cmd = true := by
    rw [write]
    rfl
  obtain ⟨driver, decoded, -, found, -, ⟨same, -⟩, setter⟩ := accepted.setUp memory
  have unchanged := driver.configured_unconfigured
    (decoded.withoutCallbacks.withMemoryCallbacks.withReadHighMask env.build w.hardwareRevision)
  have cmd' := congrArg Handle.cmd unchanged
  have cmd : w.handle.cmd = decoded.cmd := (congrArg Handle.cmd same).trans cmd'
  have protocol' := congrArg Handle.protocol unchanged
  have protocol : w.handle.protocol = decoded.protocol :=
    (congrArg Handle.protocol same).trans protocol'
  obtain rfl : driver = .eprom := by
    have table : ∀ protocol ∈ [protoEprom28Pin, protoEprom32Pin, protoEprom24Pin],
        driverFor protocol = some .eprom := by decide
    rw [protocol] at eprom
    exact (Option.some.inj ((table _ eprom).symm.trans found)).symm
  exact ⟨decoded, cmd.symm.trans write, same, setter rfl⟩

/-- A write of a 27C part as it is taken up, on a board that can measure the rail. -/
theorem railOpening_of_takesUp {w₀ : World} (reach : Reach env w₀) (idle : w₀.handle.cmd = cmdIdle)
    (received : loop env w₀ = (some (), w₁))
    (eprom : w₁.handle.protocol ∈ [protoEprom28Pin, protoEprom32Pin, protoEprom24Pin])
    (write : w₁.handle.cmd = cmdWrite)
    (supported : isSupportedRevision w₁.hardwareRevision = true)
    (measurable : isRevision0 env.build w₁.hardwareRevision = false) :
    RailOpening env w₁.handle w₁ ∧ Engaged w₁.handle .beforeInit w₁ ∧ w₁.handle.Settled := by
  have memory : isMemoryCmd w₁.handle.cmd = true := by
    rw [write]
    rfl
  obtain ⟨⟨v, made, accepted, ready⟩, engaged, settled⟩ :=
    (takesUp_emptyRegister reach idle received memory).begun
  have same : w₁.handle = v.handle := by rw [made]
  have saved : w₁.epSetControlRegister = v.epSetControlRegister := by rw [made]
  have control : w₁.controlRegister = v.controlRegister := by rw [made]
  obtain ⟨-, pinmap⟩ := gated_of_accepted accepted
    (.inl ⟨same ▸ eprom, by rw [← same, write]; decide⟩)
  have layout := hardwareRevision_of_pinmap pinmap
  obtain ⟨decoded, writes, parameters, setter⟩ :=
    eprom_of_accepted accepted (same ▸ eprom) (same ▸ write)
  rw [← same] at parameters
  have register := congrArg Handle.firestarterSetControlRegister parameters
  have init := congrArg Handle.firestarterOperationInit parameters
  have main := congrArg Handle.firestarterOperationMain parameters
  have finish := congrArg Handle.firestarterOperationEnd parameters
  obtain ⟨off, line⟩ := ready layout
  rw [← control] at off line
  have down (n : Nat) (switch : n = 1 ∨ n = 2 ∨ n = 3 ∨ n = 7 ∨ n = 8) :
      w₁.controlRegister.getLsbD n = false :=
    (highVoltage_bit layout (off.trans BitVec.zero_and.symm) n switch).trans BitVec.getLsbD_zero
  have aligned : Aligned env.build w₁ w₁ := ⟨layout, supported, ⟨register, saved.trans setter⟩, rfl⟩
  have before : AtReading env.build w₁ w₁ :=
    ⟨⟨aligned, down 7 (by simp), down 8 (by simp)⟩, line, measurable⟩
  obtain ⟨first, second, last⟩ := setUp_epromWrite env.build v.hardwareRevision writes
  exact ⟨⟨rfl, before, Eq.trans init first, Eq.trans main second, Eq.trans finish last⟩, engaged,
    settled⟩

/-- The rail that is measured is the rail that programs, but for what an earlier board cannot keep
apart. Every pulse of a write of a 27C part comes after a measurement, and its latch presents the
rail measured: on Rev 2.x that rail itself, and on Rev 1 its regulator, with the resistor selected
where it was for a part of less than 32 pins, and wherever address line 16 is high. -/
theorem rail_selection {w₀ w₁ w : World} (reach : Reach env w₀) (idle : w₀.handle.cmd = cmdIdle)
    (received : loop env w₀ = (some (), w₁))
    (eprom : w₁.handle.protocol ∈ [protoEprom28Pin, protoEprom32Pin, protoEprom24Pin])
    (write : w₁.handle.cmd = cmdWrite)
    (supported : isSupportedRevision w₁.hardwareRevision = true)
    (measurable : isRevision0 env.build w₁.hardwareRevision = false)
    (seen : SeenWhileRunning env w₁ w) :
    ∃ new, w.trace = new ++ w₁.trace ∧
      pulsesMeet (w₁.handle.pulseRail w₁.hardwareRevision) new = true ∧
      (isRevision2 w₁.hardwareRevision = true →
        pulsesMeet (fun _ measured => measured) new = true) := by
  obtain ⟨opening, engaged, settled⟩ :=
    railOpening_of_takesUp reach idle received eprom write supported measurable
  have memory : isMemoryCmd w₁.handle.cmd = true := by
    rw [write]
    rfl
  have between : (railSelectionRule env opening).Between w₁ :=
    ⟨.beforeInit, rfl, engaged, engaged.queue, refl_of Aside w₁⟩
  have so : RailSeen env.build w₁ w :=
    (railSelectionRule env opening).of_seenWhileRunning memory settled between seen
  obtain ⟨new, trace, meets⟩ := so.pulses
  refine ⟨new, trace, meets, fun rev2 => ?_⟩
  have same : w₁.handle.pulseRail w₁.hardwareRevision = fun _ measured => measured := by
    funext address measured
    unfold Handle.pulseRail
    rw [if_pos rev2]
  rw [← same]
  exact meets

/-- A Leonardo on a shield of this revision whose host writes one byte of a 32-pin part, which takes
its first pulse. -/
def railEnv (revisionAdc : U16) : Env :=
  { Env.still ⟨.leonardo, false⟩ 200 with
    revisionAdc := fun _ => revisionAdc
    chip := fun w => if w.trace.any Event.isPulse then 0x12 else 0xFF }.sends <|
    memoryFrame { cmd := cmdWrite, memSize := 4, regionEnd := 1, protocol := protoEprom32Pin,
                  pins := 32, vppMv := 13900,
                  busConfig := { addressLines := [], rwLine := 0xFF, vppLine := 0xFF } } ++
      [asciiO, asciiK, asciiO, asciiK] ++ asciiHash :: communicationFrame [0x12]

/-- What such a run tells: the part, the board, whether there was a pulse, and whether every pulse
met the rail measured. -/
def railTold (w₁ w : World) : (U8 × U8 × U8) × Bool × Bool :=
  ((w₁.handle.protocol, w₁.handle.cmd, w₁.hardwareRevision),
    (eventsSince w₁ w).any Event.isPulse,
    pulsesMeet (fun _ measured => measured) (eventsSince w₁ w))

/-- On Rev 2.0 the pulse of such a write meets the rail measured. -/
theorem rail_selection_rev2 : ∃ (w w₁ : World) (new : List Event),
    w.trace = new ++ w₁.trace ∧ new.any Event.isPulse = true ∧
      pulsesMeet (w₁.handle.pulseRail w₁.hardwareRevision) new = true ∧
      pulsesMeet (fun _ measured => measured) new = true := by
  obtain ⟨w₀, w₁, w, booted, idle, received, states, told⟩ := @exists_of_turnsAfter
    (railEnv 0) _ 2 railTold ((protoEprom32Pin, cmdWrite, revision20), true, true)
    (by decide +kernel)
  have reach := (reach_stateAfter World.blank_poweredUp booted).1
  obtain ⟨command, told⟩ := Prod.mk.inj told
  obtain ⟨protocol, told₁⟩ := Prod.mk.inj command
  obtain ⟨write, revision⟩ := Prod.mk.inj told₁
  obtain ⟨pulsed, -⟩ := Prod.mk.inj told
  obtain ⟨new, trace, meets, same⟩ := rail_selection reach idle received
    (by rw [protocol]; decide) write (by rw [revision]; decide) (by rw [revision]; decide)
    (.between states)
  rw [eventsSince_eq trace] at pulsed
  exact ⟨w, w₁, new, trace, pulsed, meets, same (by rw [revision]; decide)⟩

/-- On Rev 1 its resistor was selected while the rail was measured, and is let go at the pulse. -/
theorem resistor_let_go : ¬ ∀ (env : Env) (w₀ w₁ w : World), Reach env w₀ →
    w₀.handle.cmd = cmdIdle → loop env w₀ = (some (), w₁) →
    w₁.handle.protocol ∈ [protoEprom28Pin, protoEprom32Pin, protoEprom24Pin] →
    w₁.handle.cmd = cmdWrite → isSupportedRevision w₁.hardwareRevision = true →
    isRevision0 env.build w₁.hardwareRevision = false → SeenWhileRunning env w₁ w →
    ∃ new, w.trace = new ++ w₁.trace ∧ pulsesMeet (fun _ measured => measured) new = true := by
  intro claim
  obtain ⟨w₀, w₁, w, booted, idle, received, states, told⟩ := @exists_of_turnsAfter
    (railEnv 1000) _ 2 railTold ((protoEprom32Pin, cmdWrite, revision1), true, false)
    (by decide +kernel)
  have reach := (reach_stateAfter World.blank_poweredUp booted).1
  obtain ⟨command, told⟩ := Prod.mk.inj told
  obtain ⟨protocol, told₁⟩ := Prod.mk.inj command
  obtain ⟨write, revision⟩ := Prod.mk.inj told₁
  obtain ⟨-, differs⟩ := Prod.mk.inj told
  obtain ⟨new, trace, meets⟩ := claim _ w₀ w₁ w reach idle received (by rw [protocol]; decide) write
    (by rw [revision]; decide) (by rw [revision]; decide) (.between states)
  rw [eventsSince_eq trace, meets] at differs
  cases differs

end Firestarter
