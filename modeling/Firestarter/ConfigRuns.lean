import Firestarter.CommandGrammar
import Firestarter.CommandRuns
import Firestarter.ConfigMigration
import Firestarter.FirmwareFrames

/-! The configuration over whole runs. What the storage holds at power-up is never trusted, and
from then on the live values stay usable: only an accepted configuration frame changes them, all of
its fields at once, and what was stored last is what is live. -/
namespace Firestarter

open Interactive Interactive.Prog

set_option synthInstance.maxSize 4000

/-! ## Usable values -/

/-- The configuration with the fields the frame marks present, and no other. -/
def ConfigFrame.patch (f : ConfigFrame) (config : Configuration) : Configuration :=
  { config with
    r1 := if f.present &&& cfConfigPresentR1 ≠ 0 then f.r1 else config.r1
    r2 := if f.present &&& cfConfigPresentR2 ≠ 0 then f.r2 else config.r2
    hardwareRevision :=
      if f.present &&& cfConfigPresentRev ≠ 0 then f.revision else config.hardwareRevision
    bandgapMv := if f.present &&& cfConfigPresentBg ≠ 0 then f.bandgapMv else config.bandgapMv }

variable {b : Build} {config : Configuration}

/-! ## What leaves the configuration alone -/

/-- The acknowledgement of a configuration frame. -/
def Event.acceptsConfig : Event → Bool
  | .accepted h => h.cmd == cmdConfig
  | _ => false

/-- A step that takes no configuration frame and keeps the live and the stored values. -/
abbrev ConfigKept : World → World → Prop :=
  Grows (fun w => (w.config, w.stored)) fun e => !e.acceptsConfig

variable {env : Env}

instance : HostFrame ConfigKept where
  talk s s' talk := by
    have config := congrArg World.config talk.kept
    have stored := congrArg World.stored talk.kept
    obtain ⟨new, trace, heard⟩ := talk.adds
    refine ⟨Prod.ext config stored, new, trace, fun e member => ?_⟩
    have inside := heard e member
    cases e <;> first | rfl | cases inside

instance : HandleFrame ConfigKept :=
  ⟨fun _ _ _ => Grows.of_silent rfl rfl, fun _ _ => Grows.of_silent rfl rfl⟩

instance : SenseFrame ConfigKept where
  sense s e passive := Grows.of_note e (by cases e <;> first | rfl | cases passive) rfl

instance : StoreFrame ConfigKept where
  store s e store := Grows.of_note e (by cases e <;> first | rfl | cases store) rfl

instance : LatchFrame ConfigKept where
  strobe s reg byte latches offAt := by
    have noted : ConfigKept s { s with trace := .strobe reg byte :: s.trace } :=
      Grows.of_note _ rfl rfl
    refine trans_of ConfigKept noted ?_
    exact Grows.of_silent rfl rfl

instance : CacheFrame ConfigKept where
  cache _ _ _ _ _ := Grows.of_silent rfl rfl
  control _ _ := Grows.of_note _ rfl rfl
  addressed _ _ _ _ := Grows.of_note _ rfl rfl

instance (f : Handle → Handle) : Within env ConfigKept (setHandle f) :=
  Within.update _ fun _ => Grows.of_silent rfl rfl

instance : Within env ConfigKept commandDone := by
  have : Within env ConfigKept (note .finished) := Within.update _ fun _ => Grows.of_note _ rfl rfl
  unfold commandDone
  infer_instance

instance : Within env ConfigKept rurpBoardSetup := by
  have : Within env ConfigKept (whileLoop (fun _ => do
      if ← ask Env.portOpen then return .inr ()
      else
        delayMicroseconds 1
        return .inl ()) () : Fw Unit) := by
    unfold whileLoop
    infer_instance
  unfold rurpBoardSetup
  refine within_bind inferInstance fun b => ?_
  cases b.board with
  | py32f071 => exact within_bind inferInstance fun _ => inferInstance
  | _ => infer_instance

instance : Within env ConfigKept rurpDetectHardwareRevision := by
  have (revision : U8) : Within env ConfigKept (update fun w =>
      { w with revision := revision } : Fw Unit) :=
    Within.update _ fun _ => Grows.of_silent rfl rfl
  unfold rurpDetectHardwareRevision
  infer_instance

/-! ## Power-up -/

/-- The live configuration boots as it is, and it is what a boot would load. -/
structure World.Configured (b : Build) (w : World) : Prop where
  settled : w.config.Settled b
  stored : w.stored = some w.config

theorem World.Configured.kept {w w' : World} (configured : w.Configured b)
    (kept : ConfigKept w w') : w'.Configured b := by
  have config := congrArg Prod.fst kept.kept
  have stored := congrArg Prod.snd kept.kept
  have config : w'.config = w.config := config
  have stored : w'.stored = w.stored := stored
  refine ⟨config ▸ configured.settled, ?_⟩
  rw [stored, config]
  exact configured.stored

theorem ends_rurpSaveConfig (w : World) {ended : Unit → World → Prop}
    (saved : env.saveOk w = true →
      ended () { w with asked := w.asked + 1, stored := some w.config })
    (lost : env.saveOk w = false → ended () { w with asked := w.asked + 1 }) :
    Ends rurpSaveConfig env w ended (fun _ => False) := by
  unfold rurpSaveConfig ask
  simp only [ends_bind, ends_outside, ends_look, ends_update, ends_pure]
  split
  · rename_i ok
    exact saved ok
  · rename_i ok
    exact lost (Bool.eq_false_iff.mpr ok)

/-- The live configuration is migrated, and saved when that changed it. -/
theorem ends_rurpValidateConfig (w : World) :
    Ends rurpValidateConfig env w
      (fun _ w' => w'.config = (rurpConfigMigrate env.build w.config).1 ∧
        (w.config.Settled env.build → w'.stored = w.stored) ∧
        ((∀ w, env.saveOk w = true) → w'.stored = w.stored ∧ w'.config = w.config ∨
          w'.stored = some w'.config))
      (fun _ => False) := by
  unfold rurpValidateConfig
  rw [ends_bind, ends_build, ends_bind, ends_look]
  rcases migrated : rurpConfigMigrate env.build w.config with ⟨config, changed⟩
  dsimp only
  rw [ends_bind, ends_update]
  refine Ends.when (fun stale => ?_) fun current => ?_
  · have unsettled : ¬ w.config.Settled env.build := by
      intro settled
      rw [rurpConfigMigrate_of_settled settled] at migrated
      cases migrated
      cases stale
    refine ends_rurpSaveConfig _ (fun _ => ?_) fun lost => ?_
    · exact ⟨rfl, fun settled => (unsettled settled).elim, fun _ => .inr rfl⟩
    · refine ⟨rfl, fun settled => (unsettled settled).elim, fun saves => ?_⟩
      rw [saves] at lost
      cases lost
  · have same : config = w.config := by
      have kept := @rurpConfigMigrate_unchanged env.build w.config
      rw [migrated] at kept
      exact kept current
    exact ⟨rfl, fun _ => rfl, fun _ => .inl ⟨rfl, same⟩⟩

/-- What a load takes from the store. -/
def World.loaded (w : World) : Configuration :=
  w.stored.getD { w.config with version := 0 :: w.config.version.tail }

/-- Whatever is stored, what is live after the load boots as it is; and with a storage that works,
it is stored. -/
theorem ends_rurpLoadConfig (w : World) :
    Ends rurpLoadConfig env w
      (fun _ w' => w'.config.Settled env.build ∧
        (∀ config, w.stored = some config → config.Settled env.build → w'.config = config) ∧
        ((∀ w, env.saveOk w = true) → w'.Configured env.build))
      (fun _ => False) := by
  have loaded : Ends rurpValidateConfig env { w with config := w.loaded }
      (fun _ w' => w'.config.Settled env.build ∧
        (∀ config, w.stored = some config → config.Settled env.build → w'.config = config) ∧
        ((∀ w, env.saveOk w = true) → w'.Configured env.build))
      (fun _ => False) := by
    refine (ends_rurpValidateConfig _).mono (fun _ w' migrated => ?_) fun _ h => h
    obtain ⟨config, -, stored⟩ := migrated
    have settled : w'.config.Settled env.build := by
      rw [config]
      exact rurpConfigMigrate_settled env.build _
    refine ⟨settled, fun record found good => ?_, fun saves => ⟨settled, ?_⟩⟩
    · have there : w.loaded = record := by
        rw [World.loaded, found]
        rfl
      rw [config]
      show (rurpConfigMigrate env.build w.loaded).1 = record
      rw [there, rurpConfigMigrate_of_settled good]
    · rcases stored saves with ⟨stored, same⟩ | stored
      · have stored : w'.stored = w.stored := stored
        have same : w'.config = w.loaded := same
        rw [stored, same]
        cases found : w.stored with
        | some record =>
          rw [World.loaded, found]
          rfl
        | none =>
          -- A load that copied nothing leaves a version no boot keeps.
          have version := settled.version
          rw [same, World.loaded, found] at version
          cases version
      · exact stored
  unfold rurpLoadConfig
  rw [ends_bind, ends_update]
  unfold World.loaded at loaded
  cases found : w.stored with
  | some record =>
    rw [found] at loaded
    exact loaded
  | none =>
    rw [found] at loaded
    exact loaded

/-- Until the load the configuration is the one the variables start with. -/
theorem ends_setup_config (w : World) :
    Ends setup env w
      (fun _ w' => w'.config.Settled env.build ∧
        (∀ config, w.stored = some config → config.Settled env.build → w'.config = config) ∧
        ((∀ w, env.saveOk w = true) → w'.Configured env.build))
      (fun w' => w'.config = w.config ∨ w'.config.Settled env.build) := by
  unfold setup
  refine Within.bind_ends (S := ConfigKept) inferInstance (fun _ w₁ board => ?_)
    fun w₁ board => .inl (congrArg Prod.fst board.kept)
  have stored := congrArg Prod.snd board.kept
  have stored : w₁.stored = w.stored := stored
  rw [ends_bind]
  refine (ends_rurpLoadConfig w₁).mono (fun _ w₂ loaded => ?_) fun _ h => h.elim
  rw [stored] at loaded
  refine Within.ends (R := ConfigKept) ?_ w₂ |>.mono (fun _ w₃ kept => ?_) fun w₃ kept => ?_
  · infer_instance
  · have config := congrArg Prod.fst kept.kept
    have config : w₃.config = w₂.config := config
    obtain ⟨settled, same, configured⟩ := loaded
    rw [config]
    exact ⟨settled, same, fun saves => (configured saves).kept kept⟩
  · have config := congrArg Prod.fst kept.kept
    have config : w₃.config = w₂.config := config
    rw [config]
    exact .inr loaded.1

/-! ## A configuration frame -/

/-- The command of a frame in the handle that made it. -/
theorem exists_configFrame {received decoded : Handle}
    (decode : cmdDecode b received = (decoded, cmdDecodeOk)) (cmd : decoded.cmd = cmdConfig) :
    ∃ f : ConfigFrame, f.WellFormed b ∧ (CommandFrame.config f).bytes = decoded.payload := by
  have admitted : Admitted b received ∧ received.decoded = decoded := by
    rcases cmdDecode_cases b received with ⟨admitted, result⟩ | ⟨-, res, refused, result⟩
    · rw [decode] at result
      exact ⟨admitted, congrArg Prod.fst result.symm⟩
    · rw [decode] at result
      exact absurd (congrArg Prod.snd result.symm) refused
  obtain ⟨f, wellFormed, same⟩ := exists_frame admitted.1
  have applied : decoded = f.apply received :=
    admitted.2.symm.trans (admitted_of_frame wellFormed same).2
  cases f with
  | memory f =>
    have wellFormed : f.WellFormed := wellFormed
    have kind := wellFormed.kind
    rw [applied] at cmd
    have cmd : f.cmd = cmdConfig := cmd
    rw [cmd] at kind
    cases kind
  | config f =>
    refine ⟨f, wellFormed, ?_⟩
    rw [applied]
    exact same
  | bare other flags =>
    have kind : cfPayloadKind other = .none := wellFormed.1
    rw [applied] at cmd
    have cmd : other = cmdConfig := cmd
    rw [cmd] at kind
    cases kind

/-- The decoder lets no field pass that the build would not apply. -/
theorem cmdApplyConfig_eq {h : Handle} {f : ConfigFrame} (wellFormed : f.WellFormed b)
    (same : (CommandFrame.config f).bytes = h.payload) (config : Configuration) :
    (cmdApplyConfig b h config).1 = f.patch config ∧
      ((cmdApplyConfig b h config).2 = false → f.patch config = config) := by
  obtain ⟨-, read⟩ := f.bytes_eq_payload_iff.mp same
  have revision : (b.hardwareRevision && f.present &&& cfConfigPresentRev != 0) =
      (f.present &&& cfConfigPresentRev != 0) := by
    cases takes : f.present &&& cfConfigPresentRev != 0 with
    | false => exact Bool.and_false _
    | true => rw [wellFormed.hasRevision (bne_iff_ne.mp takes), Bool.and_true]
  have present : h.dataBuffer (cfHeaderSize + cfConfigOffPresent) = f.present := read.present.symm
  have patched : (cmdApplyConfig b h config).1 = f.patch config := by
    unfold cmdApplyConfig ConfigFrame.patch
    dsimp only
    simp only [present, revision, bne_iff_ne]
    rw [read.r1, read.r2, read.revision, read.bandgapMv]
    rfl
  refine ⟨patched, fun unchanged => ?_⟩
  unfold cmdApplyConfig at unchanged
  dsimp only at unchanged
  simp only [present, revision, Bool.or_eq_false_iff, bne_eq_false_iff_eq] at unchanged
  obtain ⟨⟨⟨r1, r2⟩, rev⟩, bandgap⟩ := unchanged
  unfold ConfigFrame.patch
  rw [if_neg (not_not.mpr r1), if_neg (not_not.mpr r2), if_neg (not_not.mpr rev),
    if_neg (not_not.mpr bandgap)]

/-- The live values change all at once, and are stored, or nothing changes. -/
theorem ends_applyConfigCommand (saves : ∀ w, env.saveOk w = true) {w : World}
    (configured : w.Configured env.build) {f : ConfigFrame} (wellFormed : f.WellFormed env.build)
    (same : (CommandFrame.config f).bytes = w.handle.payload) :
    Ends applyConfigCommand env w
      (fun ok w' =>
        if ok then w'.handle = w.handle ∧ w'.trace = w.trace ∧ w'.config = f.patch w.config ∧
          w'.Configured env.build
        else ConfigKept w w')
      (ConfigKept w) := by
  obtain ⟨patched, unchanged⟩ := cmdApplyConfig_eq wellFormed same w.config
  unfold applyConfigCommand
  rw [ends_bind, ends_build, ends_bind, ends_look]
  rcases applied : cmdApplyConfig env.build w.handle w.config with ⟨candidate, changed⟩
  rw [applied] at patched unchanged
  have patched : candidate = f.patch w.config := patched
  dsimp only
  split
  · unfold rurpConfigCommit
    rw [ends_bind, ends_bind, ends_build]
    split
    · rename_i valid
      rw [ends_bind, ends_update, ends_pure, if_pos rfl, ends_bind]
      refine (ends_rurpSaveConfig _ (fun _ => ?_) fun lost => ?_).mono
        (fun _ _ h => h) fun _ h => h.elim
      · refine ⟨rfl, rfl, patched, ⟨valid, ?_⟩, rfl⟩
        show candidate.version = configVersion
        rw [patched]
        exact configured.settled.version
      · rw [saves] at lost
        cases lost
    · rw [ends_pure, if_neg Bool.false_ne_true]
      exact Within.bind_ends (S := ConfigKept) inferInstance
        (fun _ _ kept => kept) fun _ kept => kept
  · rename_i kept
    have there := unchanged (Bool.eq_false_iff.mpr kept)
    exact ⟨rfl, rfl, there.symm, configured⟩

/-! ## The turns of the loop -/

/-- Setting the memory up keeps the command it is for. -/
def SameCommand (s s' : World) : Prop := s'.handle.cmd = s.handle.cmd

instance : HostFrame SameCommand where
  refl _ := rfl
  trans _ _ _ first rest := Eq.trans rest first
  talk s s' talk := by
    have cmd := congrArg (fun w : World => w.handle.cmd) talk.kept
    exact cmd

instance : HandleFrame SameCommand := ⟨fun _ _ same => same, fun _ _ => rfl⟩
instance : LatchFrame SameCommand := ⟨fun _ _ _ _ _ => rfl⟩
instance : CacheFrame SameCommand := ⟨fun _ _ _ _ _ => rfl, fun _ _ => rfl, fun _ _ _ _ => rfl⟩

/-- What a turn of the loop does to the configuration: it accepts a configuration frame and the
fields marked there, and only these, change and are stored; or it accepts none, and nothing
changes. -/
inductive ConfigTurn (b : Build) (w w' : World) : Prop
  | kept (config : w'.config = w.config) (stored : w'.stored = w.stored) (new : List Event)
      (trace : w'.trace = new ++ w.trace) (none : ∀ h, .accepted h ∈ new → h.cmd ≠ cmdConfig)
  | taken (h : Handle) (f : ConfigFrame) (cmd : h.cmd = cmdConfig) (wellFormed : f.WellFormed b)
      (bytes : (CommandFrame.config f).bytes = h.payload) (new : List Event)
      (trace : w'.trace = new ++ w.trace) (accepted : .accepted h ∈ new)
      (config : w'.config = f.patch w.config) (stored : w'.stored = some w'.config)

theorem ConfigTurn.of_kept {w w' : World} (kept : ConfigKept w w') : ConfigTurn b w w' := by
  obtain ⟨new, trace, silent⟩ := kept.adds
  refine .kept (congrArg Prod.fst kept.kept) (congrArg Prod.snd kept.kept) new trace ?_
  intro h member cmd
  have silent := silent _ member
  rw [Event.acceptsConfig, cmd] at silent
  cases silent

/-- Between the decoding of a frame and its acknowledgement: another command was set up, or the
values of a configuration frame are in force. -/
inductive ConfigParsed (b : Build) (w w' : World) : Prop
  | other (kept : ConfigKept w w') (cmd : w'.handle.cmd ≠ cmdConfig)
  | config (f : ConfigFrame) (wellFormed : f.WellFormed b)
      (bytes : (CommandFrame.config f).bytes = w'.handle.payload) (cmd : w'.handle.cmd = cmdConfig)
      (trace : w'.trace = w.trace) (config : w'.config = f.patch w.config)
      (configured : w'.Configured b)

theorem ends_parseCommand_config (saves : ∀ w, env.saveOk w = true) {w : World}
    (configured : w.Configured env.build) :
    Ends parseCommand env w
      (fun ok w' => if ok then ConfigParsed env.build w w' else ConfigKept w w')
      (ConfigKept w) := by
  rcases decode : cmdDecode env.build w.handle with ⟨h, res⟩
  have decoded : ConfigKept w { w with handle := h } := Grows.of_silent rfl rfl
  have refused {α : Type} (m : Fw α) (ok : Bool) (fails : ok = false) [Within env ConfigKept m] :
      Ends (do let _ ← m; pure ok) env { w with handle := h }
        (fun ok w' => if ok then ConfigParsed env.build w w' else ConfigKept w w')
        (ConfigKept w) := by
    subst fails
    refine Within.bind_ends (S := ConfigKept) inferInstance (fun _ w' kept => ?_) fun w' kept => ?_
    · exact trans_of ConfigKept decoded kept
    · exact trans_of ConfigKept decoded kept
  unfold parseCommand
  rw [ends_bind, ends_build, ends_bind, ends_getHandle, decode]
  dsimp only
  rw [ends_bind, ends_setHandle]
  split
  · exact refused _ false rfl
  split
  · exact refused _ false rfl
  split
  · exact refused _ false rfl
  rename_i accepted
  have accepted : res = cmdDecodeOk := by simpa using accepted
  subst accepted
  split
  · rename_i memory
    rw [ends_bind]
    have kept : Within env ConfigKept (opExecuteFunction dispatch (some .configureMemory)) :=
      within_opExecuteFunction fun _ _ => inferInstance
    have same : Within env SameCommand (opExecuteFunction dispatch (some .configureMemory)) :=
      within_opExecuteFunction fun c named => by
        obtain rfl := Option.some.inj named
        exact (inferInstance : Within env SameCommand configureMemory)
    refine ((kept.ends _).and (same.ends _)).mono (fun ok w₁ both => ?_) fun w₁ both => ?_
    · have kept := trans_of ConfigKept decoded both.1
      split
      · refine .other kept fun cmd => ?_
        have cmd : h.cmd = cmdConfig := both.2.symm.trans cmd
        rw [cmd] at memory
        cases memory
      · refine Within.bind_ends (S := ConfigKept) inferInstance (fun _ w' refused => ?_)
          fun w' refused => ?_
        · exact trans_of ConfigKept kept refused
        · exact trans_of ConfigKept kept refused
    · exact trans_of ConfigKept decoded both.1
  split
  · rename_i cmd
    have cmd : h.cmd = cmdConfig := by simpa using cmd
    obtain ⟨f, wellFormed, bytes⟩ := exists_configFrame decode cmd
    refine (ends_applyConfigCommand saves (w := { w with handle := h }) (configured.kept decoded)
      wellFormed bytes).mono (fun ok w' done => ?_) fun w' kept => trans_of ConfigKept decoded kept
    cases ok with
    | true =>
      obtain ⟨handle, trace, config, configured⟩ := done
      have handle : w'.handle = h := handle
      exact .config f wellFormed (handle ▸ bytes) (handle ▸ cmd) trace config configured
    | false => exact trans_of ConfigKept decoded done
  · rename_i cmd
    exact .other decoded (by simpa using cmd)

/-- What sending a report leaves alone. -/
def World.beyondPrint (w : World) : World :=
  { w.withoutBus with timeoutStartedMs := 0, deferredLog := [], trace := [] }

/-- A step that only sends frames and restarts the timer. -/
abbrev PrintStep : World → World → Prop := Grows World.beyondPrint Event.isPrint

instance : BusFrame env PrintStep where
  bus s s' _ same := by
    have kept := congrArg World.beyondPrint same
    exact Grows.of_bus kept same

instance : PrintFrame PrintStep :=
  ⟨fun _ e print => Grows.of_note e print rfl, fun _ _ => Grows.of_silent rfl rfl⟩

instance : Within env PrintStep opResetTimeout := by
  have (now : U32) : Within env PrintStep (update fun w =>
      { w with timeoutStartedMs := now } : Fw Unit) :=
    Within.update _ fun _ => Grows.of_silent rfl rfl
  unfold opResetTimeout
  infer_instance

theorem PrintStep.handle {w w' : World} (printed : PrintStep w w') : w'.handle = w.handle := by
  have handle := congrArg World.handle printed.kept
  exact handle

theorem PrintStep.configKept {w w' : World} (printed : PrintStep w w') : ConfigKept w w' := by
  have config := congrArg World.config printed.kept
  have stored := congrArg World.stored printed.kept
  obtain ⟨new, trace, heard⟩ := printed.adds
  refine ⟨Prod.ext config stored, new, trace, fun e member => ?_⟩
  have print := heard e member
  cases e <;> first | rfl | cases print

/-- The acknowledgement is the last thing a set-up does, and it names the handle as it stands. -/
theorem ends_acceptCommand_config (w : World) :
    Ends acceptCommand env w
      (fun _ w' => ∃ w₁, PrintStep w w₁ ∧
        w' = { w₁ with trace := .accepted w₁.handle :: w₁.trace })
      (ConfigKept w) := by
  have report : Within env PrintStep reportIdentity := by
    unfold reportIdentity
    infer_instance
  unfold acceptCommand
  refine Within.bind_ends report (fun _ w₁ printed => ?_) fun _ printed => printed.configKept
  rw [ends_bind, ends_outside, ends_bind, ends_look]
  refine Within.bind_ends (S := PrintStep) inferInstance (fun _ w₂ more => ?_)
    fun _ more => (trans_of PrintStep printed more).configKept
  replace printed := trans_of PrintStep printed more
  refine Within.bind_ends (S := PrintStep) inferInstance (fun _ w₃ more => ?_)
    fun _ more => (trans_of PrintStep printed more).configKept
  rw [ends_bind, ends_getHandle, ends_note]
  exact ⟨w₃, trans_of PrintStep printed more, rfl⟩

/-- Cut off between a frame and its acknowledgement, the values are those before or after it. -/
def ConfigCut (b : Build) (w w' : World) : Prop := ConfigKept w w' ∨ w'.Configured b

theorem ends_initProgrammerFramed_config (saves : ∀ w, env.saveOk w = true) {w : World}
    (configured : w.Configured env.build) :
    Ends initProgrammerFramed env w
      (fun ok w' =>
        if ok then ConfigTurn env.build w w' ∧ w'.Configured env.build else ConfigKept w w')
      (ConfigCut env.build w) := by
  unfold initProgrammerFramed
  rw [ends_bind, ends_setHandle, ends_bind, ends_getHandle]
  have cleared : ConfigKept w { w with handle := { w.handle with
      responseCode := responseCodeOk, operationState := 0, ctrlFlags := flagVerbose } } :=
    Grows.of_silent rfl rfl
  split
  · refine Within.bind_ends (S := ConfigKept) inferInstance (fun _ w' kept => ?_) fun w' kept => ?_
    · exact trans_of ConfigKept cleared kept
    · exact .inl (trans_of ConfigKept cleared kept)
  · rw [ends_bind]
    refine (ends_parseCommand_config saves (configured.kept cleared)).mono
      (fun ok w₁ parsed => ?_) fun w₁ kept => .inl (trans_of ConfigKept cleared kept)
    cases ok with
    | false => exact trans_of ConfigKept cleared parsed
    | true =>
      rw [if_pos rfl, ends_bind]
      refine (ends_acceptCommand_config w₁).mono (fun _ w' accepted => ?_) fun w' kept => ?_
      · obtain ⟨w₂, printed, rfl⟩ := accepted
        have handle := printed.handle
        rw [ends_pure, if_pos rfl]
        cases parsed with
        | other kept cmd =>
          have accepted : ConfigKept w₂ { w₂ with trace := .accepted w₂.handle :: w₂.trace } := by
            refine Grows.of_note _ ?_ rfl
            rw [Event.acceptsConfig, handle, beq_false_of_ne cmd]
            rfl
          have kept := trans_of ConfigKept (trans_of ConfigKept cleared kept)
            (trans_of ConfigKept printed.configKept accepted)
          exact ⟨.of_kept kept, configured.kept kept⟩
        | config f wellFormed bytes cmd trace config configured =>
          have printed := printed.configKept
          obtain ⟨new, printedTrace, -⟩ := printed.adds
          have config₂ := congrArg Prod.fst printed.kept
          have config₂ : w₂.config = w₁.config := config₂
          have configured := configured.kept printed
          have shown : w₂.trace = new ++ w.trace := by
            rw [printedTrace, trace]
          refine ⟨.taken w₂.handle f (handle ▸ cmd) wellFormed (handle ▸ bytes)
            (.accepted w₂.handle :: new) ?_ (List.mem_cons_self) ?_ configured.stored,
            ⟨configured.settled, configured.stored⟩⟩
          · rw [List.cons_append, ← shown]
          · exact config₂.trans config
      · cases parsed with
        | other before _ =>
          exact .inl (trans_of ConfigKept (trans_of ConfigKept cleared before) kept)
        | config _ _ _ _ _ _ configured => exact .inr (configured.kept kept)

theorem ConfigTurn.after {w w' w'' : World} (kept : ConfigKept w w') (turn : ConfigTurn b w' w'') :
    ConfigTurn b w w'' := by
  have config := congrArg Prod.fst kept.kept
  have config : w'.config = w.config := config
  have stored := congrArg Prod.snd kept.kept
  obtain ⟨new, trace, silent⟩ := kept.adds
  cases turn with
  | kept config' stored' new' trace' none =>
    refine .kept (config'.trans config) (stored'.trans stored) (new' ++ new) ?_ ?_
    · rw [trace', trace, List.append_assoc]
    · intro h member cmd
      rcases List.mem_append.mp member with member | member
      · exact none h member cmd
      · have silent := silent _ member
        rw [Event.acceptsConfig, cmd] at silent
        cases silent
  | taken h f cmd wellFormed bytes new' trace' accepted config' stored' =>
    refine .taken h f cmd wellFormed bytes (new' ++ new) ?_ ?_ ?_ stored'
    · rw [trace', trace, List.append_assoc]
    · exact List.mem_append_left new accepted
    · rw [config', config]

theorem ends_receiveCommand_config (saves : ∀ w, env.saveOk w = true) {w : World}
    (configured : w.Configured env.build) :
    Ends receiveCommand env w
      (fun _ w' => ConfigTurn env.build w w' ∧ w'.Configured env.build)
      (fun w' => w'.Configured env.build) := by
  have idle {v : World} (kept : ConfigKept w v) :
      ConfigTurn env.build w v ∧ v.Configured env.build :=
    ⟨.of_kept kept, configured.kept kept⟩
  unfold receiveCommand
  refine Within.bind_ends (S := ConfigKept) inferInstance (fun n w₁ kept => ?_)
    fun w₁ kept => configured.kept kept
  refine Ends.when (fun _ => ?_) fun _ => idle kept
  rw [ends_bind, ends_note]
  have received : ConfigKept w₁ { w₁ with trace := .received :: w₁.trace } :=
    Grows.of_note _ rfl rfl
  replace kept := trans_of ConfigKept kept received
  rw [ends_bind, ends_build]
  refine Within.bind_ends (S := ConfigKept) inferInstance (fun size w₂ more => ?_)
    fun w₂ more => configured.kept (trans_of ConfigKept kept more)
  replace kept := trans_of ConfigKept kept more
  split
  · rw [ends_bind, ends_setHandle]
    have filled : ConfigKept w₂ { w₂ with handle := { w₂.handle with
        dataSize := BitVec.ofInt 32 size
        dataBuffer := storeByte w₂.handle.dataBuffer size.toNat 0 } } := Grows.of_silent rfl rfl
    replace kept := trans_of ConfigKept kept filled
    rw [ends_bind]
    refine (ends_initProgrammerFramed_config saves (configured.kept kept)).mono
      (fun ok w₃ done => ?_) fun w₃ cut => ?_
    · refine Ends.when (fun failed => ?_) fun passed => ?_
      · rw [if_neg (by simpa using failed)] at done
        have ending : Within env ConfigKept commandDone := inferInstance
        refine (ending.ends w₃).mono (fun _ w' more => ?_) fun w' more => ?_
        · exact idle (trans_of ConfigKept kept (trans_of ConfigKept done more))
        · exact configured.kept (trans_of ConfigKept kept (trans_of ConfigKept done more))
      · rw [if_pos (by simpa using passed)] at done
        exact ⟨done.1.after kept, done.2⟩
    · rcases cut with more | configured
      · exact configured.kept (trans_of ConfigKept kept more)
      · exact configured
  · refine (Within.ends (R := ConfigKept) inferInstance w₂).mono (fun _ w' more => ?_)
      fun w' more => ?_
    · exact idle (trans_of ConfigKept kept more)
    · exact configured.kept (trans_of ConfigKept kept more)

/-- Only the turn that receives a frame can change the configuration. -/
theorem ends_loop_config (saves : ∀ w, env.saveOk w = true) {w : World}
    (configured : w.Configured env.build) :
    Ends loop env w
      (fun _ w' => ConfigTurn env.build w w' ∧ w'.Configured env.build)
      (fun w' => w'.Configured env.build) := by
  unfold loop
  rw [ends_bind, ends_look]
  split
  · exact ends_receiveCommand_config saves configured
  · have turn : Within env ConfigKept (do
        if fsTimeoutExpired w.timeoutStartedMs timeoutMs (← millis) then
          logIdU8 msgErrCmdTimeout w.handle.cmd
          commandDone
          setResponseCode responseCodeOk
        else stepCommand w.handle.cmd) := by
      unfold stepCommand
      infer_instance
    refine (turn.ends w).mono (fun _ w' kept => ?_) fun w' kept => configured.kept kept
    exact ⟨.of_kept kept, configured.kept kept⟩

/-! ## Runs -/

theorem configured_of_reach (saves : ∀ w, env.saveOk w = true) {w : World} (reach : Reach env w) :
    w.Configured env.build := by
  induction reach with
  | @setup w _ fresh ran =>
    have ended := @ends_setup_config env w
    unfold Ends at ended
    rw [ran] at ended
    exact ended.2.2 saves
  | loop _ ran configured =>
    have ended := ends_loop_config saves configured
    unfold Ends at ended
    rw [ran] at ended
    exact ended.2

/-- Every field is in its band, and a measurement can be computed from them. -/
def Configuration.Usable (b : Build) (config : Configuration) : Prop :=
  rurpConfigIsValid b config = true ∧
    rurpCalibrationIsPlausible b config.r1 config.r2 (config.bandgapMv.setWidth 32) = true

theorem Configuration.Settled.usable (settled : config.Settled b) : config.Usable b :=
  ⟨settled.valid, calibrationIsPlausible_of_valid settled.valid⟩

/-- With a storage whose writes succeed: whatever is stored, the load leaves usable values, and
they stay usable in every state of every run; a turn changes them only by accepting a
configuration frame, and then just the fields marked in it; and between two turns what is live is
what any later boot would load. -/
theorem configuration_over_runs (env : Env) (saves : ∀ w, env.saveOk w = true) :
    (∀ w, (rurpLoadConfig env w).2.config.Usable env.build) ∧
    (∀ w, Seen env w → w.config = World.blank.config ∨ w.config.Usable env.build) ∧
    ∀ w, Reach env w →
      w.config.Usable env.build ∧ (loop env w).2.config.Usable env.build ∧
      (∀ w', loop env w = (some (), w') → ConfigTurn env.build w w') ∧
      ∀ (reboot : Env) (start w' : World), reboot.build = env.build → start.PoweredUp →
        start.stored = w.stored → setup reboot start = (some (), w') → w'.config = w.config := by
  refine ⟨fun w => ?_, fun w seen => ?_, fun w reach => ?_⟩
  · have loaded := @ends_rurpLoadConfig env w
    refine (Ends.state (P := fun w' : World => w'.config.Settled env.build) ?_).usable
    exact loaded.mono (fun _ _ h => h.1) fun _ h => h.elim
  · cases seen with
    | @setup w fresh =>
      have ended := @ends_setup_config env w
      have state := Ends.state
        (P := fun w' => w'.config = w.config ∨ w'.config.Settled env.build)
        (ended.mono (fun _ _ h => .inr h.1) fun _ h => h)
      refine state.imp (fun same => ?_) Configuration.Settled.usable
      rw [same, fresh]
      rfl
    | @loop w before =>
      have ended := (ends_loop_config saves (configured_of_reach saves before)).mono
        (fun _ w' h => h.2) fun w' h => h
      exact .inr ended.state.settled.usable
  · have configured := configured_of_reach saves reach
    have turn := ends_loop_config saves configured
    refine ⟨configured.settled.usable, ?_, fun w' ran => ?_, ?_⟩
    · exact (turn.mono (fun _ w' h => h.2) fun w' h => h).state.settled.usable
    · unfold Ends at turn
      rw [ran] at turn
      exact turn.1
    · intro reboot start w' build fresh stored ran
      have booted := @ends_setup_config reboot start
      unfold Ends at booted
      rw [ran] at booted
      exact booted.2.1 w.config (stored.trans configured.stored) (build ▸ configured.settled)

/-- A Leonardo with a blank store, whose host calibrates the upper resistor and the band gap. -/
def calibrationEnv : Env :=
  (Env.still ⟨.leonardo, false⟩ 200).sends <| communicationFrame <|
    CommandFrame.bytes <| .config {
      cmd := cmdConfig, flags := 0, present := cfConfigPresentR1 ||| cfConfigPresentBg
      r1 := 280000, r2 := 0, revision := 0, retired := 0, bandgapMv := 1085 }

theorem configuration_over_runs_calibration : ∃ w₀ w₁ : World,
    ConfigTurn calibrationEnv.build w₀ w₁ ∧ w₁.config.Usable calibrationEnv.build ∧
      w₁.config = { w₀.config with r1 := 280000, bandgapMv := 1085 } := by
  have ran : ((stateAfter calibrationEnv .blank 0).bind fun w₀ =>
      (loop calibrationEnv w₀).1.map fun _ => ((loop calibrationEnv w₀).2.config =
        { w₀.config with r1 := 280000, bandgapMv := 1085 } : Bool)) = some true := by
    decide +kernel
  obtain ⟨w₀, after, ran⟩ := Option.bind_eq_some_iff.mp ran
  obtain ⟨_, ended, ran⟩ := Option.map_eq_some_iff.mp ran
  have received : loop calibrationEnv w₀ = (some (), (loop calibrationEnv w₀).2) :=
    Prod.ext ended rfl
  have reach := (reach_stateAfter World.blank_poweredUp after).1
  have sound := (configuration_over_runs calibrationEnv fun _ => rfl).2.2
  exact ⟨w₀, _, (sound w₀ reach).2.2.1 _ received, (sound _ (reach.loop received)).1,
    of_decide_eq_true ran⟩

end Firestarter
