import Firestarter.ChipAccess
import Firestarter.RangeAdmission
import Mathlib.Order.Defs.PartialOrder

/-! What a write to an EPROM tells the host of its progress. The driver goes over the same bytes
many times, and the host draws a bar of the addresses it hears; over the whole command they only
climb. -/
namespace Firestarter

open Interactive Interactive.Prog

set_option synthInstance.maxSize 4000

/-! ## Lists that climb -/

section
variable {α : Type} [Preorder α] {low middle high : α} {xs ys : List α}

/-- The list climbs from `low` on, and stays below `high`. -/
structure Climbs (low high : α) (xs : List α) : Prop where
  ascends : xs.Pairwise (· < ·)
  within : ∀ x ∈ xs, low ≤ x ∧ x < high

theorem Climbs.nil : Climbs low high [] := ⟨.nil, nofun⟩

theorem Climbs.widen {low' high' : α} (climbs : Climbs low high xs) (below : low' ≤ low)
    (above : high ≤ high') : Climbs low' high' xs :=
  ⟨climbs.ascends, fun x member =>
    ⟨le_trans below (climbs.within x member).1, lt_of_lt_of_le (climbs.within x member).2 above⟩⟩

/-- A climb goes on from anywhere above the one before. -/
theorem Climbs.append (first : Climbs low middle xs) (rest : Climbs middle high ys)
    (start : low ≤ middle) (finish : middle ≤ high) : Climbs low high (xs ++ ys) := by
  refine ⟨List.pairwise_append.mpr ⟨first.ascends, rest.ascends, fun x earlier y later => ?_⟩,
    fun x member => ?_⟩
  · exact lt_of_lt_of_le (first.within x earlier).2 (rest.within y later).1
  · rcases List.mem_append.mp member with earlier | later
    · exact (first.widen (le_refl low) finish).within x earlier
    · exact (rest.widen start (le_refl high)).within x later

end

/-! ## Progress on the wire -/

variable {env : Env} {h : Handle} {w w' w'' : World}

/-- The frame that says how far a write is, and where it ends. -/
def progressFrame (opEnd address : U32) : Event :=
  .emitted msgDataProgress (bytes32 address ++ bytes32 opEnd)

/-- The progress that was told so far, the latest first. -/
def World.progress (w : World) : List Event := w.trace.filter Event.reportsProgress

/-- None of it waits to be told. -/
abbrev World.HoldsNoProgress (w : World) : Prop := w.HoldsNone isProgress

/-- A run that tells of these addresses, in this order. -/
def Tells (opEnd : U32) (addresses : List U32) (w w' : World) : Prop :=
  w.HoldsNoProgress → w'.HoldsNoProgress ∧
    w'.progress = (addresses.map (progressFrame opEnd)).reverse ++ w.progress

variable {opEnd : U32} {addresses addresses' : List U32}

theorem Tells.trans (first : Tells opEnd addresses w w') (rest : Tells opEnd addresses' w' w'') :
    Tells opEnd (addresses ++ addresses') w w'' := by
  intro none
  obtain ⟨none', told⟩ := first none
  obtain ⟨none'', told'⟩ := rest none'
  refine ⟨none'', ?_⟩
  rw [told', told, List.map_append, List.reverse_append, List.append_assoc]

/-- A run that tells of no progress. -/
def Still (w w' : World) : Prop :=
  w.HoldsNoProgress → w'.HoldsNoProgress ∧ w'.progress = w.progress

theorem Still.tells (still : Still w w') : Tells opEnd [] w w' := still

section

instance : IsPreorder World Still where
  refl _ none := ⟨none, rfl⟩
  trans _ _ _ first rest none := by
    obtain ⟨none', same⟩ := first none
    obtain ⟨none'', same'⟩ := rest none'
    exact ⟨none'', same'.trans same⟩

theorem Still.of_note {e : Event} (other : e.reportsProgress = false) (w : World) :
    Still w { w with trace := e :: w.trace } := by
  refine fun none => ⟨none, ?_⟩
  unfold World.progress
  rw [List.filter_cons_of_neg (by simp [other])]

instance : BusFrame env Still where
  bus s s' _ same none := by
    have queue := congrArg World.deferredLog same
    have trace := congrArg World.trace same
    have queue : s'.deferredLog = s.deferredLog := queue
    have trace : s'.trace = s.trace := trace
    refine ⟨fun frame member => none frame (queue ▸ member), ?_⟩
    rw [World.progress, trace, World.progress]

instance : SenseFrame Still where
  sense s e passive := .of_note (by cases e <;> first | rfl | cases passive) s

instance : StoreFrame Still where
  store s e store := .of_note (by cases e <;> first | rfl | cases store) s

instance : LatchFrame Still where
  strobe s reg byte _ _ := by
    have noted : Still s { s with trace := .strobe reg byte :: s.trace } := .of_note rfl s
    exact noted

instance : CacheFrame Still where
  cache _ _ _ _ _ none := ⟨none, rfl⟩
  control s _ := .of_note rfl s
  addressed s _ _ _ := .of_note rfl s

/-- Any other frame may go out or wait. -/
theorem still_otherFrame {id : U8} (other : isProgress id = false) (params : List U8) :
    Within env Still (rurpLogId id params) := by
  refine within_notice params (Still.of_note other) fun s none => ⟨?_, rfl⟩
  have none : s.deferredLog.filter (DeferredFrame.sends isProgress) = [] :=
    List.filter_eq_nil_iff.mpr fun frame member => by simp [none frame member]
  rw [← deferredLogPush_frames other params] at none
  intro frame member
  simpa using List.filter_eq_nil_iff.mp none frame member

instance : NoticeFrame env Still where
  notice _ params notice := still_otherFrame (SetApart.notice notice) params
  respond _ := Within.update _ fun _ none => ⟨none, rfl⟩

instance : Within env Still (refuse msgErrOutOfRange []) := by
  have : Within env Still (rurpLogId msgErrOutOfRange []) := still_otherFrame rfl []
  unfold refuse
  infer_instance

instance : Within env Still memoryVerifyExecute := by
  unfold memoryVerifyExecute
  infer_instance

end

/-! ## A block -/

/-- A run that tells of addresses from `low` on and below `high`, and of each one once. -/
def Advances (opEnd : U32) (low high : Nat) (w w' : World) : Prop :=
  ∃ addresses, Tells opEnd addresses w w' ∧ Climbs low high (addresses.map BitVec.toNat)

namespace Advances

variable {low middle high : Nat}

theorem of_still (still : Still w w') : Advances opEnd low high w w' := ⟨[], still.tells, .nil⟩

theorem trans (first : Advances opEnd low middle w w') (rest : Advances opEnd middle high w' w'')
    (start : low ≤ middle) (finish : middle ≤ high) : Advances opEnd low high w w'' := by
  obtain ⟨addresses, told, climbs⟩ := first
  obtain ⟨addresses', told', climbs'⟩ := rest
  refine ⟨addresses ++ addresses', told.trans told', ?_⟩
  rw [List.map_append]
  exact climbs.append climbs' start finish

theorem widen {low' high' : Nat} (first : Advances opEnd low high w w') (below : low' ≤ low)
    (above : high ≤ high') : Advances opEnd low' high' w w' := by
  obtain ⟨addresses, told, climbs⟩ := first
  exact ⟨addresses, told, climbs.widen below above⟩

theorem onward (first : Advances opEnd low high w w') (still : Still w' w'') :
    Advances opEnd low high w w'' := by
  obtain ⟨addresses, told, climbs⟩ := first
  have both := told.trans still.tells
  rw [List.append_nil] at both
  exact ⟨addresses, both, climbs⟩

theorem after (still : Still w w') (rest : Advances opEnd low high w' w'') :
    Advances opEnd low high w w'' := by
  obtain ⟨addresses, told, climbs⟩ := rest
  exact ⟨addresses, still.tells.trans told, climbs⟩

end Advances

/-- A run that tells of bytes of the block, from the one at `first` on and before `last`. -/
abbrev BlockTold (h : Handle) (first last : Nat) : World → World → Prop :=
  Advances h.operationEnd (h.address.toNat + first) (h.address.toNat + last)

/-- One frame is sent, and told at once: where progress is told, the wire is never the bus. -/
theorem Advances.one (address : U32) (w : World) :
    Advances opEnd address.toNat (address.toNat + 1) w
      { w with trace := progressFrame opEnd address :: w.trace } := by
  refine ⟨[address], fun none => ⟨none, ?_⟩, ⟨List.pairwise_singleton _ _, fun n member => ?_⟩⟩
  · exact List.filter_cons_of_pos rfl
  · rw [List.mem_singleton.mp member]
    exact ⟨Nat.le_refl _, Nat.lt_succ_self _⟩

/-- The first pass tells of the byte it looks at, or of nothing. -/
theorem ends_emitProgress (h : Handle) (address : U32) (pulses : U8) (lastEmitMs : U32) (w : World) :
    Ends (emitProgress h address pulses lastEmitMs) env w
      (fun _ w' => Advances h.operationEnd address.toNat (address.toNat + 1) w w')
      (Advances h.operationEnd address.toNat (address.toNat + 1) w) := by
  unfold emitProgress
  rw [ends_bind, ends_build]
  split
  · rename_i emits
    have unshared : env.build.serialOnIo = false := by simpa using (Bool.and_eq_true_iff.mp emits).1
    refine Within.bind_ends (S := Still) inferInstance (fun now w₁ looked => ?_)
      fun _ looked => .of_still looked
    split
    · refine Within.bind_ends (S := Still) inferInstance (fun emitted w₂ again => ?_)
        fun _ again => .of_still (trans_of Still looked again)
      have sent : Ends (rurpLogId msgDataProgress (bytes32 address ++ bytes32 h.operationEnd)) env w₂
          (fun _ w' => w' = { w₂ with trace := progressFrame h.operationEnd address :: w₂.trace })
          (fun _ => False) := by
        unfold rurpLogId firestarterEmitFrameWide
        rw [ends_bind, ends_build, ends_bind, ends_look, unshared]
        exact rfl
      rw [ends_bind]
      refine sent.mono (fun _ w₃ told => ?_) fun _ never => never.elim
      obtain rfl := told
      exact .after (trans_of Still looked again) (.one address w₂)
    · exact .of_still looked
  · exact .of_still (refl_of Still w)

/-- A later pass tells of nothing. -/
theorem still_emitProgress {pulses : U8} (later : pulses ≠ 0) (h : Handle) (address lastEmitMs : U32) :
    Within env Still (emitProgress h address pulses lastEmitMs) := by
  have skipped (b : Build) : ¬ (!b.serialOnIo && pulses == 0) = true := by
    rw [beq_eq_false_iff_ne.mpr later, Bool.and_false]
    exact Bool.false_ne_true
  unfold emitProgress
  refine within_bind inferInstance fun b => ?_
  rw [if_neg (skipped b)]
  infer_instance

section
variable {base groupLen : Nat}

theorem still_scanByte {pulses : U8} (later : pulses ≠ 0) (h : Handle) (base : Nat) (scan : Scan)
    (i : Nat) : Within env Still (scanByte h base pulses scan i) := by
  have (address lastEmitMs : U32) : Within env Still (emitProgress h address pulses lastEmitMs) :=
    still_emitProgress later h address lastEmitMs
  unfold scanByte
  infer_instance

/-- The address of a byte inside the range does not wrap. -/
theorem Handle.byteAddress_toNat {i : Nat}
    (inside : h.address.toNat + i < h.operationEnd.toNat) :
    (h.byteAddress i).toNat = h.address.toNat + i := by
  have room := h.operationEnd.isLt
  rw [Handle.byteAddress, BitVec.toNat_add, BitVec.toNat_ofNat]
  omega

/-- The block of the chunk ends before the operation does. -/
abbrev Handle.BlockFits (h : Handle) : Prop := h.address.toNat + h.blockLen ≤ h.operationEnd.toNat

theorem ends_firstScanByte {i : Nat} (inside : base + i < h.blockLen) (fits : h.BlockFits)
    (scan : Scan) (w : World) :
    Ends (scanByte h base 0 scan i) env w (fun _ w' => BlockTold h (base + i) (base + i + 1) w w')
      (BlockTold h (base + i) (base + i + 1) w) := by
  have here : (h.byteAddress (base + i)).toNat = h.address.toNat + (base + i) :=
    Handle.byteAddress_toNat (by unfold Handle.BlockFits at fits; omega)
  have told := @ends_emitProgress env h (h.byteAddress (base + i)) 0 scan.lastEmitMs w
  rw [here] at told
  unfold scanByte
  rw [if_neg (by simp), ends_bind]
  refine told.mono (fun lastEmitMs w₁ told => ?_) fun _ told => told
  refine (Within.ends (R := Still) ?_ w₁).mono (fun _ _ still => told.onward still)
    fun _ still => told.onward still
  infer_instance

/-- The first scan of a group climbs through it once. -/
theorem ends_firstScan (inside : base + groupLen ≤ h.blockLen) (fits : h.BlockFits) (scan : Scan)
    (w : World) :
    Ends ((List.range groupLen).foldlM (scanByte h base 0) scan) env w
      (fun _ w' => BlockTold h base (base + groupLen) w w') (BlockTold h base (base + groupLen) w) := by
  refine ends_foldlM_range (fun i _ w' => BlockTold h base (base + i) w w') (fun i below scan w' so => ?_)
    (.of_still (refl_of Still w))
  refine (ends_firstScanByte (by omega) fits scan w').mono (fun _ w'' told => ?_)
    fun w'' told => ?_
  · exact so.trans told (by omega) (by omega)
  · exact (so.trans told (by omega) (by omega)).widen (Nat.le_refl _) (by omega)

/-- Where the progress of a group stands between two of its passes: all of it is told in the first
one. -/
def PassTold (h : Handle) (base groupLen : Nat) (w : World) (pass : Pass) (w' : World) : Prop :=
  BlockTold h base (base + if pass.pulses = 0 then 0 else groupLen) w w'

theorem ends_scan_progress {pass : Pass} (inside : base + groupLen ≤ h.blockLen) (fits : h.BlockFits)
    (scan : Scan) (so : PassTold h base groupLen w pass w') :
    Ends ((List.range groupLen).foldlM (scanByte h base pass.pulses) scan) env w'
      (fun _ w'' => BlockTold h base (base + groupLen) w w'') (BlockTold h base (base + groupLen) w) := by
  unfold PassTold at so
  by_cases first : pass.pulses = 0
  · rw [if_pos first] at so
    rw [first]
    exact (ends_firstScan inside fits scan w').mono
      (fun _ _ told => so.trans told (Nat.le_refl _) (by omega))
      fun _ told => so.trans told (Nat.le_refl _) (by omega)
  · rw [if_neg first] at so
    have (scan : Scan) (i : Nat) : Within env Still (scanByte h base pass.pulses scan i) :=
      still_scanByte first h base scan i
    exact (Within.ends (R := Still) inferInstance w').mono (fun _ _ still => so.onward still)
      fun _ still => so.onward still

variable {row : EpromParams}

/-- A turn tells of the group in its scan, if at all, and never has another first pass. -/
theorem ends_passTurn_progress {pass : Pass} (inside : base + groupLen ≤ h.blockLen)
    (fits : h.BlockFits) (so : PassTold h base groupLen w pass w') :
    Ends (passTurn h row base groupLen pass) env w'
      (fun r w'' => r.elim (fun next => PassTold h base groupLen w next w'')
        fun _ => BlockTold h base (base + groupLen) w w'')
      (BlockTold h base (base + groupLen) w) := by
  unfold passTurn
  rw [ends_bind]
  refine (ends_scan_progress inside fits _ so).mono (fun scan w₁ told => ?_) fun _ told => told
  have failed (id : U8) (notice : NoticeId id) : Ends (do
      epromInternalReportBudgetFailure scan.firstBad pass.pulses id
      return .inr none : Fw (Pass ⊕ Option U32)) env w₁
      (fun r w'' => r.elim (fun next => PassTold h base groupLen w next w'')
        fun _ => BlockTold h base (base + groupLen) w w'')
      (BlockTold h base (base + groupLen) w) :=
    Within.bind_ends (S := Still) inferInstance (fun _ _ off => told.onward off)
      fun _ off => told.onward off
  split
  · exact told
  split
  · exact failed _ inferInstance
  rename_i pulses
  split
  · exact failed _ inferInstance
  refine Within.bind_ends (S := Still) inferInstance (fun _ w₂ pulsed => ?_)
    fun _ pulsed => told.onward pulsed
  -- The count is below a limit of eight bits, so it does not come round to a first pass again.
  have counted : pass.pulses + 1 ≠ 0 := by
    have below : pass.pulses < row.maxPulses := BitVec.not_le.mp pulses
    bv_omega
  show PassTold h base groupLen w _ w₂
  unfold PassTold
  rw [if_neg counted]
  exact told.onward pulsed

theorem ends_programGroup_progress
    (inside : base + min (h.blockLen - base) epromProgramGroup ≤ h.blockLen) (fits : h.BlockFits)
    (lastEmitMs : U32) (w : World) :
    Ends (programGroup h row lastEmitMs base) env w
      (fun _ => BlockTold h base (base + min (h.blockLen - base) epromProgramGroup) w)
      (BlockTold h base (base + min (h.blockLen - base) epromProgramGroup) w) := by
  have looped : Ends (repeatUntil (passTurn h row base (min (h.blockLen - base) epromProgramGroup))
      (row.maxPulses.toNat + 1)
      { pulses := 0, accumulated := 0, pending := fun _ => false, lastEmitMs }) env w
      (fun _ => BlockTold h base (base + min (h.blockLen - base) epromProgramGroup) w)
      (BlockTold h base (base + min (h.blockLen - base) epromProgramGroup) w) :=
    ends_repeatUntil (fun pass w' => PassTold h base _ w pass w')
      (fun pass w' so => (ends_passTurn_progress inside fits so).mono
        (fun r _ turned => by cases r <;> exact turned) fun _ told => told)
      (fun pass w' so => so.widen (Nat.le_refl _) (by split <;> omega)) _ _ w
      (.of_still (refl_of Still w))
  unfold programGroup
  rw [ends_bind]
  exact looped.mono (fun _ _ told => told) fun _ told => told

end

/-- The groups of a block are told of one after the other. -/
theorem ends_groups_progress {row : EpromParams} (fits : h.BlockFits) (lastEmitMs : U32)
    (w : World) :
    Ends (forLoop (programGroup h row) (groupBases h.blockLen) lastEmitMs) env w
      (fun _ => BlockTold h 0 h.blockLen w) (BlockTold h 0 h.blockLen w) := by
  unfold groupBases
  refine ends_forLoop_range (fun k _ w' => BlockTold h 0 (min (k * epromProgramGroup) h.blockLen) w w')
    (fun k below lastEmitMs w' so => ?_)
    (fun _ w' so => so.widen (Nat.le_refl _) (by omega)) (.of_still (refl_of Still w))
  unfold epromProgramGroup at below so ⊢
  have inside : k * 512 < h.blockLen := by omega
  have here : min (k * 512) h.blockLen = k * 512 := by omega
  rw [here] at so
  have grouped {w'' : World}
      (told : BlockTold h (k * 512) (k * 512 + min (h.blockLen - k * 512) epromProgramGroup) w' w'') :
      BlockTold h 0 (min ((k + 1) * 512) h.blockLen) w w'' := by
    unfold epromProgramGroup at told
    exact (so.trans told (by omega) (by omega)).widen (Nat.le_refl _) (by omega)
  refine (ends_programGroup_progress (by unfold epromProgramGroup; omega) fits lastEmitMs w').mono
    (fun r w'' told => ?_) fun w'' told => (grouped told).widen (Nat.le_refl _) (by omega)
  cases r with
  | inl next => exact grouped told
  | inr failed => exact (grouped told).widen (Nat.le_refl _) (by omega)

/-- A chunk that fits is told of once, from its first byte on and not beyond it. -/
theorem ends_epromWriteExecute_progress (chunk : w.handle.chunkFits env.build) :
    Ends epromWriteExecute env w
      (fun _ => BlockTold w.handle 0 w.handle.dataSize.toNat w)
      (BlockTold w.handle 0 w.handle.dataSize.toNat w) := by
  have short : w.handle.blockLen ≤ w.handle.dataSize.toNat := by
    unfold Handle.blockLen
    rw [BitVec.toNat_setWidth]
    exact Nat.mod_le _ _
  have fits : w.handle.BlockFits := Nat.le_trans (Nat.add_le_add_left short _) chunk.inside
  have body : Ends epromInternalWriteExecuteBody env w
      (fun _ => BlockTold w.handle 0 w.handle.dataSize.toNat w)
      (BlockTold w.handle 0 w.handle.dataSize.toNat w) := by
    unfold epromInternalWriteExecuteBody
    rw [ends_bind, ends_build, ends_bind, ends_getHandle]
    split
    · exact (Within.ends (R := Still) inferInstance w).mono (fun _ _ still => .of_still still)
        fun _ still => .of_still still
    rename_i row found
    refine Within.bind_ends (S := Still) inferInstance (fun _ w₁ raised => ?_)
      fun _ raised => .of_still raised
    refine Within.bind_ends (S := Still) inferInstance (fun lastEmitMs w₂ timed => ?_)
      fun _ timed => .of_still (trans_of Still raised timed)
    have start : Still w w₂ := trans_of Still raised timed
    rw [ends_bind]
    refine (ends_groups_progress fits lastEmitMs w₂).mono (fun programmed w₃ told => ?_)
      fun w₃ told => (told.after start).widen (Nat.le_refl _) (by omega)
    have told := (told.after start).widen (Nat.le_refl _) (Nat.add_le_add_left short _)
    exact (Within.ends (R := Still) inferInstance w₃).mono
      (fun _ _ verified => told.onward verified) fun _ verified => told.onward verified
  unfold epromWriteExecute
  rw [ends_bind]
  refine body.mono (fun _ w₁ told => ?_) fun _ told => told
  exact (Within.ends (R := Still) inferInstance w₁).mono (fun _ _ off => told.onward off)
    fun _ off => told.onward off

/-! ## The callbacks of a command -/

/-- The command programs an EPROM. -/
def Handle.ProgramsEprom (h : Handle) : Prop :=
  h.cmd = cmdWrite ∧ h.firestarterOperationMain = some .epromWriteExecute

/-- What a run of a callback does, as far as progress goes. -/
structure ProgressRun (env : Env) (callback : Callback) (w w' : World) : Prop where
  step : CallbackStep w w'
  driver : callback = .epromWriteExecute → DriverStep w w'
  still : callback.checksRange = false → Still w w'
  told : callback = .epromWriteExecute → w.handle.chunkFits env.build →
    BlockTold w.handle 0 w.handle.dataSize.toNat w w'

/-- Only the program loop tells of progress. -/
theorem still_callback {callback : Callback} (runs : callback ≠ .configureMemory)
    (unchecked : callback.checksRange = false) : Within env Still (dispatch callback) := by
  cases callback with
  | configureMemory => exact (runs rfl).elim
  | memoryReadExecute | memoryWriteExecute | epromWriteExecute => cases unchecked
  | _ =>
    unfold dispatch
    infer_instance

theorem progressRuns {callback : Callback} (runs : callback ≠ .configureMemory) :
    CallbackRuns env callback (ProgressRun env callback) (ProgressRun env callback) := by
  refine ⟨fun w => ?_, fun _ _ run => run.step⟩
  have step := (within_callback callback runs : Within env CallbackStep _).ends w
  have driver : Ends (dispatch callback) env w
      (fun _ w' => callback = .epromWriteExecute → DriverStep w w')
      (fun w' => callback = .epromWriteExecute → DriverStep w w') := by
    refine ends_imp fun programs => ?_
    have reads : callback ≠ .memoryReadExecute := by
      rw [programs]
      nofun
    exact (within_dispatch callback runs reads : Within env DriverStep _).ends w
  have still : Ends (dispatch callback) env w
      (fun _ w' => callback.checksRange = false → Still w w')
      (fun w' => callback.checksRange = false → Still w w') :=
    ends_imp fun unchecked => (still_callback runs unchecked).ends w
  have told : Ends (dispatch callback) env w
      (fun _ w' => callback = .epromWriteExecute ∧ w.handle.chunkFits env.build →
        BlockTold w.handle 0 w.handle.dataSize.toNat w w')
      (fun w' => callback = .epromWriteExecute ∧ w.handle.chunkFits env.build →
        BlockTold w.handle 0 w.handle.dataSize.toNat w w') := by
    refine ends_imp ?_
    rintro ⟨rfl, chunk⟩
    exact ends_epromWriteExecute_progress chunk
  exact (((step.and driver).and still).and told).mono
    (fun _ _ all => ⟨all.1.1.1, all.1.1.2, all.1.2, fun programs chunk => all.2 ⟨programs, chunk⟩⟩)
    fun _ all => ⟨all.1.1.1, all.1.1.2, all.1.2, fun programs chunk => all.2 ⟨programs, chunk⟩⟩

/-! ## What the events tell -/

/-- The events tell of progress to this operation's end, address after address below a limit. -/
def ToldBelow (h : Handle) (limit : Nat) (es : List Event) : Prop :=
  ∃ addresses : List U32, es.filter Event.reportsProgress =
    addresses.map (progressFrame h.operationEnd) ∧ Climbs 0 limit (addresses.map BitVec.toNat)

theorem ToldBelow.append {limit high : Nat} {es new : List Event} (told : ToldBelow h limit es)
    {addresses : List U32} (more : new.filter Event.reportsProgress =
      addresses.map (progressFrame h.operationEnd))
    (climbs : Climbs limit high (addresses.map BitVec.toNat)) (above : limit ≤ high) :
    ToldBelow h high (es ++ new) := by
  obtain ⟨earlier, same, first⟩ := told
  refine ⟨earlier ++ addresses, ?_, ?_⟩
  · rw [List.filter_append, same, more, List.map_append]
  · rw [List.map_append]
    exact first.append climbs (Nat.zero_le _) above

theorem ToldBelow.quiet {limit : Nat} {es new : List Event} (told : ToldBelow h limit es)
    (quiet : ∀ e ∈ new, e.reportsProgress = false) : ToldBelow h limit (es ++ new) := by
  have none : new.filter Event.reportsProgress =
      ([] : List U32).map (progressFrame h.operationEnd) :=
    List.filter_eq_nil_iff.mpr fun e member => by simp [quiet e member]
  exact told.append none .nil (Nat.le_refl _)

/-- As long as the command programs an EPROM, its progress was told below a limit, which is inside
the region, and none waits. -/
def Climbing (h : Handle) (limit : Nat) (w : World) : Prop :=
  Granted h ∧ w.QueuesReports ∧ ∃ es, commandEvents w.trace = some (h, es) ∧
    (h.ProgramsEprom →
      w.HoldsNoProgress ∧ limit ≤ h.operationEnd.toNat ∧ ToldBelow h limit es)

namespace Climbing

variable {limit high : Nat}

theorem handle (c : Climbing h limit w) (f : Handle) : Climbing h limit { w with handle := f } := c

/-- A step that tells of addresses above all that were told. -/
theorem advances {κ : Type} {part : World → κ} {noise : Event → Bool} (c : Climbing h limit w)
    (moved : Moves part noise w w') (heard : ∀ e, noise e = true → e.isNoise = true)
    (told : h.ProgramsEprom → Advances h.operationEnd limit high w w')
    (inside : h.ProgramsEprom → limit ≤ high ∧ high ≤ h.operationEnd.toNat) :
    Climbing h high w' := by
  obtain ⟨granted, queue, es, events, so⟩ := c
  obtain ⟨queue', new, trace, noisy⟩ := moved.adds queue
  refine ⟨granted, queue', es ++ new.reverse, ?_, fun programs => ?_⟩
  · rw [trace, commandEvents_append new fun e member =>
      Event.isBoundary_of_isNoise (heard e (noisy e member)), events]
    rfl
  · obtain ⟨none, -, below⟩ := so programs
    obtain ⟨addresses, tells, climbs⟩ := told programs
    obtain ⟨none', progress⟩ := tells none
    refine ⟨none', (inside programs).2, below.append ?_ climbs (inside programs).1⟩
    unfold World.progress at progress
    rw [trace, List.filter_append] at progress
    rw [List.filter_reverse, List.append_cancel_right progress, List.reverse_reverse]

theorem still {κ : Type} {part : World → κ} {noise : Event → Bool} (c : Climbing h limit w)
    (moved : Moves part noise w w') (heard : ∀ e, noise e = true → e.isNoise = true)
    (still : h.ProgramsEprom → Still w w') : Climbing h limit w' := by
  have inside (programs : h.ProgramsEprom) : limit ≤ limit ∧ limit ≤ h.operationEnd.toNat := by
    obtain ⟨-, -, es, -, so⟩ := c
    exact ⟨Nat.le_refl _, (so programs).2.1⟩
  exact c.advances moved heard (fun programs => .of_still (still programs)) inside

/-- Where nothing is set apart, no progress is told. -/
theorem moves {κ : Type} {part : World → κ} {noise : Event → Bool} (c : Climbing h limit w)
    (moved : Moves part noise w w') (heard : ∀ e, noise e = true → e.isNoise = true)
    (same : FramesStep isProgress w w') : Climbing h limit w' := by
  have queue := c.2.1
  refine c.still moved heard fun _ none => ?_
  obtain ⟨none', new, trace, quiet⟩ := moved.frames same queue none
  refine ⟨none', ?_⟩
  have silent : new.filter Event.reportsProgress = [] := by
    refine List.filter_eq_nil_iff.mpr fun e member => ?_
    rw [← Event.sends_progress, (quiet e member).2]
    exact Bool.false_ne_true
  rw [World.progress, trace, List.filter_append, silent]
  rfl

theorem link (c : Climbing h limit w) (link : LinkStep w w') : Climbing h limit w' :=
  c.moves link (fun _ => Event.isNoise_of_report) link.framesStep

theorem mode (c : Climbing h limit w) (step : ModeStep w w') : Climbing h limit w' :=
  c.moves step (fun _ => Event.isNoise_of_report) step.framesStep

/-- An event of the engine. -/
theorem note (c : Climbing h limit w) {e : Event} (inside : e.isBoundary = false)
    (other : e.reportsProgress = false) : Climbing h limit { w with trace := e :: w.trace } := by
  obtain ⟨granted, queue, es, events, so⟩ := c
  refine ⟨granted, queue, es ++ [e], ?_, fun programs => ?_⟩
  · rw [commandEvents_cons inside, events]
    rfl
  · obtain ⟨none, bound, below⟩ := so programs
    refine ⟨none, bound, below.quiet fun e' member => ?_⟩
    rw [List.mem_singleton.mp member]
    exact other

theorem inStage (c : Climbing h limit w) (st : Stage) : Climbing h limit (w.inStage st) := by
  have advanced : Climbing h limit { w with trace := .advanced st.number :: w.trace } :=
    c.note rfl rfl
  exact advanced.handle _

theorem outOfRange (c : Climbing h limit w) : Climbing h limit w.outOfRange := by
  have told : Climbing h limit { w with trace := .emitted msgErrOutOfRange [] :: w.trace } :=
    c.note rfl rfl
  exact told.handle _

theorem mainDone (c : Climbing h limit w) : Climbing h limit w.mainDone :=
  (c.inStage .beforeEnd).note rfl rfl

theorem delivered {kind : OpMessageType} (c : Climbing h limit w) (heard : Delivered kind w w') :
    Climbing h limit w' := by
  cases heard with
  | incomplete link => exact c.link link
  | plain kind notData taken link => exact (c.link link).note rfl rfl
  | data size link => exact ((c.link link).note rfl rfl).handle _

theorem widen (c : Climbing h limit w)
    (inside : h.ProgramsEprom → limit ≤ high ∧ high ≤ h.operationEnd.toNat) :
    Climbing h high w := by
  obtain ⟨granted, queue, es, events, so⟩ := c
  refine ⟨granted, queue, es, events, fun programs => ?_⟩
  obtain ⟨none, -, addresses, same, climbs⟩ := so programs
  obtain ⟨above, bound⟩ := inside programs
  exact ⟨none, bound, addresses, same, climbs.widen (Nat.le_refl _) above⟩

section
variable {callback : Callback}
  (tells : ∀ s s', s.handle = w.handle → ProgressRun env callback s s' → h.ProgramsEprom →
    Advances h.operationEnd limit high s s')
  (inside : h.ProgramsEprom → limit ≤ high ∧ high ≤ h.operationEnd.toNat)
include tells inside

/-- A callback of which it is known how far it tells. -/
theorem ran {w₁ : World} (c : Climbing h limit w) (enter : ModeStep w w₁)
    (run : ProgressRun env callback (w₁.calling callback) w') : Climbing h high w' := by
  have called : Climbing h limit (w₁.calling callback) := (c.mode enter).note rfl rfl
  have handle : (w₁.calling callback).handle = w.handle := enter.handle
  exact called.advances run.step (fun _ noise => noise) (tells _ _ handle run) inside

theorem executed {r : OpResult} (c : Climbing h limit w)
    (ran : Executed callback (ProgressRun env callback) w r w') : Climbing h high w' := by
  cases ran with
  | good enter run leave _ _ link =>
    have returned : Climbing h high (World.returning _ callback) :=
      (c.ran tells inside enter run).note rfl rfl
    exact (returned.mode leave).link link
  | bad enter run leave =>
    have returned : Climbing h high (World.returning _ callback) :=
      (c.ran tells inside enter run).note rfl rfl
    exact returned.mode leave

theorem cutShort (c : Climbing h limit w)
    (cut : CutShort callback (ProgressRun env callback) (ProgressRun env callback) w w') :
    Climbing h high w' := by
  cases cut with
  | entering enter => exact (c.mode enter).widen inside
  | running enter run => exact c.ran tells inside enter run
  | leaving enter run leave link =>
    have returned : Climbing h high (World.returning _ callback) :=
      (c.ran tells inside enter run).note rfl rfl
    exact (returned.mode leave).link link

end

end Climbing

/-! ## The phases of a command -/

/-- What is known in a stage: up to the main phase, the cursor is not below what was told. -/
def ClimbsIn (h : Handle) (st : Stage) (w : World) : Prop :=
  ∃ limit, Climbing h limit w ∧
    (st.number ≤ 3 → h.ProgramsEprom → limit ≤ w.handle.address.toNat)

/-- What is known at any time. -/
def ClimbsSo (h : Handle) (w : World) : Prop := ∃ limit, Climbing h limit w

namespace ClimbsIn

variable {st next : Stage} {callback : Callback}

theorem so (c : ClimbsIn h st w) : ClimbsSo h w := c.imp fun _ both => both.1

theorem link (c : ClimbsIn h st w) (link : LinkStep w w') : ClimbsIn h st w' := by
  obtain ⟨limit, climbing, below⟩ := c
  refine ⟨limit, climbing.link link, ?_⟩
  rw [link.address]
  exact below

theorem delivered {kind : OpMessageType} (c : ClimbsIn h st w) (heard : Delivered kind w w') :
    ClimbsIn h st w' := by
  obtain ⟨limit, climbing, below⟩ := c
  refine ⟨limit, climbing.delivered heard, ?_⟩
  rw [heard.address]
  exact below

theorem inStage (c : ClimbsIn h st w) (later : next.number ≤ 3 → st.number ≤ 3) :
    ClimbsIn h next (w.inStage next) := by
  obtain ⟨limit, climbing, below⟩ := c
  exact ⟨limit, climbing.inStage next, fun early => below (later early)⟩

theorem answered (c : ClimbsIn h st w) : ClimbsIn h st w.answered := by
  obtain ⟨limit, climbing, below⟩ := c
  exact ⟨limit, climbing.handle _, below⟩

theorem mainDone (c : ClimbsIn h st w) : ClimbsIn h .beforeEnd w.mainDone := by
  obtain ⟨limit, climbing, -⟩ := c
  exact ⟨limit, climbing.mainDone, fun early => absurd early (by decide)⟩

end ClimbsIn

/-- How a turn of the main phase leaves the progress. -/
def ClimbsTurn (h : Handle) (ok : Bool) (w' : World) : Prop :=
  if ok then ∃ st, (st = .inMain ∨ st = .beforeEnd) ∧ Engaged h st w' ∧ ClimbsIn h st w'
  else Live w' ∧ ClimbsSo h w'

theorem ClimbsIn.turned {st : Stage} (c : ClimbsIn h st w') (turned : Turned h (some st) w') :
    ClimbsTurn h true w' := ⟨st, turned.1, turned.2, c⟩

theorem Climbing.bound {limit : Nat} (c : Climbing h limit w) (programs : h.ProgramsEprom) :
    limit ≤ h.operationEnd.toNat := by
  obtain ⟨-, -, es, -, so⟩ := c
  exact (so programs).2.1

/-- What the callback may tell of a chunk that fits. -/
theorem chunkTold {limit : Nat} {st : Stage} (e : Engaged h st w)
    (chunk : w.handle.chunkFits env.build) (below : limit ≤ w.handle.address.toNat) :
    (∀ s s', s.handle = w.answered.handle → ProgressRun env .epromWriteExecute s s' →
      h.ProgramsEprom → Advances h.operationEnd limit
        (w.handle.address.toNat + w.handle.dataSize.toNat) s s') ∧
    (h.ProgramsEprom → limit ≤ w.handle.address.toNat + w.handle.dataSize.toNat ∧
      w.handle.address.toNat + w.handle.dataSize.toNat ≤ h.operationEnd.toNat) := by
  have opEnd : w.handle.operationEnd = h.operationEnd := e.operationEnd
  refine ⟨fun s s' same run _ => ?_, fun _ => ⟨by omega, opEnd ▸ chunk.inside⟩⟩
  have told := run.told rfl (by rw [same]; exact chunk)
  rw [same] at told
  have told : Advances w.handle.operationEnd (w.handle.address.toNat + 0)
      (w.handle.address.toNat + w.handle.dataSize.toNat) s s' := told
  rw [opEnd] at told
  exact told.widen below (Nat.le_refl _)

/-- A chunk that fits is told of above the chunks before it, and the cursor moves past it. -/
theorem climbsWrite (programs : h.ProgramsEprom) (e : Engaged h .inMain w)
    (c : ClimbsIn h .inMain w) :
    Ends processIncomingData env w (fun ok w' => ClimbsTurn h ok w') (ClimbsSo h) := by
  have answered {kind : OpMessageType} {w₁ : World} (heard : Delivered kind w w₁) :
      ClimbsIn h .inMain w₁.answered := (c.delivered heard).answered
  have runs : Callback.epromWriteExecute ≠ .configureMemory := nofun
  refine (ends_processIncomingData (progressRuns runs) programs.2 e).mono (fun ok w' turn => ?_)
    fun w' cut => ?_
  · obtain ⟨r, rfl, turn, turned⟩ := turn
    cases turn with
    | overrun beyond => exact ⟨turned, c.so.imp fun _ climbing => climbing.outOfRange⟩
    | complete reached link => exact (c.link link).mainDone.turned turned
    | waiting link => exact (c.link link).turned turned
    | requested link first =>
      obtain ⟨limit, climbing, below⟩ := c.link link
      have asked := climbing.note (e := .emitted msgOkReqData []) rfl rfl
      have requested : ClimbsIn h .inMain (World.requested _) := ⟨limit, asked.handle _, below⟩
      exact requested.turned turned
    | finished heard unbounded link => exact ((answered heard).link link).mainDone.turned turned
    | refused heard taken link => exact ⟨turned, ((answered heard).link link).so⟩
    | outside heard long =>
      exact ⟨turned, (answered heard).so.imp fun _ climbing => climbing.outOfRange⟩
    | @failed w₁ _ heard chunk ran =>
      obtain ⟨limit, climbing, below⟩ := answered heard
      obtain ⟨tells, inside⟩ := chunkTold (e.delivered heard) chunk (below (by decide) programs)
      exact ⟨turned, _, climbing.executed tells inside ran⟩
    | @wrote w₁ w₂ heard chunk ran =>
      obtain ⟨limit, climbing, below⟩ := answered heard
      obtain ⟨tells, inside⟩ := chunkTold (e.delivered heard) chunk (below (by decide) programs)
      have written := climbing.executed tells inside ran
      have address : w₂.handle.address = w₁.handle.address :=
        ran.handle Handle.address (fun _ _ run => by
          have kept := congrArg (fun w : World => w.handle.address) (run.driver rfl).kept
          exact kept) fun _ _ => rfl
      have size : w₂.handle.dataSize = w₁.handle.dataSize :=
        ran.handle Handle.dataSize (fun _ _ run => by
          have kept := congrArg (fun w : World => w.handle.dataSize) (run.driver rfl).kept
          exact kept) fun _ _ => rfl
      have moved : ClimbsIn h .inMain w₂.movedOn := by
        refine ⟨_, written.handle _, fun _ _ => ?_⟩
        have last := chunk.inside
        have room := w₁.handle.operationEnd.isLt
        show _ ≤ (w₂.handle.address + w₂.handle.dataSize).toNat
        rw [address, size, BitVec.toNat_add]
        omega
      exact moved.turned turned
  · cases cut with
    | link link => exact (c.link link).so
    | answered heard link => exact ((answered heard).link link).so
    | running heard chunk cut =>
      obtain ⟨limit, climbing, below⟩ := answered heard
      obtain ⟨tells, inside⟩ := chunkTold (e.delivered heard) chunk (below (by decide) programs)
      exact ⟨_, climbing.cutShort tells inside cut⟩

/-! ## The whole command -/

/-- Of a command that programs no EPROM, nothing more is told. -/
theorem climbing_iff (other : ¬ h.ProgramsEprom) (granted : Granted h) {limit : Nat} :
    Climbing h limit w ↔ (commandLaw env h).Kept w := by
  constructor
  · rintro ⟨-, queue, es, events, -⟩
    exact ⟨queue, es, events, trivial⟩
  · rintro ⟨queue, es, events, -⟩
    exact ⟨granted, queue, es, events, fun programs => absurd programs other⟩

/-- Its main phase does as it likes. -/
theorem climbsOther {callback : Callback} (other : ¬ h.ProgramsEprom)
    (found : h.firestarterOperationMain = some callback) (known : callback ≠ .configureMemory)
    (e : Engaged h .inMain w) (c : ClimbsIn h .inMain w) :
    Ends (mainPump h.cmd) env w (fun ok w' => ClimbsTurn h ok w') (ClimbsSo h) := by
  obtain ⟨limit, climbing, -⟩ := c
  have granted : Granted h := climbing.1
  have kept : (commandLaw env h).Kept w := (climbing_iff other granted).mp climbing
  have so {w' : World} (kept : (commandLaw env h).Kept w') : Climbing h limit w' :=
    (climbing_iff other granted).mpr kept
  refine ((commandLaw env h).invariant.pumps found known e kept).mono (fun ok w' turned => ?_)
    fun w' kept => ⟨limit, so kept⟩
  cases ok with
  | true =>
    obtain ⟨st, moved, engaged, kept⟩ := turned
    exact ⟨st, moved, engaged, limit, so kept, fun _ programs => absurd programs other⟩
  | false =>
    obtain ⟨live, kept⟩ := turned
    exact ⟨live, limit, so kept⟩

theorem Stage.closes_still {st served next : Stage} {frame : U8}
    (house : st.housekeeping = some (served, next, frame)) :
    Event.reportsProgress (.emitted frame []) = false := by
  cases st with
  | inInit | inEnd =>
    cases house
    rfl
  | _ => cases house

theorem climbsServe {st served next : Stage} {frame : U8} {callback : Callback}
    (settled : h.Settled) (house : st.housekeeping = some (served, next, frame))
    (found : h.housekeeper st = some callback) (c : ClimbsIn h st w) :
    Ends (executeOperation dispatch (some callback)) env w
      (fun r w' => if r = .error then ClimbsSo h w' else ClimbsIn h served w') (ClimbsSo h) := by
  have known : callback ≠ .configureMemory := settled.serves found
  obtain ⟨limit, climbing, below⟩ := c
  have tells (s s' : World) (_ : s.handle = w.handle) (run : ProgressRun env callback s s')
      (_ : h.ProgramsEprom) : Advances h.operationEnd limit limit s s' :=
    .of_still (run.still (climbing.1.house found))
  have inside (programs : h.ProgramsEprom) : limit ≤ limit ∧ limit ≤ h.operationEnd.toNat :=
    ⟨Nat.le_refl _, climbing.bound programs⟩
  have same := (Stage.closes_quietly house).1
  refine ((progressRuns known).executes w).mono (fun r w' ran => ?_) fun w' cut => ?_
  · have served := climbing.executed tells inside ran
    split
    · exact ⟨limit, served⟩
    · refine ⟨limit, served, fun early => ?_⟩
      have address : w'.handle.address = w.handle.address :=
        ran.handle Handle.address (fun _ _ run => by
          have kept := congrArg (fun w : World => w.handle.address) run.step.kept
          exact kept) fun _ _ => rfl
      rw [address]
      exact below (same ▸ early)
  · exact ⟨limit, climbing.cutShort tells inside cut⟩

/-- The progress of a command, in each of its stages. -/
def progressInvariant (env : Env) (h : Handle) : PhaseInvariant env h (mainPump h.cmd) where
  holds := ClimbsIn h
  always := ClimbsSo h
  safe c := c.so
  onward c link := c.imp fun _ climbing => climbing.link link
  waits c link := c.link link
  hears _ c heard := c.delivered heard
  opens opening _ c heard link :=
    ((c.delivered heard).link link).inStage (Stage.opens_later opening)
  lacks house _ c := by
    obtain ⟨limit, climbing, below⟩ := c
    exact ⟨limit, climbing, fun early => below ((Stage.closes_quietly house).1 ▸ early)⟩
  serves settled house found _ c := climbsServe settled house found c
  closes {_ served _ frame w} house _ c := by
    obtain ⟨limit, climbing, below⟩ := c
    obtain ⟨-, later, -⟩ := Stage.closes_quietly house
    have quiet : (Event.emitted frame []).reportsProgress = false := Stage.closes_still house
    have told : ClimbsIn h served { w with trace := .emitted frame [] :: w.trace } :=
      ⟨limit, climbing.note rfl quiet, below⟩
    exact told.inStage later
  pumps {w callback} found known e c := by
    by_cases programs : h.ProgramsEprom
    · rw [programs.1]
      exact climbsWrite programs e c
    · exact climbsOther programs found known e c

/-! ## The runs -/

/-- The law: a command that programs an EPROM tells of its progress inside the region, and
climbs. -/
def ProgressClimbs (h : Handle) (es : List Event) : Prop :=
  h.ProgramsEprom → ToldBelow h h.operationEnd.toNat es

theorem Climbing.law {limit : Nat} (c : Climbing h limit w) :
    ∃ es, commandEvents w.trace = some (h, es) ∧ ProgressClimbs h es := by
  obtain ⟨-, -, es, events, so⟩ := c
  refine ⟨es, events, fun programs => ?_⟩
  obtain ⟨-, bound, addresses, same, climbs⟩ := so programs
  exact ⟨addresses, same, climbs.widen (Nat.le_refl _) bound⟩

theorem ends_commandDone_climbing (c : ClimbsSo h w) (live : Live w) :
    Ends commandDone env w
      (fun _ w' => ∃ es, commandEvents w'.trace = some (h, es) ∧ ProgressClimbs h es)
      (fun w' => ∃ es, commandEvents w'.trace = some (h, es) ∧ ProgressClimbs h es) := by
  obtain ⟨limit, climbing⟩ := c
  have ended := (@ends_commandDone env w live.queue fun _ => live.comMode).and
    (Within.ends (R := FramesStep isProgress) inferInstance w)
  refine ended.mono (fun _ w' both => ?_) fun w' both => ?_
  · obtain ⟨⟨-, w₀, step, rfl⟩, same⟩ := both
    have kept : FramesStep isProgress w w₀ := same
    have after : Climbing h limit w₀ := climbing.moves step (fun _ => id) kept
    exact (after.note (e := .finished) rfl rfl).law
  · exact (climbing.moves both.1 (fun _ => id) both.2).law

theorem climbing_of_accepted (granted : Granted h) (queue : w.QueuesReports)
    (comMode : w.comMode = true) (same : w.handle = h) :
    ClimbsIn h .beforeInit { w with trace := .accepted h :: w.trace } := by
  refine ⟨h.address.toNat, ⟨granted, queue, [], rfl, fun programs => ?_⟩, fun _ _ => ?_⟩
  · exact ⟨queue.holdsNone comMode _, (granted.writes programs.1).2, [], rfl, .nil⟩
  · show h.address.toNat ≤ w.handle.address.toNat
    rw [same]

/-- The progress of the commands is an invariant of the runs. -/
def progressCommands (env : Env) : CommandInvariant env where
  toReadiness := Readiness.free env
  command h := progressInvariant env h
  law := ProgressClimbs
  powersUp := @Readiness.powersUp_free env
  begins memory accepted _ _ :=
    climbing_of_accepted (granted_of_accepted memory accepted) accepted.queue accepted.comMode rfl
  lawful {h w} c := by
    obtain ⟨limit, climbing⟩ : ClimbsSo h w := c
    exact climbing.law
  concludes c live := ends_commandDone_climbing c live
  idles law quiet programs :=
    (law programs).quiet fun e member => Event.reportsProgress_of_sends (quiet e member).2

/-- The progress a write to an EPROM reports never goes back: over all of its chunks, groups and
passes the addresses strictly climb, and each is below the end that is reported with it. -/
theorem write_progress_climbs (seen : Seen env w) {es : List Event}
    (events : commandEvents w.trace = some (h, es)) (writes : h.cmd = cmdWrite)
    (eprom : h.firestarterOperationMain = some .epromWriteExecute) :
    ∃ addresses : List U32,
      es.filter Event.reportsProgress = addresses.map (progressFrame h.operationEnd) ∧
      addresses.Pairwise (· < ·) ∧ ∀ address ∈ addresses, address < h.operationEnd := by
  have memory : isMemoryCmd h.cmd = true := by
    rw [writes]
    rfl
  have climbs : ProgressClimbs h es :=
    (progressCommands env).lawful_of_seen seen h es events memory
  obtain ⟨addresses, same, climbs⟩ := climbs ⟨writes, eprom⟩
  have ascends := List.pairwise_map.mp climbs.ascends
  refine ⟨addresses, same, ascends, fun address member => ?_⟩
  exact (climbs.within _ (List.mem_map_of_mem member)).2

/-- What the chip was last given, or an erased byte. -/
def lastWritten : List Event → U8
  | [] => 0xFF
  | .wrote _ data _ :: _ => data
  | _ :: earlier => lastWritten earlier

/-- The program loop is running. -/
def isProgramming : List Event → Bool
  | [] => false
  | .called .epromWriteExecute _ :: _ => true
  | .returned .. :: _ => false
  | _ :: earlier => isProgramming earlier

/-- A Leonardo whose host writes four bytes of a 24-pin part in two chunks; the program loop finds
the clock a second on whenever it looks. -/
def slowEpromEnv : Env :=
  { Env.still ⟨.leonardo, false⟩ 200 with
    elapse := fun w => if isProgramming w.trace then 1000 else 0
    chip := fun w => lastWritten w.trace }.sends <|
    memoryFrame { cmd := cmdWrite, memSize := 2048, regionEnd := 4, protocol := protoEprom24Pin,
                  pins := 24, vppMv := 14000,
                  busConfig := { addressLines := [], rwLine := 0xFF, vppLine := 0xFF } } ++
      [asciiO, asciiK, asciiO, asciiK] ++ asciiHash :: communicationFrame [0x5A, 0xFF, 0x5A] ++
      asciiHash :: communicationFrame [0x5A]

/-- Two passes over the first chunk and one over the second report four addresses. -/
theorem write_progress_climbs_twoChunks : ∃ (w : World) (h : Handle) (es : List Event),
    commandEvents w.trace = some (h, es) ∧ (es.filter Event.reportsProgress).length = 4 ∧
      ∃ addresses : List U32,
        es.filter Event.reportsProgress = addresses.map (progressFrame h.operationEnd) ∧
        addresses.Pairwise (· < ·) ∧ ∀ address ∈ addresses, address < h.operationEnd := by
  have ran : commandAfter slowEpromEnv 5 (fun _ h es => (h.cmd, h.firestarterOperationMain,
      (es.filter Event.reportsProgress).length)) = some (cmdWrite, some .epromWriteExecute, 4) := by
    decide +kernel
  obtain ⟨w, h, es, -, seen, events, ran⟩ := exists_of_commandAfter ran
  obtain ⟨writes, ran⟩ := Prod.mk.inj ran
  obtain ⟨eprom, count⟩ := Prod.mk.inj ran
  exact ⟨w, h, es, events, count, write_progress_climbs seen events writes eprom⟩

end Firestarter
