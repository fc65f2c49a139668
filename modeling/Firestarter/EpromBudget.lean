import Firestarter.ChipAccess
import Firestarter.CommandSetup
import Firestarter.HostFrames
import Mathlib.Algebra.Group.Pi.Basic
import Mathlib.Algebra.Ring.Nat

/-! What one byte of an EPROM block is given in the worst case: how many pulses, and how much
program time. Pulses are counted in the trace, address by address, for whatever the chip answers. -/
namespace Firestarter

open Interactive Interactive.Prog

set_option synthInstance.maxSize 4000

/-! ## Counting pulses -/

def Access.isPulse (address : U32) : Access → Bool
  | .wrote address' _ => address' == address
  | _ => false

/-- How often these events pulse an address. -/
def pulsesAt (events : List Event) (address : U32) : Nat :=
  (accessLog events).countP (·.isPulse address)

/-- A run that pulses each address so many times. -/
def Pulses (n : U32 → Nat) (w w' : World) : Prop :=
  ∃ new, w'.trace = new ++ w.trace ∧ pulsesAt new = n

variable {env : Env} {w w' w'' : World} {n n' : U32 → Nat}

theorem pulsesAt_append (later earlier : List Event) :
    pulsesAt (later ++ earlier) = pulsesAt earlier + pulsesAt later := by
  funext address
  simp [pulsesAt, accessLog_append]

theorem Pulses.trans (first : Pulses n w w') (rest : Pulses n' w' w'') :
    Pulses (n + n') w w'' := by
  obtain ⟨new, trace, same⟩ := first
  obtain ⟨new', trace', same'⟩ := rest
  refine ⟨new' ++ new, by rw [trace', trace, List.append_assoc], ?_⟩
  rw [pulsesAt_append, same, same']

theorem Pulses.onward (first : Pulses n w w') (rest : Pulses 0 w' w'') : Pulses n w w'' := by
  have both := first.trans rest
  rw [add_zero] at both
  exact both

theorem Pulses.after (first : Pulses 0 w w') (rest : Pulses n w' w'') : Pulses n w w'' := by
  have both := first.trans rest
  rw [zero_add] at both
  exact both

/-- One pulse at this address. -/
def onePulse (address : U32) : U32 → Nat := fun address' => if address = address' then 1 else 0

theorem memorySetData_pulses (w : World) (address : U32) (data : U8) :
    Ends (memorySetData address data) env w (fun _ w' => Pulses (onePulse address) w w')
      (fun _ => False) := by
  refine (memorySetData_log w address data).mono (fun _ w' done => ?_) fun _ => id
  obtain ⟨new, trace, same⟩ := done.adds
  refine ⟨new, trace, ?_⟩
  funext address'
  unfold pulsesAt onePulse
  rw [same]
  simp [Access.isPulse, List.countP_cons]

/-- A run that pulses nothing. -/
abbrev Unpulsed : World → World → Prop := Pulses 0

theorem Unpulsed.of_quiet (trace : w'.trace = w.trace) : Unpulsed w w' := ⟨[], trace, rfl⟩

theorem Unpulsed.note (w : World) (e : Event)
    (other : ∀ address, e.access.any (·.isPulse address) = false) :
    Unpulsed w { w with trace := e :: w.trace } := by
  refine ⟨[e], rfl, ?_⟩
  funext address
  have other := other address
  unfold pulsesAt accessLog
  cases found : e.access with
  | none => simp [found]
  | some access =>
    rw [found] at other
    have other : access.isPulse address = false := other
    simp [found, other]

instance : IsPreorder World Unpulsed where
  refl _ := .of_quiet rfl
  trans _ _ _ first rest := first.onward rest

/-- Only the pulse of a write is one. -/
theorem unpulsed_of_events {new : List Event} (trace : w'.trace = new ++ w.trace)
    (other : ∀ e ∈ new, ∀ address, e.access.any (·.isPulse address) = false) : Unpulsed w w' := by
  refine ⟨new, trace, ?_⟩
  funext address
  unfold pulsesAt accessLog
  rw [List.countP_reverse]
  refine List.countP_eq_zero.mpr fun access member => ?_
  obtain ⟨e, member, found⟩ := List.mem_filterMap.mp member
  have other := other e member address
  rw [found] at other
  have other : access.isPulse address = false := other
  simp [other]

instance : HostFrame Unpulsed where
  talk s s' talk := by
    obtain ⟨new, trace, noise⟩ := talk.adds
    refine unpulsed_of_events trace fun e member address => ?_
    have talked := noise e member
    cases e <;> first | rfl | cases talked

instance : SenseFrame Unpulsed where
  sense s e passive := by
    refine Unpulsed.note s e fun address => ?_
    cases e <;> first | rfl | cases passive

instance : LatchFrame Unpulsed where
  strobe _ reg byte _ _ := ⟨[.strobe reg byte], rfl, rfl⟩

instance : CacheFrame Unpulsed where
  cache _ _ _ _ _ := .of_quiet rfl
  control _ data := ⟨[.control data], rfl, rfl⟩
  addressed _ control latches offFor := ⟨[.addressed control latches offFor], rfl, rfl⟩

/-! ## A pulse pass -/

/-- Counts that stay within one group of a block. -/
structure InGroup (h : Handle) (base groupLen limit : Nat) (n : U32 → Nat) : Prop where
  bounded : ∀ address, n address ≤ limit
  inside : ∀ address, (∀ i < groupLen, h.byteAddress (base + i) ≠ address) → n address = 0

variable {h : Handle} {base groupLen limit limit' : Nat}

theorem InGroup.zero : InGroup h base groupLen 0 0 := ⟨fun _ => Nat.le_refl _, fun _ _ => rfl⟩

theorem InGroup.add (first : InGroup h base groupLen limit n)
    (rest : InGroup h base groupLen limit' n') :
    InGroup h base groupLen (limit + limit') (n + n') := by
  constructor
  · intro address
    exact Nat.add_le_add (first.bounded address) (rest.bounded address)
  · intro address outside
    show n address + n' address = 0
    rw [first.inside address outside, rest.inside address outside]

/-- The pulses of a pass so far: none yet for the bytes still to come. -/
structure PulsedSo (h : Handle) (base groupLen : Nat) (items : List Nat) (n : U32 → Nat) :
    Prop where
  group : InGroup h base groupLen 1 n
  fresh : ∀ i ∈ items, n (h.byteAddress (base + i)) = 0
  distinct : items.Nodup
  within : ∀ i ∈ items, i < groupLen

theorem PulsedSo.skip {i : Nat} {rest : List Nat} (so : PulsedSo h base groupLen (i :: rest) n) :
    PulsedSo h base groupLen rest n :=
  ⟨so.group, fun j member => so.fresh j (List.mem_cons_of_mem _ member),
    (List.nodup_cons.mp so.distinct).2, fun j member => so.within j (List.mem_cons_of_mem _ member)⟩

theorem PulsedSo.pulse {i : Nat} {rest : List Nat} (small : base + groupLen ≤ 2 ^ 32)
    (so : PulsedSo h base groupLen (i :: rest) n) :
    PulsedSo h base groupLen rest (n + onePulse (h.byteAddress (base + i))) := by
  have inside := so.within i List.mem_cons_self
  obtain ⟨notLater, distinct⟩ := List.nodup_cons.mp so.distinct
  refine ⟨⟨fun address => ?_, fun address outside => ?_⟩, fun j member => ?_, distinct,
    fun j member => so.within j (List.mem_cons_of_mem _ member)⟩
  · show n address + (if h.byteAddress (base + i) = address then 1 else 0) ≤ 1
    by_cases here : h.byteAddress (base + i) = address
    · exact Nat.le_of_eq (by rw [← here, so.fresh i List.mem_cons_self, if_pos rfl])
    · rw [if_neg here]
      exact so.group.bounded address
  · show n address + (if h.byteAddress (base + i) = address then 1 else 0) = 0
    rw [if_neg (outside i inside), so.group.inside address outside]
  · show n _ + (if h.byteAddress (base + i) = h.byteAddress (base + j) then 1 else 0) = 0
    have other : h.byteAddress (base + i) ≠ h.byteAddress (base + j) := by
      intro same
      have bound := so.within j (List.mem_cons_of_mem _ member)
      have same := Handle.byteAddress_inj (by omega) (by omega) same
      have same : i = j := by omega
      exact notLater (same ▸ member)
    rw [if_neg other, so.fresh j (List.mem_cons_of_mem _ member)]

/-- A pass pulses each byte of its group at most once. -/
theorem ends_pulsePass (small : base + groupLen ≤ 2 ^ 32) (pending : Nat → Bool) (w : World) :
    Ends (pulsePass h base groupLen pending) env w
      (fun _ w' => ∃ n, Pulses n w w' ∧ InGroup h base groupLen 1 n)
      (fun w' => ∃ n, Pulses n w w' ∧ InGroup h base groupLen 1 n) := by
  have none {w' : World} (quiet : Unpulsed w w') :
      ∃ n, Pulses n w w' ∧ InGroup h base groupLen 1 n := by
    refine ⟨0, quiet, fun _ => Nat.zero_le _, fun _ _ => rfl⟩
  unfold pulsePass
  refine Within.bind_ends (S := Unpulsed) inferInstance (fun _ w₁ raised => ?_) fun _ => none
  refine Within.bind_ends (S := Unpulsed) inferInstance (fun _ w₂ settled => ?_)
    fun _ settled => none (raised.onward settled)
  rw [ends_bind]
  refine (ends_forM (E := fun _ w' => ∃ n, Pulses n w w' ∧ InGroup h base groupLen 1 n)
    (fun items w' => ∃ n, Pulses n w w' ∧ PulsedSo h base groupLen items n)
    (fun i rest w' so => ?_) (fun w' so => ?_) (List.range groupLen) w₂ ?_).mono (fun _ w₃ pulsed => ?_) fun _ h => h
  · obtain ⟨n, pulses, so⟩ := so
    refine Ends.when (fun _ => ?_) fun _ => ⟨n, pulses, so.skip⟩
    refine (memorySetData_pulses w' _ _).mono (fun _ w'' pulsed => ?_) fun _ never => never.elim
    exact ⟨_, pulses.trans pulsed, so.pulse small⟩
  · obtain ⟨n, pulses, so⟩ := so
    exact ⟨n, pulses, so.group⟩
  · refine ⟨0, raised.onward settled, ⟨fun _ => Nat.zero_le _, fun _ _ => rfl⟩, fun _ _ => rfl,
      List.nodup_range, fun i member => List.mem_range.mp member⟩
  · obtain ⟨n, pulses, group⟩ := pulsed
    have lowered {w' : World} (quiet : Unpulsed w₃ w') :
        ∃ n, Pulses n w w' ∧ InGroup h base groupLen 1 n := ⟨n, pulses.onward quiet, group⟩
    refine Within.bind_ends (S := Unpulsed) inferInstance (fun _ w₄ held => ?_) fun _ => lowered
    exact (Within.ends (R := Unpulsed) inferInstance w₄).mono
      (fun _ _ off => lowered (held.onward off)) fun _ off => lowered (held.onward off)

/-! ## The passes of a group -/

/-- So many pulses are within the row's two limits: the last one was given only while the program
time before it was below the cap. -/
structure Budget (row : EpromParams) (width : U32) (n : Nat) : Prop where
  pulses : n ≤ row.maxPulses.toNat
  energy : row.energyCapUs ≠ 0 → n * width.toNat < row.energyCapUs.toNat + width.toNat

variable {row : EpromParams} {width : U32}

theorem Budget.zero : Budget row width 0 := by
  refine ⟨Nat.zero_le _, fun capped => ?_⟩
  have positive : row.energyCapUs.toNat ≠ 0 := fun none => capped (BitVec.eq_of_toNat_eq none)
  omega

theorem Budget.mono {k m : Nat} (budget : Budget row width m) (le : k ≤ m) : Budget row width k :=
  ⟨Nat.le_trans le budget.pulses, fun capped =>
    Nat.lt_of_le_of_lt (Nat.mul_le_mul_right _ le) (budget.energy capped)⟩

/-- Where a group stands between two passes. -/
structure PassedSo (h : Handle) (row : EpromParams) (base groupLen : Nat) (w : World) (pass : Pass)
    (w' : World) : Prop where
  budget : Budget row h.pulseDelay pass.pulses.toNat
  accumulated : pass.accumulated.toNat = pass.pulses.toNat * h.pulseDelay.toNat
  pulsed : ∃ n, Pulses n w w' ∧ InGroup h base groupLen pass.pulses.toNat n

/-- However a group ends, each of its bytes was kept within the limits. -/
def GroupDone (h : Handle) (row : EpromParams) (base groupLen : Nat) (w w' : World) : Prop :=
  ∃ n limit, Pulses n w w' ∧ InGroup h base groupLen limit n ∧ Budget row h.pulseDelay limit

theorem PassedSo.done {pass : Pass} (so : PassedSo h row base groupLen w pass w')
    (quiet : Unpulsed w' w'') : GroupDone h row base groupLen w w'' := by
  obtain ⟨n, pulses, group⟩ := so.pulsed
  exact ⟨n, _, pulses.onward quiet, group, so.budget⟩

/-- One more pulse for each byte, when both tests allowed it. -/
theorem PassedSo.pulse {pass : Pass} (so : PassedSo h row base groupLen w pass w')
    (width : h.pulseDelay ≤ epromPulseMaxUs) (pulses : ¬ pass.pulses ≥ row.maxPulses)
    (energy : ¬ (row.energyCapUs != 0 && pass.accumulated ≥ row.energyCapUs) = true)
    (pulsed : ∃ n, Pulses n w' w'' ∧ InGroup h base groupLen 1 n) (pending : Nat → Bool)
    (lastEmitMs : U32) :
    PassedSo h row base groupLen w
      { pulses := pass.pulses + 1, accumulated := pass.accumulated + h.pulseDelay, pending,
        lastEmitMs } w'' := by
  have below : pass.pulses.toNat < row.maxPulses.toNat := Nat.not_le.mp pulses
  have narrow : h.pulseDelay.toNat ≤ 65535 := width
  have room := row.maxPulses.isLt
  have count : (pass.pulses + 1).toNat = pass.pulses.toNat + 1 := by
    have one : (1 : U8).toNat = 1 := rfl
    rw [BitVec.toNat_add, one]
    omega
  have product : (pass.pulses.toNat + 1) * h.pulseDelay.toNat ≤ 255 * 65535 :=
    Nat.mul_le_mul (by omega) narrow
  have sum : (pass.accumulated + h.pulseDelay).toNat =
      (pass.pulses.toNat + 1) * h.pulseDelay.toNat := by
    rw [BitVec.toNat_add, so.accumulated]
    rw [Nat.add_mul, Nat.one_mul] at product ⊢
    omega
  obtain ⟨n, before, group⟩ := so.pulsed
  obtain ⟨n', now, group'⟩ := pulsed
  refine ⟨⟨?_, fun capped => ?_⟩, ?_, n + n', before.trans now, ?_⟩
  · show (pass.pulses + 1).toNat ≤ _
    omega
  · have spent : pass.accumulated.toNat < row.energyCapUs.toNat := by
      simp only [Bool.and_eq_true, bne_iff_ne, decide_eq_true_eq, not_and, ge_iff_le,
        BitVec.not_le] at energy
      exact energy capped
    show (pass.pulses + 1).toNat * _ < _
    rw [count, Nat.add_mul, Nat.one_mul, ← so.accumulated]
    omega
  · show (pass.accumulated + h.pulseDelay).toNat = (pass.pulses + 1).toNat * _
    rw [sum, count]
  · show InGroup h base groupLen (pass.pulses + 1).toNat _
    rw [count]
    exact group.add group'

theorem ends_passTurn (small : base + groupLen ≤ 2 ^ 32) (width : h.pulseDelay ≤ epromPulseMaxUs)
    {pass : Pass} (so : PassedSo h row base groupLen w pass w') :
    Ends (passTurn h row base groupLen pass) env w'
      (fun r w'' => match r with
        | .inl next => PassedSo h row base groupLen w next w''
        | .inr _ => GroupDone h row base groupLen w w'')
      (GroupDone h row base groupLen w) := by
  unfold passTurn
  refine Within.bind_ends (S := Unpulsed) inferInstance (fun scan w₁ scanned => ?_)
    fun _ => so.done
  have failed (id : U8) (notice : NoticeId id) : Ends (do
      epromInternalReportBudgetFailure scan.firstBad pass.pulses id
      return .inr none : Fw (Pass ⊕ Option U32)) env w₁
      (fun r w'' => match r with
        | .inl next => PassedSo h row base groupLen w next w''
        | .inr _ => GroupDone h row base groupLen w w'')
      (GroupDone h row base groupLen w) :=
    Within.bind_ends (S := Unpulsed) inferInstance
      (fun _ _ off => so.done (scanned.onward off)) fun _ off => so.done (scanned.onward off)
  split
  · exact so.done scanned
  split
  · exact failed _ inferInstance
  rename_i pulses
  split
  · exact failed _ inferInstance
  rename_i energy
  have onward : PassedSo h row base groupLen w pass w₁ := by
    obtain ⟨n, before, group⟩ := so.pulsed
    exact ⟨so.budget, so.accumulated, n, before.onward scanned, group⟩
  rw [ends_bind]
  refine (ends_pulsePass small scan.pending w₁).mono (fun _ w₂ pulsed => ?_) fun w₂ pulsed => ?_
  · exact onward.pulse width pulses energy pulsed _ _
  · have next := onward.pulse width pulses energy pulsed scan.pending scan.lastEmitMs
    exact next.done (refl_of Unpulsed w₂)

theorem ends_programGroup (small : base + min (h.blockLen - base) epromProgramGroup ≤ 2 ^ 32)
    (width : h.pulseDelay ≤ epromPulseMaxUs) (lastEmitMs : U32) (w : World) :
    Ends (programGroup h row lastEmitMs base) env w
      (fun _ => GroupDone h row base (min (h.blockLen - base) epromProgramGroup) w)
      (GroupDone h row base (min (h.blockLen - base) epromProgramGroup) w) := by
  have start : PassedSo h row base (min (h.blockLen - base) epromProgramGroup) w
      { pulses := 0, accumulated := 0, pending := fun _ => false, lastEmitMs } w :=
    ⟨Budget.zero, (Nat.zero_mul _).symm, 0, refl_of Unpulsed w, InGroup.zero⟩
  have looped : Ends (repeatUntil (passTurn h row base (min (h.blockLen - base) epromProgramGroup))
      (row.maxPulses.toNat + 1)
      { pulses := 0, accumulated := 0, pending := fun _ => false, lastEmitMs }) env w
      (fun _ => GroupDone h row base (min (h.blockLen - base) epromProgramGroup) w)
      (GroupDone h row base (min (h.blockLen - base) epromProgramGroup) w) :=
    ends_repeatUntil (fun pass w' => PassedSo h row base _ w pass w')
      (fun pass w' so => (ends_passTurn small width so).mono
        (fun r _ turned => by cases r <;> exact turned) fun _ done => done)
      (fun pass w' so => so.done (refl_of Unpulsed w')) _ _ w start
  unfold programGroup
  rw [ends_bind]
  exact looped.mono (fun _ _ done => done) fun _ done => done

/-! ## The groups of a block -/

/-- The groups start inside the block and a whole group apart. -/
theorem groupBases_apart (blockLen : Nat) :
    (groupBases blockLen).Pairwise (fun base later => base + epromProgramGroup ≤ later) ∧
      ∀ base ∈ groupBases blockLen, base < blockLen := by
  unfold groupBases epromProgramGroup
  constructor
  · rw [List.pairwise_map]
    refine List.pairwise_lt_range.imp fun less => ?_
    omega
  · intro base member
    obtain ⟨g, inside, rfl⟩ := List.mem_map.mp member
    have inside := List.mem_range.mp inside
    omega

/-- Every byte was kept within the limits. -/
def BlockDone (h : Handle) (row : EpromParams) (w w' : World) : Prop :=
  ∃ n, Pulses n w w' ∧ ∀ address, Budget row h.pulseDelay (n address)

/-- A block between two groups: the bytes of the groups to come have had no pulse. -/
structure GroupedSo (h : Handle) (row : EpromParams) (items : List Nat) (w w' : World) : Prop where
  done : ∃ n, Pulses n w w' ∧ (∀ address, Budget row h.pulseDelay (n address)) ∧
    ∀ base ∈ items, ∀ i < epromProgramGroup, n (h.byteAddress (base + i)) = 0
  apart : items.Pairwise fun base later => base + epromProgramGroup ≤ later
  inside : ∀ base ∈ items, base < h.blockLen

theorem GroupedSo.group {rest : List Nat} (so : GroupedSo h row (base :: rest) w w')
    (group : GroupDone h row base (min (h.blockLen - base) epromProgramGroup) w' w'') :
    GroupedSo h row rest w w'' := by
  obtain ⟨n, before, budget, fresh⟩ := so.done
  obtain ⟨n', limit, now, group, limited⟩ := group
  obtain ⟨first, apart⟩ := List.pairwise_cons.mp so.apart
  have inside (base : Nat) (member : base ∈ rest) := so.inside base (List.mem_cons_of_mem _ member)
  have room : h.blockLen < 2 ^ 16 := (h.dataSize.setWidth 16 : U16).isLt
  refine ⟨⟨n + n', before.trans now, fun address => ?_, fun later member i small => ?_⟩, apart,
    inside⟩
  · show Budget row h.pulseDelay (n address + n' address)
    by_cases here : ∃ i < min (h.blockLen - base) epromProgramGroup,
        h.byteAddress (base + i) = address
    · obtain ⟨i, small, rfl⟩ := here
      rw [fresh base List.mem_cons_self i (by omega), Nat.zero_add]
      exact limited.mono (group.bounded _)
    · rw [group.inside address fun i small same => here ⟨i, small, same⟩]
      exact budget address
  · show n _ + n' _ = 0
    have other (j : Nat) (bound : j < min (h.blockLen - base) epromProgramGroup) :
        h.byteAddress (base + j) ≠ h.byteAddress (later + i) := by
      intro same
      have far := first later member
      have near := inside later member
      unfold epromProgramGroup at far small bound
      have same := Handle.byteAddress_inj (by omega) (by omega) same
      omega
    rw [group.inside _ other, fresh later (List.mem_cons_of_mem _ member) i small]

theorem ends_groups (width : h.pulseDelay ≤ epromPulseMaxUs) (lastEmitMs : U32) (w : World) :
    Ends (forLoop (programGroup h row) (groupBases h.blockLen) lastEmitMs) env w
      (fun _ => BlockDone h row w) (BlockDone h row w) := by
  have room : h.blockLen < 2 ^ 16 := (h.dataSize.setWidth 16 : U16).isLt
  obtain ⟨apart, inside⟩ := groupBases_apart h.blockLen
  have finished {items : List Nat} {w' : World} (so : GroupedSo h row items w w') :
      BlockDone h row w w' := by
    obtain ⟨n, pulses, budget, -⟩ := so.done
    exact ⟨n, pulses, budget⟩
  refine ends_forLoop (fun items _ w' => GroupedSo h row items w w')
    (fun base rest lastEmitMs w' so => ?_) (fun _ _ so => finished so) _ _ w ?_
  · have small : base + min (h.blockLen - base) epromProgramGroup ≤ 2 ^ 32 := by
      have := so.inside base List.mem_cons_self
      omega
    refine (ends_programGroup small width lastEmitMs w').mono (fun r w'' group => ?_)
      fun w'' group => finished (so.group group)
    cases r with
    | inl next => exact so.group group
    | inr failed => exact finished (so.group group)
  · refine ⟨⟨0, refl_of Unpulsed w, fun _ => Budget.zero, fun _ _ _ _ => rfl⟩, apart, inside⟩

theorem BlockDone.onward (done : BlockDone h row w w') (quiet : Unpulsed w' w'') :
    BlockDone h row w w'' := by
  obtain ⟨n, pulses, budget⟩ := done
  exact ⟨n, pulses.onward quiet, budget⟩

theorem BlockDone.after (quiet : Unpulsed w w') (done : BlockDone h row w' w'') :
    BlockDone h row w w'' := by
  obtain ⟨n, pulses, budget⟩ := done
  exact ⟨n, Pulses.after quiet pulses, budget⟩

theorem BlockDone.of_quiet (quiet : Unpulsed w w') : BlockDone h row w w' :=
  ⟨0, quiet, fun _ => Budget.zero⟩

theorem ends_writeBody (found : epromParamsFor w.handle.protocol = some row)
    (width : w.handle.pulseDelay ≤ epromPulseMaxUs) :
    Ends epromInternalWriteExecuteBody env w (fun _ => BlockDone w.handle row w)
      (BlockDone w.handle row w) := by
  unfold epromInternalWriteExecuteBody
  rw [ends_bind, ends_build, ends_bind, ends_getHandle, found]
  refine Within.bind_ends (S := Unpulsed) inferInstance (fun _ w₁ raised => ?_)
    fun _ => BlockDone.of_quiet
  refine Within.bind_ends (S := Unpulsed) inferInstance (fun lastEmitMs w₂ timed => ?_)
    fun _ timed => BlockDone.of_quiet (raised.onward timed)
  have started : Unpulsed w w₂ := raised.onward timed
  rw [ends_bind]
  refine (ends_groups width lastEmitMs w₂).mono (fun programmed w₃ done => ?_)
    fun w₃ done => done.after started
  exact (Within.ends (R := Unpulsed) inferInstance w₃).mono
    (fun _ _ verified => (done.after started).onward verified)
    fun _ verified => (done.after started).onward verified

/-- The whole block, with the regulator before and the final verify after it. -/
theorem ends_writeBlock (found : epromParamsFor w.handle.protocol = some row)
    (width : w.handle.pulseDelay ≤ epromPulseMaxUs) :
    Ends epromWriteExecute env w (fun _ => BlockDone w.handle row w)
      (BlockDone w.handle row w) := by
  unfold epromWriteExecute
  rw [ends_bind]
  refine (ends_writeBody found width).mono (fun _ w₁ done => ?_) fun _ done => done
  exact (Within.ends (R := Unpulsed) inferInstance w₁).mono (fun _ _ off => done.onward off)
    fun _ off => done.onward off

/-! ## What `configure_eprom` lets through -/

/-- An accepted command has a row, and a pulse that fits the counter and the row's cap. -/
structure EpromAccepts (h : Handle) (row : EpromParams) : Prop where
  found : epromParamsFor h.protocol = some row
  width : h.pulseDelay ≤ epromPulseMaxUs
  single : row.energyCapUs ≠ 0 → h.pulseDelay ≤ row.energyCapUs

theorem ends_configureEprom_accepted (w : World) :
    Ends configureEprom env w
      (fun _ w' => w'.handle.responseCode ≠ responseCodeError → ∃ row, EpromAccepts w'.handle row)
      fun _ => True := by
  have refused (id : U8) [ReportId id] (params : List U8) (w : World) :
      Ends (refuse id params) env w (fun _ w' => w'.handle.responseCode ≠ responseCodeError →
        ∃ row, EpromAccepts w'.handle row) fun _ => True :=
    (ends_refuse id params w).mono (fun _ _ done accepted => absurd done.2 accepted)
      fun _ _ => trivial
  unfold configureEprom
  rw [ends_bind, ends_setHandle, ends_bind, ends_update, ends_bind, ends_setHandle, ends_bind,
    ends_getHandle]
  split
  · exact refused _ _ _
  rename_i row found
  refine Ends.when (fun _ => refused _ _ _) fun passed _ => ⟨row, found, ?_, fun capped => ?_⟩
  all_goals
    simp only [gt_iff_lt, Bool.or_eq_false_iff, Bool.and_eq_false_iff, decide_eq_false_iff_not,
      BitVec.not_lt] at passed
  · exact passed.1
  · exact passed.2.resolve_left fun none => capped (BitVec.le_zero_iff.mp none)

/-- Program time given to one byte: every pulse lasts the handle's pulse width. -/
def programTime (events : List Event) (h : Handle) (address : U32) : Nat :=
  pulsesAt events address * h.pulseDelay.toNat

/-- The pulse budget. For an accepted protocol and pulse width a write gives no byte more pulses than
its row allows, and under an energy cap only pulses that begin below it: the time given goes over
the cap by less than one pulse, and not at all when the cap is a multiple of the pulse. -/
theorem eprom_pulse_budget {before configured w : World}
    (ran : configureEprom env before = (some (), configured))
    (accepted : configured.handle.responseCode ≠ responseCodeError)
    (protocol : w.handle.protocol = configured.handle.protocol)
    (pulse : w.handle.pulseDelay = configured.handle.pulseDelay) :
    ∃ row new, epromParamsFor w.handle.protocol = some row ∧
      (epromWriteExecute env w).2.trace = new ++ w.trace ∧
      ∀ address, pulsesAt new address ≤ row.maxPulses.toNat ∧
        (row.energyCapUs ≠ 0 →
          programTime new w.handle address < row.energyCapUs.toNat + w.handle.pulseDelay.toNat ∧
          (w.handle.pulseDelay.toNat ∣ row.energyCapUs.toNat →
            programTime new w.handle address ≤ row.energyCapUs.toNat)) := by
  have configuring : Ends configureEprom env before _ _ := ends_configureEprom_accepted before
  unfold Ends at configuring
  rw [ran] at configuring
  obtain ⟨row, found, width, -⟩ := configuring accepted
  rw [← protocol] at found
  rw [← pulse] at width
  have written : Ends epromWriteExecute env w _ _ := ends_writeBlock found width
  obtain ⟨n, ⟨new, trace, count⟩, budget⟩ := written.state
  refine ⟨row, new, found, trace, fun address => ?_⟩
  have limits := budget address
  rw [← count] at limits
  refine ⟨limits.pulses, fun capped => ⟨limits.energy capped, fun whole => ?_⟩⟩
  -- The time given is a multiple of the pulse width, and so is the cap.
  obtain ⟨k, cap⟩ := whole
  have spent := limits.energy capped
  unfold programTime
  rw [cap] at spent ⊢
  have fewer : pulsesAt new address < k + 1 := by
    refine Nat.lt_of_mul_lt_mul_right (a := w.handle.pulseDelay.toNat) ?_
    rw [Nat.add_mul, Nat.one_mul, Nat.mul_comm k]
    exact spent
  rw [Nat.mul_comm]
  exact Nat.mul_le_mul_left _ (Nat.le_of_lt_succ fewer)

/-- A write of one byte to a 24-pin part, with a pulse of 30 ms. -/
def longPulse : World where
  handle :=
    { cmd := cmdWrite, responseCode := responseCodeOk, protocol := protoEprom24Pin, pins := 24,
      memSize := 2048, pulseDelay := 30000, dataSize := 1,
      firestarterSetControlRegister := some .memorySetControlRegister }
  stored := none
  latches := ⟨0, 0, 0⟩

/-- The driver's answer to it, from a board where the part never takes a pulse. -/
def longPulseSetUp : World := (configureEprom (Env.still ⟨.uno, false⟩ 0) longPulse).2

theorem eprom_pulse_budget_longPulse :
    longPulseSetUp.handle.responseCode ≠ responseCodeError ∧ ∃ row new,
      epromParamsFor longPulseSetUp.handle.protocol = some row ∧
      (epromWriteExecute (Env.still ⟨.uno, false⟩ 0) longPulseSetUp).2.trace =
        new ++ longPulseSetUp.trace ∧
      ∀ address, pulsesAt new address ≤ row.maxPulses.toNat ∧
        (row.energyCapUs ≠ 0 →
          programTime new longPulseSetUp.handle address <
            row.energyCapUs.toNat + longPulseSetUp.handle.pulseDelay.toNat ∧
          (longPulseSetUp.handle.pulseDelay.toNat ∣ row.energyCapUs.toNat →
            programTime new longPulseSetUp.handle address ≤ row.energyCapUs.toNat)) :=
  have ran : configureEprom (Env.still ⟨.uno, false⟩ 0) longPulse = (some (), longPulseSetUp) := rfl
  ⟨by decide +kernel, eprom_pulse_budget ran (by decide +kernel) rfl rfl⟩

/-- The width is accepted, the cap of the row is 50 ms, and the byte gets two pulses: the second
one starts while 30 ms are spent. -/
theorem longPulse_over_cap :
    configureEprom (Env.still ⟨.uno, false⟩ 0) longPulse = (some (), longPulseSetUp) ∧
      longPulseSetUp.handle.responseCode ≠ responseCodeError ∧
      (epromParamsFor longPulseSetUp.handle.protocol).map EpromParams.energyCapUs = some 50000 ∧
      programTime (epromWriteExecute (Env.still ⟨.uno, false⟩ 0) longPulseSetUp).2.trace
        longPulseSetUp.handle 0 = 60000 :=
  ⟨rfl, by decide +kernel, by decide +kernel, by decide +kernel⟩

end Firestarter
