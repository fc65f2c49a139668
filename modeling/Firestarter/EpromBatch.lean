import Firestarter.EpromRoutes
import Firestarter.EventLaws
import Mathlib.Logic.Function.Basic

/-! The batched program loop of an EPROM block against the plain one. The driver reads and pulses
the bytes of a group pass by pass; a cell that answers by its own history alone cannot tell, and
neither can the host. -/
namespace Firestarter

open Interactive Interactive.Prog

set_option synthInstance.maxSize 4000

/-! ## Cells -/

def Access.address : Access → U32
  | .read address _ | .wrote address _ | .flipped address _ => address

/-- What happened to one cell. -/
def history (address : U32) (log : List Access) : List Access :=
  log.filter fun access => access.address == address

/-- Every reading in the log is the answer of its cell to its own history, which began before. -/
def Cellwise (cell : U32 → List Access → U8) : (before : List Access) → List Access → Prop
  | _, [] => True
  | before, .read address data :: rest =>
    data = cell address (history address before) ∧
      Cellwise cell (before ++ [.read address data]) rest
  | before, access :: rest => Cellwise cell (before ++ [access]) rest

instance decidableCellwise (cell : U32 → List Access → U8) :
    (before log : List Access) → Decidable (Cellwise cell before log)
  | _, [] => isTrue trivial
  | before, .read address data :: rest =>
    @instDecidableAnd _ _ _ (decidableCellwise cell (before ++ [.read address data]) rest)
  | before, .wrote address data :: rest =>
    decidableCellwise cell (before ++ [.wrote address data]) rest
  | before, .flipped address data :: rest =>
    decidableCellwise cell (before ++ [.flipped address data]) rest

/-! ## The plain loop -/

/-- The error, the byte and the number of its pulses that a write is given up with. -/
structure BudgetFailure where
  id : U8
  address : U32
  pulses : U8
  deriving DecidableEq, Repr

/-- One byte, from a cell with this history: read, and while it mismatches pulse and read again, as
long as the budgets last. `left` counts the pulses that `max_pulses` still allows. -/
def programByte (answer : List Access → U8) (row : EpromParams) (width address : U32)
    (target : U8) : (left : Nat) → (pulses : U8) → (spent : U32) → List Access →
    List Access × Option BudgetFailure
  | 0, pulses, _, seen =>
    let data := answer seen
    let seen := seen ++ [.read address data]
    if data == target then (seen, none) else (seen, some ⟨msgErrMaxPulses, address, pulses⟩)
  | left + 1, pulses, spent, seen =>
    let data := answer seen
    let seen := seen ++ [.read address data]
    if data == target then (seen, none)
    else if row.energyCapUs != 0 && spent ≥ row.energyCapUs then
      (seen, some ⟨msgErrEnergyCap, address, pulses⟩)
    else
      programByte answer row width address target left (pulses + 1) (spent + width)
        (seen ++ [.wrote address target])

/-- A byte whose target is erased is left alone. -/
def plainByte (cell : U32 → List Access → U8) (h : Handle) (row : EpromParams)
    (seen : U32 → List Access) (i : Nat) : List Access × Option BudgetFailure :=
  if h.dataBuffer i == 0xFF then (seen (h.byteAddress i), none)
  else
    programByte (cell (h.byteAddress i)) row h.pulseDelay (h.byteAddress i) (h.dataBuffer i)
      row.maxPulses.toNat 0 0 (seen (h.byteAddress i))

/-- The bytes one after the other, up to the first failure, with the history of every cell. -/
def plainLoop (cell : U32 → List Access → U8) (h : Handle) (row : EpromParams) :
    List Nat → (U32 → List Access) → (U32 → List Access) × Option BudgetFailure
  | [], seen => (seen, none)
  | i :: rest, seen =>
    match plainByte cell h row seen i with
    | (after, none) => plainLoop cell h row rest (Function.update seen (h.byteAddress i) after)
    | (after, some failure) => (Function.update seen (h.byteAddress i) after, some failure)

section
variable {cell : U32 → List Access → U8} {h : Handle} {row : EpromParams}

theorem plainByte_congr {seen seen' : U32 → List Access} {i : Nat}
    (same : seen' (h.byteAddress i) = seen (h.byteAddress i)) :
    plainByte cell h row seen' i = plainByte cell h row seen i := by
  unfold plainByte
  rw [same]

variable (cell h row)

/-- Bytes that succeed are passed, each with its own cell. -/
theorem plainLoop_passes (items rest : List Nat) (seen : U32 → List Access)
    (small : ∀ i ∈ items, i < 2 ^ 32) (distinct : items.Nodup)
    (succeed : ∀ i ∈ items, (plainByte cell h row seen i).2 = none) :
    ∃ after, plainLoop cell h row (items ++ rest) seen = plainLoop cell h row rest after ∧
      (∀ i ∈ items, after (h.byteAddress i) = (plainByte cell h row seen i).1) ∧
      ∀ address, (∀ i ∈ items, h.byteAddress i ≠ address) → after address = seen address := by
  induction items generalizing seen with
  | nil => exact ⟨seen, rfl, nofun, fun _ _ => rfl⟩
  | cons i items ih =>
    obtain ⟨new, distinct⟩ := List.nodup_cons.mp distinct
    obtain ⟨first, items_small⟩ := List.forall_mem_cons.mp small
    obtain ⟨fits, items_fit⟩ := List.forall_mem_cons.mp succeed
    obtain ⟨after, result⟩ : ∃ after, plainByte cell h row seen i = (after, none) :=
      ⟨_, Prod.ext rfl fits⟩
    have apart (j : Nat) (member : j ∈ items) : h.byteAddress j ≠ h.byteAddress i := by
      intro same
      have same := Handle.byteAddress_inj (items_small j member) first same
      exact new (same ▸ member)
    have others (j : Nat) (member : j ∈ items) :
        plainByte cell h row (Function.update seen (h.byteAddress i) after) j =
          plainByte cell h row seen j :=
      plainByte_congr (Function.update_of_ne (apart j member) after seen)
    obtain ⟨last, run, inside, outside⟩ := ih (Function.update seen (h.byteAddress i) after)
      items_small distinct fun j member => by rw [others j member]; exact items_fit j member
    refine ⟨last, ?_, fun j member => ?_, fun address other => ?_⟩
    · rw [List.cons_append, plainLoop, result]
      exact run
    · cases List.mem_cons.mp member with
      | inl here =>
        subst here
        rw [outside _ apart, Function.update_self, result]
      | inr later => rw [inside j later, others j later]
    · obtain ⟨here, other⟩ := List.forall_mem_cons.mp other
      rw [outside address other, Function.update_of_ne here.symm]

theorem plainLoop_done (seen : U32 → List Access) {n : Nat} (small : n ≤ 2 ^ 32)
    (succeed : ∀ i < n, (plainByte cell h row seen i).2 = none) :
    ∃ after, plainLoop cell h row (List.range n) seen = (after, none) ∧
      ∀ i < n, after (h.byteAddress i) = (plainByte cell h row seen i).1 := by
  obtain ⟨after, run, inside, -⟩ := plainLoop_passes cell h row
    (List.range n) [] seen (fun i member => by have := List.mem_range.mp member; omega)
    List.nodup_range fun i member => succeed i (List.mem_range.mp member)
  rw [List.append_nil] at run
  exact ⟨after, run, fun i below => inside i (List.mem_range.mpr below)⟩

theorem plainLoop_stops (seen : U32 → List Access) {n k : Nat} (small : n ≤ 2 ^ 32) (below : k < n)
    (succeed : ∀ i < k, (plainByte cell h row seen i).2 = none) {failure : BudgetFailure}
    (fails : (plainByte cell h row seen k).2 = some failure) :
    ∃ after, plainLoop cell h row (List.range n) seen = (after, some failure) ∧
      ∀ i < k, after (h.byteAddress i) = (plainByte cell h row seen i).1 := by
  obtain ⟨m, rfl⟩ : ∃ m, n = k + (m + 1) := ⟨n - k - 1, by omega⟩
  have split : List.range (k + (m + 1)) =
      List.range k ++ k :: (List.range m).map fun i => k + (i + 1) := by
    rw [List.range_add, List.range_succ_eq_map, List.map_cons, List.map_map]
    rfl
  obtain ⟨after, run, inside, outside⟩ := plainLoop_passes cell h row
    (List.range k) (k :: (List.range m).map fun i => k + (i + 1)) seen
    (fun i member => by have := List.mem_range.mp member; omega) List.nodup_range
    fun i member => succeed i (List.mem_range.mp member)
  have apart (i : Nat) (earlier : i < k) : h.byteAddress i ≠ h.byteAddress k := by
    intro same
    have same := Handle.byteAddress_inj (by omega) (by omega) same
    omega
  have untouched : after (h.byteAddress k) = seen (h.byteAddress k) :=
    outside _ fun i member => apart i (List.mem_range.mp member)
  obtain ⟨last, result⟩ : ∃ last, plainByte cell h row after k = (last, some failure) :=
    ⟨_, Prod.ext rfl ((congrArg Prod.snd (plainByte_congr untouched)).trans fails)⟩
  refine ⟨Function.update after (h.byteAddress k) last, ?_, fun i earlier => ?_⟩
  · rw [split, run, plainLoop, result]
  · rw [Function.update_of_ne (apart i earlier), inside i (List.mem_range.mpr earlier)]

end

/-! ## What is told of a run -/

/-- The histories after one more access. -/
def noted (seen : U32 → List Access) (access : Access) (address : U32) : List Access :=
  if access.address = address then seen address ++ [access] else seen address

theorem history_snoc (log : List Access) (access : Access) :
    (fun address => history address (log ++ [access])) =
      noted (fun address => history address log) access := by
  funext address
  by_cases here : access.address = address
  · simp [history, noted, here]
  · simp [history, noted, here]

theorem noted_other {seen : U32 → List Access} {access : Access} {address : U32}
    (other : access.address ≠ address) : noted seen access address = seen address := if_neg other

theorem cellwise_append {cell : U32 → List Access → U8} {before log log' : List Access} :
    Cellwise cell before (log ++ log') ↔
      Cellwise cell before log ∧ Cellwise cell (before ++ log) log' := by
  induction log generalizing before with
  | nil => simp [Cellwise]
  | cons access log ih =>
    rw [List.append_cons before, List.cons_append]
    cases access with
    | read address data => simp only [Cellwise, ih, and_assoc]
    | wrote address data | flipped address data => simp only [Cellwise, ih]

/-- The accesses go to bytes of the block whose target is not erased. -/
def InBlock (h : Handle) (log : List Access) : Prop :=
  ∀ access ∈ log, ∃ i < h.blockLen, access.address = h.byteAddress i ∧ h.dataBuffer i ≠ 0xFF

/-- A run on the block, and what holds of the histories after it if the chip answers cell by
cell. -/
def Told (cell : U32 → List Access → U8) (h : Handle) (P : (U32 → List Access) → Prop)
    (w w' : World) : Prop :=
  ∃ log, Accesses log w w' ∧ InBlock h log ∧
    (Cellwise cell (accessLog w.trace) log → P fun address => history address (accessLog w.trace ++ log))

namespace Told

variable {cell : U32 → List Access → U8} {h : Handle} {P P' : (U32 → List Access) → Prop}
variable {w w' w'' : World}

theorem start (known : P fun address => history address (accessLog w.trace)) : Told cell h P w w := by
  refine ⟨[], refl_of Silent w, nofun, fun _ => ?_⟩
  rw [List.append_nil]
  exact known

theorem mono (told : Told cell h P w w') (known : ∀ seen, P seen → P' seen) :
    Told cell h P' w w' := by
  obtain ⟨log, done, inside, holds⟩ := told
  exact ⟨log, done, inside, fun chip => known _ (holds chip)⟩

theorem silent (told : Told cell h P w w') (quiet : Silent w' w'') : Told cell h P w w'' := by
  obtain ⟨log, done, inside, holds⟩ := told
  exact ⟨log, done.onward quiet, inside, holds⟩

/-- One more access. A reading is known to be the answer of its cell. -/
theorem access {access : Access} (told : Told cell h P w w') (done : Accesses [access] w' w'')
    {i : Nat} (inside : i < h.blockLen) (here : access.address = h.byteAddress i)
    (target : h.dataBuffer i ≠ 0xFF)
    (known : ∀ seen, P seen →
      (∀ data, access = .read (h.byteAddress i) data →
        data = cell (h.byteAddress i) (seen (h.byteAddress i))) → P' (noted seen access)) :
    Told cell h P' w w'' := by
  obtain ⟨log, before, block, holds⟩ := told
  refine ⟨log ++ [access], before.trans done, fun other member => ?_, fun chip => ?_⟩
  · cases List.mem_append.mp member with
    | inl earlier => exact block other earlier
    | inr now =>
      obtain rfl := List.mem_singleton.mp now
      exact ⟨i, inside, here, target⟩
  · obtain ⟨earlier, now⟩ := cellwise_append.mp chip
    rw [← List.append_assoc, history_snoc]
    refine known _ (holds earlier) fun data same => ?_
    subst same
    exact now.1

end Told

/-! ## Where a byte stands -/

/-- What follows a reading that mismatched. -/
def afterMiss (answer : List Access → U8) (row : EpromParams) (width address : U32) (target : U8) :
    (left : Nat) → (pulses : U8) → (spent : U32) → List Access →
    List Access × Option BudgetFailure
  | 0, pulses, _, seen => (seen, some ⟨msgErrMaxPulses, address, pulses⟩)
  | left + 1, pulses, spent, seen =>
    if row.energyCapUs != 0 && spent ≥ row.energyCapUs then
      (seen, some ⟨msgErrEnergyCap, address, pulses⟩)
    else
      programByte answer row width address target left (pulses + 1) (spent + width)
        (seen ++ [.wrote address target])

theorem programByte_eq (answer : List Access → U8) (row : EpromParams) (width address : U32)
    (target : U8) (left : Nat) (pulses : U8) (spent : U32) (seen : List Access) :
    programByte answer row width address target left pulses spent seen =
      if answer seen == target then (seen ++ [.read address (answer seen)], none)
      else afterMiss answer row width address target left pulses spent
        (seen ++ [.read address (answer seen)]) := by
  cases left <;> rfl

/-- What is left to do for a byte: nothing, a reading, or a pulse after a reading that mismatched,
with so many pulses and so much of the energy behind it. -/
inductive ByteState where
  | done
  | due (pulses : U8) (spent : U32)
  | missed (pulses : U8) (spent : U32)

section
variable (cell : U32 → List Access → U8) (h : Handle) (row : EpromParams)
variable (start : U32 → List Access)

/-- From this state on, the byte goes on as in the plain loop. -/
def ByteState.Of (i : Nat) (seen : U32 → List Access) : ByteState → Prop
  | .done => plainByte cell h row start i = (seen (h.byteAddress i), none)
  | .due pulses spent =>
    plainByte cell h row start i = programByte (cell (h.byteAddress i)) row h.pulseDelay
      (h.byteAddress i) (h.dataBuffer i) (row.maxPulses.toNat - pulses.toNat) pulses spent
      (seen (h.byteAddress i))
  | .missed pulses spent =>
    plainByte cell h row start i = afterMiss (cell (h.byteAddress i)) row h.pulseDelay
      (h.byteAddress i) (h.dataBuffer i) (row.maxPulses.toNat - pulses.toNat) pulses spent
      (seen (h.byteAddress i))

/-- The block while one of its groups is programmed. -/
structure GroupSo (base groupLen : Nat) (inner : Nat → ByteState) (seen : U32 → List Access) :
    Prop where
  earlier : ∀ i < base, ByteState.done.Of cell h row start i seen
  inner : ∀ i < groupLen, (inner i).Of cell h row start (base + i) seen
  later : ∀ i < h.blockLen, base + groupLen ≤ i →
    seen (h.byteAddress i) = start (h.byteAddress i)

end

section
variable {cell : U32 → List Access → U8} {h : Handle} {row : EpromParams}
variable {start seen seen' : U32 → List Access} {base groupLen k : Nat} {inner inner' : Nat → ByteState}

theorem ByteState.Of.congr {state : ByteState} {i : Nat} (of : state.Of cell h row start i seen)
    (same : seen' (h.byteAddress i) = seen (h.byteAddress i)) :
    state.Of cell h row start i seen' := by
  cases state <;> (unfold ByteState.Of at of ⊢; rw [same]; exact of)

/-- A matching reading ends the byte, any other leaves it short. -/
theorem ByteState.Of.read {i : Nat} {pulses : U8} {spent : U32}
    (of : (ByteState.due pulses spent).Of cell h row start i seen) {data : U8}
    (answered : data = cell (h.byteAddress i) (seen (h.byteAddress i))) :
    (if data == h.dataBuffer i then ByteState.done else .missed pulses spent).Of cell h row start i
      (noted seen (.read (h.byteAddress i) data)) := by
  have now : noted seen (.read (h.byteAddress i) data) (h.byteAddress i) =
      seen (h.byteAddress i) ++ [.read (h.byteAddress i) data] := if_pos rfl
  dsimp only [ByteState.Of] at of
  rw [programByte_eq, ← answered] at of
  split at of
  · rename_i hit
    rw [if_pos hit]
    exact of.trans (by rw [now])
  · rename_i differs
    rw [if_neg differs]
    exact of.trans (by rw [now])

/-- The pulse of a byte that may still have one. -/
theorem ByteState.Of.pulse {i : Nat} {pulses : U8} {spent : U32}
    (of : (ByteState.missed pulses spent).Of cell h row start i seen)
    (allowed : pulses < row.maxPulses)
    (energy : ¬ (row.energyCapUs != 0 && decide (spent ≥ row.energyCapUs)) = true) :
    (ByteState.due (pulses + 1) (spent + h.pulseDelay)).Of cell h row start i
      (noted seen (.wrote (h.byteAddress i) (h.dataBuffer i))) := by
  have now : noted seen (.wrote (h.byteAddress i) (h.dataBuffer i)) (h.byteAddress i) =
      seen (h.byteAddress i) ++ [.wrote (h.byteAddress i) (h.dataBuffer i)] := if_pos rfl
  have allowed := BitVec.lt_def.mp allowed
  have count : (pulses + 1).toNat = pulses.toNat + 1 := by
    have bound := row.maxPulses.isLt
    rw [BitVec.toNat_add]
    exact Nat.mod_eq_of_lt (by simp; omega)
  have left : row.maxPulses.toNat - pulses.toNat =
      row.maxPulses.toNat - (pulses + 1).toNat + 1 := by omega
  dsimp only [ByteState.Of] at of ⊢
  rw [left, afterMiss, if_neg energy] at of
  rw [now]
  exact of

/-- An access to one byte of a group moves that byte alone. -/
theorem GroupSo.noted (so : GroupSo cell h row start base groupLen inner seen)
    (fits : base + groupLen ≤ h.blockLen) (inside : k < groupLen) {access : Access}
    (here : access.address = h.byteAddress (base + k))
    (others : ∀ i < groupLen, i ≠ k → inner' i = inner i)
    (now : (inner' k).Of cell h row start (base + k) (noted seen access)) :
    GroupSo cell h row start base groupLen inner' (noted seen access) := by
  have room : h.blockLen < 2 ^ 16 := (h.dataSize.setWidth 16 : U16).isLt
  have apart {i : Nat} (bound : i < h.blockLen) (other : i ≠ base + k) :
      Firestarter.noted seen access (h.byteAddress i) = seen (h.byteAddress i) := by
    refine noted_other fun same => other ?_
    exact (Handle.byteAddress_inj (by omega) (by omega) (here.symm.trans same)).symm
  refine ⟨fun i before => ?_, fun i below => ?_, fun i bound after => ?_⟩
  · exact (so.earlier i before).congr (apart (by omega) (by omega))
  · by_cases same : i = k
    · subst same
      exact now
    · rw [others i below same]
      exact (so.inner i below).congr (apart (by omega) (by omega))
  · rw [apart bound (by omega)]
    exact so.later i bound after

theorem GroupSo.congr (so : GroupSo cell h row start base groupLen inner seen)
    (same : ∀ i < groupLen, inner' i = inner i) :
    GroupSo cell h row start base groupLen inner' seen :=
  ⟨so.earlier, fun i below => same i below ▸ so.inner i below, so.later⟩

end

/-! ## A scan -/

theorem flagPending_self (pending : Nat → Bool) (i : Nat) (flagged : Bool) :
    flagPending pending i flagged i = flagged := if_pos rfl

theorem flagPending_other {pending : Nat → Bool} {i j : Nat} (other : j ≠ i) (flagged : Bool) :
    flagPending pending i flagged j = pending j := if_neg other

theorem flagPending_same {pending : Nat → Bool} {i : Nat} {flagged : Bool}
    (same : pending i = flagged) : flagPending pending i flagged = pending := by
  funext j
  by_cases here : j = i
  · rw [here, flagPending_self, same]
  · rw [flagPending_other here]

/-- The bytes of a group while a scan looks at byte `k`. -/
def scanned (h : Handle) (base : Nat) (pass : Pass) (pending : Nat → Bool) (k i : Nat) : ByteState :=
  if i < k then if pending i then .missed pass.pulses pass.accumulated else .done
  else if h.dataBuffer (base + i) ≠ 0xFF ∧ (pass.pulses = 0 ∨ pass.pending i = true) then
    .due pass.pulses pass.accumulated
  else .done

theorem scanned_other {h : Handle} {base k i : Nat} {pass : Pass} {pending pending' : Nat → Bool}
    (other : i ≠ k) (same : pending' i = pending i) :
    scanned h base pass pending' (k + 1) i = scanned h base pass pending k i := by
  unfold scanned
  rw [same]
  by_cases behind : i < k
  · rw [if_pos behind, if_pos (by omega)]
  · rw [if_neg behind, if_neg (by omega)]

theorem scanned_behind (h : Handle) (base k : Nat) (pass : Pass) (pending : Nat → Bool) :
    scanned h base pass pending (k + 1) k =
      if pending k then .missed pass.pulses pass.accumulated else .done :=
  if_pos (Nat.lt_succ_self k)

theorem scanned_here (h : Handle) (base k : Nat) (pass : Pass) (pending : Nat → Bool) :
    scanned h base pass pending k k =
      if h.dataBuffer (base + k) ≠ 0xFF ∧ (pass.pulses = 0 ∨ pass.pending k = true) then
        .due pass.pulses pass.accumulated
      else .done :=
  if_neg (Nat.lt_irrefl k)

/-- The locals of a scan that looks at byte `k`. -/
structure ScanSo (h : Handle) (base groupLen : Nat) (pass : Pass) (k : Nat) (scan : Scan) :
    Prop where
  ahead : ∀ i, k ≤ i → scan.pending i = pass.pending i
  flagged : ∀ i < groupLen, scan.pending i = true → h.dataBuffer (base + i) ≠ 0xFF
  first : (scan.remaining = 0 ∧ ∀ i < k, scan.pending i = false) ∨
    (scan.remaining ≠ 0 ∧ ∃ j < k, scan.firstBad = h.byteAddress (base + j) ∧
      scan.pending j = true ∧ ∀ i < j, scan.pending i = false)

namespace ScanSo

variable {h : Handle} {base groupLen k : Nat} {pass : Pass} {scan : Scan}

/-- The byte needs no pulse. -/
theorem clear (so : ScanSo h base groupLen pass k scan) (lastEmitMs : U32) :
    ScanSo h base groupLen pass (k + 1)
      { scan with pending := flagPending scan.pending k false, lastEmitMs := lastEmitMs } := by
  have other {i : Nat} (apart : i ≠ k) : flagPending scan.pending k false i = scan.pending i :=
    flagPending_other apart false
  refine ⟨fun i ahead => (other (by omega)).trans (so.ahead i (by omega)),
    fun i below flagged => ?_, ?_⟩
  · by_cases here : i = k
    · subst here
      exact absurd ((flagPending_self _ _ _).symm.trans flagged) Bool.false_ne_true
    · exact so.flagged i below ((other here).symm.trans flagged)
  · rcases so.first with ⟨zero, behind⟩ | ⟨more, j, before, address, short, earlier⟩
    · refine .inl ⟨zero, fun i before => ?_⟩
      by_cases here : i = k
      · subst here
        exact flagPending_self _ _ _
      · exact (other here).trans (behind i (by omega))
    · refine .inr ⟨more, j, by omega, address, (other (by omega)).trans short, fun i less => ?_⟩
      exact (other (by omega)).trans (earlier i less)

/-- The byte is short, and perhaps the first one. -/
theorem flag (so : ScanSo h base groupLen pass k scan) (target : h.dataBuffer (base + k) ≠ 0xFF)
    (lastEmitMs : U32) :
    ScanSo h base groupLen pass (k + 1)
      { pending := flagPending scan.pending k true
        firstBad := if scan.remaining == 0 then h.byteAddress (base + k) else scan.firstBad
        remaining := scan.remaining + 1
        lastEmitMs := lastEmitMs } := by
  have other {i : Nat} (apart : i ≠ k) : flagPending scan.pending k true i = scan.pending i :=
    flagPending_other apart true
  refine ⟨fun i ahead => (other (by omega)).trans (so.ahead i (by omega)),
    fun i below flagged => ?_, .inr ⟨Nat.succ_ne_zero _, ?_⟩⟩
  · by_cases here : i = k
    · rw [here]
      exact target
    · exact so.flagged i below ((other here).symm.trans flagged)
  · rcases so.first with ⟨zero, behind⟩ | ⟨more, j, before, address, short, earlier⟩
    · refine ⟨k, by omega, if_pos (beq_iff_eq.mpr zero), flagPending_self _ _ _, fun i less => ?_⟩
      exact (other (by omega)).trans (behind i less)
    · refine ⟨j, by omega, (if_neg (by simpa using more)).trans address,
        (other (by omega)).trans short, fun i less => ?_⟩
      exact (other (by omega)).trans (earlier i less)

end ScanSo

section
variable {env : Env} {cell : U32 → List Access → U8} {h : Handle} {row : EpromParams}
variable {start : U32 → List Access} {base groupLen k : Nat} {pass : Pass} {scan : Scan}
variable {w w' : World}

instance (h : Handle) (address : U32) (pulses : U8) (lastEmitMs : U32) :
    Within env Silent (emitProgress h address pulses lastEmitMs) := by
  unfold emitProgress
  infer_instance

/-- What is told of a scan at byte `k`. -/
def ScanTold (cell : U32 → List Access → U8) (h : Handle) (row : EpromParams)
    (start : U32 → List Access) (base groupLen : Nat) (pass : Pass) (w : World) (k : Nat)
    (scan : Scan) (w' : World) : Prop :=
  ScanSo h base groupLen pass k scan ∧
    Told cell h (GroupSo cell h row start base groupLen (scanned h base pass scan.pending k)) w w'

/-- A byte that is not read stays done. -/
theorem ScanTold.skip (told : ScanTold cell h row start base groupLen pass w k scan w')
    (unflagged : scan.pending k = false)
    (unread : ¬ (h.dataBuffer (base + k) ≠ 0xFF ∧ (pass.pulses = 0 ∨ pass.pending k = true)))
    (lastEmitMs : U32) :
    ScanTold cell h row start base groupLen pass w (k + 1) { scan with lastEmitMs := lastEmitMs }
      w' := by
  obtain ⟨so, told⟩ := told
  have next := so.clear lastEmitMs
  rw [flagPending_same unflagged] at next
  refine ⟨next, told.mono fun seen group => group.congr fun i below => ?_⟩
  show scanned h base pass scan.pending (k + 1) i = _
  by_cases here : i = k
  · rw [here, scanned_behind, scanned_here, if_neg unread, unflagged]
    rfl
  · exact scanned_other here rfl

theorem ends_scanByte (fits : base + groupLen ≤ h.blockLen) (below : k < groupLen)
    (told : ScanTold cell h row start base groupLen pass w k scan w') :
    Ends (scanByte h base pass.pulses scan k) env w'
      (fun scan w'' => ScanTold cell h row start base groupLen pass w (k + 1) scan w'')
      (fun _ => False) := by
  have ahead : scan.pending k = pass.pending k := told.1.ahead k (Nat.le_refl k)
  unfold scanByte
  split
  · rename_i skipped
    have skipped : pass.pulses ≠ 0 ∧ scan.pending k = false := by simpa using skipped
    refine told.skip skipped.2 (fun read => read.2.elim skipped.1 fun flagged => ?_) _
    exact Bool.noConfusion ((skipped.2.symm.trans ahead).trans flagged)
  rename_i looked
  have looked : pass.pulses = 0 ∨ pass.pending k = true := by
    rw [← ahead]
    by_cases first : pass.pulses = 0
    · exact .inl first
    · have flagged : ¬ pass.pulses = 0 → scan.pending k = true := by simpa using looked
      exact .inr (flagged first)
  refine Within.bind_completes (S := Silent) fun lastEmitMs w₁ quiet => ?_
  have told : ScanTold cell h row start base groupLen pass w k scan w₁ :=
    ⟨told.1, told.2.silent quiet⟩
  dsimp only
  split
  · rename_i erased
    have erased : h.dataBuffer (base + k) = 0xFF := beq_iff_eq.mp erased
    refine told.skip ?_ (fun read => read.1 erased) lastEmitMs
    by_contra flagged
    exact told.1.flagged k below (by simpa using flagged) erased
  rename_i target
  have target : h.dataBuffer (base + k) ≠ 0xFF := by simpa using target
  obtain ⟨so, told⟩ := told
  rw [ends_bind]
  refine (memoryGetData_log w₁ (h.byteAddress (base + k))).mono (fun data w₂ done => ?_) fun _ => id
  have read : Told cell h (fun seen => ∃ before, GroupSo cell h row start base groupLen
      (scanned h base pass scan.pending k) before ∧
      seen = noted before (.read (h.byteAddress (base + k)) data) ∧
      (if data == h.dataBuffer (base + k) then ByteState.done
        else .missed pass.pulses pass.accumulated).Of cell h row start (base + k) seen) w w₂ := by
    refine told.access done (by omega) rfl target fun seen group answer => ⟨seen, group, rfl, ?_⟩
    have due := group.inner k below
    rw [scanned_here, if_pos ⟨target, looked⟩] at due
    exact due.read (answer data rfl)
  have moved (flagged : Bool) (same : (if data == h.dataBuffer (base + k) then ByteState.done
      else .missed pass.pulses pass.accumulated) =
        if flagged then .missed pass.pulses pass.accumulated else .done) :
      Told cell h (GroupSo cell h row start base groupLen
        (scanned h base pass (flagPending scan.pending k flagged) (k + 1))) w w₂ := by
    refine read.mono fun seen known => ?_
    obtain ⟨before, group, rfl, now⟩ := known
    refine group.noted fits below rfl (fun i _ other => ?_) ?_
    · exact scanned_other other (flagPending_other other flagged)
    · rw [scanned_behind, flagPending_self, ← same]
      exact now
  split
  · rename_i hit
    have hit : (data == h.dataBuffer (base + k)) = true := hit
    exact ⟨so.clear lastEmitMs, moved false (by rw [if_pos hit]; rfl)⟩
  · rename_i differs
    have differs : ¬ (data == h.dataBuffer (base + k)) = true := differs
    exact ⟨so.flag target lastEmitMs, moved true (by rw [if_neg differs]; rfl)⟩

theorem ends_scan (fits : base + groupLen ≤ h.blockLen)
    (told : ScanTold cell h row start base groupLen pass w 0 scan w') :
    Ends ((List.range groupLen).foldlM (scanByte h base pass.pulses) scan) env w'
      (fun scan w'' => ScanTold cell h row start base groupLen pass w groupLen scan w'')
      (fun _ => False) :=
  ends_foldlM_range (fun k scan w'' => ScanTold cell h row start base groupLen pass w k scan w'')
    (fun _ below _ _ told => ends_scanByte fits below told) told

/-! ## A pulse pass -/

/-- The bytes of a group while a pulse pass is at byte `k`. -/
def pulsed (pass : Pass) (width : U32) (pending : Nat → Bool) (k i : Nat) : ByteState :=
  if pending i then
    if i < k then .due (pass.pulses + 1) (pass.accumulated + width)
    else .missed pass.pulses pass.accumulated
  else .done

theorem pulsed_other {width : U32} {pending : Nat → Bool} {i : Nat} (other : i ≠ k) :
    pulsed pass width pending (k + 1) i = pulsed pass width pending k i := by
  have same : i < k + 1 ↔ i < k := by omega
  unfold pulsed
  simp only [same]

theorem EpromSetters.accesses {log : List Access} (setters : EpromSetters w)
    (done : Accesses log w w') : EpromSetters w' :=
  ⟨(congrArg Handle.firestarterSetControlRegister done.handle).trans setters.handle,
    done.pointer.trans setters.saved⟩

theorem Told.setters {P : (U32 → List Access) → Prop} (told : Told cell h P w w')
    (setters : EpromSetters w) : EpromSetters w' :=
  told.elim fun _ known => setters.accesses known.1

theorem ends_setControlRegister_silent (setters : EpromSetters w) (bit : Reg) (state : Bool) :
    Ends (setControlRegister bit state) env w (fun _ w' => Silent w w') (fun _ => False) :=
  ((ends_setControlRegister setters bit state).and (Within.ends (R := Silent) inferInstance w)).mono
    (fun _ _ both => both.2) fun _ both => both.1

theorem ends_pulsePass_told (setters : EpromSetters w) (fits : base + groupLen ≤ h.blockLen)
    {pending : Nat → Bool}
    (flagged : ∀ i < groupLen, pending i = true → h.dataBuffer (base + i) ≠ 0xFF)
    (allowed : pass.pulses < row.maxPulses)
    (energy : ¬ (row.energyCapUs != 0 && decide (pass.accumulated ≥ row.energyCapUs)) = true)
    (told : Told cell h
      (GroupSo cell h row start base groupLen (pulsed pass h.pulseDelay pending 0)) w w') :
    Ends (pulsePass h base groupLen pending) env w'
      (fun _ w'' => Told cell h
        (GroupSo cell h row start base groupLen (pulsed pass h.pulseDelay pending groupLen)) w w'')
      (fun _ => False) := by
  unfold pulsePass
  rw [ends_bind]
  refine (ends_setControlRegister_silent (told.setters setters) _ _).mono (fun _ w₁ up => ?_)
    fun _ => id
  refine Within.bind_completes (S := Silent) fun _ w₂ settled => ?_
  rw [ends_bind]
  refine (ends_forM_range (s := w₂) (fun k w'' => Told cell h
    (GroupSo cell h row start base groupLen (pulsed pass h.pulseDelay pending k)) w w'')
    (fun k below s told => ?_) ((told.silent up).silent settled)).mono (fun _ w₃ told => ?_)
    fun _ => id
  · refine Ends.when (fun short => ?_) fun rests => ?_
    · have target := flagged k below short
      refine (memorySetData_log s (h.byteAddress (base + k)) (h.dataBuffer (base + k))).mono
        (fun _ s' done => ?_) fun _ => id
      refine told.access done (by omega) rfl target fun seen group _ => ?_
      refine group.noted fits below rfl (fun i _ other => pulsed_other other) ?_
      have missed := group.inner k below
      unfold pulsed at missed ⊢
      rw [if_pos short, if_neg (Nat.lt_irrefl k)] at missed
      rw [if_pos short, if_pos (Nat.lt_succ_self k)]
      exact missed.pulse allowed energy
    · refine told.mono fun seen group => group.congr fun i _ => ?_
      by_cases here : i = k
      · unfold pulsed
        rw [here, rests]
        rfl
      · exact pulsed_other here
  refine Within.bind_completes (S := Silent) fun _ w₄ held => ?_
  have told := told.silent held
  exact (ends_setControlRegister_silent (told.setters setters) _ _).mono
    (fun _ _ down => told.silent down) fun _ => id

/-! ## A group -/

/-- The plain loop fails at this byte, and succeeds before it. -/
def FailsAt (cell : U32 → List Access → U8) (h : Handle) (row : EpromParams)
    (start : U32 → List Access) (failure : BudgetFailure) (seen : U32 → List Access) : Prop :=
  ∃ k < h.blockLen, failure.address = h.byteAddress k ∧
    plainByte cell h row start k = (seen (h.byteAddress k), some failure) ∧
    ∀ i < k, ByteState.done.Of cell h row start i seen

/-- The block was given up: the failure was reported, and nothing else happened after it. -/
def GaveUp (env : Env) (cell : U32 → List Access → U8) (h : Handle) (row : EpromParams)
    (start : U32 → List Access) (w w' : World) : Prop :=
  ∃ failure w₁, Told cell h (FailsAt cell h row start failure) w w₁ ∧
    epromInternalReportBudgetFailure failure.address failure.pulses failure.id env w₁ =
      (some (), w')

theorem ends_report (setters : EpromSetters w) (address : U32) (pulses id : U8) :
    Ends (epromInternalReportBudgetFailure address pulses id) env w
      (fun _ w' => epromInternalReportBudgetFailure address pulses id env w = (some (), w'))
      (fun _ => False) := by
  have whole : Ends (epromInternalReportBudgetFailure address pulses id) env w
      (fun _ _ => True) (fun _ => False) := by
    unfold epromInternalReportBudgetFailure epromHvAllOff
    rw [ends_bind, ends_bind, ends_build]
    refine (ends_setControlRegister setters _ _).mono (fun _ w₁ _ => ?_) fun _ never => never
    exact Completes.ends w₁
  exact ((ends_run _ env w).and whole).mono (fun _ _ both => both.1) fun _ both => both.2

/-- A group between two passes. -/
structure PassSo (cell : U32 → List Access → U8) (h : Handle) (row : EpromParams)
    (start : U32 → List Access) (base groupLen : Nat) (w : World) (pass : Pass) (w' : World) :
    Prop where
  budget : pass.pulses ≤ row.maxPulses
  flagged : ∀ i < groupLen, pass.pending i = true → h.dataBuffer (base + i) ≠ 0xFF
  told : Told cell h
    (GroupSo cell h row start base groupLen (scanned h base pass pass.pending 0)) w w'

/-- How a group is left. -/
def GroupLeft (env : Env) (cell : U32 → List Access → U8) (h : Handle) (row : EpromParams)
    (start : U32 → List Access) (base groupLen : Nat) (w : World) (ended : Option U32)
    (w' : World) : Prop :=
  match ended with
  | some _ => Told cell h (GroupSo cell h row start base groupLen fun _ => .done) w w'
  | none => GaveUp env cell h row start w w'

/-- The budget that is used up is the one that ends the plain loop at the first byte still short. -/
theorem gaveUp_of_scan (setters : EpromSetters w) (fits : base + groupLen ≤ h.blockLen)
    (scan_ : ScanTold cell h row start base groupLen pass w groupLen scan w')
    (short : scan.remaining ≠ 0) {id : U8}
    (spent : ∀ i seen, afterMiss (cell (h.byteAddress i)) row h.pulseDelay (h.byteAddress i)
      (h.dataBuffer i) (row.maxPulses.toNat - pass.pulses.toNat) pass.pulses pass.accumulated seen =
        (seen, some ⟨id, h.byteAddress i, pass.pulses⟩)) :
    Ends (do
      epromInternalReportBudgetFailure scan.firstBad pass.pulses id
      return .inr none : Fw (Pass ⊕ Option U32)) env w'
      (fun r w'' => ∃ ended, r = .inr ended ∧ GroupLeft env cell h row start base groupLen w ended w'')
      (fun _ => False) := by
  obtain ⟨so, told⟩ := scan_
  rw [ends_bind]
  refine (ends_report (told.setters setters) _ _ _).mono (fun _ w'' reported => ?_) fun _ never => never.elim
  refine ⟨none, rfl, ⟨id, scan.firstBad, pass.pulses⟩, w', ?_, reported⟩
  obtain ⟨zero, -⟩ | ⟨-, j, below, address, missed, earlier⟩ := so.first
  · exact (short zero).elim
  refine told.mono fun seen group => ⟨base + j, by omega, address, ?_, fun i before => ?_⟩
  · have at_ := group.inner j below
    unfold scanned at at_
    rw [if_pos below, if_pos missed] at at_
    exact at_.trans ((spent _ _).trans (by rw [address]))
  · by_cases outside : i < base
    · exact group.earlier i outside
    · obtain ⟨d, rfl⟩ := Nat.exists_eq_add_of_le (Nat.not_lt.mp outside)
      have done := group.inner d (by omega)
      unfold scanned at done
      rw [if_pos (by omega), earlier d (by omega)] at done
      exact done

theorem ends_passTurn_told (setters : EpromSetters w) (fits : base + groupLen ≤ h.blockLen)
    (so : PassSo cell h row start base groupLen w pass w') :
    Ends (passTurn h row base groupLen pass) env w'
      (fun r w'' => match r with
        | .inl next => next.pulses.toNat = pass.pulses.toNat + 1 ∧
          PassSo cell h row start base groupLen w next w''
        | .inr ended => GroupLeft env cell h row start base groupLen w ended w'')
      (fun _ => False) := by
  unfold passTurn
  rw [ends_bind]
  refine (ends_scan fits ⟨⟨fun _ _ => rfl, so.flagged, .inl ⟨rfl, nofun⟩⟩, so.told⟩).mono
    (fun scan w₁ scan_ => ?_) fun _ => id
  obtain ⟨so', told⟩ := id scan_
  have behind (i : Nat) (below : i < groupLen) :
      scanned h base pass scan.pending groupLen i =
        if scan.pending i then .missed pass.pulses pass.accumulated else .done := if_pos below
  split
  · rename_i zero
    have zero : scan.remaining = 0 := beq_iff_eq.mp zero
    obtain ⟨-, rests⟩ | ⟨more, -⟩ := so'.first
    · refine told.mono fun seen group => group.congr fun i below => ?_
      rw [behind i below, rests i below]
      rfl
    · exact (more zero).elim
  rename_i short
  have short : scan.remaining ≠ 0 := by simpa using short
  have leave {m : Fw (Pass ⊕ Option U32)} (gaveUp : Ends m env w₁ (fun r w'' => ∃ ended,
      r = .inr ended ∧ GroupLeft env cell h row start base groupLen w ended w'') fun _ => False) :
      Ends m env w₁ (fun r w'' => match r with
        | .inl next => next.pulses.toNat = pass.pulses.toNat + 1 ∧
          PassSo cell h row start base groupLen w next w''
        | .inr ended => GroupLeft env cell h row start base groupLen w ended w'')
      fun _ => False := by
    refine gaveUp.mono (fun r w'' known => ?_) fun _ => id
    obtain ⟨ended, rfl, left⟩ := known
    exact left
  have budget := BitVec.le_def.mp so.budget
  split
  · rename_i used
    have used := BitVec.le_def.mp used
    refine leave (gaveUp_of_scan setters fits scan_ short fun i seen => ?_)
    rw [show row.maxPulses.toNat - pass.pulses.toNat = 0 by omega]
    rfl
  rename_i allowed
  have allowed : pass.pulses < row.maxPulses := BitVec.not_le.mp allowed
  have fewer := BitVec.lt_def.mp allowed
  split
  · rename_i capped
    refine leave (gaveUp_of_scan setters fits scan_ short fun i seen => ?_)
    obtain ⟨left, more⟩ : ∃ left, row.maxPulses.toNat - pass.pulses.toNat = left + 1 :=
      ⟨_, (Nat.succ_pred_eq_of_pos (by omega)).symm⟩
    rw [more]
    exact if_pos capped
  rename_i energy
  have bound := row.maxPulses.isLt
  have count : (pass.pulses + 1).toNat = pass.pulses.toNat + 1 := by
    rw [BitVec.toNat_add]
    exact Nat.mod_eq_of_lt (by simp; omega)
  have entry : Told cell h
      (GroupSo cell h row start base groupLen (pulsed pass h.pulseDelay scan.pending 0)) w w₁ :=
    told.mono fun seen group => group.congr fun i below => (behind i below).symm
  rw [ends_bind]
  refine (ends_pulsePass_told setters fits so'.flagged allowed energy entry).mono
    (fun _ w₂ told => ?_) fun _ => id
  refine ⟨count, ?_, so'.flagged, told.mono fun seen group => group.congr fun i below => ?_⟩
  · exact BitVec.le_def.mpr (by rw [count]; omega)
  · have later : ¬ pass.pulses + 1 = 0 := fun zero => by
      rw [zero] at count
      cases count
    unfold scanned pulsed
    rw [if_neg (Nat.not_lt_zero i)]
    by_cases missed : scan.pending i = true
    · rw [if_pos missed, if_pos below, if_pos ⟨so'.flagged i below missed, .inr missed⟩]
    · rw [if_neg missed, if_neg fun read => read.2.elim later missed]

theorem ends_programGroup_told (setters : EpromSetters w)
    (fits : base + min (h.blockLen - base) epromProgramGroup ≤ h.blockLen) (lastEmitMs : U32)
    (told : Told cell h (GroupSo cell h row start base (min (h.blockLen - base) epromProgramGroup)
      (scanned h base ⟨0, 0, fun _ => false, lastEmitMs⟩ (fun _ => false) 0)) w w') :
    Ends (programGroup h row lastEmitMs base) env w'
      (fun r w'' => match r with
        | .inl _ => Told cell h (GroupSo cell h row start base
          (min (h.blockLen - base) epromProgramGroup) fun _ => .done) w w''
        | .inr _ => GaveUp env cell h row start w w'')
      (fun _ => False) := by
  unfold programGroup
  rw [ends_bind]
  have looped : Ends (repeatUntil (passTurn h row base (min (h.blockLen - base) epromProgramGroup))
      (row.maxPulses.toNat + 1) ⟨0, 0, fun _ => false, lastEmitMs⟩) env w'
      (fun ended w'' => GroupLeft env cell h row start base
        (min (h.blockLen - base) epromProgramGroup) w ended w'') (fun _ => False) := by
    refine ends_repeatUntil_of_bound (fun n pass w'' => n = row.maxPulses.toNat - pass.pulses.toNat ∧
      PassSo cell h row start base (min (h.blockLen - base) epromProgramGroup) w pass w'')
      (fun n pass w'' so => ?_) _ row.maxPulses.toNat _ w' ⟨rfl, ?_⟩ (Nat.lt_succ_self _)
    · obtain ⟨rfl, so⟩ := so
      refine (ends_passTurn_told setters fits so).mono (fun r w₁ turned => ?_) fun _ => id
      cases r with
      | inl next =>
        obtain ⟨count, so'⟩ := turned
        have budget := BitVec.le_def.mp so'.budget
        exact ⟨_, by omega, rfl, so'⟩
      | inr ended => exact turned
    · exact ⟨BitVec.le_def.mpr (Nat.zero_le _), fun _ _ flagged => Bool.noConfusion flagged, told⟩
  refine looped.mono (fun ended w'' left => ?_) fun _ => id
  cases ended <;> exact left

/-! ## A block -/

/-- The block when its first bytes are done. -/
structure BlockSo (cell : U32 → List Access → U8) (h : Handle) (row : EpromParams)
    (start : U32 → List Access) (n : Nat) (seen : U32 → List Access) : Prop where
  done : ∀ i < h.blockLen, i < n → ByteState.done.Of cell h row start i seen
  later : ∀ i < h.blockLen, n ≤ i → seen (h.byteAddress i) = start (h.byteAddress i)

/-- A group begins where its bytes are as the plain loop finds them. -/
theorem BlockSo.group (so : BlockSo cell h row start base seen) (groupLen : Nat)
    (fits : base + groupLen ≤ h.blockLen) (lastEmitMs : U32) :
    GroupSo cell h row start base groupLen
      (scanned h base ⟨0, 0, fun _ => false, lastEmitMs⟩ (fun _ => false) 0) seen := by
  refine ⟨fun i before => so.done i (by omega) before, fun i below => ?_,
    fun i bound after => so.later i bound (by omega)⟩
  have same := so.later (base + i) (by omega) (by omega)
  unfold scanned
  rw [if_neg (Nat.not_lt_zero i)]
  by_cases erased : h.dataBuffer (base + i) = 0xFF
  · rw [if_neg fun read => read.1 erased]
    show plainByte cell h row start (base + i) = _
    unfold plainByte
    rw [if_pos (beq_iff_eq.mpr erased), same]
  · rw [if_pos ⟨erased, .inl rfl⟩]
    show plainByte cell h row start (base + i) = _
    unfold plainByte
    rw [if_neg (by simpa using erased), same]
    rfl

theorem BlockSo.of_group (so : GroupSo cell h row start base groupLen (fun _ => .done) seen)
    {n : Nat} (reached : n = base + groupLen ∨ h.blockLen ≤ n ∧ h.blockLen ≤ base + groupLen) :
    BlockSo cell h row start n seen := by
  refine ⟨fun i bound before => ?_, fun i bound after => so.later i bound (by omega)⟩
  by_cases outside : i < base
  · exact so.earlier i outside
  · obtain ⟨d, rfl⟩ := Nat.exists_eq_add_of_le (Nat.not_lt.mp outside)
    exact so.inner d (by omega)

/-- How a block is left. -/
def BlockLeft (env : Env) (cell : U32 → List Access → U8) (h : Handle) (row : EpromParams)
    (start : U32 → List Access) (w : World) (ended : U32 ⊕ Unit) (w' : World) : Prop :=
  match ended with
  | .inl _ => Told cell h (BlockSo cell h row start h.blockLen) w w'
  | .inr _ => GaveUp env cell h row start w w'

theorem ends_groups_told (setters : EpromSetters w) (lastEmitMs : U32) :
    Ends (forLoop (programGroup h row) (groupBases h.blockLen) lastEmitMs) env w
      (BlockLeft env cell h row (fun address => history address (accessLog w.trace)) w)
      (fun _ => False) := by
  refine ends_forLoop_range (fun k _ w' => Told cell h (BlockSo cell h row
    (fun address => history address (accessLog w.trace)) (k * epromProgramGroup)) w w')
    (fun k below lastEmitMs w' told => ?_) (fun _ w' told => ?_) ?_
  · have base : k * epromProgramGroup < h.blockLen := by
      unfold epromProgramGroup at below ⊢
      omega
    have fits : k * epromProgramGroup +
        min (h.blockLen - k * epromProgramGroup) epromProgramGroup ≤ h.blockLen := by omega
    refine (ends_programGroup_told setters fits lastEmitMs
      (told.mono fun seen so => so.group _ fits lastEmitMs)).mono (fun r w'' left => ?_) fun _ => id
    cases r with
    | inl next =>
      refine left.mono fun seen so => BlockSo.of_group so ?_
      rw [Nat.add_mul, Nat.one_mul]
      omega
    | inr failed => exact left
  · refine told.mono fun seen so => ⟨fun i bound _ => so.done i bound ?_, fun i bound after => ?_⟩
    · unfold epromProgramGroup
      omega
    · omega
  · exact Told.start ⟨fun i _ before => absurd before (by omega), fun _ _ _ => rfl⟩

/-! ## The batched loop is the plain one -/

/-- The report of a failure neither reads nor pulses. -/
theorem accessLog_reported {address : U32} {pulses id : U8}
    (reported : epromInternalReportBudgetFailure address pulses id env w = (some (), w')) :
    accessLog w'.trace = accessLog w.trace := by
  have step : Within env UntouchedStep (epromInternalReportBudgetFailure address pulses id) := by
    unfold epromInternalReportBudgetFailure refuse
    infer_instance
  have ended := step.ends w
  unfold Ends at ended
  rw [reported] at ended
  obtain ⟨-, new, trace, untouched⟩ := ended
  have none : accessLog new = [] := by
    unfold accessLog
    rw [List.reverse_eq_nil_iff, List.filterMap_eq_nil_iff]
    intro e member
    have other := untouched e member
    cases e <;> first | rfl | cases other
  rw [trace, accessLog_append, none, List.append_nil]

/-- The loop ended as the plain loop does, and gave the bytes the same reads and pulses: all of them
where it succeeded, those before the reported one where it failed. -/
def EndsAsPlain (env : Env) (cell : U32 → List Access → U8) (h : Handle) (row : EpromParams)
    (w : World) (log : List Access) (run : Option (U32 ⊕ Unit) × World) : Prop :=
  match plainLoop cell h row (List.range h.blockLen)
    (fun address => history address (accessLog w.trace)) with
  | (after, none) =>
    (∃ lastEmitMs, run.1 = some (.inl lastEmitMs)) ∧
      ∀ i < h.blockLen,
        history (h.byteAddress i) (accessLog w.trace ++ log) = after (h.byteAddress i)
  | (after, some failure) =>
    run.1 = some (.inr ()) ∧
      (∃ w₁, Accesses log w w₁ ∧
        epromInternalReportBudgetFailure failure.address failure.pulses failure.id env w₁ =
          (some (), run.2)) ∧
      ∃ k < h.blockLen, failure.address = h.byteAddress k ∧
        ∀ i < k, history (h.byteAddress i) (accessLog w.trace ++ log) = after (h.byteAddress i)

theorem endsAsPlain_of_told {log : List Access} {lastEmitMs : U32}
    (so : BlockSo cell h row (fun address => history address (accessLog w.trace)) h.blockLen
      fun address => history address (accessLog w.trace ++ log)) :
    EndsAsPlain env cell h row w log (some (.inl lastEmitMs), w') := by
  have room : h.blockLen < 2 ^ 16 := (h.dataSize.setWidth 16 : U16).isLt
  have done (i : Nat) (bound : i < h.blockLen) := so.done i bound bound
  obtain ⟨after, run, same⟩ := plainLoop_done cell h row
    (fun address => history address (accessLog w.trace)) (n := h.blockLen) (by omega)
    fun i bound => congrArg Prod.snd (done i bound)
  unfold EndsAsPlain
  rw [run]
  refine ⟨⟨lastEmitMs, rfl⟩, fun i bound => ?_⟩
  rw [same i bound]
  exact (congrArg Prod.fst (done i bound)).symm

theorem endsAsPlain_of_fails {log : List Access} {failure : BudgetFailure} {w₁ : World}
    (done : Accesses log w w₁)
    (fails : FailsAt cell h row (fun address => history address (accessLog w.trace)) failure
      fun address => history address (accessLog w.trace ++ log))
    (reported : epromInternalReportBudgetFailure failure.address failure.pulses failure.id env w₁ =
      (some (), w')) :
    EndsAsPlain env cell h row w log (some (.inr ()), w') := by
  have room : h.blockLen < 2 ^ 16 := (h.dataSize.setWidth 16 : U16).isLt
  obtain ⟨k, below, address, failed, earlier⟩ := fails
  obtain ⟨after, run, same⟩ := plainLoop_stops cell h row
    (fun address => history address (accessLog w.trace)) (n := h.blockLen) (by omega) below
    (fun i before => congrArg Prod.snd (earlier i before)) (congrArg Prod.snd failed)
  unfold EndsAsPlain
  rw [run]
  refine ⟨rfl, ⟨w₁, done, reported⟩, k, below, address, fun i before => ?_⟩
  rw [same i before]
  exact (congrArg Prod.fst (earlier i before)).symm

/-- The loop goes only to bytes of the block whose target is not erased, and on a chip that answers
cell by cell it ends as the plain loop does. -/
theorem batched_as_plain (setters : EpromSetters w) (cell : U32 → List Access → U8)
    (row : EpromParams) (lastEmitMs : U32) :
    ∃ log, accessLog (forLoop (programGroup w.handle row) (groupBases w.handle.blockLen) lastEmitMs
        env w).2.trace = accessLog w.trace ++ log ∧ InBlock w.handle log ∧
      (Cellwise cell (accessLog w.trace) log →
        EndsAsPlain env cell w.handle row w log
          (forLoop (programGroup w.handle row) (groupBases w.handle.blockLen) lastEmitMs env w)) := by
  have ended : Ends (forLoop (programGroup w.handle row) (groupBases w.handle.blockLen) lastEmitMs)
      env w (BlockLeft env cell w.handle row
        (fun address => history address (accessLog w.trace)) w) (fun _ => False) :=
    ends_groups_told setters lastEmitMs
  unfold Ends at ended
  rcases run : forLoop (programGroup w.handle row) (groupBases w.handle.blockLen) lastEmitMs env w
    with ⟨_ | r, w'⟩ <;> rw [run] at ended
  · exact ended.elim
  cases r with
  | inl last =>
    obtain ⟨log, done, inside, holds⟩ := ended
    exact ⟨log, done.total, inside, fun chip => endsAsPlain_of_told (holds chip)⟩
  | inr given =>
    obtain ⟨failure, w₁, ⟨log, done, inside, holds⟩, reported⟩ := ended
    refine ⟨log, ?_, inside, fun chip => endsAsPlain_of_fails done (holds chip) reported⟩
    rw [← done.total]
    exact accessLog_reported reported

end

/-- A part whose cells take their target with the first pulse, but for the third one, which needs two;
it looks at the low address lines alone. -/
def slowChip : Env :=
  { Env.still ⟨.leonardo, false⟩ 0 with
    chip := fun w =>
      let pulses := w.trace.countP fun
        | .wrote _ _ latches => latches.lsb == w.latches.lsb
        | _ => false
      if pulses ≥ (if w.latches.lsb == 2 then 2 else 1) then 0x10 + w.latches.lsb else 0xFF }

def slowCell (address : U32) (seen : List Access) : U8 :=
  if seen.countP Access.isStore ≥ (if address == 2 then 2 else 1) then 0x10 + address.setWidth 8
  else 0xFF

/-- A block of three bytes for it, the second one erased. -/
def slowBoard : World :=
  { quietBoard with
    handle := { quietBoard.handle with
      dataSize := 3
      busConfig := { addressLines := [], addressMask := 0xFFFF, rwLine := 0xFF, vppLine := 0xFF }
      dataBuffer := fun i => if i = 1 then 0xFF else 0x10 + BitVec.ofNat 8 i } }

/-- With one pulse allowed the first byte succeeds and the third one fails, in both loops. -/
theorem batched_as_plain_slowBoard :
    (accessLog (forLoop (programGroup slowBoard.handle ⟨0, 1, .perPulse, .dropResistor⟩)
        (groupBases slowBoard.handle.blockLen) 0 slowChip slowBoard).2.trace =
      [.read 0 0xFF, .read 2 0xFF, .wrote 0 0x10, .wrote 2 0x12, .read 0 0x10, .read 2 0xFF]) ∧
    (plainLoop slowCell slowBoard.handle ⟨0, 1, .perPulse, .dropResistor⟩ (List.range 3)
      fun _ => []).2 = some ⟨msgErrMaxPulses, 2, 1⟩ ∧
    EndsAsPlain slowChip slowCell slowBoard.handle ⟨0, 1, .perPulse, .dropResistor⟩ slowBoard
      [.read 0 0xFF, .read 2 0xFF, .wrote 0 0x10, .wrote 2 0x12, .read 0 0x10, .read 2 0xFF]
      (forLoop (programGroup slowBoard.handle ⟨0, 1, .perPulse, .dropResistor⟩)
        (groupBases slowBoard.handle.blockLen) 0 slowChip slowBoard) := by
  have setters : EpromSetters slowBoard := ⟨rfl, rfl⟩
  obtain ⟨log, total, -, asPlain⟩ : ∃ log, accessLog (forLoop
      (programGroup slowBoard.handle ⟨0, 1, .perPulse, .dropResistor⟩)
      (groupBases slowBoard.handle.blockLen) 0 slowChip slowBoard).2.trace = [] ++ log ∧ _ ∧ _ :=
    batched_as_plain setters slowCell ⟨0, 1, .perPulse, .dropResistor⟩ 0
  have ran : accessLog (forLoop (programGroup slowBoard.handle ⟨0, 1, .perPulse, .dropResistor⟩)
      (groupBases slowBoard.handle.blockLen) 0 slowChip slowBoard).2.trace =
      [.read 0 0xFF, .read 2 0xFF, .wrote 0 0x10, .wrote 2 0x12, .read 0 0x10, .read 2 0xFF] := by
    decide +kernel
  obtain rfl : log = _ := total.symm.trans ran
  exact ⟨ran, by decide +kernel, asPlain (by decide +kernel)⟩

end Firestarter
