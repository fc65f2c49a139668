import Firestarter.HostFrames
import Mathlib.Logic.Basic

/-! Where the callbacks reach on the chip: every array address they read, write or give to a sector
erase lies below the chip's size, as long as they are entered with a cursor that is in range. -/
namespace Firestarter

open Interactive Interactive.Prog

set_option synthInstance.maxSize 4000

/-! ## Array addresses -/

/-- The two addresses of the unlock sequences. -/
def unlockAddresses : List U32 := [0x5555, 0x2AAA]

/-- The last byte of the sequence that erases a sector; it goes to an address of that sector. -/
def sectorEraseConfirm : U8 := 0x30

namespace Callback

/-- What a callback reads that is no array address: the bytes of the identifier and the protection
byte in ID mode, and the unlock address at which data protection is polled. -/
def fixedReads : Callback → List U32
  | .flashUtilCheckChipIdInit | .flashNorUnlockWriteInit | .flashNorUnlockCheckChipIdExecute
  | .flash5vPageCheckChipIdExecute | .flashIntelWriteInit | .flashIntelCheckChipId
  | .epromWriteInit | .epromGenericInit | .epromCheckChipIdExecute => [0x0000, 0x0001]
  | .flashNorUnlockReadProtectionExecute | .flash5vPageReadProtectionExecute => [0x0002]
  | .eeprom28cWriteInit | .eeprom28cEraseExecute | .eeprom28cSdpUnlockExecute => [0x5555]
  | _ => []

/-- The EEPROM driver writes its unlock sequences like data. -/
def fixedWrites : Callback → List U32
  | .eeprom28cWriteInit | .eeprom28cEraseExecute | .eeprom28cSdpUnlockExecute
  | .eeprom28cSdpLockExecute => unlockAddresses
  | _ => []

/-- What a callback counts on when it is entered: those that write the chunk in the handle on its
range, the sector erase on its address. -/
def admits (c : Callback) (h : Handle) : Prop :=
  match c with
  | .epromWriteExecute | .flashIntelWriteExecute | .eeprom28cWriteExecute
  | .flashNorUnlockWriteExecute | .flash5vPageWriteExecute =>
    h.address.toNat + h.dataSize.toNat ≤ h.memSize.toNat
  | .flashNorUnlockEraseExecute => h.address < h.memSize
  | _ => True

theorem admits_respond {c : Callback} {h : Handle} (admitted : c.admits h) (code : U8) :
    c.admits { h with responseCode := code } := by
  cases c <;> exact admitted

end Callback

/-- The array address of a chip access, given the callback that makes it. -/
def Event.arrayAddress (callback : Option Callback) : Event → Option U32
  | .read address _ _ =>
    if address ∈ callback.elim [] Callback.fixedReads then none else some address
  | .wrote address _ _ =>
    if address ∈ callback.elim [] Callback.fixedWrites then none else some address
  | .flipped address data _ =>
    if address ∈ unlockAddresses ∧ data ≠ sectorEraseConfirm then none else some address
  | _ => none

/-- The access stays inside the chip. -/
def Event.staysIn (memSize : U32) (callback : Option Callback) (e : Event) : Bool :=
  (e.arrayAddress callback).all fun address => address < memSize

/-- A step of the callback that stays inside the chip. -/
abbrev InsideStep (memSize : U32) (c : Callback) : World → World → Prop :=
  Guarded (fun h => h.memSize = memSize ∧ c.admits h)
    (Grows (fun _ => ()) (Event.staysIn memSize (some c)))

variable {env : Env} {memSize : U32} {c : Callback}

/-! ## Touches -/

section
variable {callback : Option Callback}

instance : BusFrame env (Grows (fun _ => ()) (Event.staysIn memSize callback)) where
  bus _ _ _ same := Grows.of_bus rfl same

instance : LatchFrame (Grows (fun _ => ()) (Event.staysIn memSize callback)) where
  strobe s reg byte latches offAt := by
    refine trans_of (Grows (fun _ => ()) (Event.staysIn memSize callback))
      (Grows.of_note (.strobe reg byte) rfl rfl) ?_
    exact Grows.of_silent rfl rfl

instance : CacheFrame (Grows (fun _ => ()) (Event.staysIn memSize callback)) where
  cache _ _ _ _ _ := Grows.of_silent rfl rfl
  control _ _ := Grows.of_note _ rfl rfl
  addressed _ _ _ _ := Grows.of_note _ rfl rfl

instance : MeasureFrame (Grows (fun _ => ()) (Event.staysIn memSize callback)) where
  measure _ _ _ := Grows.of_note _ rfl rfl

instance : PrintFrame (Grows (fun _ => ()) (Event.staysIn memSize callback)) where
  print _ e print := Grows.of_note _ (by cases e <;> first | rfl | cases print) rfl
  defer _ _ := Grows.of_silent rfl rfl

end

instance : ReportFrame env (InsideStep memSize c) where
  report _ _ _ := inferInstance
  respond code := Within.update _ fun _ there =>
    ⟨⟨there.1, Callback.admits_respond there.2 code⟩, Grows.of_silent rfl rfl⟩

theorem within_inside_note {e : Event} (inside : e.staysIn memSize (some c) = true) :
    Within env (InsideStep memSize c) (note e) :=
  Within.update _ fun _ there => ⟨there, Grows.of_note e inside rfl⟩

/-! ## One access -/

/-- An access to a fixed address counts as no array access. -/
theorem staysIn_of_fixed {address : U32} {fixed : Prop} [Decidable fixed]
    (inside : address < memSize ∨ fixed) :
    ((if fixed then none else some address).all fun address => address < memSize) = true := by
  by_cases exempt : fixed
  · rw [if_pos exempt]
    rfl
  · rw [if_neg exempt]
    exact decide_eq_true (inside.resolve_right exempt)

theorem within_inside_getData {address : U32}
    (inside : address < memSize ∨ address ∈ c.fixedReads) :
    Within env (InsideStep memSize c) (memoryGetData address) := by
  have (data : U8) (latches : Latches) :
      Within env (InsideStep memSize c) (note (.read address data latches)) :=
    within_inside_note (staysIn_of_fixed inside)
  unfold memoryGetData
  infer_instance

theorem within_inside_setData {address : U32}
    (inside : address < memSize ∨ address ∈ c.fixedWrites) (data : U8) :
    Within env (InsideStep memSize c) (memorySetData address data) := by
  have (latches : Latches) :
      Within env (InsideStep memSize c) (note (.wrote address data latches)) :=
    within_inside_note (staysIn_of_fixed inside)
  unfold memorySetData
  infer_instance

/-- A byte of a command sequence goes to an unlock address, or into the chip. -/
def ByteFlip.inside (memSize : U32) (flip : ByteFlip) : Prop :=
  flip.address < memSize ∨ flip.address ∈ unlockAddresses ∧ flip.byte ≠ sectorEraseConfirm

theorem within_inside_flips {flips : List ByteFlip}
    (inside : ∀ flip ∈ flips, flip.inside memSize) :
    Within env (InsideStep memSize c) (flashUtilByteFlipping flips) := by
  have one (flip : ByteFlip) (member : flip ∈ flips) :
      Within env (InsideStep memSize c) (fuFlashFlipData flip.address flip.byte) := by
    have (latches : Latches) : Within env (InsideStep memSize c)
        (note (.flipped flip.address flip.byte latches)) :=
      within_inside_note (staysIn_of_fixed (inside flip member))
    unfold fuFlashFlipData
    infer_instance
  have := within_forM_of_mem one
  unfold flashUtilByteFlipping
  infer_instance

/-- The sequences that address no sector. -/
theorem within_inside_unlock {flips : List ByteFlip}
    (unlocks : ∀ flip ∈ flips, flip.address ∈ unlockAddresses ∧ flip.byte ≠ sectorEraseConfirm) :
    Within env (InsideStep memSize c) (flashUtilByteFlipping flips) :=
  within_inside_flips fun flip member => .inr (unlocks flip member)

instance : Within env (InsideStep memSize c) (flashUtilByteFlipping flashEnableId) :=
  within_inside_unlock (by decide)

instance : Within env (InsideStep memSize c) (flashUtilByteFlipping flashDisableId) :=
  within_inside_unlock (by decide)

instance : Within env (InsideStep memSize c) (flashUtilByteFlipping flashErase) :=
  within_inside_unlock (by decide)

instance : Within env (InsideStep memSize c) (flashUtilByteFlipping flashEnableWrite) :=
  within_inside_unlock (by decide)

/-! ## The range of a chunk -/

/-- The offsets of a chunk that ends inside the chip lead to addresses inside it. -/
theorem inside_of_offset {address : U32} {size k : Nat}
    (fits : address.toNat + size ≤ memSize.toNat) (within : k < size) :
    address + BitVec.ofNat 32 k < memSize := by
  have bound := memSize.isLt
  rw [BitVec.lt_def, BitVec.toNat_add, BitVec.toNat_ofNat, Nat.mod_eq_of_lt (by omega : k < 2 ^ 32),
    Nat.mod_eq_of_lt (by omega)]
  omega

theorem inside_of_mem_offsets {address i : U32} {size : Nat}
    (fits : address.toNat + size ≤ memSize.toNat) (member : i ∈ offsets size) :
    address + i < memSize := by
  obtain ⟨k, listed, rfl⟩ := List.mem_map.mp member
  exact inside_of_offset fits (List.mem_range.mp listed)

theorem memUtilRangeFits_toNat {address size last : U32}
    (fits : memUtilRangeFits address size last = true) :
    address.toNat + size.toNat ≤ last.toNat := by
  simp only [memUtilRangeFits, Bool.and_eq_true, decide_eq_true_eq] at fits
  obtain ⟨below, room⟩ := fits
  rw [BitVec.le_def] at below room
  rw [BitVec.toNat_sub_of_le below] at room
  omega

/-- The region ends with the chip, or before it. -/
theorem Handle.operationEnd_le (h : Handle) : h.operationEnd ≤ h.memSize := by
  unfold Handle.operationEnd
  split
  · exact BitVec.le_refl _
  · rename_i bounded
    simp only [Bool.or_eq_true, decide_eq_true_eq, not_or, BitVec.not_lt] at bounded
    exact bounded.2

/-! ## Blocks -/

/-- A read ends with the chip, whatever the region says. -/
theorem within_inside_read :
    Within env (InsideStep memSize .memoryReadExecute) memoryReadExecute := by
  have store (i : Nat) (data : U8) : Within env (InsideStep memSize .memoryReadExecute)
      (setHandle fun h => { h with dataBuffer := storeByte h.dataBuffer i data }) :=
    Within.update _ fun _ there => ⟨⟨there.1, trivial⟩, Grows.of_silent rfl rfl⟩
  have size (n : U32) : Within env (InsideStep memSize .memoryReadExecute)
      (setHandle fun h => { h with dataSize := n }) :=
    Within.update _ fun _ there => ⟨⟨there.1, trivial⟩, Grows.of_silent rfl rfl⟩
  unfold memoryReadExecute
  refine within_guardedHandle fun h there => within_bind inferInstance fun b => ?_
  split
  · infer_instance
  · rename_i below
    have below : h.address.toNat ≤ memSize.toNat := by
      rw [← there.1]
      exact Nat.le_of_not_lt below
    have fits : h.address.toNat + min (h.memSize - h.address).toNat b.dataBufferSize ≤
        memSize.toNat := by
      rw [there.1, BitVec.toNat_sub_of_le below]
      omega
    refine within_bind (within_forM_of_mem fun i member => ?_) fun _ => size _
    exact within_bind (within_inside_getData (.inl (inside_of_mem_offsets fits member)))
      fun data => store i.toNat data

theorem within_inside_write :
    Within env (InsideStep memSize c) memoryWriteExecute := by
  unfold memoryWriteExecute
  refine within_guardedHandle fun h there => within_bind inferInstance fun b => ?_
  split
  · infer_instance
  · rename_i fits
    simp only [Bool.or_eq_true, not_or, Bool.not_eq_true, Bool.not_eq_false'] at fits
    have fits := memUtilRangeFits_toNat fits.2
    have region : h.operationEnd.toNat ≤ memSize.toNat := by
      rw [← there.1]
      exact h.operationEnd_le
    exact within_forM_of_mem fun i member =>
      within_inside_setData (.inl (inside_of_mem_offsets (by omega) member)) _

instance : Within env (InsideStep memSize c) memoryVerifyExecute := by
  unfold memoryVerifyExecute
  refine within_guardedHandle fun h there => within_bind inferInstance fun b => ?_
  split
  · infer_instance
  · rename_i fits
    simp only [Bool.or_eq_true, not_or, Bool.not_eq_true, Bool.not_eq_false'] at fits
    have fits := memUtilRangeFits_toNat fits.2
    rw [there.1] at fits
    refine within_discard (within_forLoop_of_mem (fun _ i member => ?_) ())
    have := @within_inside_getData env _ c _ (.inl (inside_of_mem_offsets fits member))
    infer_instance

/-! ## Identifiers -/

/-- A callback that reads the two bytes of the identifier. -/
class ReadsId (c : Callback) : Prop where
  first : 0x0000 ∈ c.fixedReads
  second : 0x0001 ∈ c.fixedReads

instance : ReadsId .flashUtilCheckChipIdInit := ⟨by decide, by decide⟩
instance : ReadsId .flashNorUnlockWriteInit := ⟨by decide, by decide⟩
instance : ReadsId .flashNorUnlockCheckChipIdExecute := ⟨by decide, by decide⟩
instance : ReadsId .flash5vPageCheckChipIdExecute := ⟨by decide, by decide⟩
instance : ReadsId .flashIntelWriteInit := ⟨by decide, by decide⟩
instance : ReadsId .flashIntelCheckChipId := ⟨by decide, by decide⟩
instance : ReadsId .epromWriteInit := ⟨by decide, by decide⟩
instance : ReadsId .epromGenericInit := ⟨by decide, by decide⟩
instance : ReadsId .epromCheckChipIdExecute := ⟨by decide, by decide⟩

section
variable [id : ReadsId c]

instance : Within env (InsideStep memSize c) flashUtilGetChipId := by
  have := @within_inside_getData env memSize _ _ (.inr id.first)
  have := @within_inside_getData env memSize _ _ (.inr id.second)
  unfold flashUtilGetChipId
  infer_instance

instance : Within env (InsideStep memSize c) flashUtilCheckChipIdExecute := by
  unfold flashUtilCheckChipIdExecute
  infer_instance

instance : Within env (InsideStep memSize c) flashUtilCheckChipIdInit := by
  unfold flashUtilCheckChipIdInit
  infer_instance

instance : Within env (InsideStep memSize c) epromGetChipId := by
  have := @within_inside_getData env memSize _ _ (.inr id.first)
  have := @within_inside_getData env memSize _ _ (.inr id.second)
  unfold epromGetChipId
  infer_instance

instance (code : U8) : Within env (InsideStep memSize c) (epromInternalCheckChipId code) := by
  unfold epromInternalCheckChipId
  infer_instance

instance : Within env (InsideStep memSize c) epromGenericInit := by
  unfold epromGenericInit
  infer_instance

end

/-! ## Command-sequence flash -/

instance : Within env (InsideStep memSize c) flashUtilFail := by
  unfold flashUtilFail
  infer_instance

theorem within_inside_waitReady {address : U32} (inside : address < memSize) (expected : U8)
    (timeoutMs : U32) :
    Within env (InsideStep memSize c) (flashUtilWaitReady address expected timeoutMs) := by
  have := @within_inside_getData env _ c _ (.inl inside)
  unfold flashUtilWaitReady waitReadyTurn whileLoop
  infer_instance

theorem within_inside_waitProgram {address : U32} (inside : address < memSize) (expected : U8) :
    Within env (InsideStep memSize c) (flashUtilWaitProgram address expected) := by
  have := @within_inside_waitReady env _ c _ inside expected flashProgramTimeoutMs
  unfold flashUtilWaitProgram
  infer_instance

theorem within_inside_waitErase {address : U32} (inside : address < memSize) :
    Within env (InsideStep memSize c) (flashUtilWaitErase address) := by
  have := @within_inside_getData env _ c _ (.inl inside)
  have := @within_inside_waitReady env _ c _ inside 0xFF flashEraseTimeoutMs
  unfold flashUtilWaitErase
  infer_instance

theorem within_inside_reportProtection (fixed : 0x0002 ∈ c.fixedReads)
    (unprotected isProtected : U8) :
    Within env (InsideStep memSize c) (reportProtection 0x0002 unprotected isProtected) := by
  have := @within_inside_getData env memSize _ _ (.inr fixed)
  unfold reportProtection flashUtilReadInIdMode
  infer_instance

theorem within_inside_norWrite :
    Within env (InsideStep memSize .flashNorUnlockWriteExecute) flashNorUnlockWriteExecute := by
  unfold flashNorUnlockWriteExecute
  refine within_guardedHandle fun h there => ?_
  have fits : h.address.toNat + h.dataSize.toNat ≤ memSize.toNat := there.1 ▸ there.2
  refine within_discard (within_forLoop_of_mem (fun _ i member => ?_) ())
  have inside := inside_of_mem_offsets fits member
  refine within_bind inferInstance fun _ =>
    within_bind (within_inside_setData (.inl inside) _) fun _ =>
    within_bind (within_inside_waitProgram inside _) fun _ => inferInstance

theorem within_inside_pageWrite :
    Within env (InsideStep memSize .flash5vPageWriteExecute) flash5vPageWriteExecute := by
  unfold flash5vPageWriteExecute
  refine within_guardedHandle fun h there => ?_
  have fits : h.address.toNat + h.dataSize.toNat ≤ memSize.toNat := there.1 ▸ there.2
  cases flash5vPageMask h.pageSize with
  | none => infer_instance
  | some pageMask =>
    dsimp only
    split
    · infer_instance
    · refine within_discard (within_forLoop_of_mem (fun _ i member => ?_) ())
      have inside := inside_of_mem_offsets fits member
      have := @within_inside_setData env _ .flash5vPageWriteExecute _ (.inl inside)
      have := @within_inside_getData env _ .flash5vPageWriteExecute _ (.inl inside)
      have := @within_inside_waitReady env _ .flash5vPageWriteExecute _ inside
      unfold flash5vPageWriteByte flash5vPageWaitForPageWrite
      infer_instance

/-- The sector erase takes any address but 0 as the address of its sector. -/
theorem within_inside_norErase [nonempty : Fact (0 < memSize)] :
    Within env (InsideStep memSize .flashNorUnlockEraseExecute) flashNorUnlockEraseExecute := by
  unfold flashNorUnlockEraseExecute
  refine within_guardedHandle fun h there => ?_
  have inside : h.address < memSize := there.1 ▸ there.2
  split
  · unfold flashNorUnlockSectorErase
    refine within_bind (within_inside_flips ?_) fun _ => within_discard (within_inside_waitErase inside)
    intro flip member
    simp only [List.mem_cons, List.not_mem_nil, or_false] at member
    rcases member with rfl | rfl | rfl | rfl | rfl | rfl
    all_goals first | exact .inl inside | exact .inr (by decide)
  · have := @within_inside_waitErase env _ .flashNorUnlockEraseExecute _ nonempty.out
    unfold flashUtilChipErase
    infer_instance

instance [nonempty : Fact (0 < memSize)] : Within env (InsideStep memSize c) flashUtilChipErase := by
  have := @within_inside_waitErase env _ c _ nonempty.out
  unfold flashUtilChipErase
  infer_instance

/-- The erase of a write is always the one of the whole chip. -/
theorem flashNorUnlockEraseFirst_eq : flashNorUnlockEraseFirst = (do
    let h ← getHandle
    when (h.isFlagSet flagCanErase) do
      if !h.isFlagSet flagSkipErase && h.address == 0 then flashUtilChipErase
      else logInfo msgInfoSkippingEraseMem []) := by
  funext env w
  have erased (zero : w.handle.address = 0) :
      flashNorUnlockEraseExecute env w = flashUtilChipErase env w := by
    show (if w.handle.address != 0 then _ else _ : Fw Unit) env w = _
    rw [zero]
    rfl
  show Prog.when _ (if _ then flashNorUnlockEraseExecute else _) env w =
    Prog.when _ (if _ then flashUtilChipErase else _) env w
  by_cases first : (!w.handle.isFlagSet flagSkipErase && w.handle.address == 0) = true
  · have zero := (Bool.and_eq_true_iff.mp first).2
    rw [if_pos first, if_pos first]
    cases w.handle.isFlagSet flagCanErase with
    | false => rfl
    | true => exact erased (beq_iff_eq.mp zero)
  · rw [if_neg first, if_neg first]

theorem within_inside_norInit [Fact (0 < memSize)] :
    Within env (InsideStep memSize .flashNorUnlockWriteInit) flashNorUnlockWriteInit := by
  unfold flashNorUnlockWriteInit flashNorUnlockCheckChipIdExecute
  rw [flashNorUnlockEraseFirst_eq]
  infer_instance

/-! ## Intel flash -/

section
variable [nonempty : Fact (0 < memSize)]

instance (data : U8) : Within env (InsideStep memSize c) (memorySetData 0 data) :=
  within_inside_setData (.inl nonempty.out) data

instance (timeoutMs : U32) : Within env (InsideStep memSize c) (flashIntelPollSr timeoutMs) := by
  have := @within_inside_getData env _ c _ (.inl nonempty.out)
  have : Within env (InsideStep memSize c) (flashIntelAwaitReady timeoutMs) := by
    unfold flashIntelAwaitReady pollSrTurn whileLoop
    infer_instance
  unfold flashIntelPollSr
  refine within_bind inferInstance fun failure => ?_
  cases failure with
  | none => infer_instance
  | some id =>
    unfold refuse
    infer_instance

instance [id : ReadsId c] : Within env (InsideStep memSize c) flashIntelCheckChipId := by
  have := @within_inside_getData env memSize _ _ (.inr id.first)
  have := @within_inside_getData env memSize _ _ (.inr id.second)
  unfold flashIntelCheckChipId
  infer_instance

instance : Within env (InsideStep memSize c) flashIntelEraseExecute := by
  unfold flashIntelEraseExecute
  infer_instance

instance : Within env (InsideStep memSize .flashIntelWriteInit) flashIntelWriteInit := by
  unfold flashIntelWriteInit
  infer_instance

instance : Within env (InsideStep memSize c) flashIntelCleanup := by
  unfold flashIntelCleanup
  infer_instance

theorem within_inside_intelWrite :
    Within env (InsideStep memSize .flashIntelWriteExecute) flashIntelWriteExecute := by
  unfold flashIntelWriteExecute
  refine within_guardedHandle fun h there => ?_
  have fits : h.address.toNat + h.dataSize.toNat ≤ memSize.toNat := there.1 ▸ there.2
  refine within_discard (within_forLoop_of_mem (fun _ i member => ?_) ())
  have := @within_inside_setData env _ .flashIntelWriteExecute _
    (.inl (inside_of_mem_offsets fits member))
  infer_instance

end

/-! ## EEPROM -/

/-- A callback that plays the sequences of the software data protection. -/
class PlaysSdp (c : Callback) : Prop where
  writes : c.fixedWrites = unlockAddresses

instance : PlaysSdp .eeprom28cWriteInit := ⟨rfl⟩
instance : PlaysSdp .eeprom28cEraseExecute := ⟨rfl⟩
instance : PlaysSdp .eeprom28cSdpUnlockExecute := ⟨rfl⟩
instance : PlaysSdp .eeprom28cSdpLockExecute := ⟨rfl⟩

section
variable [plays : PlaysSdp c]

theorem within_inside_sequence {sequence : List ByteFlip}
    (unlocks : ∀ flip ∈ sequence, flip.address ∈ unlockAddresses) :
    Within env (InsideStep memSize c) (eeprom28cEmitCommandSequence sequence) := by
  have : Within env (InsideStep memSize c)
      (sequence.forM fun flip => memorySetData flip.address flip.byte) :=
    within_forM_of_mem fun flip member =>
      within_inside_setData (.inr (plays.writes ▸ unlocks flip member)) flip.byte
  unfold eeprom28cEmitCommandSequence
  infer_instance

instance : Within env (InsideStep memSize c) (eeprom28cEmitCommandSequence eepromSdpDisable) :=
  within_inside_sequence (by decide)

instance : Within env (InsideStep memSize c) (eeprom28cEmitCommandSequence eepromSdpEnable) :=
  within_inside_sequence (by decide)

instance : Within env (InsideStep memSize c) (eeprom28cEmitCommandSequence eepromChipErase) :=
  within_inside_sequence (by decide)

instance : Within env (InsideStep memSize c) eeprom28cSdpLockExecute := by
  unfold eeprom28cSdpLockExecute eeprom28cEmitSdpSequenceTimed
  infer_instance

theorem within_inside_sdpUnlock (polled : eeprom28cTogglePollAddress ∈ c.fixedReads) :
    Within env (InsideStep memSize c) eeprom28cSdpUnlockExecute := by
  have := @within_inside_getData env memSize _ _ (.inr polled)
  unfold eeprom28cSdpUnlockExecute eeprom28cEmitSdpSequenceTimed eeprom28cWaitForSdpCompletion
  infer_instance

end

/-- The identifier lies in the last 64 bytes, so a smaller chip is refused. -/
instance : Within env (InsideStep memSize c) eeprom28cCheckChipId := by
  unfold eeprom28cCheckChipId
  refine within_guardedHandle fun h there => ?_
  split
  · unfold refuse
    infer_instance
  · rename_i large
    have large : 64 ≤ memSize.toNat := by
      rw [← there.1]
      exact Nat.le_of_not_lt large
    have bound := memSize.isLt
    have : Within env (InsideStep memSize c) eeprom28cReadChipId := by
      unfold eeprom28cReadChipId
      refine within_bind inferInstance fun _ => within_bind inferInstance fun _ => ?_
      refine within_guardedHandle fun h there => ?_
      have first : (h.memSize - 64).toNat = memSize.toNat - 64 := by
        rw [there.1, BitVec.toNat_sub_of_le large]
        rfl
      have : Within env (InsideStep memSize c) (memoryGetData (h.memSize - 64)) := by
        refine within_inside_getData (.inl ?_)
        rw [BitVec.lt_def, first]
        omega
      have : Within env (InsideStep memSize c) (memoryGetData (h.memSize - 64 + 1)) := by
        refine within_inside_getData (.inl ?_)
        rw [BitVec.lt_def, BitVec.toNat_add, first, Nat.mod_eq_of_lt (by simp; omega)]
        simp
        omega
      infer_instance
    unfold eeprom28cRaiseAndRead
    infer_instance

theorem within_inside_28cInit :
    Within env (InsideStep memSize .eeprom28cWriteInit) eeprom28cWriteInit := by
  have := @within_inside_sdpUnlock env memSize .eeprom28cWriteInit _
    (by decide)
  unfold eeprom28cWriteInit eeprom28cUnlockForWrite
  infer_instance

theorem within_inside_28cErase :
    Within env (InsideStep memSize .eeprom28cEraseExecute) eeprom28cEraseExecute := by
  have := @within_inside_sdpUnlock env memSize .eeprom28cEraseExecute _
    (by decide)
  unfold eeprom28cEraseExecute
  infer_instance

instance (devTools : Bool) (load : PageLoad) :
    Within env (InsideStep memSize c) (measurePageLoad devTools load) := by
  unfold measurePageLoad
  infer_instance

theorem within_inside_28cByte {h : Handle} {devTools : Bool} {pageMask : U32} {load : PageLoad}
    {i : Nat} (fits : h.address.toNat + h.dataSize.toNat ≤ memSize.toNat)
    (within : i < h.dataSize.toNat) :
    Within env (InsideStep memSize c) (eeprom28cWriteByte h devTools pageMask load i) := by
  have inside := inside_of_offset fits within
  have := @within_inside_setData env _ c _ (.inl inside)
  have := @within_inside_getData env _ c _ (.inl inside)
  have (expected : U8) : Within env (InsideStep memSize c)
      (eeprom28cWaitForPageWrite (h.address + BitVec.ofNat 32 i) expected) := by
    unfold eeprom28cWaitForPageWrite
    refine within_bind inferInstance fun polled => ?_
    cases polled <;> infer_instance
  have (first : Nat) : Within env (InsideStep memSize c) (eeprom28cVerifyPageReadback h first i) := by
    unfold eeprom28cVerifyPageReadback
    refine within_bind (within_forLoop_of_mem (fun _ k member => ?_) ()) fun _ => inferInstance
    have listed := List.mem_range'_1.mp member
    have := @within_inside_getData env _ c _
      (.inl (inside_of_offset fits (k := k) (by omega)))
    infer_instance
  unfold eeprom28cWriteByte
  infer_instance

theorem within_inside_28cWrite :
    Within env (InsideStep memSize .eeprom28cWriteExecute) eeprom28cWriteExecute := by
  unfold eeprom28cWriteExecute
  refine within_guardedHandle fun h there => ?_
  have fits : h.address.toNat + h.dataSize.toNat ≤ memSize.toNat := there.1 ▸ there.2
  refine within_bind inferInstance fun b => within_bind inferInstance fun startUs => ?_
  refine within_bind (within_forLoop_of_mem (fun load i member => ?_) _) fun _ => inferInstance
  exact within_inside_28cByte fits (List.mem_range.mp member)

/-! ## EPROM -/

instance [ReadsId c] : Within env (InsideStep memSize c) epromWriteInit := by
  unfold epromWriteInit epromInternalWriteInitBody
  infer_instance

theorem Handle.blockLen_le (h : Handle) : h.blockLen ≤ h.dataSize.toNat := by
  unfold Handle.blockLen
  rw [BitVec.toNat_setWidth]
  exact Nat.mod_le _ _

section
variable {h : Handle} {base : Nat}

theorem within_inside_scan (fits : h.address.toNat + h.blockLen ≤ memSize.toNat) {i : Nat}
    (listed : i < min (h.blockLen - base) epromProgramGroup) (pulses : U8) (scan : Scan) :
    Within env (InsideStep memSize c) (scanByte h base pulses scan i) := by
  have := @within_inside_getData env _ c _
    (.inl (inside_of_offset fits (k := base + i) (by omega)))
  unfold scanByte
  infer_instance

theorem within_inside_pulse (fits : h.address.toNat + h.blockLen ≤ memSize.toNat)
    (pending : Nat → Bool) :
    Within env (InsideStep memSize c)
      (pulsePass h base (min (h.blockLen - base) epromProgramGroup) pending) := by
  have : Within env (InsideStep memSize c)
      ((List.range (min (h.blockLen - base) epromProgramGroup)).forM fun i => do
        when (pending i) do
          memorySetData (h.address + BitVec.ofNat 32 (base + i)) (h.dataBuffer (base + i))) :=
    within_forM_of_mem fun i member => by
      have listed := List.mem_range.mp member
      have := @within_inside_setData env _ c _
        (.inl (inside_of_offset fits (k := base + i) (by omega)))
      infer_instance
  unfold pulsePass
  infer_instance

theorem within_inside_group (fits : h.address.toNat + h.blockLen ≤ memSize.toNat)
    (row : EpromParams) (lastEmitMs : U32) :
    Within env (InsideStep memSize c) (programGroup h row lastEmitMs base) := by
  have (pass : Pass) : Within env (InsideStep memSize c)
      (passTurn h row base (min (h.blockLen - base) epromProgramGroup) pass) := by
    unfold passTurn
    refine within_bind (within_foldlM_of_mem (fun scan i member => ?_) _) fun scan => ?_
    · exact within_inside_scan fits (List.mem_range.mp member) _ scan
    · have := @within_inside_pulse env _ c h base fits scan.pending
      infer_instance
  unfold programGroup
  infer_instance

end

theorem within_inside_epromWrite :
    Within env (InsideStep memSize .epromWriteExecute) epromWriteExecute := by
  unfold epromWriteExecute epromInternalWriteExecuteBody
  refine within_bind (within_bind inferInstance fun b => within_guardedHandle fun h there => ?_)
    fun _ => inferInstance
  have fits : h.address.toNat + h.dataSize.toNat ≤ memSize.toNat := there.1 ▸ there.2
  have block := h.blockLen_le
  cases epromParamsFor h.protocol with
  | none =>
    unfold refuse
    infer_instance
  | some row =>
    have (lastEmitMs : U32) (base : Nat) :
        Within env (InsideStep memSize .epromWriteExecute) (programGroup h row lastEmitMs base) :=
      within_inside_group (by omega) row lastEmitMs
    infer_instance

/-! ## Every callback -/

/-- A callback that was entered within its bounds stays inside the chip. -/
theorem within_inside_dispatch [nonempty : Fact (0 < memSize)] (c : Callback)
    (configures : c ≠ .configureMemory) : Within env (InsideStep memSize c) (dispatch c) := by
  cases c with
  | configureMemory => contradiction
  | memoryReadExecute => exact within_inside_read
  | memoryWriteExecute => exact within_inside_write
  | epromWriteExecute => exact within_inside_epromWrite
  | flashIntelWriteExecute => exact within_inside_intelWrite
  | eeprom28cWriteInit => exact within_inside_28cInit
  | eeprom28cWriteExecute => exact within_inside_28cWrite
  | eeprom28cEraseExecute => exact within_inside_28cErase
  | eeprom28cSdpUnlockExecute => exact within_inside_sdpUnlock (by decide)
  | flashNorUnlockWriteInit => exact within_inside_norInit
  | flashNorUnlockWriteExecute => exact within_inside_norWrite
  | flashNorUnlockEraseExecute => exact within_inside_norErase
  | flashNorUnlockReadProtectionExecute => exact within_inside_reportProtection (by decide) _ _
  | flash5vPageWriteExecute => exact within_inside_pageWrite
  | flash5vPageReadProtectionExecute => exact within_inside_reportProtection (by decide) _ _
  | epromCheckChipIdInit =>
    exact (inferInstance : Within env (InsideStep memSize .epromCheckChipIdInit) epromCheckVpp)
  | epromCheckChipIdExecute =>
    exact (inferInstance : Within env (InsideStep memSize .epromCheckChipIdExecute)
      (epromInternalCheckChipId responseCodeError))
  | epromEraseExecute =>
    exact (inferInstance : Within env (InsideStep memSize .epromEraseExecute) epromInternalErase)
  | flashNorUnlockCheckChipIdExecute =>
    exact (inferInstance : Within env (InsideStep memSize .flashNorUnlockCheckChipIdExecute)
      flashUtilCheckChipIdExecute)
  | flash5vPageCheckChipIdExecute =>
    exact (inferInstance : Within env (InsideStep memSize .flash5vPageCheckChipIdExecute)
      flashUtilCheckChipIdExecute)
  | flash5vPageWriteInit => exact Within.pure ()
  | _ =>
    unfold dispatch
    infer_instance

end Firestarter
