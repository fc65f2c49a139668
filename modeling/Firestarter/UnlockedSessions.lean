import Firestarter.PartSteps

/-! The sessions of the two drivers whose parts are unlocked at two addresses: the NOR driver, whose
parts program byte by byte, and the page-flash driver. Such a part is given whole command sequences
only, it reads its array again when a callback returns, and a callback makes of the array what the
command asks for. -/
namespace Firestarter

open Interactive Interactive.Prog MemoryPart

set_option synthInstance.maxSize 4000

/-! ## The part -/

/-- The part that the two drivers take to be in the socket. The firmware does not know its sectors;
its page is the page of the command. -/
def Handle.unlockedPart (h : Handle) (sector : U32 → U32 → Bool) : Unlocked.Family U32 where
  first := 0x5555
  second := 0x2AAA
  sector := sector
  page a := a / h.pageSize.setWidth 32
  programsPages := driverFor h.protocol == some .flash5vPage

/-- The part at rest. -/
def reading (array : U32 → U8) : Unlocked.State U32 := { array := array }

/-- The cells of a chunk, some of its bytes. -/
def Handle.cells (h : Handle) (first count : Nat) : List (U32 × U8) :=
  (List.range' first count).map fun i => (h.byteAddress i, h.dataBuffer i)

/-- A write that starts at 0 erases the chip first, unless it is told not to. -/
def Handle.erasesFirst (h : Handle) : Bool :=
  h.isFlagSet flagCanErase && (!h.isFlagSet flagSkipErase && h.address == 0)

/-- What an erase leaves: nothing on the chip, or nothing in the sector of a start address. -/
def Handle.erasedFrom (h : Handle) (sector : U32 → U32 → Bool) (array : U32 → U8) : U32 → U8 :=
  if h.address != 0 then fun a => if sector h.address a then 0xFF else array a else erased

/-- What a callback makes of the array. A write that gives up has written the first bytes of its
chunk. -/
def unlockedServed (sector : U32 → U32 → Bool) (callback : Callback) (entry : Handle) (code : U8)
    (array array' : U32 → U8) : Prop :=
  match callback with
  | .flashNorUnlockWriteExecute => ∃ n ≤ entry.dataSize.toNat,
      array' = (entry.cells 0 n).foldl programmed array ∧
        (code ≠ responseCodeError → n = entry.dataSize.toNat)
  | .flash5vPageWriteExecute => ∃ n ≤ entry.dataSize.toNat,
      array' = (entry.cells 0 n).foldl stored array ∧
        (code ≠ responseCodeError → n = entry.dataSize.toNat)
  | .flashNorUnlockWriteInit =>
      (array' = array ∧ (code ≠ responseCodeError → entry.erasesFirst = false)) ∨
        (array' = erased ∧ entry.erasesFirst = true)
  | .flashNorUnlockEraseExecute => array' = entry.erasedFrom sector array
  | .flashUtilChipErase => array' = erased
  | _ => array' = array

/-- Between two callbacks the part reads its array, and each callback serves it. -/
def unlockedContract (h : Handle) (sector : U32 → U32 → Bool) (array : U32 → U8) :
    PartContract (Unlocked.State U32) where
  part := (h.unlockedPart sector).part
  start := reading array
  between := (h.unlockedPart sector).part.Rests
  served callback entry code s s' := unlockedServed sector callback entry code s.array s'.array

/-- What a run makes of the array of the part. -/
abbrev Rewrites (h : Handle) (sector : U32 → U32 → Bool) (g : (U32 → U8) → U32 → U8) :
    World → World → Prop := Makes (h.unlockedPart sector).part reading g

/-- A run that may have been cut off between two sequences. -/
def BreaksOff (h : Handle) (sector : U32 → U32 → Bool) (w w' : World) : Prop :=
  ∃ g, Rewrites h sector g w w'

variable {env : Env} {h : Handle} {sector : U32 → U32 → Bool} {array : U32 → U8}
variable {w w' w₁ w₂ w₃ : World} {g g' : (U32 → U8) → U32 → U8}

theorem still_reading : StillRead (h.unlockedPart sector).part reading :=
  fun _ a => Unlocked.take_read _ a rfl

theorem between_iff (s : Unlocked.State U32) :
    (unlockedContract h sector array).between s ↔ ∃ m, s = reading m := by
  refine ⟨fun rests => ⟨s.array, rests⟩, ?_⟩
  rintro ⟨m, rfl⟩
  rfl

theorem BreaksOff.after (made : Rewrites h sector g w w₁) (broke : BreaksOff h sector w₁ w') :
    BreaksOff h sector w w' := by
  obtain ⟨g', broke⟩ := broke
  exact ⟨_, made.trans broke⟩

/-! ## Sequences -/

variable (h sector)

/-- A sequence that the part takes from rest to rest. -/
theorem ends_sequence (setter : GenericSetter w) (flips : List ByteFlip)
    (takes : ∀ m, (h.unlockedPart sector).part.run (reading m)
      ((flips.map ByteFlip.access).map Access.cycle) = some (reading (g m))) :
    Ends (flashUtilByteFlipping flips) env w (fun _ w' => Rewrites h sector g w w')
      (fun _ => False) :=
  (ends_byteFlipping setter flips).mono
    (fun _ _ played => ⟨_, Did.of_accesses played, takes⟩) fun _ => id

variable {h sector} in
/-- What is read between the two sequences is read from a part that identifies itself. -/
theorem rewrites_identified (entered : Accesses (flashEnableId.map ByteFlip.access) w w₁)
    (reads : Reads w₁ w₂) (left : Accesses (flashDisableId.map ByteFlip.access) w₂ w₃) :
    Rewrites h sector id w w₃ := by
  obtain ⟨log, all, did⟩ := reads
  refine ⟨_, ((Did.of_accesses entered).trans did).trans (Did.of_accesses left), fun m => ?_⟩
  rw [List.map_append, List.map_append]
  refine Device.run_trans (Device.run_trans Unlocked.run_identify ?_) (Unlocked.run_leave true)
  exact Device.run_reads (fun a => Unlocked.take_read _ a rfl) (Reads.cycles all)

theorem ends_readInIdMode (setter : GenericSetter w) (address : U32) :
    Ends (flashUtilReadInIdMode address) env w (fun _ w' => Rewrites h sector id w w')
      (fun _ => False) := by
  unfold flashUtilReadInIdMode
  rw [ends_bind]
  refine (ends_byteFlipping setter _).mono (fun _ w₁ entered => ?_) fun _ => id
  rw [ends_bind]
  refine (memoryGetData_log w₁ address).mono (fun data w₂ read => ?_) fun _ => id
  rw [ends_bind]
  refine (ends_byteFlipping ((setter.accesses entered).accesses read) _).mono
    (fun _ w₃ left => ?_) fun _ => id
  exact rewrites_identified entered (Reads.of_polls (Polls.nil.read data) (.of_accesses read)) left

theorem ends_getChipId (setter : GenericSetter w) :
    Ends flashUtilGetChipId env w (fun _ w' => Rewrites h sector id w w') (fun _ => False) := by
  unfold flashUtilGetChipId
  rw [ends_bind]
  refine (ends_byteFlipping setter _).mono (fun _ w₁ entered => ?_) fun _ => id
  rw [ends_bind]
  refine (memoryGetData_log w₁ _).mono (fun high w₂ first => ?_) fun _ => id
  rw [ends_bind]
  refine (memoryGetData_log w₂ _).mono (fun low w₃ second => ?_) fun _ => id
  have setter := ((setter.accesses entered).accesses first).accesses second
  rw [ends_bind]
  refine (ends_byteFlipping setter _).mono (fun _ w₄ left => ?_) fun _ => id
  have first := Reads.of_polls (Polls.nil.read high) (.of_accesses first)
  have second := Reads.of_polls (Polls.nil.read low) (.of_accesses second)
  exact rewrites_identified entered (trans_of Reads first second) left

theorem ends_checkChipId (setter : GenericSetter w) :
    Ends flashUtilCheckChipIdExecute env w (fun _ w' => Rewrites h sector id w w')
      (BreaksOff h sector w) := by
  unfold flashUtilCheckChipIdExecute
  rw [ends_bind]
  refine (ends_getChipId h sector setter).mono (fun chipId w₁ same => ?_) fun _ => False.elim
  rw [ends_bind, ends_getHandle]
  refine (Within.ends (R := Reads) inferInstance w₁).mono (fun _ w₂ reads => ?_) fun w₂ reads => ?_
  · exact same.onward still_reading reads
  · exact ⟨_, same.onward still_reading reads⟩

theorem ends_reportProtection (setter : GenericSetter w) (address : U32) (open' closed : U8) :
    Ends (reportProtection address open' closed) env w (fun _ w' => Rewrites h sector id w w')
      (BreaksOff h sector w) := by
  unfold reportProtection
  rw [ends_bind]
  refine (ends_readInIdMode h sector setter address).mono (fun raw w₁ same => ?_) fun _ => False.elim
  have (code : U8) : Within env Reads (setResponseCode code) := Reads.setHandle env _ fun _ => rfl
  refine (Within.ends (R := Reads) inferInstance w₁).mono (fun _ w₂ reads => ?_) fun w₂ reads => ?_
  · exact same.onward still_reading reads
  · exact ⟨_, same.onward still_reading reads⟩

/-! ## Waits -/

/-- The sequence that ends an identification does nothing to a part at rest. -/
theorem ends_fail (setter : GenericSetter w) :
    Ends flashUtilFail env w
      (fun _ w' => Rewrites h sector id w w' ∧ w'.handle.responseCode = responseCodeError)
      (fun _ => False) := by
  unfold flashUtilFail setResponseCode
  rw [ends_bind, ends_setHandle]
  have refused : Did [] w { w with handle := { w.handle with responseCode := responseCodeError } } :=
    Did.of_quiet rfl rfl
  refine (ends_byteFlipping (refused.setter setter) _).mono (fun _ w₁ left => ?_) fun _ => id
  exact ⟨⟨_, refused.trans (Did.of_accesses left), fun m => Unlocked.run_leave false⟩,
    congrArg Handle.responseCode left.handle⟩

/-- A wait gives up in an error. -/
theorem ends_giveUp (setter : GenericSetter w) (waited : Reads w w₁) (report : Fw Unit)
    [Within env Reads report] :
    Ends (do
        report
        flashUtilFail
        return false) env w₁
      (fun ok w' => Rewrites h sector id w w' ∧
        (ok = false → w'.handle.responseCode = responseCodeError))
      (BreaksOff h sector w) := by
  rw [ends_bind]
  refine (Within.ends (R := Reads) inferInstance w₁).mono (fun _ w₂ told => ?_) fun w₂ told => ?_
  · have reads := trans_of Reads waited told
    rw [ends_bind]
    refine (ends_fail h sector (reads.setter setter)).mono (fun _ w₃ failed => ?_) fun _ => False.elim
    exact ⟨failed.1.after still_reading reads, fun _ => failed.2⟩
  · exact ⟨_, (trans_of Reads waited told).makes still_reading⟩

theorem ends_waitProgram (setter : GenericSetter w) (address : U32) (expected : U8) :
    Ends (flashUtilWaitProgram address expected) env w
      (fun ok w' => Rewrites h sector id w w' ∧
        (ok = false → w'.handle.responseCode = responseCodeError))
      (BreaksOff h sector w) := by
  unfold flashUtilWaitProgram
  rw [ends_bind]
  refine (Within.ends (R := Reads) inferInstance w).mono (fun ready w₁ waited => ?_)
    fun w₁ waited => ⟨_, waited.makes still_reading⟩
  split
  · exact ⟨waited.makes still_reading, nofun⟩
  · exact ends_giveUp h sector setter waited _

theorem ends_waitErase (setter : GenericSetter w) (address : U32) :
    Ends (flashUtilWaitErase address) env w
      (fun ok w' => Rewrites h sector id w w' ∧
        (ok = false → w'.handle.responseCode = responseCodeError))
      (BreaksOff h sector w) := by
  unfold flashUtilWaitErase
  rw [ends_bind]
  refine (Within.ends (R := Reads) inferInstance w).mono (fun ready w₁ waited => ?_)
    fun w₁ waited => ⟨_, waited.makes still_reading⟩
  split
  · rw [ends_bind]
    refine (memoryGetData_log w₁ address).mono (fun value w₂ read => ?_) fun _ => False.elim
    have reads := trans_of Reads waited (Reads.of_polls (Polls.nil.read value) (.of_accesses read))
    split
    · exact ⟨reads.makes still_reading, nofun⟩
    · exact ends_giveUp h sector setter reads _
  · exact ends_giveUp h sector setter waited _

/-! ## Erasing -/

variable {h sector} in
/-- The wait for an erase that has been started. -/
theorem ends_erasing (setter : GenericSetter w) (made : Rewrites h sector g w w₁) (address : U32) :
    Ends (discard (flashUtilWaitErase address)) env w₁ (fun _ w' => Rewrites h sector g w w')
      (BreaksOff h sector w) := by
  rw [ends_discard]
  refine (ends_waitErase h sector (made.setter setter) address).mono (fun _ w₂ waited => ?_)
    fun w₂ broke => broke.after made
  exact made.trans waited.1

theorem ends_chipErase (setter : GenericSetter w) :
    Ends flashUtilChipErase env w (fun _ w' => Rewrites h sector (fun _ => erased) w w')
      (BreaksOff h sector w) := by
  unfold flashUtilChipErase
  rw [ends_bind]
  refine (ends_sequence h sector setter flashErase fun _ => Unlocked.run_eraseChip).mono
    (fun _ w₁ made => ?_) fun _ => False.elim
  rw [ends_bind]
  refine (Within.ends (R := Reads) inferInstance w₁).mono (fun _ w₂ paused => ?_)
    fun w₂ paused => ⟨_, made.onward still_reading paused⟩
  exact ends_erasing setter (made.onward still_reading paused) 0

theorem ends_norErase (setter : GenericSetter w) :
    Ends flashNorUnlockEraseExecute env w
      (fun _ w' => Rewrites h sector (w.handle.erasedFrom sector) w w') (BreaksOff h sector w) := by
  unfold flashNorUnlockEraseExecute
  rw [ends_bind, ends_getHandle]
  by_cases offset : w.handle.address != 0
  · have one : w.handle.erasedFrom sector =
        fun m a => if sector w.handle.address a then 0xFF else m a := by
      funext m
      exact if_pos offset
    rw [if_pos offset, one, ends_bind]
    refine (ends_sequence h sector setter _ fun _ => Unlocked.run_eraseSector w.handle.address).mono
      (fun _ w₁ made => ?_) fun _ => False.elim
    exact ends_erasing setter made _
  · have all : w.handle.erasedFrom sector = fun _ => erased := by
      funext m
      exact if_neg offset
    rw [if_neg offset, all]
    exact ends_chipErase h sector setter

/-! ## Before a write -/

theorem ends_eraseFirst (setter : GenericSetter w) :
    Ends flashNorUnlockEraseFirst env w
      (fun _ w' => if w.handle.erasesFirst then Rewrites h sector (fun _ => erased) w w'
        else Rewrites h sector id w w')
      (BreaksOff h sector w) := by
  unfold flashNorUnlockEraseFirst
  rw [ends_bind, ends_getHandle]
  unfold Handle.erasesFirst
  refine Ends.when (fun can => ?_) fun cannot => ?_
  · rw [can, Bool.true_and]
    split
    · rename_i first
      obtain ⟨-, start⟩ := Bool.and_eq_true_iff.mp first
      have all : w.handle.erasedFrom sector = fun _ => erased := by
        funext m
        refine if_neg ?_
        rw [bne, start]
        nofun
      have erases : Ends flashNorUnlockEraseExecute env w _ _ := ends_norErase h sector setter
      rw [all] at erases
      exact erases
    · exact (Within.ends (R := Reads) inferInstance w).mono
        (fun _ _ told => told.makes still_reading) fun _ told => ⟨_, told.makes still_reading⟩
  · rw [cannot]
    exact (refl_of Reads w).makes still_reading

variable {h sector}

theorem SameSetup.erasesFirst {h h' : Handle} (same : SameSetup h h') :
    h.erasesFirst = h'.erasesFirst := by
  obtain ⟨parameters, -, address⟩ := same
  have flags := congrArg Handle.ctrlFlags parameters
  have flags : h.ctrlFlags = h'.ctrlFlags := flags
  unfold Handle.erasesFirst Handle.isFlagSet
  rw [flags, address]

/-- A run that rewrites the array as the callback is to serve it. -/
def Rewritten (h : Handle) (sector : U32 → U32 → Bool) (callback : Callback) (w w' : World) : Prop :=
  ∃ g, Rewrites h sector g w w' ∧
    ∀ m, unlockedServed sector callback w.handle w'.handle.responseCode m (g m)

theorem Rewritten.serves {callback : Callback} (written : Rewritten h sector callback w w') :
    (unlockedContract h sector array).Serves callback w w' := by
  obtain ⟨g, made, served⟩ := written
  exact Makes.serves (K := unlockedContract h sector array) made between_iff
    (fun _ => rfl) served

theorem BreaksOff.breaks (broke : BreaksOff h sector w w') :
    (unlockedContract h sector array).Breaks w w' := by
  obtain ⟨g, made⟩ := broke
  exact Makes.breaks (K := unlockedContract h sector array) made fun s => (between_iff s).mp

theorem ends_norWriteInit (setter : GenericSetter w)
    (calm : w.handle.isOperationInProgress = false) :
    Ends flashNorUnlockWriteInit env w
      (fun _ w' => Rewritten h sector .flashNorUnlockWriteInit w w') (BreaksOff h sector w) := by
  have erasing {w₁ : World} (same : SameSetup w₁.handle w.handle)
      (made : Rewrites h sector id w w₁) :
      Ends flashNorUnlockEraseFirst env w₁
        (fun _ w' => Rewritten h sector .flashNorUnlockWriteInit w w') (BreaksOff h sector w) := by
    refine (ends_eraseFirst h sector (made.setter setter)).mono (fun _ w₂ rewrote => ?_)
      fun w₂ broke => broke.after made
    rw [same.erasesFirst] at rewrote
    split at rewrote
    · rename_i first
      exact ⟨_, made.trans rewrote, fun m => .inr ⟨rfl, first⟩⟩
    · rename_i other
      exact ⟨_, made.trans rewrote, fun m => .inl ⟨rfl, fun _ => Bool.eq_false_iff.mpr other⟩⟩
  unfold flashNorUnlockWriteInit
  rw [ends_bind, ends_getHandle, calm]
  refine Ends.when (fun _ => ?_) nofun
  rw [ends_bind, ends_getHandle]
  split
  · rw [ends_bind]
    have step : Within env DriverStep flashNorUnlockCheckChipIdExecute := inferInstance
    refine ((step.ends w).and (ends_checkChipId h sector setter)).mono (fun _ w₁ checked => ?_)
      fun _ broke => broke.2
    rw [ends_bind, ends_getHandle]
    refine Ends.when (fun _ => erasing checked.1.sameSetup checked.2) fun bad => ?_
    have error : w₁.handle.responseCode = responseCodeError := by simpa using bad
    exact ⟨_, checked.2, fun m => .inl ⟨rfl, fun other => absurd error other⟩⟩
  · exact erasing ⟨rfl, rfl, rfl⟩ ((refl_of Reads w).makes still_reading)

/-! ## Writing byte by byte -/

theorem Handle.cells_succ (h : Handle) (first count : Nat) :
    h.cells first (count + 1) =
      h.cells first count ++ [(h.byteAddress (first + count), h.dataBuffer (first + count))] := by
  unfold Handle.cells
  rw [List.range'_1_concat, List.map_append]
  rfl

theorem ends_norWrite (bytewise : (h.unlockedPart sector).programsPages = false)
    (setter : GenericSetter w) :
    Ends flashNorUnlockWriteExecute env w
      (fun _ w' => Rewritten h sector .flashNorUnlockWriteExecute w w')
      (BreaksOff h sector w) := by
  have room := w.handle.dataSize.isLt
  unfold flashNorUnlockWriteExecute offsets
  rw [ends_bind, ends_getHandle, ends_discard]
  refine ends_forLoop_range (E := fun _ w' => Rewritten h sector .flashNorUnlockWriteExecute w w')
    (fun i _ w' => Rewrites h sector (fun m => (w.handle.cells 0 i).foldl programmed m) w w')
    (fun i below _ w₁ made => ?_) (fun _ w₁ made => ?_) ?_
  · have index : (BitVec.ofNat 32 i).toNat = i := by
      rw [BitVec.toNat_ofNat, Nat.mod_eq_of_lt (by omega)]
    have address : w.handle.address + BitVec.ofNat 32 i = w.handle.byteAddress (0 + i) := by
      rw [Nat.zero_add]
      rfl
    rw [index, address, ends_bind]
    refine (ends_byteFlipping (made.setter setter) _).mono (fun _ w₂ unlocked => ?_)
      fun _ => False.elim
    rw [ends_bind]
    refine (memorySetData_log w₂ _ _).mono (fun _ w₃ stored => ?_) fun _ => False.elim
    have programs : Rewrites h sector
        (fun m => programmed m (w.handle.byteAddress (0 + i), w.handle.dataBuffer i)) w₁ w₃ :=
      ⟨_, Did.of_accesses (unlocked.trans stored), fun m => Unlocked.run_program bytewise _ _⟩
    have longer (m : U32 → U8) : programmed ((w.handle.cells 0 i).foldl programmed m)
        (w.handle.byteAddress (0 + i), w.handle.dataBuffer i) =
          (w.handle.cells 0 (i + 1)).foldl programmed m := by
      rw [Handle.cells_succ, List.foldl_append, Nat.zero_add]
      rfl
    have made := (made.trans programs).congr longer
    rw [ends_bind]
    refine (ends_waitProgram h sector (made.setter setter) _ _).mono (fun ok w₄ waited => ?_)
      fun _ broke => broke.after made
    cases ok with
    | true => exact made.trans waited.1
    | false =>
      exact ⟨_, made.trans waited.1,
        fun m => ⟨i + 1, below, rfl, fun other => absurd (waited.2 rfl) other⟩⟩
  · exact ⟨_, made, fun m => ⟨_, Nat.le_refl _, rfl, fun _ => rfl⟩⟩
  · exact (refl_of Reads w).makes still_reading

/-! ## Writing page by page -/

section
variable {entry : Handle} {size first : Nat}

/-- A page does not run past the last address. -/
theorem byteAddress_within (divides : size ∣ 2 ^ 32) (begins : size ∣ (entry.byteAddress first).toNat)
    {j : Nat} (partway : j < size) :
    (entry.byteAddress (first + j)).toNat = (entry.byteAddress first).toNat + j := by
  have inside : (entry.byteAddress first).toNat + size ≤ 2 ^ 32 := by
    obtain ⟨q, here⟩ := begins
    obtain ⟨r, all⟩ := divides
    have below := (entry.byteAddress first).isLt
    rw [here, all] at below
    rw [here, all, ← Nat.mul_succ]
    exact Nat.mul_le_mul_left size (Nat.lt_of_mul_lt_mul_left below)
  have apart : entry.byteAddress (first + j) = entry.byteAddress first + BitVec.ofNat 32 j := by
    unfold Handle.byteAddress
    rw [BitVec.ofNat_add, ← BitVec.add_assoc]
  rw [apart, BitVec.toNat_add, BitVec.toNat_ofNat, Nat.mod_eq_of_lt (by omega : j < 2 ^ 32),
    Nat.mod_eq_of_lt (by omega)]

theorem page_toNat (sized : h.pageSize.toNat = size) (a : U32) :
    ((h.unlockedPart sector).page a).toNat = a.toNat / size := by
  have wide : (h.pageSize.setWidth 32).toNat = size := by
    rw [BitVec.toNat_setWidth, sized, Nat.mod_eq_of_lt]
    have := h.pageSize.isLt
    omega
  show (a / h.pageSize.setWidth 32).toNat = _
  rw [BitVec.toNat_udiv, wide]

/-- The cells of a page that is loaded whole are the cells of one page of the part, all of them. -/
theorem cells_onPage (sized : h.pageSize.toNat = size) (divides : size ∣ 2 ^ 32)
    (begins : size ∣ (entry.byteAddress first).toNat) (cell : U32 × U8)
    (member : cell ∈ entry.cells first size) :
    (h.unlockedPart sector).page cell.1 = (h.unlockedPart sector).page (entry.byteAddress first) := by
  obtain ⟨i, within, rfl⟩ := List.mem_map.mp member
  obtain ⟨lower, upper⟩ := List.mem_range'_1.mp within
  obtain ⟨j, rfl⟩ := Nat.exists_eq_add_of_le lower
  have partway : j < size := by omega
  refine BitVec.eq_of_toNat_eq ?_
  rw [page_toNat sized, page_toNat sized, byteAddress_within divides begins partway]
  obtain ⟨q, here⟩ := begins
  have positive : 0 < size := by omega
  rw [here, Nat.mul_add_div positive, Nat.div_eq_of_lt partway, Nat.mul_div_cancel_left _ positive]
  rfl

theorem cells_wholePage (sized : h.pageSize.toNat = size) (positive : 0 < size)
    (divides : size ∣ 2 ^ 32) (begins : size ∣ (entry.byteAddress first).toNat) (b : U32)
    (same : (h.unlockedPart sector).page b =
      (h.unlockedPart sector).page (entry.byteAddress first)) :
    ∃ cell ∈ entry.cells first size, cell.1 = b := by
  have quotients := congrArg BitVec.toNat same
  rw [page_toNat sized, page_toNat sized] at quotients
  have partway := Nat.mod_lt b.toNat positive
  refine ⟨(entry.byteAddress (first + b.toNat % size), _),
    List.mem_map.mpr ⟨_, List.mem_range'_1.mpr ⟨Nat.le_add_right _ _, by omega⟩, rfl⟩, ?_⟩
  refine BitVec.eq_of_toNat_eq ?_
  rw [byteAddress_within divides begins partway, ← Nat.div_mul_cancel begins, ← quotients,
    Nat.div_add_mod']

theorem polls_quiet {address : U32} {polls : List Access} (polled : Polls address polls) :
    ∀ cycle ∈ polls.map Access.cycle, cycle.isWrite = false := by
  intro cycle member
  obtain ⟨a, rfl⟩ := Access.cycle_of_polls polled cycle member
  rfl

/-- A page that is loaded whole is stored with the next cycle that is no write. -/
theorem run_loaded (pages : (h.unlockedPart sector).programsPages = true)
    (sized : h.pageSize.toNat = size) (positive : 0 < size) (divides : size ∣ 2 ^ 32)
    (begins : size ∣ (entry.byteAddress first).toNat) (m : U32 → U8) {after : List (BusCycle U32)}
    (quiet : ∀ cycle ∈ after, cycle.isWrite = false) (settles : after ≠ []) :
    (h.unlockedPart sector).part.run (reading m)
        ((pageUnlock ++ entry.loads first size).map Access.cycle ++ after) =
      some (reading ((entry.cells first size).foldl stored m)) := by
  have cells : (pageUnlock ++ entry.loads first size).map Access.cycle =
      (h.unlockedPart sector).command 0xA0 ++
        (entry.cells first size).map fun cell => .write cell.1 cell.2 := by
    rw [List.map_append, Handle.loads, Handle.cells, List.map_map, List.map_map]
    rfl
  have some' : entry.cells first size ≠ [] := by
    intro none
    have none := congrArg List.length none
    rw [Handle.cells, List.length_map, List.length_range'] at none
    exact positive.ne' none
  rw [cells]
  exact Unlocked.run_page pages some' (cells_onPage sized divides begins)
    (cells_wholePage sized positive divides begins) quiet settles

/-- A page that was given up is stored no later than a pause. -/
theorem run_givenUp (pages : (h.unlockedPart sector).programsPages = true)
    (sized : h.pageSize.toNat = size) (positive : 0 < size) (divides : size ∣ 2 ^ 32)
    (begins : size ∣ (entry.byteAddress first).toNat) {address : U32} {polls : List Access}
    (polled : Polls address polls) (m : U32 → U8) :
    ∃ s, (h.unlockedPart sector).part.run (reading m)
        ((pageUnlock ++ entry.loads first size ++ polls).map Access.cycle) = some s ∧
      (h.unlockedPart sector).part.take s .pause =
        some (reading ((entry.cells first size).foldl stored m)) := by
  have unwritten : ∀ cycle ∈ polls.map Access.cycle ++ [.pause], cycle.isWrite = false := by
    intro cycle member
    rcases List.mem_append.mp member with poll | last
    · exact polls_quiet polled cycle poll
    · rw [List.mem_singleton.mp last]
      rfl
  have settled := run_loaded pages sized positive divides begins m unwritten (by simp)
  rw [← List.append_assoc, ← List.map_append, Device.run_append] at settled
  obtain ⟨s, run, paused⟩ := Option.bind_eq_some_iff.mp settled
  exact ⟨s, run, by simpa using paused⟩

/-- What a block of pages makes of the part, from a page on: it stores the pages it has loaded, at
the latest when the part is given a pause. -/
theorem FlashPages.stores {log : List Access} {outcome : PageOutcome}
    (block : FlashPages entry size first log outcome)
    (pages : (h.unlockedPart sector).programsPages = true) (sized : h.pageSize.toNat = size)
    (positive : 0 < size) (divides : size ∣ 2 ^ 32) (m : U32 → U8) :
    ∃ s, (h.unlockedPart sector).part.run (reading m) (log.map Access.cycle) = some s ∧
      ∃ k, first + k ≤ entry.dataSize.toNat ∧
        (h.unlockedPart sector).part.take s .pause =
          some (reading ((entry.cells first k).foldl stored m)) ∧
        (outcome = .written → first + k = entry.dataSize.toNat) := by
  induction block generalizing m with
  | finished => exact ⟨_, rfl, 0, Nat.le_refl _, rfl, fun _ => rfl⟩
  | @page first polls rest outcome begins inside polled _ ih =>
    obtain ⟨s, run, k, bound, paused, whole⟩ := ih ((entry.cells _ size).foldl stored m)
    have some' : polls.map Access.cycle ≠ [] := fun none =>
      polled.ne_nil (List.map_eq_nil_iff.mp none)
    have first' := run_loaded pages sized positive divides begins m (polls_quiet polled.polls) some'
    refine ⟨s, ?_, size + k, by omega, ?_, fun done => by have := whole done; omega⟩
    · rw [List.map_append, List.map_append]
      exact Device.run_trans first' run
    · rw [paused, ← List.foldl_append, Handle.cells, Handle.cells, Handle.cells,
        ← List.map_append, List.range'_append_1]
  | failed begins inside polled =>
    obtain ⟨s, run, paused⟩ :=
      run_givenUp pages sized positive divides begins (polled.polls.read _) m
    exact ⟨s, run, size, inside, paused, fun done => by cases done⟩
  | waiting begins inside polled =>
    obtain ⟨s, run, paused⟩ := run_givenUp pages sized positive divides begins polled.polls m
    exact ⟨s, run, size, inside, paused, fun done => by cases done⟩

end

theorem supported_divides {requested : U16} (supported : SupportedPageSize requested) :
    0 < requested.toNat ∧ requested.toNat ∣ 2 ^ 32 := by
  obtain ⟨k, small, same⟩ := supported
  rw [same]
  exact ⟨Nat.two_pow_pos k, Nat.pow_dvd_pow 2 (by omega)⟩

theorem ends_pageWrite (pages : (h.unlockedPart sector).programsPages = true)
    (setter : GenericSetter w) (sized : w.handle.pageSize = h.pageSize) :
    Ends flash5vPageWriteExecute env w
      (fun _ w' => (unlockedContract h sector array).Serves .flash5vPageWriteExecute w w')
      ((unlockedContract h sector array).Breaks w) := by
  by_cases whole : WholePages w.handle
  · obtain ⟨positive, divides⟩ := supported_divides whole.1
    have sizes : h.pageSize.toNat = w.handle.pageSize.toNat := by rw [sized]
    have serve {w' : World} {log : List Access} {outcome : PageOutcome} (logged : Logged log w w')
        (block : FlashPages w.handle w.handle.pageSize.toNat 0 log outcome)
        (ended : outcome = .written ∨ w'.handle.responseCode = responseCodeError) :
        (unlockedContract h sector array).Serves .flash5vPageWriteExecute w w' := by
      refine ⟨log, logged, fun s rests => ?_⟩
      obtain ⟨m, rfl⟩ := (between_iff s).mp rests
      obtain ⟨s', run, k, bound, paused, all⟩ := block.stores pages sizes positive divides m
      rw [Nat.zero_add] at bound
      refine ⟨_, Device.run_trans run ?_, (between_iff _).mpr ⟨_, rfl⟩, k, bound, rfl,
        fun other => ?_⟩
      · have settles : (unlockedContract h sector array).part.run s' [.pause] =
            (h.unlockedPart sector).part.take s' .pause := by
          rw [Device.run_cons]
          exact Option.bind_fun_some _
        exact settles.trans paused
      · have done := all (ended.resolve_right other)
        rwa [Nat.zero_add] at done
    refine (ends_wholePages setter whole).mono (fun _ w' ended => ?_) fun w' left => ?_
    · rcases ended with ⟨log, done, block⟩ | ⟨loaded, polls, v, done, polled, block, -, error⟩
      · exact serve done.logged block (.inl rfl)
      · exact serve (done.logged.trans polled) block (.inr error)
    · obtain ⟨log, polls, logged, block, -⟩ := left
      refine ⟨log, logged, fun s rests => ?_⟩
      obtain ⟨m, rfl⟩ := (between_iff s).mp rests
      obtain ⟨s', run, -⟩ := block.stores pages sizes positive divides m
      exact ⟨s', run⟩
  · refine (ends_otherBlock w whole).mono (fun _ w' refused => ?_) fun _ => False.elim
    refine ⟨[], refused.1, fun s rests => ?_⟩
    obtain ⟨m, rfl⟩ := (between_iff s).mp rests
    exact ⟨reading m, rfl, rests, 0, Nat.zero_le _, rfl, fun other => absurd refused.2 other⟩

/-! ## Which callbacks a command has -/

/-- The callbacks a command for an unlocked part may have. -/
def Driver.unlockedCallbacks : Driver → List Callback
  | .flashNorUnlock =>
    [.memoryReadExecute, .flashUtilCheckChipIdInit, .flashNorUnlockWriteInit,
      .flashNorUnlockWriteExecute, .flashNorUnlockEraseExecute, .flashNorUnlockCheckChipIdExecute,
      .flashNorUnlockReadProtectionExecute]
  | .flash5vPage =>
    [.memoryReadExecute, .flashUtilCheckChipIdInit, .flash5vPageWriteInit, .flash5vPageWriteExecute,
      .flashUtilChipErase, .flash5vPageCheckChipIdExecute, .flash5vPageReadProtectionExecute]
  | _ => []

/-- The callbacks of a handle are among these, it has no last one, and its setter is the generic
one. -/
structure Handle.InstalledFrom (h : Handle) (callbacks : List Callback) : Prop where
  init : ∀ callback, h.firestarterOperationInit = some callback → callback ∈ callbacks
  main : ∀ callback, h.firestarterOperationMain = some callback → callback ∈ callbacks
  finish : h.firestarterOperationEnd = none
  setter : h.firestarterSetControlRegister = some .memorySetControlRegister

theorem Driver.setUp_installed {driver : Driver} (b : Build) (hw : U8) (decoded : Handle)
    (unlocks : driver = .flashNorUnlock ∨ driver = .flash5vPage) :
    (driver.setUp b hw decoded).InstalledFrom driver.unlockedCallbacks := by
  have generic (callback : Callback) (other : ¬(decoded.cmd == cmdWrite) = true)
      (found : (decoded.withoutCallbacks.withMemoryCallbacks.withReadHighMask b
        hw).firestarterOperationMain = some callback) : callback = .memoryReadExecute := by
    have found : (if decoded.cmd == cmdRead then some Callback.memoryReadExecute
        else if decoded.cmd == cmdWrite then some .memoryWriteExecute else none) =
          some callback := found
    rw [if_neg other] at found
    split at found
    · exact (Option.some.inj found).symm
    · cases found
  have listed {callbacks : List Callback} {named : Callback} (member : named ∈ callbacks)
      (callback : Callback) (found : some named = some callback) : callback ∈ callbacks :=
    Option.some.inj found ▸ member
  have none' {callbacks : List Callback} (callback : Callback)
      (found : none = some callback) : callback ∈ callbacks := by cases found
  have read {callbacks : List Callback} (member : .memoryReadExecute ∈ callbacks)
      (other : ¬(decoded.cmd == cmdWrite) = true) (callback : Callback)
      (found : (decoded.withoutCallbacks.withMemoryCallbacks.withReadHighMask b
        hw).firestarterOperationMain = some callback) : callback ∈ callbacks :=
    (generic callback other found).symm ▸ member
  unfold Driver.setUp Driver.configured
  rcases unlocks with rfl | rfl
  · dsimp only [Handle.withFlashNorUnlockCallbacks]
    split_ifs with write
    · exact ⟨listed (by decide), listed (by decide), rfl, rfl⟩
    · exact ⟨listed (by decide), listed (by decide), rfl, rfl⟩
    · exact ⟨none', listed (by decide), rfl, rfl⟩
    · exact ⟨none', listed (by decide), rfl, rfl⟩
    · exact ⟨listed (by decide), read (by decide) write, rfl, rfl⟩
  · dsimp only [Handle.withFlash5vPageCallbacks]
    split_ifs with write
    · exact ⟨listed (by decide), listed (by decide), rfl, rfl⟩
    · exact ⟨none', listed (by decide), rfl, rfl⟩
    · exact ⟨listed (by decide), listed (by decide), rfl, rfl⟩
    · exact ⟨none', listed (by decide), rfl, rfl⟩
    · exact ⟨none', read (by decide) write, rfl, rfl⟩

/-- An accepted memory command is set up by the driver of its protocol. -/
theorem Handle.AcceptedIn.setUp {driver : Driver} (accepted : h.AcceptedIn env)
    (memory : isMemoryCmd h.cmd = true) (found : driverFor h.protocol = some driver) :
    ∃ hw decoded, h.parameters = (driver.setUp env.build hw decoded).parameters ∧
      h.cmd = decoded.cmd := by
  obtain ⟨v, accepted, rfl⟩ := accepted
  obtain ⟨driver', decoded, -, found', -, ⟨same, -⟩, -⟩ := accepted.setUp memory
  have unchanged := driver'.configured_unconfigured
    (decoded.withoutCallbacks.withMemoryCallbacks.withReadHighMask env.build v.hardwareRevision)
  have protocol' := congrArg Handle.protocol unchanged
  have protocol : v.handle.protocol = decoded.protocol :=
    (congrArg Handle.protocol same).trans protocol'
  obtain rfl : driver' = driver := by
    rw [protocol, found'] at found
    exact Option.some.inj found
  have cmd := congrArg Handle.cmd same
  have cmd' := driver'.setUp_cmd env.build v.hardwareRevision decoded
  exact ⟨v.hardwareRevision, decoded, same, Eq.trans cmd cmd'⟩

/-- What its driver makes the main callback of every such command is that of an accepted one, and
it has no last one. -/
theorem Handle.AcceptedIn.unlockedMain {driver : Driver} (accepted : h.AcceptedIn env)
    (memory : isMemoryCmd h.cmd = true) (found : driverFor h.protocol = some driver)
    (unlocks : driver = .flashNorUnlock ∨ driver = .flash5vPage) {callback : Callback}
    (main : ∀ hw decoded, decoded.cmd = h.cmd →
      (driver.setUp env.build hw decoded).firestarterOperationMain = some callback) :
    h.firestarterOperationMain = some callback ∧ h.firestarterOperationEnd = none := by
  obtain ⟨hw, decoded, same, cmd⟩ := accepted.setUp memory found
  have set := congrArg Handle.firestarterOperationMain same
  have finish := congrArg Handle.firestarterOperationEnd same
  exact ⟨Eq.trans set (main hw decoded cmd.symm),
    Eq.trans finish (Driver.setUp_installed env.build hw decoded unlocks).finish⟩

/-- The callback of a command for an unlocked part is one of its driver's. -/
theorem EnteredAs.unlocked {callback : Callback} {driver : Driver}
    (entered : EnteredAs env h callback w.handle) (memory : isMemoryCmd h.cmd = true)
    (found : driverFor h.protocol = some driver)
    (unlocks : driver = .flashNorUnlock ∨ driver = .flash5vPage) :
    GenericSetter w ∧ callback ∈ driver.unlockedCallbacks := by
  obtain ⟨hw, decoded, same, -⟩ := entered.accepted.setUp memory found
  have installed := Driver.setUp_installed env.build hw decoded unlocks
  have init := congrArg Handle.firestarterOperationInit same
  have main := congrArg Handle.firestarterOperationMain same
  have finish := congrArg Handle.firestarterOperationEnd same
  have setter := congrArg Handle.firestarterSetControlRegister same
  have kept := congrArg Handle.firestarterSetControlRegister entered.parameters
  refine ⟨(Eq.trans kept setter).trans installed.setter, ?_⟩
  have fromMain (here : h.firestarterOperationMain = some callback) :
      callback ∈ driver.unlockedCallbacks := installed.main _ (Eq.trans main.symm here)
  cases entered.enters with
  | chunk here => exact fromMain here
  | step here => exact fromMain here
  | housekeeping here =>
    rename_i st
    cases st with
    | inInit => exact installed.init _ (Eq.trans init.symm here)
    | inEnd =>
      have last : h.firestarterOperationEnd = none := Eq.trans finish installed.finish
      cases last.symm.trans here
    | _ => cases here

/-! ## The session -/

/-- A memory command for a part that is unlocked at two addresses. -/
def Handle.isUnlocked (h : Handle) : Bool :=
  isMemoryCmd h.cmd && (driverFor h.protocol == some .flashNorUnlock ||
    driverFor h.protocol == some .flash5vPage)

/-- A callback that only reads, or identifies the part. -/
theorem rewritten_same {callback : Callback} (same : Rewrites h sector id w w')
    (served : ∀ entry code m, unlockedServed sector callback entry code m m) :
    Rewritten h sector callback w w' := ⟨id, same, fun m => served _ _ m⟩

section
variable {callback : Callback} {m : Fw Unit}

theorem ends_served (run : Ends m env w (fun _ w' => Rewritten h sector callback w w')
      (BreaksOff h sector w)) :
    Ends m env w (fun _ w' => (unlockedContract h sector array).Serves callback w w')
      ((unlockedContract h sector array).Breaks w) :=
  run.mono (fun _ _ written => written.serves) fun _ broke => broke.breaks

theorem ends_served_same (run : Ends m env w (fun _ w' => Rewrites h sector id w w')
      (BreaksOff h sector w))
    (served : ∀ entry code m, unlockedServed sector callback entry code m m) :
    Ends m env w (fun _ w' => (unlockedContract h sector array).Serves callback w w')
      ((unlockedContract h sector array).Breaks w) :=
  ends_served (run.mono (fun _ _ same => rewritten_same same served) fun _ broke => broke)

theorem ends_served_reads (within : Within env Reads m)
    (served : ∀ entry code m, unlockedServed sector callback entry code m m) :
    Ends m env w (fun _ w' => (unlockedContract h sector array).Serves callback w w')
      ((unlockedContract h sector array).Breaks w) :=
  ends_served_same ((within.ends w).mono (fun _ _ reads => reads.makes still_reading)
    fun _ reads => ⟨_, reads.makes still_reading⟩) served

end

theorem ends_checkChipIdInit (setter : GenericSetter w) :
    Ends flashUtilCheckChipIdInit env w (fun _ w' => Rewrites h sector id w w')
      (BreaksOff h sector w) := by
  unfold flashUtilCheckChipIdInit
  rw [ends_bind, ends_getHandle]
  exact Ends.when (fun _ => ends_checkChipId h sector setter)
    fun _ => (refl_of Reads w).makes still_reading

theorem unlocked_session (sector : U32 → U32 → Bool) (array : U32 → U8)
    (unlocked : h.isUnlocked = true) : ChipSession env h (unlockedContract h sector array) where
  starts := rfl
  serves {callback w} _ entered := by
    obtain ⟨memory, drivers⟩ := Bool.and_eq_true_iff.mp unlocked
    rcases Bool.or_eq_true_iff.mp drivers with nor | page
    · have found := beq_iff_eq.mp nor
      obtain ⟨setter, member⟩ := entered.unlocked memory found (.inl rfl)
      have bytewise : (h.unlockedPart sector).programsPages = false := by
        show (driverFor h.protocol == some .flash5vPage) = false
        rw [found]
        rfl
      simp only [Driver.unlockedCallbacks, List.mem_cons, List.not_mem_nil, or_false] at member
      rcases member with rfl | rfl | rfl | rfl | rfl | rfl | rfl
      · exact ends_served_reads (inferInstanceAs (Within env Reads memoryReadExecute))
          fun _ _ _ => rfl
      · exact ends_served_same (ends_checkChipIdInit setter) fun _ _ _ => rfl
      · exact ends_served (ends_norWriteInit setter entered.calm)
      · exact ends_served (ends_norWrite bytewise setter)
      · refine ends_served ((ends_norErase h sector setter).mono (fun _ _ made => ?_) fun _ => id)
        exact ⟨_, made, fun _ => rfl⟩
      · exact ends_served_same (ends_checkChipId h sector setter) fun _ _ _ => rfl
      · exact ends_served_same (ends_reportProtection h sector setter _ _ _) fun _ _ _ => rfl
    · have found := beq_iff_eq.mp page
      obtain ⟨setter, member⟩ := entered.unlocked memory found (.inr rfl)
      have pages : (h.unlockedPart sector).programsPages = true := page
      have sized := congrArg Handle.pageSize entered.parameters
      have sized : w.handle.pageSize = h.pageSize := sized
      simp only [Driver.unlockedCallbacks, List.mem_cons, List.not_mem_nil, or_false] at member
      rcases member with rfl | rfl | rfl | rfl | rfl | rfl | rfl
      · exact ends_served_reads (inferInstanceAs (Within env Reads memoryReadExecute))
          fun _ _ _ => rfl
      · exact ends_served_same (ends_checkChipIdInit setter) fun _ _ _ => rfl
      · exact ends_served_same ((refl_of Reads w).makes still_reading) fun _ _ _ => rfl
      · exact ends_pageWrite pages setter sized
      · refine ends_served ((ends_chipErase h sector setter).mono (fun _ _ made => ?_) fun _ => id)
        exact ⟨_, made, fun _ => rfl⟩
      · exact ends_served_same (ends_checkChipId h sector setter) fun _ _ _ => rfl
      · exact ends_served_same (ends_reportProtection h sector setter _ _ _) fun _ _ _ => rfl

/-- Over every run, and wherever it is cut off, a part that is unlocked at two addresses is given no
cycle that has no meaning to it, reads its array between two callbacks, and holds what the callbacks
that have returned made of it. -/
theorem unlocked_parts {w : World} (seen : Seen env w) {h : Handle} {es : List Event}
    (events : commandEvents w.trace = some (h, es)) (unlocked : h.isUnlocked = true)
    (sector : U32 → U32 → Bool) (array : U32 → U8) : (unlockedContract h sector array).Kept es :=
  contract_kept (fun _ picked => unlocked_session sector array picked) seen events
    (Bool.and_eq_true_iff.mp unlocked).1 unlocked

/-- The part in the socket answers with its cell at the latched address. -/
def Handle.unlockedChip (h : Handle) (array : U32 → U8) (w : World) : U8 :=
  let address : U32 := w.latches.msb.setWidth 32 <<< 8 ||| w.latches.lsb.setWidth 32
  let part := (h.unlockedPart fun _ _ => false).part
  match part.run (reading array) (cycles w.trace.reverse) with
  | some s => s.array address
  | none => 0xFF

/-- The erase and the write of the first four bytes of a NOR part. -/
def norWrite : Handle :=
  { cmd := cmdWrite, ctrlFlags := flagCanErase, memSize := 65536, regionEnd := 4,
    protocol := protoFlashNorUnlock, pins := 32, vppMv := 5000,
    busConfig := { addressLines := [], rwLine := 0xFF, vppLine := 0xFF } }

/-- A Leonardo whose host sends the four bytes in two chunks, for a part that holds zeros. -/
def norWriteEnv : Env :=
  { Env.still ⟨.leonardo, false⟩ 200 with chip := norWrite.unlockedChip fun _ => 0 }.sends <|
    memoryFrame norWrite ++ [asciiO, asciiK, asciiO, asciiK] ++
      asciiHash :: communicationFrame [0x5A, 0xF0, 0x12] ++ asciiHash :: communicationFrame [0x34]

/-- The write of two pages of four bytes into a page part. -/
def pageWrite : Handle :=
  { cmd := cmdWrite, memSize := 65536, regionEnd := 8, protocol := protoFlash5vPage, pins := 32,
    vppMv := 5000, pageSize := 4,
    busConfig := { addressLines := [], rwLine := 0xFF, vppLine := 0xFF } }

/-- A Leonardo whose host sends the two pages in two chunks, for a part that holds zeros. -/
def pageWriteEnv : Env :=
  { Env.still ⟨.leonardo, false⟩ 200 with chip := pageWrite.unlockedChip fun _ => 0 }.sends <|
    memoryFrame pageWrite ++ [asciiO, asciiK, asciiO, asciiK] ++
      asciiHash :: communicationFrame [0x5A, 0xF0, 0x12, 0x34] ++
        asciiHash :: communicationFrame [0x80, 0x01, 0x02, 0x03]

/-- A run of this outside leaves these bytes in the first cells of the part, and has kept to the
contract. -/
def LeavesCells (env : Env) (held : List U8) : Prop :=
  ∃ (w : World) (h : Handle) (es : List Event), Seen env w ∧ commandEvents w.trace = some (h, es) ∧
    ((unlockedContract h (fun _ _ => false) fun _ => 0).after es).map
      (fun s => (List.range held.length).map fun a => s.array (BitVec.ofNat 32 a)) = some held ∧
    (unlockedContract h (fun _ _ => false) fun _ => 0).Kept es

/-- The NOR part ends with the four bytes, and is otherwise erased; the page part ends with its two
pages, and is otherwise as it was. -/
theorem unlocked_parts_writes : LeavesCells norWriteEnv [0x5A, 0xF0, 0x12, 0x34, 0xFF] ∧
    LeavesCells pageWriteEnv [0x5A, 0xF0, 0x12, 0x34, 0x80, 0x01, 0x02, 0x03, 0x00] := by
  have leaves {env : Env} {held : List U8} (ran : commandAfter env 6 (fun _ h es => (h.isUnlocked,
      ((unlockedContract h (fun _ _ => false) fun _ => 0).after es).map fun s =>
        (List.range held.length).map fun a => s.array (BitVec.ofNat 32 a))) =
      some (true, some held)) : LeavesCells env held := by
    obtain ⟨w, h, es, -, seen, events, ran⟩ := exists_of_commandAfter ran
    obtain ⟨unlocked, after⟩ := Prod.mk.inj ran
    exact ⟨w, h, es, seen, events, after, unlocked_parts seen events unlocked _ _⟩
  exact ⟨leaves (by decide +kernel), leaves (by decide +kernel)⟩

end Firestarter
