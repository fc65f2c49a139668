import Firestarter.AddressLines

/-! The remap as the firmware computes it, with a mask and a prefix it derives when a frame is
decoded, against the mapping the table of a frame stands for, entry by entry. -/
namespace Firestarter

/-! ## The mapping a table stands for -/

/-- One entry of the table puts its address bit on its line; an absent entry puts nothing. -/
def entryBit (address : U32) (entry : U8 × Nat) : U32 :=
  if entry.1 != cfLineAbsent && address.getLsbD entry.2 then lineBit entry.1 else 0

/-- All entries together, in whatever order they are listed; a frame with an empty table passes the
low sixteen address bits through. -/
def BusConfig.referenceLines (config : BusConfig) (address : U32) : U32 :=
  if config.addressLines.all (· == cfLineAbsent) then address &&& 0xFFFF
  else config.addressLines.zipIdx.foldl (fun bus entry => bus ||| entryBit address entry) 0

/-- The pin-1 supply line of a read, held high unless pin 1 or, where the line's own switch is one
of the programming voltage, the regulator is on. -/
def Handle.referenceReadHigh (b : Build) (hw : U8) (h : Handle) (control : Reg) : U32 :=
  let line := h.busConfig.vppLine
  let pin1On := control &&& ctrlVppP1Enable != 0
  let regulatorOn := control &&& ctrlVppRegulatorEnable != 0
  if line != cfLineAbsent && h.usingP1AsVpp && !pin1On &&
      !(vppLineSwitchesVpp b hw line && regulatorOn) then lineBit line
  else 0

/-- What the socket is to see of an address. -/
def Handle.referenceAddress (b : Build) (hw : U8) (h : Handle) (address readWrite : U32)
    (control : Reg) : U32 :=
  let config := h.busConfig
  config.referenceLines address |||
    (if readWrite == readFlag && config.rwLine != cfLineAbsent then lineBit config.rwLine else 0) |||
    (if config.vppLine != cfLineAbsent && !h.usingP1AsVpp then lineBit config.vppLine else 0) |||
    (if readWrite == readFlag then h.referenceReadHigh b hw control else 0) |||
    config.staticHighMask

/-! ## Bit by bit -/

variable {f : MemoryFrame} {h : Handle} {b : Build} {hw : U8} {address : U32}

theorem orFold_getLsbD (entries : List (U8 × Nat)) (bus : U32) (n : Nat) :
    (entries.foldl (fun bus entry => bus ||| entryBit address entry) bus).getLsbD n =
      (bus.getLsbD n || entries.any fun entry => (entryBit address entry).getLsbD n) := by
  induction entries generalizing bus with
  | nil => simp
  | cons entry rest ih => rw [List.foldl_cons, ih, BitVec.getLsbD_or, List.any_cons, Bool.or_assoc]

theorem entryBit_getLsbD {line : U8} (onBus : line < cfBusLines) (i n : Nat) :
    (entryBit address (line, i)).getLsbD n = (address.getLsbD i && decide (n = line.toNat)) := by
  have present : (line != cfLineAbsent) = true := by
    rw [bne_iff_ne]
    rintro rfl
    exact absent_off_bus onBus
  unfold entryBit
  dsimp only
  rw [present, Bool.true_and, ite_getLsbD, lineBit_getLsbD onBus]

theorem entryBit_absent (i : Nat) : entryBit address (cfLineAbsent, i) = 0 := by
  unfold entryBit
  simp

/-- Entry `j` of the table as the handle has it. -/
theorem MemoryFrame.table_zipIdx_any (wellFormed : f.WellFormed) (n : Nat) :
    (f.table.zipIdx.any fun entry => (entryBit address entry).getLsbD n) =
      decide (∃ (j : Nat) (_ : j < f.lines.length), f.lines[j].toNat = n ∧ address.getLsbD j) := by
  rw [Bool.eq_iff_iff, List.any_eq_true, decide_eq_true_iff]
  constructor
  · rintro ⟨⟨line, j⟩, member, set⟩
    have found : f.table[j]? = some line := List.mk_mem_zipIdx_iff_getElem?.mp member
    rw [MemoryFrame.table] at found
    by_cases inside : j < f.lines.length
    · rw [List.getElem?_append_left inside, List.getElem?_eq_getElem inside] at found
      have same : f.lines[j] = line := Option.some.inj found
      rw [entryBit_getLsbD (same ▸ wellFormed.onBus _ (List.getElem_mem inside)),
        Bool.and_eq_true, decide_eq_true_iff] at set
      exact ⟨j, inside, by rw [same, set.2], set.1⟩
    · rw [List.getElem?_append_right (by omega)] at found
      have absent : line = cfLineAbsent := List.eq_of_mem_replicate (List.mem_of_getElem? found)
      rw [absent, entryBit_absent] at set
      simp at set
  · rintro ⟨j, inside, rfl, set⟩
    refine ⟨(f.lines[j], j), List.mk_mem_zipIdx_iff_getElem?.mpr ?_, ?_⟩
    · rw [MemoryFrame.table, List.getElem?_append_left inside, List.getElem?_eq_getElem inside]
    · rw [entryBit_getLsbD (wellFormed.onBus _ (List.getElem_mem inside)), set]
      simp

theorem MemoryFrame.referenceLines_eq (wellFormed : f.WellFormed) :
    (f.configured b hw h).busConfig.referenceLines address =
      (f.configured b hw h).busConfig.remapped address := by
  by_cases empty : f.lines = []
  · have table : (f.configured b hw h).busConfig.addressLines =
        List.replicate cfAddressLines cfLineAbsent := by
      show f.table = _
      rw [MemoryFrame.table, empty]
      rfl
    have mask : (f.configured b hw h).busConfig.addressMask = 0xFFFF := if_pos empty
    unfold BusConfig.referenceLines BusConfig.remapped
    dsimp only
    rw [table, mask, if_pos (by decide), if_neg (by decide), BitVec.and_comm]
  · have listed : ¬ (f.configured b hw h).busConfig.addressLines.all (· == cfLineAbsent) = true := by
      show ¬ f.table.all (· == cfLineAbsent) = true
      rw [List.all_eq_true]
      intro absent
      obtain ⟨line, rest, same⟩ := List.exists_cons_of_ne_nil empty
      have member : line ∈ f.lines := same ▸ List.mem_cons_self
      have none := absent line (List.mem_append_left _ member)
      exact f.absent_not_listed wellFormed (beq_iff_eq.mp none ▸ member)
    apply BitVec.eq_of_getLsbD_eq
    intro n _
    unfold BusConfig.referenceLines
    rw [if_neg listed, orFold_getLsbD]
    have fold : (f.configured b hw h).busConfig.addressLines = f.table := rfl
    have zero : (0 : U32).getLsbD n = false := BitVec.getLsbD_zero
    rw [fold, f.table_zipIdx_any wellFormed, zero, Bool.false_or]
    by_cases found : ∃ line ∈ f.lines, line.toNat = n
    · obtain ⟨line, member, rfl⟩ := found
      obtain ⟨j, inside, rfl⟩ := List.getElem_of_mem member
      rw [f.remapped_listed wellFormed address j inside, Bool.eq_iff_iff, decide_eq_true_iff]
      constructor
      · rintro ⟨i, bound, same, set⟩
        have same : i = j :=
          (List.Nodup.getElem_inj_iff wellFormed.distinct).mp (BitVec.eq_of_toNat_eq same)
        exact same ▸ set
      · intro set
        exact ⟨j, inside, rfl, set⟩
    · have unlisted (line : U8) (member : line ∈ f.lines) : line.toNat ≠ n :=
        fun same => found ⟨line, member, same⟩
      rw [f.remapped_unlisted wellFormed empty address unlisted, decide_eq_false_iff_not]
      rintro ⟨j, inside, same, -⟩
      exact unlisted _ (List.getElem_mem inside) same

theorem readWrite_bit {readWrite : U32} (direction : readWrite = readFlag ∨ readWrite = writeFlag)
    (line : U8) : readWrite <<< line.toNat = if readWrite == readFlag then lineBit line else 0 := by
  rcases direction with rfl | rfl
  · rfl
  · exact BitVec.zero_shiftLeft _

/-- The masks of the decoder and of `configure_memory` hold the supply high as the reference does. -/
theorem readHighBits_eq (decoded : Handle) (readWrite : U32) (control : Reg) :
    readHighBits (decoded.withReadHighMask b hw).busConfig readWrite control =
      if readWrite == readFlag then
        (decoded.withReadHighMask b hw).referenceReadHigh b hw control
      else 0 := by
  have pin1 : (decoded.withReadHighMask b hw).usingP1AsVpp = decoded.usingP1AsVpp := rfl
  have line : (decoded.withReadHighMask b hw).busConfig.vppLine = decoded.busConfig.vppLine := rfl
  have mask : (decoded.withReadHighMask b hw).busConfig.readHighMask =
      if decoded.busConfig.vppLine != cfLineAbsent && decoded.usingP1AsVpp then
        lineBit decoded.busConfig.vppLine
      else 0 := rfl
  have needs : (decoded.withReadHighMask b hw).busConfig.readHighNeedsRegOff =
      (decoded.busConfig.vppLine != cfLineAbsent && decoded.usingP1AsVpp &&
        vppLineSwitchesVpp b hw decoded.busConfig.vppLine) := rfl
  unfold readHighBits Handle.referenceReadHigh
  simp only [pin1, line, mask, needs]
  cases decoded.busConfig.vppLine != cfLineAbsent && decoded.usingP1AsVpp with
  | false => simp
  | true =>
    cases readWrite == readFlag with
    | false => simp
    | true =>
      cases vppLineSwitchesVpp b hw decoded.busConfig.vppLine with
      | false => simp
      | true => simp [BitVec.and_or_distrib_left]

/-- The fast remap is the mapping of the frame's table, whatever the address, the direction and the
state of the control register. -/
theorem remap_eq_reference {received : Handle}
    (accepted : (cmdDecode b received).2 = cmdDecodeOk)
    (memory : cfPayloadKind (received.dataBuffer 2) = .memory)
    (bus : h.busConfig = ((cmdDecode b received).1.withReadHighMask b hw).busConfig)
    (pins : h.pins = (cmdDecode b received).1.pins) {readWrite : U32}
    (direction : readWrite = readFlag ∨ readWrite = writeFlag) (address : U32) (control : Reg) :
    memUtilRemapAddressBus h address readWrite control =
      h.referenceAddress b hw address readWrite control := by
  obtain ⟨f, wellFormed, decoded⟩ := exists_memory_frame accepted memory
  have bus : h.busConfig = (f.configured b hw received).busConfig := by
    rw [bus, decoded, MemoryFrame.configured]
  have pin1 : h.usingP1AsVpp = (f.configured b hw received).usingP1AsVpp := by
    unfold Handle.usingP1AsVpp
    rw [bus, pins, decoded]
    rfl
  have readHigh : readHighBits h.busConfig readWrite control =
      if readWrite == readFlag then h.referenceReadHigh b hw control else 0 := by
    have masks := @readHighBits_eq b hw ((CommandFrame.memory f).apply received) readWrite control
    unfold Handle.referenceReadHigh at masks ⊢
    rw [bus, pin1]
    exact masks
  have lines : h.busConfig.remapped address = h.busConfig.referenceLines address := by
    rw [bus, f.referenceLines_eq wellFormed]
  have rwBit : (if h.busConfig.rwLine != 0xFF then readWrite <<< h.busConfig.rwLine.toNat else 0) =
      if readWrite == readFlag && h.busConfig.rwLine != cfLineAbsent then lineBit h.busConfig.rwLine
      else 0 := by
    rw [readWrite_bit direction]
    unfold cfLineAbsent
    cases readWrite == readFlag <;> simp
  rw [memUtilRemapAddressBus_eq]
  unfold Handle.steadyLines Handle.referenceAddress
  dsimp only
  rw [lines, readHigh, rwBit]
  simp only [BitVec.or_assoc]
  rfl

/-- A read of a 32-pin chip with pin 1 for its supply and a table out of order. -/
def permutedRead : MemoryFrame :=
  { smallChipRead with
    memSize := 8, pins := 32, lines := [1, 0, 5], rwLine := 6, vppLine := vppP132Dip }

theorem remap_permuted :
    memUtilRemapAddressBus (permutedRead.asReceived ⟨.uno, false⟩ revision22) 6 readFlag 0 =
      lineBit 0 ||| lineBit 5 ||| lineBit 6 ||| lineBit 21 :=
  (@remap_eq_reference (permutedRead.asReceived ⟨.uno, false⟩ revision22) ⟨.uno, false⟩ revision22
    (.receiving (CommandFrame.memory permutedRead).bytes) (by decide +kernel) rfl rfl rfl readFlag
    (.inl rfl) 6 0).trans (by decide +kernel)

end Firestarter
