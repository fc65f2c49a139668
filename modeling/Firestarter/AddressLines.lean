import Firestarter.CommandGrammar
import Firestarter.CommandSetup
import Mathlib.Data.List.Nodup
import Mathlib.Tactic.IntervalCases

/-! How an address reaches the socket: which bus lines the three latches show, and on which line the
mapping of an accepted frame puts each address bit. -/
namespace Firestarter

open Interactive Interactive.Prog

/-! ## Bits -/

theorem and_bit_ne_zero {w : Nat} (v : BitVec w) (n : Nat) :
    (v &&& BitVec.twoPow w n != 0) = v.getLsbD n := by
  rw [BitVec.and_twoPow]
  by_cases set : v.getLsbD n
  · have small : n < w := BitVec.lt_of_getLsbD set
    rw [if_pos set, set, bne_iff_ne]
    intro zero
    have bit := congrArg (fun v => v.getLsbD n) zero
    simp [small] at bit
  · simp [set]

theorem ite_getLsbD {w : Nat} (c : Bool) (v : BitVec w) (n : Nat) :
    (if c = true then v else 0).getLsbD n = (c && v.getLsbD n) := by
  cases c with
  | true => rfl
  | false => exact BitVec.getLsbD_zero

/-- The drop resistor stays selected over an address write. -/
def dropKept (hw pins : U8) (control : Reg) : Bool :=
  control.getLsbD 8 && (pins < 32 || isRevision2 hw)

/-- The bits of the register an address write leaves. -/
def topAddressBit (hw pins : U8) (control : Reg) (bus : U32) : Nat → Bool
  | 0 => bus.getLsbD 16
  | 4 => bus.getLsbD 20 || pins == 28
  | 5 => bus.getLsbD 21
  | 6 => bus.getLsbD 22
  | 8 => dropKept hw pins control
  | n => control.getLsbD n

variable {b : Build} {hw pins : U8} {control : Reg} {bus : U32}

theorem vppVpeDropEnable_eq (layout : b.hardwareRevision = true) : ctrlVppVpeDropEnable b = 0x100 :=
  if_pos layout

theorem preserveMask_bit (layout : b.hardwareRevision = true) (n : Nat) (inside : n < 9) :
    (topAddressPreserveMask b hw pins).getLsbD n =
      (n == 1 || n == 2 || n == 3 || n == 7 ||
        n == 8 && (decide (pins < 32) || isRevision2 hw)) := by
  unfold topAddressPreserveMask
  rw [vppVpeDropEnable_eq layout, layout, Bool.true_and]
  by_cases short : pins < 32
  · simp only [short, if_true, decide_true, Bool.true_or]
    interval_cases n <;> rfl
  · by_cases rev : isRevision2 hw
    · simp only [short, rev, if_true, if_false, decide_false, Bool.false_or]
      interval_cases n <;> rfl
    · simp only [short, rev, if_false, decide_false, Bool.false_or]
      interval_cases n <;> rfl

theorem topAddress_bit (layout : b.hardwareRevision = true) (n : Nat) (inside : n < 9) :
    (memUtilCalculateTopAddressRegister b hw pins control bus).getLsbD n =
      topAddressBit hw pins control bus n := by
  have forced (v : Reg) : (if (pins == 28) = true then v ||| ctrlAddressLine17 else v).getLsbD n =
      (v.getLsbD n || (pins == 28 && ctrlAddressLine17.getLsbD n)) := by
    cases pins == 28 with
    | true => exact BitVec.getLsbD_or
    | false => exact (Bool.or_false _).symm
  unfold memUtilCalculateTopAddressRegister
  dsimp only
  rw [forced]
  simp only [BitVec.getLsbD_or, BitVec.getLsbD_and, preserveMask_bit layout n inside,
    BitVec.getLsbD_setWidth, BitVec.getLsbD_ushiftRight, rurpCtrlAddressShift]
  interval_cases n <;>
    simp [topAddressBit, dropKept, ctrlAddressLine16, ctrlAddressLine17, ctrlAddressLine18,
      ctrlReadWrite]

/-- The revisions whose register layout is known. -/
def isSupportedRevision (hw : U8) : Bool := hw == revision0 || hw == revision1 || isRevision2 hw

/-- Where the bits of the logical register go: Rev 2.x moves three of them, the earlier boards
give two of them one wire. -/
def latchBit (hw : U8) (bit : Nat → Bool) : Nat → Bool
  | 0 => bit 8 || !isRevision2 hw && bit 0
  | 3 => bit 3 || isRevision2 hw && bit 5
  | 5 => if isRevision2 hw then bit 0 else bit 5
  | n => bit n

theorem latchBit_congr {bit bit' : Nat → Bool} (same : ∀ n < 9, bit n = bit' n) (n : Nat)
    (inside : n < 8) : latchBit hw bit n = latchBit hw bit' n := by
  unfold latchBit
  split
  · rw [same 8 (by omega), same 0 (by omega)]
  · rw [same 3 (by omega), same 5 (by omega)]
  · rw [same 0 (by omega), same 5 (by omega)]
  · exact same n (by omega)

theorem mapCtrlReg_bit (supported : isSupportedRevision hw = true) (data : Reg) (n : Nat)
    (inside : n < 8) : (mapCtrlReg hw data).getLsbD n = latchBit hw data.getLsbD n := by
  have drop : (data &&& 0x100 != 0) = data.getLsbD 8 := and_bit_ne_zero data 8
  have line16 : (data &&& ctrlAddressLine16 != 0) = data.getLsbD 0 := and_bit_ne_zero data 0
  have line18 : (data &&& ctrlAddressLine18 != 0) = data.getLsbD 5 := and_bit_ne_zero data 5
  unfold mapCtrlReg
  rw [drop, line16, line18]
  by_cases rev : isRevision2 hw
  · rw [if_pos rev]
    simp only [BitVec.getLsbD_or, ite_getLsbD]
    interval_cases n <;>
      simp [latchBit, rev, ctrlVppA9Enable, ctrlVpeEnable, ctrlVppP1Enable, ctrlAddressLine17,
        ctrlReadWrite, ctrlVppRegulatorEnable]
  · have early : (hw == revision0 || hw == revision1) = true := by
      unfold isSupportedRevision at supported
      rw [Bool.not_eq_true] at rev
      rw [rev, Bool.or_false] at supported
      exact supported
    rw [if_neg rev, if_pos early]
    simp only [BitVec.getLsbD_or, ite_getLsbD]
    interval_cases n <;> simp [latchBit, rev, Bool.or_comm]

theorem controlLatch_bit (layout : b.hardwareRevision = true)
    (supported : isSupportedRevision hw = true) (n : Nat) (inside : n < 8) :
    (physicalControl b hw (memUtilCalculateTopAddressRegister b hw pins control bus)).getLsbD n =
      latchBit hw (topAddressBit hw pins control bus) n := by
  unfold physicalControl
  rw [if_pos layout, mapCtrlReg_bit supported _ n inside]
  exact latchBit_congr (topAddress_bit layout) n inside

/-! ## What the latches show of the bus -/

/-- The switches of the programming voltage. -/
def highVoltageBits (b : Build) : Reg := rurpSocketVppRouteBits ||| epromHvRouteBits b

/-- The three latches after an address write. -/
def latched (b : Build) (hw pins : U8) (control : Reg) (bus : U32) : Latches where
  lsb := bus.setWidth 8
  msb := (bus >>> 8).setWidth 8
  control := physicalControl b hw (memUtilCalculateTopAddressRegister b hw pins control bus)

/-- The bus lines whose level reaches a latch of its own. A 28-pin part has its supply on line 20,
and two lines share a bit with a switch of the programming voltage while that switch is on. -/
def lineDriven (hw pins : U8) (control : Reg) (line : Nat) : Bool :=
  line < 16 || line == 22 ||
    line == 16 && (isRevision2 hw || !dropKept hw pins control) ||
    line == 20 && pins != 28 ||
    line == 21 && !(isRevision2 hw && control.getLsbD 3)

theorem highVoltage_bit {control control' : Reg} (layout : b.hardwareRevision = true)
    (same : control' &&& highVoltageBits b = control &&& highVoltageBits b) (n : Nat)
    (switch : n = 1 ∨ n = 2 ∨ n = 3 ∨ n = 7 ∨ n = 8) : control'.getLsbD n = control.getLsbD n := by
  have bit := congrArg (fun v => v.getLsbD n) same
  unfold highVoltageBits epromHvRouteBits at bit
  rw [vppVpeDropEnable_eq layout] at bit
  simp only [BitVec.getLsbD_and] at bit
  have set : (rurpSocketVppRouteBits ||| (ctrlVppRegulatorEnable ||| 0x100)).getLsbD n = true := by
    rcases switch with rfl | rfl | rfl | rfl | rfl <;> rfl
  rw [set, Bool.and_true, Bool.and_true] at bit
  exact bit

theorem setWidth_eq_iff {w v : Nat} {x y : BitVec w} :
    x.setWidth v = y.setWidth v ↔ ∀ n < v, x.getLsbD n = y.getLsbD n := by
  constructor
  · intro same n inside
    have bit := congrArg (fun z => z.getLsbD n) same
    simp only [BitVec.getLsbD_setWidth, inside, decide_true, Bool.true_and] at bit
    exact bit
  · intro same
    apply BitVec.eq_of_getLsbD_eq
    intro n inside
    rw [BitVec.getLsbD_setWidth, BitVec.getLsbD_setWidth, same n inside]

theorem lineDriven_iff {line : Nat} :
    lineDriven hw pins control line = true ↔
      line < 16 ∨ line = 22 ∨
        line = 16 ∧ (isRevision2 hw = true ∨ dropKept hw pins control = false) ∨
        line = 20 ∧ pins ≠ 28 ∨
        line = 21 ∧ (isRevision2 hw = true → control.getLsbD 3 = false) := by
  unfold lineDriven
  cases isRevision2 hw <;> simp [or_assoc]

/-- A bit that a switch shares tells nothing while the switch is on. -/
theorem or_eq_or_of_off {switch x y : Bool} (free : switch = false → x = y) :
    (switch || x) = (switch || y) := by
  cases switch with
  | true => rfl
  | false => exact free rfl

theorem controlLatch_eq_iff {control control' : Reg} {bus bus' : U32}
    (layout : b.hardwareRevision = true) (supported : isSupportedRevision hw = true)
    (same : control' &&& highVoltageBits b = control &&& highVoltageBits b) :
    physicalControl b hw (memUtilCalculateTopAddressRegister b hw pins control bus) =
        physicalControl b hw (memUtilCalculateTopAddressRegister b hw pins control' bus') ↔
      ∀ line, 16 ≤ line → lineDriven hw pins control line = true →
        bus.getLsbD line = bus'.getLsbD line := by
  have switch := highVoltage_bit layout same
  have kept : dropKept hw pins control' = dropKept hw pins control := by
    unfold dropKept
    rw [switch 8 (by simp)]
  have bits : physicalControl b hw (memUtilCalculateTopAddressRegister b hw pins control bus) =
        physicalControl b hw (memUtilCalculateTopAddressRegister b hw pins control' bus') ↔
      ∀ n < 8, latchBit hw (topAddressBit hw pins control bus) n =
        latchBit hw (topAddressBit hw pins control' bus') n := by
    constructor
    · intro same n inside
      rw [← controlLatch_bit layout supported n inside, same,
        controlLatch_bit layout supported n inside]
    · intro same
      apply BitVec.eq_of_getLsbD_eq
      intro n inside
      rw [controlLatch_bit layout supported n inside, controlLatch_bit layout supported n inside,
        same n inside]
  rw [bits]
  constructor
  · intro same line high driven
    rcases lineDriven_iff.mp driven with low | rfl | ⟨rfl, free⟩ | ⟨rfl, free⟩ | ⟨rfl, free⟩
    · omega
    · exact same 6 (by omega)
    · by_cases rev : isRevision2 hw
      · have bit := same 5 (by omega)
        simp only [latchBit, rev, if_true] at bit
        exact bit
      · have off : dropKept hw pins control = false := free.resolve_left rev
        have bit := same 0 (by omega)
        simp only [latchBit, topAddressBit, kept, off, rev, Bool.false_or, Bool.not_false,
          Bool.true_and] at bit
        exact bit
    · have bit := same 4 (by omega)
      simp only [latchBit, topAddressBit, beq_eq_false_iff_ne.mpr free, Bool.or_false] at bit
      exact bit
    · by_cases rev : isRevision2 hw
      · have off : control.getLsbD 3 = false := free rev
        have bit := same 3 (by omega)
        simp only [latchBit, topAddressBit, switch 3 (by simp), off, rev, Bool.false_or,
          Bool.true_and] at bit
        exact bit
      · have bit := same 5 (by omega)
        simp only [latchBit, rev] at bit
        exact bit
  · intro same n inside
    have line22 := same 22 (by omega) (lineDriven_iff.mpr (.inr (.inl rfl)))
    have line16 (free : isRevision2 hw = true ∨ dropKept hw pins control = false) :=
      same 16 (by omega) (lineDriven_iff.mpr (.inr (.inr (.inl ⟨rfl, free⟩))))
    have line20 (free : pins ≠ 28) :=
      same 20 (by omega) (lineDriven_iff.mpr (.inr (.inr (.inr (.inl ⟨rfl, free⟩)))))
    have line21 (free : isRevision2 hw = true → control.getLsbD 3 = false) :=
      same 21 (by omega) (lineDriven_iff.mpr (.inr (.inr (.inr (.inr ⟨rfl, free⟩)))))
    have supply : (bus.getLsbD 20 || pins == 28) = (bus'.getLsbD 20 || pins == 28) := by
      rw [Bool.or_comm, Bool.or_comm (bus'.getLsbD 20)]
      exact or_eq_or_of_off fun free => line20 (beq_eq_false_iff_ne.mp free)
    by_cases rev : isRevision2 hw
    · have shared :
          (control.getLsbD 3 || bus.getLsbD 21) = (control.getLsbD 3 || bus'.getLsbD 21) :=
        or_eq_or_of_off fun off => line21 fun _ => off
      interval_cases n <;>
        simp only [latchBit, topAddressBit, rev, kept, supply, shared, line22, line16 (.inl rev),
          switch 1 (by simp), switch 2 (by simp), switch 3 (by simp), switch 7 (by simp),
          Bool.true_and, if_true]
    · have shared : (dropKept hw pins control || bus.getLsbD 16) =
          (dropKept hw pins control || bus'.getLsbD 16) :=
        or_eq_or_of_off fun off => line16 (.inr off)
      have line21 := line21 fun known => (rev known).elim
      interval_cases n <;>
        simp only [latchBit, topAddressBit, rev, kept, supply, shared, line22, line21,
          switch 1 (by simp), switch 2 (by simp), switch 3 (by simp), switch 7 (by simp),
          Bool.not_false, Bool.true_and, Bool.false_eq_true, if_false]

theorem latched_eq_iff {control control' : Reg} {bus bus' : U32}
    (layout : b.hardwareRevision = true) (supported : isSupportedRevision hw = true)
    (same : control' &&& highVoltageBits b = control &&& highVoltageBits b) :
    latched b hw pins control bus = latched b hw pins control' bus' ↔
      ∀ line, lineDriven hw pins control line = true → bus.getLsbD line = bus'.getLsbD line := by
  have bytes : latched b hw pins control bus = latched b hw pins control' bus' ↔
      bus.setWidth 8 = bus'.setWidth 8 ∧
        (bus >>> 8).setWidth 8 = (bus' >>> 8).setWidth 8 ∧
        physicalControl b hw (memUtilCalculateTopAddressRegister b hw pins control bus) =
          physicalControl b hw (memUtilCalculateTopAddressRegister b hw pins control' bus') := by
    unfold latched
    rw [Latches.mk.injEq]
  rw [bytes, setWidth_eq_iff, setWidth_eq_iff, controlLatch_eq_iff layout supported same]
  simp only [BitVec.getLsbD_ushiftRight]
  constructor
  · rintro ⟨low, middle, high⟩ line driven
    by_cases below : line < 8
    · exact low line below
    · by_cases between : line < 16
      · have moved := middle (line - 8) (by omega)
        rw [Nat.add_sub_cancel' (by omega)] at moved
        exact moved
      · exact high line (by omega) driven
  · intro same
    have low (line : Nat) (below : line < 16) : bus.getLsbD line = bus'.getLsbD line :=
      same line (by simp [lineDriven, below])
    exact ⟨fun n inside => low n (by omega), fun n inside => low (8 + n) (by omega),
      fun line _ => same line⟩


/-! ## The loop of the remap -/

theorem remapLines_step (address reorg : U32) (line : U8) (onBus : line < cfBusLines) (i n : Nat) :
    (if address.getLsbD i then reorg &&& ~~~(lineBit line) ||| lineBit line
      else reorg &&& ~~~(lineBit line)).getLsbD n =
      if n = line.toNat then address.getLsbD i else reorg.getLsbD n := by
  have small : line.toNat < 24 := onBus
  have kept : (reorg &&& ~~~(lineBit line)).getLsbD n =
      (reorg.getLsbD n && !decide (n = line.toNat)) := by
    rw [BitVec.getLsbD_and, BitVec.getLsbD_not, lineBit_getLsbD onBus]
    by_cases wide : n < 32
    · simp only [wide, decide_true, Bool.true_and]
    · rw [BitVec.getLsbD_of_ge reorg n (by omega), Bool.false_and, Bool.false_and]
  by_cases here : n = line.toNat
  · rw [if_pos here]
    cases address.getLsbD i with
    | true =>
      rw [if_pos rfl, BitVec.getLsbD_or, lineBit_getLsbD onBus, decide_eq_true here, Bool.or_true]
    | false => rw [if_neg nofun, kept, decide_eq_true here, Bool.not_true, Bool.and_false]
  · rw [if_neg here]
    cases address.getLsbD i with
    | true =>
      rw [if_pos rfl, BitVec.getLsbD_or, kept, lineBit_getLsbD onBus, decide_eq_false here,
        Bool.not_false, Bool.and_true, Bool.or_false]
    | false => rw [if_neg nofun, kept, decide_eq_false here, Bool.not_false, Bool.and_true]

theorem remapLines_cons (address reorg : U32) (line : U8) (rest : List U8)
    (onBus : line < cfBusLines) (i : Nat) :
    remapLines address (line :: rest) i reorg =
      remapLines address rest (i + 1)
        (if address.getLsbD i then reorg &&& ~~~(lineBit line) ||| lineBit line
          else reorg &&& ~~~(lineBit line)) := by
  have present : (line == 0xFF) = false := by
    rw [beq_eq_false_iff_ne]
    rintro rfl
    exact absent_off_bus onBus
  rw [remapLines, present]
  rfl

theorem remapLines_absent (address reorg : U32) (k i : Nat) :
    remapLines address (List.replicate k cfLineAbsent) i reorg = reorg := by
  cases k with
  | zero => rfl
  | succ k => rfl

/-- The loop leaves the lines alone that the table does not list. -/
theorem remapLines_unlisted {address : U32} {table : List U8} {n : Nat}
    (onBus : ∀ line ∈ table, line < cfBusLines) (unlisted : ∀ line ∈ table, line.toNat ≠ n)
    (k i : Nat) (reorg : U32) :
    (remapLines address (table ++ List.replicate k cfLineAbsent) i reorg).getLsbD n =
      reorg.getLsbD n := by
  induction table generalizing i reorg with
  | nil => rw [List.nil_append, remapLines_absent]
  | cons line rest ih =>
    have first := onBus line List.mem_cons_self
    rw [List.cons_append, remapLines_cons _ _ _ _ first,
      ih (fun line member => onBus line (List.mem_cons_of_mem _ member))
        (fun line member => unlisted line (List.mem_cons_of_mem _ member)),
      remapLines_step _ _ _ first, if_neg (unlisted line List.mem_cons_self).symm]

/-- It puts each address bit on its line, once for all as no line is listed twice. -/
theorem remapLines_listed {address : U32} {table : List U8}
    (onBus : ∀ line ∈ table, line < cfBusLines) (distinct : table.Nodup) (k i : Nat) (reorg : U32)
    (j : Nat) (inside : j < table.length) :
    (remapLines address (table ++ List.replicate k cfLineAbsent) i reorg).getLsbD table[j].toNat =
      address.getLsbD (i + j) := by
  induction table generalizing i reorg j with
  | nil => exact absurd inside (Nat.not_lt_zero j)
  | cons line rest ih =>
    have first := onBus line List.mem_cons_self
    have later (line : U8) (member : line ∈ rest) := onBus line (List.mem_cons_of_mem _ member)
    obtain ⟨fresh, distinct⟩ := List.nodup_cons.mp distinct
    rw [List.cons_append, remapLines_cons _ _ _ _ first]
    cases j with
    | zero =>
      have unlisted (other : U8) (member : other ∈ rest) : other.toNat ≠ line.toNat := by
        intro same
        exact fresh (BitVec.eq_of_toNat_eq same ▸ member)
      rw [List.getElem_cons_zero, remapLines_unlisted later unlisted, remapLines_step _ _ _ first,
        if_pos rfl, Nat.add_zero]
    | succ j =>
      rw [List.getElem_cons_succ, ih later distinct _ _ j (Nat.lt_of_succ_lt_succ inside)]
      rw [Nat.add_right_comm, Nat.add_assoc]

theorem lineMask_getLsbD {lines : List U8} (onBus : ∀ line ∈ lines, line < cfBusLines) (n : Nat) :
    (lineMask lines).getLsbD n = decide (∃ line ∈ lines, line.toNat = n) := by
  have folded (mask : U32) : (lines.foldl (fun mask line => mask ||| lineBit line) mask).getLsbD n =
      (mask.getLsbD n || decide (∃ line ∈ lines, line.toNat = n)) := by
    induction lines generalizing mask with
    | nil => simp
    | cons line rest ih =>
      rw [List.foldl_cons, ih (fun line member => onBus line (List.mem_cons_of_mem _ member)),
        BitVec.getLsbD_or, lineBit_getLsbD (onBus line List.mem_cons_self), Bool.or_assoc]
      simp [eq_comm]
  have none : (0 : U32).getLsbD n = false := BitVec.getLsbD_zero
  rw [lineMask, folded, none, Bool.false_or]

/-! ## The lines of an accepted frame -/

/-- The lines a bus configuration lists: the entries before the first absent one. -/
def BusConfig.listed (config : BusConfig) : List U8 :=
  config.addressLines.takeWhile (· != cfLineAbsent)

/-- The part of the mapped address that depends on the address. -/
def BusConfig.remapped (config : BusConfig) (address : U32) : U32 :=
  let masked := config.addressMask &&& address
  if config.addressLines.getD 0 0xFF != 0xFF then
    remapLines address (config.addressLines.drop config.matchingLines.toNat)
      config.matchingLines.toNat masked
  else masked

/-- The part that does not. -/
def Handle.steadyLines (h : Handle) (readWrite : U32) (control : Reg) : U32 :=
  let config := h.busConfig
  (if config.rwLine != 0xFF then readWrite <<< config.rwLine.toNat else 0) |||
    (if config.vppLine != 0xFF && !h.usingP1AsVpp then lineBit config.vppLine else 0) |||
    readHighBits config readWrite control ||| config.staticHighMask

theorem memUtilRemapAddressBus_eq (h : Handle) (address readWrite : U32) (control : Reg) :
    memUtilRemapAddressBus h address readWrite control =
      h.busConfig.remapped address ||| h.steadyLines readWrite control := by
  unfold Handle.steadyLines
  dsimp only
  rw [← BitVec.or_assoc, ← BitVec.or_assoc, ← BitVec.or_assoc]
  rfl

/-- The handle of an accepted memory frame, ready to address the chip. -/
def MemoryFrame.configured (f : MemoryFrame) (b : Build) (hw : U8) (h : Handle) : Handle :=
  ((CommandFrame.memory f).apply h).withReadHighMask b hw

variable {f : MemoryFrame} {h : Handle}

theorem MemoryFrame.absent_not_listed (wellFormed : f.WellFormed) : cfLineAbsent ∉ f.lines :=
  fun member => absent_off_bus (wellFormed.onBus _ member)

theorem MemoryFrame.configured_listed (wellFormed : f.WellFormed) :
    (f.configured b hw h).busConfig.listed = f.lines := by
  have present (line : U8) (member : line ∈ f.lines) : (line != cfLineAbsent) = true := by
    rw [bne_iff_ne]
    rintro rfl
    exact f.absent_not_listed wellFormed member
  show f.table.takeWhile (· != cfLineAbsent) = f.lines
  rw [MemoryFrame.table, List.takeWhile_append_of_pos present]
  cases cfAddressLines - f.lines.length with
  | zero => exact List.append_nil _
  | succ k => exact List.append_nil _

theorem MemoryFrame.remapped_eq (wellFormed : f.WellFormed) (some : f.lines ≠ []) (address : U32) :
    (f.configured b hw h).busConfig.remapped address =
      remapLines address
        (f.lines.drop (identityPrefix f.lines) ++
          List.replicate (cfAddressLines - f.lines.length) cfLineAbsent)
        (identityPrefix f.lines) (lineMask f.lines &&& address) := by
  have short : identityPrefix f.lines ≤ f.lines.length := (identityPrefix_isGreatest f.lines).1.1
  have count := wellFormed.lineCount
  have number : (BitVec.ofNat 8 (identityPrefix f.lines)).toNat = identityPrefix f.lines := by
    rw [BitVec.toNat_ofNat]
    exact Nat.mod_eq_of_lt (by unfold cfAddressLines at count; omega)
  have first : (f.table.getD 0 0xFF != 0xFF) = true := by
    obtain ⟨line, rest, same⟩ := List.exists_cons_of_ne_nil some
    rw [bne_iff_ne]
    intro absent
    have : line = cfLineAbsent := by
      rw [MemoryFrame.table, same] at absent
      exact absent
    have member : line ∈ f.lines := same ▸ List.mem_cons_self
    exact f.absent_not_listed wellFormed (this ▸ member)
  show (if (f.table.getD 0 0xFF != 0xFF) = true then _ else _) = _
  rw [if_pos first]
  show remapLines address (f.table.drop (BitVec.ofNat 8 (identityPrefix f.lines)).toNat)
    (BitVec.ofNat 8 (identityPrefix f.lines)).toNat
    ((if f.lines = [] then 0xFFFF else lineMask f.lines) &&& address) = _
  rw [number, if_neg some, MemoryFrame.table, List.drop_append_of_le_length short]

/-- Each address bit is on the line the table gives it. -/
theorem MemoryFrame.remapped_listed (wellFormed : f.WellFormed) (address : U32) (j : Nat)
    (inside : j < f.lines.length) :
    ((f.configured b hw h).busConfig.remapped address).getLsbD f.lines[j].toNat =
      address.getLsbD j := by
  have some : f.lines ≠ [] := List.ne_nil_of_length_pos (by omega)
  obtain ⟨⟨short, identity⟩, -⟩ := identityPrefix_isGreatest f.lines
  rw [f.remapped_eq wellFormed some]
  have later (line : U8) (member : line ∈ f.lines.drop (identityPrefix f.lines)) :=
    wellFormed.onBus line (List.mem_of_mem_drop member)
  have distinct : (f.lines.drop (identityPrefix f.lines)).Nodup :=
    wellFormed.distinct.sublist (List.drop_sublist _ _)
  by_cases before : j < identityPrefix f.lines
  · have here : f.lines[j].toNat = j := identity j inside before
    have unlisted (line : U8) (member : line ∈ f.lines.drop (identityPrefix f.lines)) :
        line.toNat ≠ f.lines[j].toNat := by
      intro same
      have same : line = f.lines[j] := BitVec.eq_of_toNat_eq same
      obtain ⟨i, bound, at_i⟩ := List.getElem_of_mem member
      rw [List.getElem_drop] at at_i
      have := (List.Nodup.getElem_inj_iff wellFormed.distinct).mp (at_i.trans same)
      omega
    rw [remapLines_unlisted later unlisted, BitVec.getLsbD_and,
      lineMask_getLsbD wellFormed.onBus, decide_eq_true ⟨_, List.getElem_mem inside, rfl⟩, here,
      Bool.true_and]
  · have bound : j - identityPrefix f.lines < (f.lines.drop (identityPrefix f.lines)).length := by
      rw [List.length_drop]
      omega
    have bit := @remapLines_listed address _ later distinct (cfAddressLines - f.lines.length)
      (identityPrefix f.lines) (lineMask f.lines &&& address) (j - identityPrefix f.lines) bound
    rw [List.getElem_drop] at bit
    simp only [Nat.add_sub_cancel' (Nat.le_of_not_lt before)] at bit
    exact bit

/-- The other lines do not depend on the address. -/
theorem MemoryFrame.remapped_unlisted (wellFormed : f.WellFormed) (some : f.lines ≠ [])
    (address : U32) {n : Nat} (unlisted : ∀ line ∈ f.lines, line.toNat ≠ n) :
    ((f.configured b hw h).busConfig.remapped address).getLsbD n = false := by
  have outside : ¬ ∃ line ∈ f.lines, line.toNat = n := by
    rintro ⟨line, member, same⟩
    exact unlisted line member same
  rw [f.remapped_eq wellFormed some,
    remapLines_unlisted (fun line member => wellFormed.onBus line (List.mem_of_mem_drop member))
      (fun line member => unlisted line (List.mem_of_mem_drop member)),
    BitVec.getLsbD_and, lineMask_getLsbD wellFormed.onBus, decide_eq_false outside, Bool.false_and]


/-- The frame gives no other signal one of its address lines. -/
def BusConfig.Apart (config : BusConfig) : Prop :=
  ∀ line ∈ config.listed, line ≠ config.rwLine ∧ line ≠ config.vppLine ∧
    config.staticHighMask.getLsbD line.toNat = false

instance (config : BusConfig) : Decidable config.Apart :=
  inferInstanceAs (Decidable (∀ line ∈ config.listed, _))

theorem lineBit_other {line other : U8} (onBus : other < cfBusLines) (different : line ≠ other) :
    (lineBit other).getLsbD line.toNat = false := by
  rw [lineBit_getLsbD onBus]
  exact decide_eq_false fun same => different (BitVec.eq_of_toNat_eq same)

theorem readWrite_other {readWrite : U32} {line other : U8}
    (direction : readWrite = readFlag ∨ readWrite = writeFlag) (different : line ≠ other) :
    (readWrite <<< other.toNat).getLsbD line.toNat = false := by
  have apart : line.toNat ≠ other.toNat := fun same => different (BitVec.eq_of_toNat_eq same)
  rcases direction with rfl | rfl
  · have one (i : Nat) : readFlag.getLsbD i = decide (i = 0) := by
      show (1#32).getLsbD i = _
      rw [BitVec.getLsbD_one]
      simp
    rw [BitVec.getLsbD_shiftLeft, one]
    by_cases below : line.toNat < other.toNat
    · simp [below]
    · have far : ¬ line.toNat - other.toNat = 0 := by omega
      simp [far]
  · show (0#32 <<< other.toNat).getLsbD line.toNat = false
    rw [BitVec.zero_shiftLeft]
    exact BitVec.getLsbD_zero

theorem MemoryFrame.steadyLines_listed (wellFormed : f.WellFormed)
    (apart : (f.configured b hw h).busConfig.Apart) {readWrite : U32}
    (direction : readWrite = readFlag ∨ readWrite = writeFlag) (control : Reg) {line : U8}
    (listed : line ∈ f.lines) :
    ((f.configured b hw h).steadyLines readWrite control).getLsbD line.toNat = false := by
  obtain ⟨notRw, notVpp, notStatic⟩ := apart line ((f.configured_listed wellFormed).symm ▸ listed)
  have notRw : line ≠ f.rwLine := notRw
  have notVpp : line ≠ f.vppLine := notVpp
  have rw_off : (if (f.rwLine != 0xFF) = true then readWrite <<< f.rwLine.toNat else 0).getLsbD
      line.toNat = false := by
    rw [ite_getLsbD, readWrite_other direction notRw, Bool.and_false]
  have vppBit : f.vppLine ≠ 0xFF → (lineBit f.vppLine).getLsbD line.toNat = false := by
    intro present
    exact lineBit_other (wellFormed.vppLine.resolve_left present) notVpp
  have vpp_off (other : Bool) :
      (if (f.vppLine != 0xFF && other) = true then lineBit f.vppLine else 0).getLsbD line.toNat =
        false := by
    rw [ite_getLsbD]
    by_cases present : f.vppLine = 0xFF
    · simp [present]
    · rw [vppBit present, Bool.and_false]
  have readHigh_off :
      (readHighBits (f.configured b hw h).busConfig readWrite control).getLsbD line.toNat =
        false := by
    unfold readHighBits
    dsimp only
    rw [ite_getLsbD]
    have mask := vpp_off (f.configured b hw h).usingP1AsVpp
    exact Bool.and_eq_false_imp.mpr fun _ => mask
  have static_off : f.staticHighMask.getLsbD line.toNat = false := notStatic
  unfold Handle.steadyLines
  dsimp only
  rw [BitVec.getLsbD_or, BitVec.getLsbD_or, BitVec.getLsbD_or, readHigh_off]
  exact Bool.or_eq_false_iff.mpr ⟨Bool.or_eq_false_iff.mpr ⟨Bool.or_eq_false_iff.mpr ⟨rw_off,
    vpp_off (!(f.configured b hw h).usingP1AsVpp)⟩, rfl⟩, static_off⟩

/-! ## What an address write leaves in the latches -/

/-- The latches hold what the firmware's caches say. -/
def World.Coherent (b : Build) (w : World) : Prop :=
  w.latches = ⟨w.lsbAddress, w.msbAddress, physicalControl b w.hardwareRevision w.controlRegister⟩

/-- Everything an address write reads but does not set. -/
structure SameSetting (w w' : World) : Prop where
  handle : w'.handle = w.handle
  config : w'.config = w.config
  revision : w'.revision = w.revision

variable {env : Env}

/-- The latch a strobe reaches takes the byte. -/
def Latches.taking (latches : Latches) (reg data : U8) : Latches :=
  if reg = leastSignificantByte then { latches with lsb := data }
  else if reg = mostSignificantByte then { latches with msb := data }
  else { latches with control := data }

theorem ends_internalWrite (w : World) (reg : U8) (data : Reg)
    (latch : reg = leastSignificantByte ∨ reg = mostSignificantByte ∨ reg = controlRegister) :
    Ends (rurpInternalWriteToRegister reg data) env w
      (fun _ w' => SameSetting w w' ∧ w'.lsbAddress = w.lsbAddress ∧
        w'.msbAddress = w.msbAddress ∧ w'.controlRegister = w.controlRegister ∧
        w'.latches = w.latches.taking reg (data.setWidth 8))
      (fun _ => False) := by
  unfold rurpInternalWriteToRegister
  simp only [ends_bind, ends_build, ends_when, rurpWriteDataBuffer, rurpSetDataOutput, ends_update,
    rurpSetControlPin, delayMicroseconds, delay, ask, ends_look, ends_outside, ends_pure]
  rcases latch with rfl | rfl | rfl
  all_goals
    split <;> exact ⟨⟨rfl, rfl, rfl⟩, rfl, rfl, rfl, rfl⟩

/-- The same setting, and these caches and latches. -/
structure Writes (w : World) (lsb msb : U8) (control : Reg) (latches : Latches) (w' : World) :
    Prop where
  setting : SameSetting w w'
  lsb : w'.lsbAddress = lsb
  msb : w'.msbAddress = msb
  control : w'.controlRegister = control
  latches : w'.latches = latches

theorem SameSetting.hardwareRevision {w w' : World} (same : SameSetting w w') :
    w'.hardwareRevision = w.hardwareRevision := by
  unfold World.hardwareRevision
  rw [same.config, same.revision]

/-- A register is strobed unless its cache has the value; then the latch had better have it too. -/
theorem ends_latch_lsb {w : World} {data : Reg}
    (held : w.lsbAddress = data.setWidth 8 → w.latches.lsb = data.setWidth 8) :
    Ends (rurpWriteToRegister leastSignificantByte data) env w
      (fun _ => Writes w (data.setWidth 8) w.msbAddress w.controlRegister
        { w.latches with lsb := data.setWidth 8 })
      (fun _ => False) := by
  show Ends (when (w.lsbAddress != data.setWidth 8) _) env w _ _
  apply Ends.when
  · intro _
    refine (ends_internalWrite _ leastSignificantByte data (.inl rfl)).mono ?_ fun _ => id
    rintro _ w' ⟨setting, lsb, msb, control, latches⟩
    exact ⟨⟨setting.handle, setting.config, setting.revision⟩, lsb, msb, control, latches⟩
  · intro same
    have same : w.lsbAddress = data.setWidth 8 := by simpa using same
    exact ⟨⟨rfl, rfl, rfl⟩, same, rfl, rfl, by rw [← held same]⟩

theorem ends_latch_msb {w : World} {data : Reg}
    (held : w.msbAddress = data.setWidth 8 → w.latches.msb = data.setWidth 8) :
    Ends (rurpWriteToRegister mostSignificantByte data) env w
      (fun _ => Writes w w.lsbAddress (data.setWidth 8) w.controlRegister
        { w.latches with msb := data.setWidth 8 })
      (fun _ => False) := by
  show Ends (when (w.msbAddress != data.setWidth 8) _) env w _ _
  apply Ends.when
  · intro _
    refine (ends_internalWrite _ mostSignificantByte data (.inr (.inl rfl))).mono ?_ fun _ => id
    rintro _ w' ⟨setting, lsb, msb, control, latches⟩
    exact ⟨⟨setting.handle, setting.config, setting.revision⟩, lsb, msb, control, latches⟩
  · intro same
    have same : w.msbAddress = data.setWidth 8 := by simpa using same
    exact ⟨⟨rfl, rfl, rfl⟩, rfl, same, rfl, by rw [← held same]⟩

theorem ends_latch_control {w : World} {data : Reg}
    (held : w.controlRegister = data →
      w.latches.control = physicalControl env.build w.hardwareRevision data) :
    Ends (rurpWriteToRegister controlRegister data) env w
      (fun _ => Writes w w.lsbAddress w.msbAddress data
        { w.latches with control := physicalControl env.build w.hardwareRevision data })
      (fun _ => False) := by
  have timed (old data : Reg) (w : World) {ended : Unit → World → Prop}
      (kept : ∀ asked now regulatorOffMs, ended () { w with asked, now, regulatorOffMs }) :
      Ends (when (old &&& ctrlVppRegulatorEnable > data &&& ctrlVppRegulatorEnable) do
        let now ← millis
        update fun w => { w with regulatorOffMs := now }) env w ended (fun _ => False) :=
    Ends.when (fun _ => kept _ _ _) fun _ => kept w.asked w.now w.regulatorOffMs
  show Ends (when (true && w.controlRegister != data) (writeControlRegister w.controlRegister data))
    env w _ _
  apply Ends.when
  · intro _
    unfold writeControlRegister
    rw [ends_bind]
    apply timed
    intro asked now regulatorOffMs
    show Ends (do
        rurpInternalWriteToRegister controlRegister
          ((physicalControl env.build w.hardwareRevision data).setWidth 16)
        when _ (delayMicroseconds 4))
      env { w with asked, now, regulatorOffMs, controlRegister := data, trace := _ } _ _
    rw [ends_bind]
    refine (ends_internalWrite _ controlRegister _ (.inr (.inr rfl))).mono ?_ fun _ => id
    rintro _ w' ⟨setting, lsb, msb, control, latches⟩
    rw [BitVec.setWidth_setWidth_of_le _ (by decide), BitVec.setWidth_eq] at latches
    have written : Writes w w.lsbAddress w.msbAddress data
        { w.latches with control := physicalControl env.build w.hardwareRevision data } w' :=
      ⟨⟨setting.handle, setting.config, setting.revision⟩, lsb, msb, control, latches⟩
    apply Ends.when
    · intro _
      exact ⟨⟨written.setting.handle, written.setting.config, written.setting.revision⟩,
        written.lsb, written.msb, written.control, written.latches⟩
    · intro _
      exact written
  · intro same
    have same : w.controlRegister = data := by simpa using same
    exact ⟨⟨rfl, rfl, rfl⟩, rfl, rfl, same, by rw [← held same]⟩

/-- The same setting, latches that still match the caches, and these caches. -/
structure Settles (b : Build) (w : World) (lsb msb : U8) (control : Reg) (w' : World) : Prop where
  setting : SameSetting w w'
  coherent : w'.Coherent b
  lsb : w'.lsbAddress = lsb
  msb : w'.msbAddress = msb
  control : w'.controlRegister = control

theorem Writes.settles {b : Build} {w w' : World} {lsb msb : U8} {control : Reg} {latches : Latches}
    (written : Writes w lsb msb control latches w')
    (agree : latches = ⟨lsb, msb, physicalControl b w.hardwareRevision control⟩) :
    Settles b w lsb msb control w' := by
  refine ⟨written.setting, ?_, written.lsb, written.msb, written.control⟩
  unfold World.Coherent
  rw [written.latches, written.lsb, written.msb, written.control, written.setting.hardwareRevision,
    agree]

theorem ends_write_lsb {w : World} (coherent : w.Coherent env.build) (data : Reg) :
    Ends (rurpWriteToRegister leastSignificantByte data) env w
      (fun _ => Settles env.build w (data.setWidth 8) w.msbAddress w.controlRegister)
      (fun _ => False) :=
  (ends_latch_lsb fun same => by rw [coherent, same]).mono
    (fun _ _ written => written.settles (by rw [coherent])) fun _ => id

theorem ends_write_msb {w : World} (coherent : w.Coherent env.build) (data : Reg) :
    Ends (rurpWriteToRegister mostSignificantByte data) env w
      (fun _ => Settles env.build w w.lsbAddress (data.setWidth 8) w.controlRegister)
      (fun _ => False) :=
  (ends_latch_msb fun same => by rw [coherent, same]).mono
    (fun _ _ written => written.settles (by rw [coherent])) fun _ => id

theorem ends_write_control {w : World} (coherent : w.Coherent env.build) (data : Reg) :
    Ends (rurpWriteToRegister controlRegister data) env w
      (fun _ => Settles env.build w w.lsbAddress w.msbAddress data) (fun _ => False) :=
  (ends_latch_control fun same => by rw [coherent, same]).mono
    (fun _ _ written => written.settles (by rw [coherent])) fun _ => id

theorem low_byte (v : U32) : ((v &&& 0xFF).setWidth 16).setWidth 8 = v.setWidth 8 := by
  have ones : (0xFF : U32).setWidth 8 = BitVec.allOnes 8 := rfl
  rw [BitVec.setWidth_setWidth_of_le _ (by decide), BitVec.setWidth_and, ones, BitVec.and_allOnes]

/-- An address write leaves in the latches what its bus lines and the carried switches say. -/
theorem ends_memUtilSetAddress {w : World} (coherent : w.Coherent env.build) (bus : U32) :
    Ends (memUtilSetAddress bus) env w
      (fun _ w' => SameSetting w w' ∧ w'.Coherent env.build ∧
        w'.latches =
          latched env.build w.hardwareRevision w.handle.pins w.controlRegister bus)
      (fun _ => False) := by
  unfold memUtilSetAddress
  rw [ends_bind]
  refine (ends_write_lsb coherent _).mono ?_ fun _ => id
  intro _ w₁ first
  rw [ends_bind]
  refine (ends_write_msb first.coherent _).mono ?_ fun _ => id
  intro _ w₂ second
  have setting : SameSetting w w₂ :=
    ⟨second.setting.handle.trans first.setting.handle,
      second.setting.config.trans first.setting.config,
      second.setting.revision.trans first.setting.revision⟩
  show Ends (rurpWriteToRegister controlRegister
      (memUtilCalculateTopAddressRegister env.build w₂.hardwareRevision w₂.handle.pins
        w₂.controlRegister bus) >>= _) env w₂ _ _
  rw [ends_bind]
  refine (ends_write_control second.coherent _).mono ?_ fun _ => id
  intro _ w₃ third
  have atEnd : SameSetting w w₃ :=
    ⟨third.setting.handle.trans setting.handle, third.setting.config.trans setting.config,
      third.setting.revision.trans setting.revision⟩
  refine ⟨⟨atEnd.handle, atEnd.config, atEnd.revision⟩, third.coherent, ?_⟩
  show w₃.latches = _
  rw [third.coherent, third.lsb, third.msb, third.control, second.lsb, second.msb, first.lsb]
  rw [atEnd.hardwareRevision, setting.hardwareRevision, setting.handle, second.control,
    first.control, low_byte, low_byte]
  rfl

/-! ## Two addresses, one pattern -/

/-- The latches while a chip address is driven in a bus direction. -/
def latchPattern (b : Build) (hw : U8) (h : Handle) (address readWrite : U32) (control : Reg) :
    Latches :=
  latched b hw h.pins control (memUtilRemapAddressBus h address readWrite control)

/-- The driver's own settings do not touch the way to the socket. -/
theorem latchPattern_setUp (driver : Driver) (b : Build) (hw : U8) (decoded : Handle) :
    latchPattern b hw (driver.setUp b hw decoded) =
      latchPattern b hw (decoded.withReadHighMask b hw) := by
  have same : (driver.setUp b hw decoded).unconfigured =
      (decoded.withReadHighMask b hw).unconfigured := driver.configured_unconfigured _
  have bus := congrArg Handle.busConfig same
  have pins := congrArg Handle.pins same
  have bus : (driver.setUp b hw decoded).busConfig =
      (decoded.withReadHighMask b hw).busConfig := bus
  have pins : (driver.setUp b hw decoded).pins = (decoded.withReadHighMask b hw).pins := pins
  funext address readWrite control
  unfold latchPattern memUtilRemapAddressBus Handle.usingP1AsVpp
  rw [bus, pins]

/-- At the strobe of a read the latches hold the pattern of its address. -/
theorem memoryGetData_pattern {w : World} (coherent : w.Coherent env.build) (address : U32) :
    Ends (memoryGetData address) env w
      (fun data w' => w'.Coherent env.build ∧ w'.trace.head? = some (.read address data
        (latchPattern env.build w.hardwareRevision w.handle address readFlag w.controlRegister)))
      (fun _ => False) := by
  unfold memoryGetData
  simp only [ends_bind]
  show Ends (memUtilSetAddress
      (memUtilRemapAddressBus w.handle address readFlag w.controlRegister))
    env { w with outputEnable := false } _ _
  have coherent : World.Coherent env.build { w with outputEnable := false } := coherent
  refine (ends_memUtilSetAddress coherent _).mono ?_ fun _ => id
  rintro _ w₁ ⟨-, settled, latches⟩
  apply Ends.when
  · intro _
    exact ⟨settled, congrArg (fun l => some (Event.read _ _ l)) latches⟩
  · intro _
    exact ⟨settled, congrArg (fun l => some (Event.read _ _ l)) latches⟩

theorem ends_memUtilDelayUs {w : World} (us : U32) {ended : Unit → World → Prop}
    {cutOff : World → Prop} (kept : ∀ asked now, ended () { w with asked, now }) :
    Ends (memUtilDelayUs us) env w ended cutOff := by
  unfold memUtilDelayUs
  simp only [ends_bind]
  have rest (asked now : Nat) : Ends (when ((memUtilSplitDelay us).2 != 0)
      (delayMicroseconds (memUtilSplitDelay us).2)) env { w with asked, now } ended cutOff :=
    Ends.when (fun _ => kept _ _) fun _ => kept asked now
  exact Ends.when (fun _ => rest _ _) fun _ => rest w.asked w.now

/-- And so at the pulse of a write. -/
theorem memorySetData_pattern {w : World} (coherent : w.Coherent env.build) (address : U32)
    (data : U8) :
    Ends (memorySetData address data) env w
      (fun _ w' => w'.Coherent env.build ∧ w'.trace.head? = some (.wrote address data
        (latchPattern env.build w.hardwareRevision w.handle address writeFlag w.controlRegister)))
      (fun _ => False) := by
  unfold memorySetData
  simp only [ends_bind]
  show Ends (memUtilSetAddress
      (memUtilRemapAddressBus w.handle address writeFlag w.controlRegister))
    env { w with outputEnable := true } _ _
  have coherent : World.Coherent env.build { w with outputEnable := true } := coherent
  refine (ends_memUtilSetAddress coherent _).mono ?_ fun _ => id
  rintro _ w₁ ⟨-, settled, latches⟩
  apply ends_memUtilDelayUs
  intro asked now
  exact ⟨settled, congrArg (fun l => some (Event.wrote _ _ l)) latches⟩

/-- No two addresses of the chip have one latch pattern, while the switches of the programming
voltage stay as they are. -/
def AddressesApart (b : Build) (hw : U8) (h : Handle) (readWrite : U32) (control : Reg) : Prop :=
  ∀ control' : Reg, control' &&& highVoltageBits b = control &&& highVoltageBits b →
    ∀ address address' : U32, address < h.memSize → address' < h.memSize →
      latchPattern b hw h address readWrite control =
          latchPattern b hw h address' readWrite control' →
        address = address'

/-- Every line that an address of the chip can raise reaches a latch of its own. -/
def EveryLineDriven (hw : U8) (h : Handle) (control : Reg) : Prop :=
  ∀ (j : Nat) (_ : j < h.busConfig.listed.length), 2 ^ j < h.memSize.toNat →
    lineDriven hw h.pins control (h.busConfig.listed[j]).toNat = true

instance (hw : U8) (h : Handle) (control : Reg) : Decidable (EveryLineDriven hw h control) :=
  inferInstanceAs (Decidable (∀ (j : Nat) (_ : j < h.busConfig.listed.length), _))

theorem readHighBits_same {b : Build} {control control' : Reg} (config : BusConfig)
    (readWrite : U32)
    (same : control' &&& highVoltageBits b = control &&& highVoltageBits b) :
    readHighBits config readWrite control' = readHighBits config readWrite control := by
  have seen (blocking : Reg) (inside : highVoltageBits b &&& blocking = blocking) :
      control' &&& blocking = control &&& blocking := by
    rw [← inside, ← BitVec.and_assoc, ← BitVec.and_assoc, same]
  have p1 : highVoltageBits b &&& ctrlVppP1Enable = ctrlVppP1Enable := by
    unfold highVoltageBits epromHvRouteBits ctrlVppVpeDropEnable
    cases b.hardwareRevision <;> rfl
  have both : highVoltageBits b &&& (ctrlVppP1Enable ||| ctrlVppRegulatorEnable) =
      ctrlVppP1Enable ||| ctrlVppRegulatorEnable := by
    unfold highVoltageBits epromHvRouteBits ctrlVppVpeDropEnable
    cases b.hardwareRevision <;> rfl
  unfold readHighBits
  cases config.readHighNeedsRegOff with
  | true => simp only [if_true, seen _ both]
  | false => simp only [Bool.false_eq_true, if_false, seen _ p1]

variable {b : Build} {hw : U8}

/-- What each bus line carries for an accepted frame: a listed one its address bit. -/
theorem MemoryFrame.bus_listed {f : MemoryFrame} {received : Handle} (wellFormed : f.WellFormed)
    (apart : (f.configured b hw received).busConfig.Apart) {readWrite : U32}
    (direction : readWrite = readFlag ∨ readWrite = writeFlag) (control : Reg) (address : U32)
    (j : Nat) (inside : j < f.lines.length) :
    (memUtilRemapAddressBus (f.configured b hw received) address readWrite control).getLsbD
      f.lines[j].toNat = address.getLsbD j := by
  rw [memUtilRemapAddressBus_eq, BitVec.getLsbD_or, f.remapped_listed wellFormed address j inside,
    f.steadyLines_listed wellFormed apart direction control (List.getElem_mem inside),
    Bool.or_false]

/-- Any other line the same level for every address. -/
theorem MemoryFrame.bus_unlisted {f : MemoryFrame} {received : Handle} (wellFormed : f.WellFormed)
    (some : f.lines ≠ []) {readWrite : U32} (control : Reg) (address address' : U32) {n : Nat}
    (unlisted : ∀ line ∈ f.lines, line.toNat ≠ n) :
    (memUtilRemapAddressBus (f.configured b hw received) address readWrite control).getLsbD n =
      (memUtilRemapAddressBus (f.configured b hw received) address' readWrite control).getLsbD
        n := by
  rw [memUtilRemapAddressBus_eq, memUtilRemapAddressBus_eq, BitVec.getLsbD_or, BitVec.getLsbD_or,
    f.remapped_unlisted wellFormed some address unlisted,
    f.remapped_unlisted wellFormed some address' unlisted]

theorem getLsbD_of_lt {address bound : U32} {j : Nat} (inside : address < bound)
    (small : bound.toNat ≤ 2 ^ j) : address.getLsbD j = false := by
  have inside : address.toNat < bound.toNat := inside
  exact Nat.testBit_lt_two_pow (by omega)

theorem addressesApart_of_driven {f : MemoryFrame} {received : Handle}
    (layout : b.hardwareRevision = true) (supported : isSupportedRevision hw = true)
    (wellFormed : f.WellFormed)
    (enough : f.memSize.toNat ≤ 2 ^ f.lines.length)
    (apart : (f.configured b hw received).busConfig.Apart) {readWrite : U32}
    (direction : readWrite = readFlag ∨ readWrite = writeFlag) {control : Reg}
    (driven : ∀ (j : Nat) (_ : j < f.lines.length), 2 ^ j < f.memSize.toNat →
      lineDriven hw f.pins control f.lines[j].toNat = true) :
    AddressesApart b hw (f.configured b hw received) readWrite control := by
  intro control' same address address' inside inside' pattern
  have inside : address < f.memSize := inside
  have inside' : address' < f.memSize := inside'
  have lines := (latched_eq_iff layout supported same).mp pattern
  have steady : memUtilRemapAddressBus (f.configured b hw received) address' readWrite control' =
      memUtilRemapAddressBus (f.configured b hw received) address' readWrite control := by
    rw [memUtilRemapAddressBus_eq, memUtilRemapAddressBus_eq]
    unfold Handle.steadyLines
    dsimp only
    rw [readHighBits_same _ _ same]
  apply BitVec.eq_of_getLsbD_eq
  intro j _
  by_cases raised : 2 ^ j < f.memSize.toNat
  · have listed : j < f.lines.length := 
      (Nat.pow_lt_pow_iff_right Nat.one_lt_two).mp (Nat.lt_of_lt_of_le raised enough)
    have line := lines _ (driven j listed raised)
    rw [steady, f.bus_listed wellFormed apart direction control address j listed,
      f.bus_listed wellFormed apart direction control address' j listed] at line
    exact line
  · rw [getLsbD_of_lt inside (by omega), getLsbD_of_lt inside' (by omega)]

theorem driven_of_addressesApart {f : MemoryFrame} {received : Handle}
    (layout : b.hardwareRevision = true) (supported : isSupportedRevision hw = true)
    (wellFormed : f.WellFormed)
    (unnamed : (f.configured b hw received).busConfig.Apart) {readWrite : U32}
    (direction : readWrite = readFlag ∨ readWrite = writeFlag) {control : Reg}
    (apart : AddressesApart b hw (f.configured b hw received) readWrite control) (j : Nat)
    (inside : j < f.lines.length) (raised : 2 ^ j < f.memSize.toNat) :
    lineDriven hw f.pins control f.lines[j].toNat = true := by
  by_contra hidden
  have some : f.lines ≠ [] := List.ne_nil_of_length_pos (by omega)
  have room := f.memSize.isLt
  have bit : j < 32 := 
    (Nat.pow_lt_pow_iff_right Nat.one_lt_two).mp (Nat.lt_trans raised room)
  have number : (BitVec.twoPow 32 j).toNat = 2 ^ j := by
    rw [BitVec.toNat_twoPow]
    exact Nat.mod_eq_of_lt (by omega)
  -- The address that raises this line alone looks like address zero.
  have pattern : latchPattern b hw (f.configured b hw received) 0 readWrite control =
      latchPattern b hw (f.configured b hw received) (BitVec.twoPow 32 j) readWrite control := by
    refine (latched_eq_iff layout supported rfl).mpr fun n shown => ?_
    by_cases listed : ∃ line ∈ f.lines, line.toNat = n
    · obtain ⟨line, member, rfl⟩ := listed
      obtain ⟨i, bound, rfl⟩ := List.getElem_of_mem member
      have other : i ≠ j := by
        rintro rfl
        exact hidden shown
      have zero : (0 : U32).getLsbD i = false := BitVec.getLsbD_zero
      rw [f.bus_listed wellFormed unnamed direction control 0 i bound,
        f.bus_listed wellFormed unnamed direction control _ i bound, zero, BitVec.getLsbD_twoPow]
      simp [other.symm]
    · push Not at listed
      exact f.bus_unlisted wellFormed some control _ _ listed
  have none : (0 : U32) < f.memSize := by
    show 0 < f.memSize.toNat
    omega
  have top : BitVec.twoPow 32 j < f.memSize := by
    show (BitVec.twoPow 32 j).toNat < f.memSize.toNat
    rw [number]
    exact raised
  have same := congrArg BitVec.toNat (apart control rfl 0 _ none top pattern)
  rw [number] at same
  exact absurd same (Nat.ne_of_lt (Nat.two_pow_pos j))

/-- The decoder reads a memory frame of the grammar. -/
theorem exists_memory_frame {b : Build} {received : Handle}
    (accepted : (cmdDecode b received).2 = cmdDecodeOk)
    (memory : cfPayloadKind (received.dataBuffer 2) = .memory) :
    ∃ f : MemoryFrame, f.WellFormed ∧
      (cmdDecode b received).1 = (CommandFrame.memory f).apply received := by
  rcases cmdDecode_cases b received with ⟨admitted, same⟩ | ⟨-, res, bad, same⟩
  · obtain ⟨f, wellFormed, bytes⟩ := exists_frame admitted
    have decoded := (admitted_of_frame wellFormed bytes).2
    rw [same]
    cases f with
    | memory f => exact ⟨f, wellFormed, decoded⟩
    | config f =>
      have wellFormed : f.WellFormed b := wellFormed
      have cmd := (f.bytes_eq_payload_iff.mp bytes).1.cmd
      rw [cmd, wellFormed.kind] at memory
      cases memory
    | bare cmd flags =>
      have wellFormed : cfPayloadKind cmd = .none ∧ _ := wellFormed
      have cmd := (bare_bytes_eq_payload_iff.mp bytes).cmd
      rw [cmd, wellFormed.1] at memory
      cases memory
  · rw [same] at accepted
    exact (bad accepted).elim

/-- Two addresses of the chip never look the same to the socket exactly when every line that
addresses of the chip can raise reaches a latch of its own. -/
theorem addressing_injective_iff {b : Build} {hw : U8} (layout : b.hardwareRevision = true)
    (supported : isSupportedRevision hw = true) {received h : Handle}
    (accepted : (cmdDecode b received).2 = cmdDecodeOk)
    (memory : cfPayloadKind (received.dataBuffer 2) = .memory)
    (ready : h = (cmdDecode b received).1.withReadHighMask b hw)
    (enough : h.memSize.toNat ≤ 2 ^ h.busConfig.listed.length) (apart : h.busConfig.Apart)
    {readWrite : U32} (direction : readWrite = readFlag ∨ readWrite = writeFlag) (control : Reg) :
    AddressesApart b hw h readWrite control ↔ EveryLineDriven hw h control := by
  obtain ⟨f, wellFormed, decoded⟩ := exists_memory_frame accepted memory
  have same : h = f.configured b hw received := by rw [ready, decoded, MemoryFrame.configured]
  subst same
  have lines : (f.configured b hw received).busConfig.listed = f.lines :=
    f.configured_listed wellFormed
  rw [lines] at enough
  constructor
  · intro distinct j inside raised
    simp only [lines] at inside ⊢
    exact driven_of_addressesApart layout supported wellFormed apart direction distinct j inside
      raised
  · intro driven
    refine addressesApart_of_driven layout supported wellFormed enough apart direction ?_
    intro j inside raised
    have shown := driven j (lines ▸ inside) raised
    simp only [lines] at shown
    exact shown

/-- A read of a chip of four bytes behind two address lines. -/
def smallChipRead : MemoryFrame where
  cmd := cmdRead
  flags := 0
  memSize := 4
  address := 0
  regionEnd := 0
  protocol := protoEprom28Pin
  pins := 28
  vppMv := 12500
  pulseDelay := 0
  chipId := 0
  pageSize := 0
  readSettlingUs := 0
  readStrobeUs := 0
  lines := [0, 1]
  rwLine := cfLineAbsent
  vppLine := cfLineAbsent
  staticHighMask := 0

/-- The handle when these bytes have been received. -/
def Handle.receiving (bytes : List U8) : Handle :=
  { dataBuffer := fun i => bytes.getD i 0, dataSize := BitVec.ofNat 32 bytes.length }

/-- What a command works with once this frame has been received and its read-high mask is set. -/
def MemoryFrame.asReceived (f : MemoryFrame) (b : Build) (hw : U8) : Handle :=
  (cmdDecode b (.receiving (CommandFrame.memory f).bytes)).1.withReadHighMask b hw

theorem addressing_injective_two_lines :
    AddressesApart ⟨.uno, false⟩ revision22 (smallChipRead.asReceived ⟨.uno, false⟩ revision22)
      readFlag 0 :=
  (@addressing_injective_iff ⟨.uno, false⟩ revision22 rfl rfl
    (.receiving (CommandFrame.memory smallChipRead).bytes) _ (by decide +kernel) rfl rfl
    (by decide +kernel) (by decide +kernel) readFlag (.inl rfl) 0).mpr (by decide +kernel)

/-- A table may name a line the control register has a voltage switch on; the switch never follows
the address. -/
theorem addresses_alias :
    ¬ ∀ (b : Build) (hw : U8), b.hardwareRevision = true → isSupportedRevision hw = true →
      ∀ (received h : Handle), (cmdDecode b received).2 = cmdDecodeOk →
        cfPayloadKind (received.dataBuffer 2) = .memory →
        h = (cmdDecode b received).1.withReadHighMask b hw →
        h.memSize.toNat ≤ 2 ^ h.busConfig.listed.length → h.busConfig.Apart →
        ∀ (readWrite : U32), readWrite = readFlag ∨ readWrite = writeFlag →
          ∀ control : Reg, AddressesApart b hw h readWrite control := by
  intro claim
  let f : MemoryFrame := { smallChipRead with memSize := 2, lines := [17] }
  have apart := claim ⟨.uno, false⟩ revision22 rfl rfl
    (.receiving (CommandFrame.memory f).bytes) _ (by decide +kernel) rfl rfl (by decide +kernel)
    (by decide +kernel) readFlag (.inl rfl) 0 0 rfl 0 1 (by decide +kernel) (by decide +kernel)
    (by decide +kernel)
  exact absurd apart (by decide)

end Firestarter
