import Firestarter.ChipAccess

/-! Pages of a chip and the loads of a page write: page sizes and their masks, runs of contiguous
bytes, and the polls after them. -/
namespace Firestarter

open Interactive Interactive.Prog

set_option synthInstance.maxSize 4000

/-! ## Page sizes -/

/-- A power of two, and not more than the drivers take. -/
def SupportedPageSize (requested : U16) : Prop := ∃ k < 10, requested.toNat = 2 ^ k

instance (requested : U16) : Decidable (SupportedPageSize requested) :=
  inferInstanceAs (Decidable (∃ k < 10, _))

theorem supportedPageSize_iff (requested : U16) :
    SupportedPageSize requested ↔
      requested ≠ 0 ∧ requested ≤ 512 ∧ requested &&& (requested - 1) = 0 := by
  have zero : requested = 0 ↔ requested.toNat = 0 := BitVec.toNat_inj.symm
  have bound : requested ≤ 512 ↔ requested.toNat ≤ 512 := Iff.rfl
  by_cases none : requested = 0
  · rw [none]
    decide
  have positive : requested.toNat ≠ 0 := fun isZero => none (zero.mpr isZero)
  have before : (requested - 1).toNat = requested.toNat - 1 := by
    have one : (1 : U16).toNat = 1 := rfl
    rw [BitVec.toNat_sub_of_le, one]
    exact Nat.one_le_iff_ne_zero.mpr positive
  have power : requested &&& (requested - 1) = 0 ↔ requested.toNat.isPowerOfTwo := by
    rw [← Nat.and_sub_one_eq_zero_iff_isPowerOfTwo positive, ← before, ← BitVec.toNat_and]
    exact BitVec.toNat_inj.symm
  rw [power, bound]
  constructor
  · rintro ⟨k, small, size⟩
    refine ⟨none, ?_, k, size⟩
    rw [size]
    have below : k ≤ 9 := by omega
    exact Nat.pow_le_pow_right (by decide) below
  · rintro ⟨-, small, k, size⟩
    refine ⟨k, ?_, size⟩
    rw [size] at small
    have := (Nat.pow_le_pow_iff_right (a := 2) (n := k) (m := 9) (by decide)).mp small
    omega

/-- The mask of a page size that is a power of two. -/
structure PageMask (mask : U32) (size : Nat) : Prop where
  power : ∃ k < 10, size = 2 ^ k
  next : mask.toNat + 1 = size

namespace PageMask

variable {mask : U32} {size : Nat}

theorem of_supported {requested : U16} (supported : SupportedPageSize requested) :
    PageMask (requested.setWidth 32 - 1) requested.toNat := by
  refine ⟨supported, ?_⟩
  obtain ⟨k, -, size⟩ := supported
  have positive : 0 < requested.toNat := size ▸ Nat.two_pow_pos k
  have small := requested.isLt
  have one : (1 : U32).toNat = 1 := rfl
  have wide : (requested.setWidth 32).toNat = requested.toNat := by
    rw [BitVec.toNat_setWidth, Nat.mod_eq_of_lt (by omega)]
  rw [BitVec.toNat_sub_of_le, one, wide]
  · omega
  · show (1 : U32).toNat ≤ _
    omega

theorem positive (page : PageMask mask size) : 0 < size := by
  obtain ⟨k, -, rfl⟩ := page.power
  exact Nat.two_pow_pos k

/-- An address is masked to nothing where a page begins. -/
theorem and_eq_zero_iff (page : PageMask mask size) (address : U32) :
    address &&& mask = 0 ↔ size ∣ address.toNat := by
  obtain ⟨k, -, power⟩ := page.power
  have bits : mask.toNat = 2 ^ k - 1 := by
    have := page.next
    omega
  have masked : (address &&& mask).toNat = address.toNat % size := by
    rw [BitVec.toNat_and, bits, power]
    exact Nat.and_two_pow_sub_one_eq_mod _ _
  rw [Nat.dvd_iff_mod_eq_zero, ← masked]
  exact BitVec.toNat_inj.symm

/-- The next address is on the same page unless a page begins there. -/
theorem succ_div (page : PageMask mask size) {address : U32}
    (inside : (address + 1) &&& mask ≠ 0) :
    (address + 1).toNat / size = address.toNat / size := by
  have notZero : address + 1 ≠ 0 := by
    intro zero
    rw [zero] at inside
    exact inside BitVec.zero_and
  have next : (address + 1).toNat = address.toNat + 1 := by
    have one : (1 : U32).toNat = 1 := rfl
    have room := address.isLt
    rw [BitVec.toNat_add, one]
    refine Nat.mod_eq_of_lt (Nat.lt_of_le_of_ne room fun full => notZero ?_)
    refine BitVec.eq_of_toNat_eq ?_
    rw [BitVec.toNat_add, one, full]
    rfl
  have notDivides : ¬ size ∣ address.toNat + 1 := fun divides =>
    inside ((page.and_eq_zero_iff _).mpr (next ▸ divides))
  rw [next, Nat.succ_div, if_neg notDivides, Nat.add_zero]

end PageMask

theorem Handle.byteAddress_succ (h : Handle) (i : Nat) :
    h.byteAddress i + 1 = h.byteAddress (i + 1) := by
  unfold Handle.byteAddress
  rw [BitVec.ofNat_add, ← BitVec.add_assoc]
  rfl

/-! ## Loads and polls -/

/-- So many bytes of the block, from this one on, each loaded once at its own address. -/
def Handle.loads (h : Handle) (first count : Nat) : List Access :=
  (List.range' first count).map fun i => .wrote (h.byteAddress i) (h.dataBuffer i)

theorem Handle.loads_succ (h : Handle) (first count : Nat) :
    h.loads first (count + 1) =
      h.loads first count ++
        [.wrote (h.byteAddress (first + count)) (h.dataBuffer (first + count))] := by
  unfold Handle.loads
  rw [List.range'_1_concat, List.map_append]
  rfl

theorem Handle.loads_append (h : Handle) (first count more : Nat) :
    h.loads first count ++ h.loads (first + count) more = h.loads first (count + more) := by
  unfold Handle.loads
  rw [← List.map_append, List.range'_append_1]

/-- The same bytes read back, each as it was loaded. -/
def Handle.readBack (h : Handle) (first count : Nat) : List Access :=
  (List.range' first count).map fun i => .read (h.byteAddress i) (h.dataBuffer i)

theorem Handle.readBack_succ (h : Handle) (first count : Nat) :
    h.readBack first (count + 1) =
      h.readBack first count ++
        [.read (h.byteAddress (first + count)) (h.dataBuffer (first + count))] := by
  unfold Handle.readBack
  rw [List.range'_1_concat, List.map_append]
  rfl

/-- Reads of one address. -/
def Polls (address : U32) (log : List Access) : Prop :=
  ∀ access ∈ log, ∃ data, access = .read address data

/-- DQ7 is the one of the byte that was written: the chip does not invert it any more. -/
def dq7Matches (expected data : U8) : Bool := data.getLsbD 7 == expected.getLsbD 7

theorem and_dq7_beq (data expected : U8) :
    (data &&& 0x80 == expected &&& 0x80) = dq7Matches expected data := by
  have bit (b : U8) : b &&& 0x80 = if b.getLsbD 7 then 0x80 else 0 := BitVec.and_twoPow b 7
  rw [bit, bit]
  unfold dq7Matches
  cases data.getLsbD 7 <;> cases expected.getLsbD 7 <;> rfl

/-- Two reads in a row match. -/
def MatchTwice (expected : U8) (reads : List U8) : Prop :=
  ∃ before a b after, reads = before ++ a :: b :: after ∧ dq7Matches expected a = true ∧
    dq7Matches expected b = true

/-- The last read matches. -/
def MatchLast (expected : U8) (reads : List U8) : Prop :=
  ∃ before a, reads = before ++ [a] ∧ dq7Matches expected a = true

theorem matchLast_snoc {expected data : U8} {reads : List U8} :
    MatchLast expected (reads ++ [data]) ↔ dq7Matches expected data = true := by
  constructor
  · rintro ⟨before, a, same, hit⟩
    obtain ⟨-, alike⟩ := List.append_inj' same rfl
    obtain rfl : data = a := List.head_eq_of_cons_eq alike
    exact hit
  · exact fun hit => ⟨reads, data, rfl, hit⟩

theorem matchTwice_snoc {expected data : U8} {reads : List U8} :
    MatchTwice expected (reads ++ [data]) ↔
      MatchTwice expected reads ∨ MatchLast expected reads ∧ dq7Matches expected data = true := by
  constructor
  · rintro ⟨before, a, b, after, same, hit, hit'⟩
    rcases List.eq_nil_or_concat after with rfl | ⟨after, last, rfl⟩
    · have split : reads ++ [data] = (before ++ [a]) ++ [b] := by simp [same]
      obtain ⟨rfl, alike⟩ := List.append_inj' split rfl
      obtain rfl : data = b := List.head_eq_of_cons_eq alike
      exact Or.inr ⟨⟨before, a, rfl, hit⟩, hit'⟩
    · have split : reads ++ [data] = (before ++ a :: b :: after) ++ [last] := by simp [same]
      obtain ⟨rfl, -⟩ := List.append_inj' split rfl
      exact Or.inl ⟨before, a, b, after, rfl, hit, hit'⟩
  · rintro (⟨before, a, b, after, rfl, hit, hit'⟩ | ⟨⟨before, a, rfl, hit⟩, hit'⟩)
    · exact ⟨before, a, b, after ++ [data], by simp, hit, hit'⟩
    · exact ⟨before, a, data, [], by simp, hit, hit'⟩

theorem not_matchTwice_nil {expected : U8} : ¬ MatchTwice expected [] := by
  rintro ⟨before, a, b, after, same, -⟩
  simp at same

theorem not_matchLast_nil {expected : U8} : ¬ MatchLast expected [] := by
  rintro ⟨before, a, same, -⟩
  simp at same

/-- Polls that go on: no two in a row matched. -/
def Unfinished (address : U32) (expected : U8) (log : List Access) : Prop :=
  ∃ reads : List U8, log = reads.map (Access.read address) ∧ ¬ MatchTwice expected reads

/-- Polls that ended with the first two in a row that matched. -/
def Completed (address : U32) (expected : U8) (log : List Access) : Prop :=
  ∃ reads : List U8, log = reads.map (Access.read address) ∧ MatchTwice expected reads ∧
    ¬ MatchTwice expected reads.dropLast

section
variable {address : U32} {expected : U8} {log log' : List Access}

theorem Polls.nil : Polls address [] := nofun

theorem Polls.read (polls : Polls address log) (data : U8) :
    Polls address (log ++ [.read address data]) := by
  intro access member
  rcases List.mem_append.mp member with old | new
  · exact polls access old
  · exact ⟨data, List.mem_singleton.mp new⟩

theorem polls_reads (address : U32) (reads : List U8) :
    Polls address (reads.map (Access.read address)) := by
  intro access member
  obtain ⟨data, -, rfl⟩ := List.mem_map.mp member
  exact ⟨data, rfl⟩

theorem Unfinished.polls (unfinished : Unfinished address expected log) : Polls address log := by
  obtain ⟨reads, rfl, -⟩ := unfinished
  exact polls_reads address reads

theorem Completed.polls (completed : Completed address expected log) : Polls address log := by
  obtain ⟨reads, rfl, -⟩ := completed
  exact polls_reads address reads

theorem Completed.ne_nil (completed : Completed address expected log) : log ≠ [] := by
  obtain ⟨reads, rfl, twice, -⟩ := completed
  rintro none
  exact not_matchTwice_nil (List.map_eq_nil_iff.mp none ▸ twice)

theorem Polls.no_store (polls : Polls address log) : log.filter Access.isStore = [] := by
  refine List.filter_eq_nil_iff.mpr fun access member => ?_
  obtain ⟨data, rfl⟩ := polls access member
  nofun

end

/-- A refusal gives the chip nothing. -/
theorem ends_refuse_silent {env : Env} (w : World) (id : U8) (params : List U8) :
    Ends (refuse id params) env w
      (fun _ w' => Logged [] w w' ∧ w'.handle.responseCode = responseCodeError)
      (fun _ => False) := by
  unfold refuse setResponseCode
  refine Within.bind_completes (S := Silent) fun _ w₁ silent => ?_
  rw [ends_setHandle]
  obtain ⟨new, trace, same⟩ := silent.adds
  exact ⟨⟨new, trace, same⟩, rfl⟩

end Firestarter
