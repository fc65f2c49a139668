import Mathlib.Algebra.CharP.Two
import Mathlib.Algebra.Field.ZMod
import Mathlib.Algebra.Polynomial.Div
import Mathlib.Data.ZMod.Basic
import Mathlib.RingTheory.Coprime.Lemmas

/-! Cyclic redundancy checks as division of polynomials with two coefficients. A bit string stands
for a polynomial, its first bit for the highest power; a shift register computes remainders by a
divisor as wide as itself, and what a divisor divides is not hit by a burst no wider than it. -/
namespace CyclicRedundancy

open Polynomial

noncomputable section

/-! ## Bit strings -/

def coefficient (b : Bool) : ZMod 2 := if b then 1 else 0

theorem coefficient_xor (a b : Bool) : coefficient (a ^^ b) = coefficient a + coefficient b := by
  cases a <;> cases b <;> decide

theorem coefficient_inj {a b : Bool} (same : coefficient a = coefficient b) : a = b := by
  cases a <;> cases b <;> first | rfl | exact absurd same (by decide)

/-- The polynomial of a bit string, the first bit for the highest power. -/
def ofBits : List Bool → (ZMod 2)[X]
  | [] => 0
  | b :: rest => C (coefficient b) * X ^ rest.length + ofBits rest

theorem ofBits_append (s t : List Bool) : ofBits (s ++ t) = ofBits s * X ^ t.length + ofBits t := by
  induction s with
  | nil => simp [ofBits]
  | cons b s ih =>
    rw [List.cons_append, ofBits, ofBits, ih, List.length_append, pow_add]
    ring

theorem degree_ofBits_lt (s : List Bool) : (ofBits s).degree < s.length := by
  induction s with
  | nil => simp [ofBits]
  | cons b s ih =>
    rw [ofBits, List.length_cons]
    have longer : ((s.length : Nat) : WithBot Nat) < ((s.length + 1 : Nat) : WithBot Nat) := by
      exact_mod_cast Nat.lt_succ_self _
    refine (degree_add_le _ _).trans_lt (max_lt ?_ (ih.trans longer))
    exact (degree_C_mul_X_pow_le _ _).trans_lt longer

theorem coeff_ofBits (s : List Bool) (i : Nat) :
    (ofBits s).coeff i = coefficient (s.reverse[i]?.getD false) := by
  induction s with
  | nil => simp [ofBits, coefficient]
  | cons b s ih =>
    rw [ofBits, coeff_add, ih, coeff_C_mul_X_pow, List.reverse_cons]
    rcases Nat.lt_trichotomy i s.length with below | rfl | above
    · rw [if_neg (by omega), zero_add, List.getElem?_append_left (by simpa using below)]
    · simp [coefficient]
    · rw [if_neg (by omega), zero_add, List.getElem?_eq_none (by simpa using Nat.le_of_lt above),
        List.getElem?_eq_none (by simpa using above)]

theorem ofBits_inj {s t : List Bool} (sameLength : s.length = t.length)
    (same : ofBits s = ofBits t) : s = t := by
  induction s generalizing t with
  | nil => exact (List.eq_nil_of_length_eq_zero sameLength.symm).symm
  | cons b s ih =>
    cases t with
    | nil => cases sameLength
    | cons c t =>
      have shorter : s.length = t.length := Nat.succ.inj sameLength
      rw [ofBits, ofBits, shorter] at same
      have top := congrArg (fun p => p.coeff t.length) same
      simp only [coeff_add, coeff_C_mul_X_pow, if_true] at top
      rw [coeff_eq_zero_of_degree_lt (degree_ofBits_lt t),
        coeff_eq_zero_of_degree_lt (shorter ▸ degree_ofBits_lt s), add_zero, add_zero] at top
      obtain rfl := coefficient_inj top
      rw [ih shorter (add_left_cancel same)]

/-! ## Bursts -/

/-- The bit string was altered inside a window of this width, and nowhere else. -/
def Burst (width : Nat) (s t : List Bool) : Prop :=
  ∃ before inner inner' after, s = before ++ inner ++ after ∧ t = before ++ inner' ++ after ∧
    inner.length ≤ width ∧ inner'.length = inner.length ∧ inner ≠ inner'

/-- What is coprime to every power of `X` divides nothing across a burst of its own width. -/
theorem not_dvd_of_burst {g : (ZMod 2)[X]} {s t : List Bool} {width : Nat} (monic : g.Monic)
    (degree : g.degree = width) (odd : g.coeff 0 = 1) (burst : Burst width s t)
    (divides : g ∣ ofBits s) : ¬ g ∣ ofBits t := by
  intro divides'
  obtain ⟨before, inner, inner', after, rfl, rfl, narrow, sameLength, differs⟩ := burst
  have difference : ofBits (before ++ inner ++ after) - ofBits (before ++ inner' ++ after) =
      (ofBits inner - ofBits inner') * X ^ after.length := by
    simp only [ofBits_append, sameLength]
    ring
  have coprime : IsCoprime g (X ^ after.length) := by
    refine IsCoprime.pow_right ⟨1, -g.divX, ?_⟩
    have split := divX_mul_X_add g
    rw [odd, C_1] at split
    nth_rewrite 1 [← split]
    ring
  have window : g ∣ ofBits inner - ofBits inner' := by
    refine coprime.dvd_of_dvd_mul_right ?_
    rw [← difference]
    exact dvd_sub divides divides'
  have small : (ofBits inner - ofBits inner').degree < g.degree := by
    rw [degree]
    refine (degree_sub_le _ _).trans_lt (max_lt ?_ ?_)
    · exact (degree_ofBits_lt inner).trans_le (by exact_mod_cast narrow)
    · exact (degree_ofBits_lt inner').trans_le (by exact_mod_cast sameLength ▸ narrow)
  by_cases none : ofBits inner - ofBits inner' = 0
  · exact differs (ofBits_inj sameLength.symm (sub_eq_zero.mp none))
  · exact monic.not_dvd_of_degree_lt none small window

/-! ## Words and registers -/

variable {w : Nat}

/-- The bits of a word, its most significant one first. -/
def wordBits (v : BitVec w) : List Bool := (List.range w).map v.getMsbD

def ofWord (v : BitVec w) : (ZMod 2)[X] := ofBits (wordBits v)

def ofWords (ws : List (BitVec w)) : (ZMod 2)[X] := ofBits (ws.flatMap wordBits)

/-- The divisor of a register, by its coefficients below the leading one. -/
def divisor (low : BitVec w) : (ZMod 2)[X] := X ^ w + ofWord low

/-- One shift of the register: the bit that leaves it takes the divisor away. -/
def shift (low v : BitVec w) : BitVec w := if v.msb then v <<< 1 ^^^ low else v <<< 1

/-- The register after these words, each of them shifted through from its first bit on. -/
def remainder (low : BitVec w) (ws : List (BitVec w)) : BitVec w :=
  ws.foldl (fun c v => (shift low)^[w] (c ^^^ v)) 0

@[simp] theorem length_wordBits (v : BitVec w) : (wordBits v).length = w := by simp [wordBits]

theorem coeff_ofWord (v : BitVec w) (i : Nat) :
    (ofWord v).coeff i = coefficient (v.getLsbD i) := by
  unfold ofWord
  rw [coeff_ofBits]
  congr 1
  by_cases inside : i < w
  · have inside' : i < (wordBits v).length := by simpa using inside
    rw [List.getElem?_reverse inside', length_wordBits, wordBits, List.getElem?_map,
      List.getElem?_range (by omega)]
    simp only [Option.map_some, Option.getD_some, BitVec.getMsbD_eq_getLsbD]
    rw [show w - 1 - (w - 1 - i) = i by omega, decide_eq_true (by omega), Bool.true_and]
  · rw [List.getElem?_eq_none (by simpa using inside), Option.getD_none,
      BitVec.getLsbD_of_ge v i (by omega)]

theorem ofWord_xor (v v' : BitVec w) : ofWord (v ^^^ v') = ofWord v + ofWord v' := by
  ext i
  rw [coeff_add, coeff_ofWord, coeff_ofWord, coeff_ofWord, BitVec.getLsbD_xor, coefficient_xor]

theorem degree_ofWord_lt (v : BitVec w) : (ofWord v).degree < w := by
  have bits := degree_ofBits_lt (wordBits v)
  rw [length_wordBits] at bits
  exact bits

theorem ofWord_inj {v v' : BitVec w} (same : ofWord v = ofWord v') : v = v' := by
  apply BitVec.eq_of_getLsbD_eq
  intro i _
  have bit := congrArg (fun p => p.coeff i) same
  simp only [coeff_ofWord] at bit
  exact coefficient_inj bit

theorem ofWords_snoc (ws : List (BitVec w)) (v : BitVec w) :
    ofWords (ws ++ [v]) = ofWords ws * X ^ w + ofWord v := by
  unfold ofWords ofWord
  rw [List.flatMap_append, ofBits_append]
  simp

theorem divisor_monic (low : BitVec w) : (divisor low).Monic :=
  monic_X_pow_add (degree_ofWord_lt low)

theorem degree_divisor (low : BitVec w) : (divisor low).degree = w := by
  unfold divisor
  rw [degree_add_eq_left_of_degree_lt] <;> rw [degree_X_pow]
  exact degree_ofWord_lt low

/-- Moving a word up by one place multiplies it by `X`, but for the bit that leaves it. -/
theorem ofWord_shiftLeft (v : BitVec w) :
    ofWord (v <<< 1) = X * ofWord v + C (coefficient v.msb) * X ^ w := by
  ext i
  rw [coeff_add, coeff_C_mul_X_pow, coeff_ofWord, BitVec.getLsbD_shiftLeft]
  cases i with
  | zero =>
    rw [coeff_X_mul_zero, zero_add]
    by_cases empty : w = 0
    · subst empty
      simp [coefficient, BitVec.msb_eq_getLsbD_last]
    · simp [coefficient, Ne.symm empty]
  | succ i =>
    rw [coeff_X_mul, coeff_ofWord, BitVec.msb_eq_getLsbD_last]
    rcases Nat.lt_trichotomy (i + 1) w with inside | rfl | outside
    · simp [inside, Nat.ne_of_lt inside]
    · simp only [lt_irrefl, decide_false, Bool.false_and, if_true, Nat.add_sub_cancel]
      exact (CharTwo.add_self_eq_zero _).symm
    · rw [if_neg (by omega), BitVec.getLsbD_of_ge v i (by omega)]
      simp [Nat.not_lt.mpr (Nat.le_of_lt outside)]

theorem ofWord_shift (low v : BitVec w) :
    ofWord (shift low v) = X * ofWord v + C (coefficient v.msb) * divisor low := by
  unfold shift divisor
  cases out : v.msb with
  | false =>
    have moved := ofWord_shiftLeft v
    rw [out] at moved
    simpa [coefficient] using moved
  | true =>
    have moved := ofWord_shiftLeft v
    have one : C (coefficient true) = (1 : (ZMod 2)[X]) := C_1
    rw [out, one] at moved
    rw [if_pos rfl, ofWord_xor, moved, one]
    ring

theorem dvd_ofWord_shifts (low v : BitVec w) (n : Nat) :
    divisor low ∣ ofWord ((shift low)^[n] v) - X ^ n * ofWord v := by
  induction n generalizing v with
  | zero => simp
  | succ n ih =>
    have first : divisor low ∣ X ^ n * (ofWord (shift low v) - X * ofWord v) := by
      refine Dvd.dvd.mul_left ⟨C (coefficient v.msb), ?_⟩ _
      rw [ofWord_shift]
      ring
    have both := dvd_add (ih (shift low v)) first
    have whole : ofWord ((shift low)^[n] (shift low v)) - X ^ n * ofWord (shift low v) +
        X ^ n * (ofWord (shift low v) - X * ofWord v) =
          ofWord ((shift low)^[n] (shift low v)) - X ^ (n + 1) * ofWord v := by ring
    rw [whole] at both
    exact both

theorem remainder_snoc (low : BitVec w) (ws : List (BitVec w)) (v : BitVec w) :
    remainder low (ws ++ [v]) = (shift low)^[w] (remainder low ws ^^^ v) := by simp [remainder]

theorem dvd_remainder (low : BitVec w) (ws : List (BitVec w)) :
    divisor low ∣ ofWord (remainder low ws) - X ^ w * ofWords ws := by
  induction ws using List.reverseRecOn with
  | nil =>
    have zero : ofWord (0#w) = 0 := by
      ext i
      rw [coeff_ofWord]
      simp [coefficient]
    simp [remainder, ofWords, ofBits, zero]
  | append_singleton ws v ih =>
    have shifted := dvd_ofWord_shifts low (remainder low ws ^^^ v) w
    have earlier := Dvd.dvd.mul_left ih (X ^ w)
    have both := dvd_add shifted earlier
    rw [remainder_snoc, ofWords_snoc]
    refine (congrArg (divisor low ∣ ·) ?_).mp both
    rw [ofWord_xor]
    ring

/-- The register computes the remainder of the words moved up by its own width. -/
theorem ofWord_remainder (low : BitVec w) (ws : List (BitVec w)) :
    ofWord (remainder low ws) = (X ^ w * ofWords ws) %ₘ divisor low := by
  have monic := divisor_monic low
  have small : ofWord (remainder low ws) %ₘ divisor low = ofWord (remainder low ws) := by
    rw [modByMonic_eq_self_iff monic, degree_divisor]
    exact degree_ofWord_lt _
  rw [← small]
  exact modByMonic_eq_of_dvd_sub monic (dvd_remainder low ws)

/-- A stream carries its own remainder exactly when the divisor divides it. -/
theorem remainder_eq_iff {low : BitVec w} {ws : List (BitVec w)} {v : BitVec w} :
    remainder low ws = v ↔ divisor low ∣ ofWords (ws ++ [v]) := by
  have shifted := dvd_remainder low ws
  rw [ofWords_snoc]
  constructor
  · rintro rfl
    refine (congrArg (divisor low ∣ ·) ?_).mp shifted
    rw [CharTwo.sub_eq_add]
    ring
  · intro divides
    have both := dvd_sub shifted divides
    have difference : ofWord (remainder low ws) - X ^ w * ofWords ws -
        (ofWords ws * X ^ w + ofWord v) = ofWord (remainder low ws) - ofWord v := by
      have twice : X ^ w * ofWords ws + ofWords ws * X ^ w = 0 := by
        rw [mul_comm (ofWords ws)]
        exact CharTwo.add_self_eq_zero _
      calc _ = ofWord (remainder low ws) - ofWord v - (X ^ w * ofWords ws + ofWords ws * X ^ w) := by
            ring
        _ = _ := by rw [twice, sub_zero]
    rw [difference] at both
    have small : (ofWord (remainder low ws) - ofWord v).degree < (divisor low).degree := by
      rw [degree_divisor]
      exact (degree_sub_le _ _).trans_lt (max_lt (degree_ofWord_lt _) (degree_ofWord_lt _))
    by_contra differs
    refine (divisor_monic low).not_dvd_of_degree_lt ?_ small both
    exact sub_ne_zero.mpr fun same => differs (ofWord_inj same)

/-- No burst as wide as the register goes unseen, wherever it lies. -/
theorem remainder_ne_of_burst {low : BitVec w} (odd : low.getLsbD 0 = true) {ws ws' : List (BitVec w)}
    {v v' : BitVec w} (valid : remainder low ws = v)
    (burst : Burst w ((ws ++ [v]).flatMap wordBits) ((ws' ++ [v']).flatMap wordBits)) :
    remainder low ws' ≠ v' := by
  intro valid'
  have wide : w ≠ 0 := by
    rintro rfl
    simp at odd
  have constant : (divisor low).coeff 0 = 1 := by
    unfold divisor
    rw [coeff_add, coeff_X_pow, if_neg (Ne.symm wide), coeff_ofWord, odd, zero_add]
    rfl
  exact not_dvd_of_burst (divisor_monic low) (degree_divisor low) constant burst
    (remainder_eq_iff.mp valid) (remainder_eq_iff.mp valid')

end

end CyclicRedundancy
