import Mathlib.Algebra.Order.Ring.Nat
import Mathlib.Tactic.Linarith
import Mathlib.Tactic.Ring

/-! Quotients of natural numbers rounded to the nearest, and what is lost when the quotient of two
factors is cut off to a whole number before the multiplication. -/
namespace RoundedQuotient

/-- `n / d` to the nearest whole number, upwards from the middle. -/
def roundDiv (n d : Nat) : Nat := (n + d / 2) / d

/-- `n / d` to the next whole number. -/
def ceilDiv (n d : Nat) : Nat := (n + d - 1) / d

variable {a b d m n : Nat}

theorem roundDiv_mono (le : m ≤ n) (d : Nat) : roundDiv m d ≤ roundDiv n d :=
  Nat.div_le_div_right (Nat.add_le_add_right le _)

theorem lt_roundDiv_iff (positive : 0 < d) : m < roundDiv n d ↔ (m + 1) * d ≤ n + d / 2 :=
  Nat.le_div_iff_mul_le positive

/-- A smaller divisor gives no smaller quotient. -/
theorem roundDiv_anti {d' : Nat} (positive : 0 < d) (le : d ≤ d') (n : Nat) :
    roundDiv n d' ≤ roundDiv n d := by
  cases quotient : roundDiv n d' with
  | zero => exact Nat.zero_le _
  | succ k =>
    have reached : k < roundDiv n d' := by omega
    rw [lt_roundDiv_iff (Nat.lt_of_lt_of_le positive le), Nat.add_mul, Nat.one_mul] at reached
    refine (lt_roundDiv_iff positive).mpr ?_
    rw [Nat.add_mul, Nat.one_mul]
    have scaled : k * d ≤ k * d' := Nat.mul_le_mul_left k le
    omega

theorem roundDiv_add_mul (positive : 0 < d) : roundDiv (n + m * d) d = roundDiv n d + m := by
  unfold roundDiv
  rw [Nat.add_right_comm, Nat.add_mul_div_right _ _ positive]

/-- A common factor cancels, although the two halves are rounded down apart. -/
theorem roundDiv_mul_right (positive : 0 < d) : roundDiv (n * d) (b * d) = roundDiv n b := by
  have half : b * d / 2 / d = b / 2 := by
    rw [Nat.div_div_eq_div_mul, Nat.mul_comm 2 d, ← Nat.div_div_eq_div_mul,
      Nat.mul_div_cancel _ positive]
  unfold roundDiv
  rw [Nat.mul_comm b d, ← Nat.div_div_eq_div_mul, Nat.mul_comm d b, Nat.add_comm,
    Nat.add_mul_div_right _ _ positive, half, Nat.add_comm]

theorem le_ceilDiv_mul (positive : 0 < d) : n ≤ ceilDiv n d * d := by
  have whole := Nat.div_add_mod (n + d - 1) d
  have small := Nat.mod_lt (n + d - 1) positive
  unfold ceilDiv
  rw [Nat.mul_comm] at whole
  omega

/-- Cutting the factor off only ever lowers the result. -/
theorem folded_le_exact (positive : 0 < d) :
    roundDiv (a * (n / d)) b ≤ roundDiv (a * n) (b * d) := by
  rw [← roundDiv_mul_right positive]
  refine roundDiv_mono ?_ _
  rw [Nat.mul_assoc]
  exact Nat.mul_le_mul_left a (Nat.div_mul_le_self n d)

/-- And by no more than the other factor amounts to. -/
theorem exact_le_folded_add (positive : 0 < d) (divides : 0 < b) :
    roundDiv (a * n) (b * d) ≤ roundDiv (a * (n / d)) b + ceilDiv a b := by
  have cut : n ≤ (n / d + 1) * d := by
    have whole := Nat.div_add_mod n d
    have small := Nat.mod_lt n positive
    linarith
  have enough : a * n ≤ (a * (n / d) + ceilDiv a b * b) * d :=
    calc a * n ≤ a * ((n / d + 1) * d) := Nat.mul_le_mul_left a cut
      _ = (a * (n / d) + a) * d := by ring
      _ ≤ (a * (n / d) + ceilDiv a b * b) * d :=
        Nat.mul_le_mul_right d (Nat.add_le_add_left (le_ceilDiv_mul divides) _)
  calc roundDiv (a * n) (b * d)
      ≤ roundDiv ((a * (n / d) + ceilDiv a b * b) * d) (b * d) := roundDiv_mono enough _
    _ = roundDiv (a * (n / d)) b + ceilDiv a b := by
        rw [roundDiv_mul_right positive, roundDiv_add_mul divides]

/-- What the folded form leaves out of the numerator, in units of `1 / d`. -/
def loss (a b n d : Nat) : Nat := a * (n % d) + b % 2 * (d / 2)

theorem exact_numerator (a b n d : Nat) :
    a * n + b * d / 2 = (a * (n / d) + b / 2) * d + loss a b n d := by
  have whole : a * n = a * (n / d) * d + a * (n % d) := by
    rw [Nat.mul_assoc, ← Nat.mul_add, Nat.mul_comm (n / d) d, Nat.div_add_mod]
  have half : b * d / 2 = b / 2 * d + b % 2 * (d / 2) := by
    have parity := Nat.div_add_mod b 2
    rcases Nat.mod_two_eq_zero_or_one b with even | odd
    · have doubled : b * d = b / 2 * d * 2 := by
        calc b * d = (2 * (b / 2) + b % 2) * d := by rw [parity]
          _ = b / 2 * d * 2 := by rw [even]; ring
      rw [doubled, Nat.mul_div_cancel _ Nat.two_pos, even]
      omega
    · have doubled : b * d = d + b / 2 * d * 2 := by
        calc b * d = (2 * (b / 2) + b % 2) * d := by rw [parity]
          _ = d + b / 2 * d * 2 := by rw [odd]; ring
      rw [doubled, Nat.add_mul_div_right _ _ Nat.two_pos, odd]
      omega
  unfold loss
  rw [whole, half]
  ring

/-- Where the other factor makes less than half a divisor of what is cut off, nothing is lost. -/
theorem folded_eq_exact_of_small (small : 2 * (a * (n % d)) < d) :
    roundDiv (a * (n / d)) b = roundDiv (a * n) (b * d) := by
  have positive : 0 < d := Nat.lt_of_le_of_lt (Nat.zero_le _) small
  have odd : b % 2 * (d / 2) ≤ d / 2 := by
    rcases Nat.mod_two_eq_zero_or_one b with even | odd <;> simp [*]
  have lost : loss a b n d < d := by
    unfold loss
    omega
  unfold roundDiv
  rw [exact_numerator, Nat.mul_comm b d, ← Nat.div_div_eq_div_mul, Nat.mul_comm _ d,
    Nat.mul_add_div positive, Nat.div_eq_of_lt lost, Nat.add_zero]

/-- Nothing is lost where the quotient is whole. -/
theorem folded_eq_exact (positive : 0 < d) (whole : d ∣ n) :
    roundDiv (a * (n / d)) b = roundDiv (a * n) (b * d) := by
  refine folded_eq_exact_of_small ?_
  rw [Nat.mod_eq_zero_of_dvd whole, Nat.mul_zero, Nat.mul_zero]
  exact positive

end RoundedQuotient
