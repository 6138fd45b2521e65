import DocQuery.Number.Binary64
import DocQuery.Number.DecimalContext
import Mathlib.Algebra.Order.Field.Power
import Mathlib.Data.Rat.Floor
import Mathlib.Tactic.Linarith
import Mathlib.Tactic.Positivity

/-!
# Integer parts

Numbers of every kind lose their fraction in the same way: what is left is the
integer part of their exact value.
-/

namespace DocQuery

def integerPart (q : ℚ) : ℤ := if 0 ≤ q then ⌊q⌋ else ⌈q⌉

theorem integerPart_neg (q : ℚ) : integerPart (-q) = -integerPart q := by
  unfold integerPart
  rcases lt_trichotomy q 0 with h | rfl | h
  · rw [if_pos (by linarith), if_neg (by linarith), Int.floor_neg]
  · simp
  · rw [if_neg (by linarith), if_pos h.le, Int.ceil_neg]

theorem truncateRat_eq (q : ℚ) : truncateRat q = integerPart q := by
  have hpos (q : ℚ) (h : 0 ≤ q) : truncateRat q = integerPart q := by
    rw [integerPart, if_pos h, Rat.floor_def', truncateRat]
    exact Int.tdiv_eq_ediv_of_nonneg (Rat.num_nonneg.mpr h)
  rcases le_total 0 q with h | h
  · exact hpos q h
  · have hneg := hpos (-q) (by linarith)
    rw [integerPart_neg, truncateRat, Rat.num_neg_eq_neg_num, Rat.den_neg_eq_den,
      Int.neg_tdiv] at hneg
    exact neg_inj.mp hneg

def scaledDecimal (negative : Bool) (coefficient : Nat) (exponent : Int) : ℚ :=
  (if negative then -(coefficient : ℚ) else coefficient) * 10 ^ exponent

theorem wholePart_eq (coefficient : Nat) (exponent : Int) :
    integerPart (coefficient * 10 ^ exponent) = (Decimal.wholePart coefficient exponent).1 := by
  unfold Decimal.wholePart
  split
  · rename_i hzero
    simp [hzero, integerPart]
  have hnonneg : (0 : ℚ) ≤ coefficient * 10 ^ exponent := by positivity
  rw [integerPart, if_pos hnonneg]
  split
  · rename_i he
    obtain ⟨k, rfl⟩ := Int.eq_ofNat_of_zero_le he
    have hcast : (coefficient * 10 ^ (k : ℤ) : ℚ) = ((coefficient * tenPow k : Nat) : ℤ) := by
      simp [tenPow]
    rw [hcast, Int.floor_intCast]
    rfl
  · rename_i he
    obtain ⟨k, hk⟩ := Int.eq_ofNat_of_zero_le (a := -exponent) (by omega)
    obtain rfl : exponent = -(k : Int) := by omega
    dsimp only
    rw [Int.neg_neg, Int.toNat_natCast, div_tenPowFor]
    have hdiv : (coefficient * 10 ^ (-(k : ℤ)) : ℚ) = (coefficient : ℤ) / (tenPow k : Nat) := by
      simp [tenPow, div_eq_mul_inv]
    rw [hdiv, Rat.floor_intCast_div_natCast]
    rfl

theorem Decimal.truncate_finite (negative : Bool) (coefficient : Nat) (exponent : Int) :
    (finite negative coefficient exponent).truncate =
      .ok (integerPart (scaledDecimal negative coefficient exponent)) := by
  have hwhole := wholePart_eq coefficient exponent
  cases negative with
  | false =>
    have hvalue : scaledDecimal false coefficient exponent = coefficient * 10 ^ exponent := rfl
    rw [hvalue, hwhole]
    rfl
  | true =>
    have hneg : scaledDecimal true coefficient exponent = -(coefficient * 10 ^ exponent) :=
      neg_mul ..
    rw [hneg, integerPart_neg, hwhole]
    rfl

theorem Binary64.truncate_eq_ok {x : Binary64} :
    x.truncate = .ok n ↔ ∃ q, x.toRat? = some q ∧ n = integerPart q := by
  cases x with
  | finite negative significand exponent =>
    simp [Binary64.truncate, Binary64.toRat?, truncateRat_eq, eq_comm]
  | _ => simp [Binary64.truncate, Binary64.toRat?]

end DocQuery
