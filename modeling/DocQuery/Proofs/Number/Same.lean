import DocQuery.Number.Basic
import Mathlib.Algebra.Order.Field.Rat
import Mathlib.Data.Rat.Lemmas
import Mathlib.Tactic.Ring

/-!
# Numbers of one value

Two finite values are the same if they are the same rational number, which
`cross_eq_iff` says of the multiplied powers. So sameness is symmetric and
transitive; it is not reflexive, for a NaN is not itself.
-/

namespace DocQuery

namespace ExactValue

theorem cross_eq_iff_of_le (p q : Rat) {j k : Int} (h : k ≤ j) :
    p.num * tenPow (j - k).toNat * q.den = q.num * tenPow (k - j).toNat * p.den ↔
      p * (10 : Rat) ^ j = q * (10 : Rat) ^ k := by
  obtain ⟨d, rfl⟩ := Int.le.dest h
  have hup : (k + d - k).toNat = d := by omega
  have hdown : (k - (k + d)).toNat = 0 := by omega
  have hten : (10 : Rat) ^ k ≠ 0 := zpow_ne_zero k (by norm_num)
  have hpow : (10 : Rat) ^ (k + (d : Int)) = (tenPow d : Rat) * 10 ^ k := by
    rw [zpow_add₀ (by norm_num), zpow_natCast, mul_comm]
    simp [tenPow]
  have hp : (p.den : Rat) ≠ 0 := Nat.cast_ne_zero.mpr p.den_nz
  have hq : (q.den : Rat) ≠ 0 := Nat.cast_ne_zero.mpr q.den_nz
  rw [hup, hdown, hpow, ← mul_assoc, mul_left_inj' hten]
  constructor
  · intro heq
    have hrat : (p.num : Rat) * tenPow d * q.den = q.num * p.den := by
      simpa [tenPow] using congrArg (Int.cast (R := Rat)) heq
    rw [← Rat.num_div_den p, ← Rat.num_div_den q, div_mul_eq_mul_div, div_eq_div_iff hp hq]
    exact hrat
  · intro heq
    rw [← Rat.num_div_den p, ← Rat.num_div_den q, div_mul_eq_mul_div, div_eq_div_iff hp hq] at heq
    have hint : p.num * tenPow d * q.den = q.num * p.den := by exact_mod_cast heq
    simpa [tenPow] using hint

theorem cross_eq_iff (p q : Rat) (j k : Int) :
    p.num * tenPow (j - k).toNat * q.den = q.num * tenPow (k - j).toNat * p.den ↔
      p * (10 : Rat) ^ j = q * (10 : Rat) ^ k := by
  rcases Int.le_total k j with h | h
  · exact cross_eq_iff_of_le p q h
  · rw [eq_comm, cross_eq_iff_of_le q p h, eq_comm]

theorem same_finite : (finite p j).same (finite q k) = true ↔
    leadingPower p j = leadingPower q k ∧ p * (10 : Rat) ^ j = q * (10 : Rat) ^ k := by
  simp only [same, Bool.and_eq_true, beq_iff_eq, cross_eq_iff]

theorem same_symm {x y : ExactValue} (h : x.same y = true) : y.same x = true := by
  cases x with
  | nan => cases h
  | infinity a =>
    cases y with
    | infinity b => exact beq_iff_eq.mpr (beq_iff_eq.mp h).symm
    | _ => cases h
  | finite p j =>
    cases y with
    | finite q k =>
      obtain ⟨hlead, hvalue⟩ := same_finite.mp h
      exact same_finite.mpr ⟨hlead.symm, hvalue.symm⟩
    | _ => cases h

theorem same_trans {x y z : ExactValue} (hxy : x.same y = true) (hyz : y.same z = true) :
    x.same z = true := by
  cases y with
  | nan => cases hyz
  | infinity b =>
    cases x with
    | infinity a =>
      obtain rfl : a = b := beq_iff_eq.mp hxy
      exact hyz
    | _ => cases hxy
  | finite q k =>
    cases x with
    | finite p j =>
      cases z with
      | finite r l =>
        obtain ⟨hlead, hvalue⟩ := same_finite.mp hxy
        obtain ⟨hlead', hvalue'⟩ := same_finite.mp hyz
        exact same_finite.mpr ⟨hlead.trans hlead', hvalue.trans hvalue'⟩
      | _ => cases hyz
    | _ => cases hxy

end ExactValue

namespace Number

theorem same_symm {x y : Number} (h : x.same y = true) : y.same x = true := by
  rw [same, Bool.and_eq_true] at h ⊢
  exact ⟨ExactValue.same_symm h.1, ExactValue.same_symm h.2⟩

theorem same_trans {x y z : Number} (hxy : x.same y = true) (hyz : y.same z = true) :
    x.same z = true := by
  rw [same, Bool.and_eq_true] at hxy hyz ⊢
  exact ⟨ExactValue.same_trans hxy.1 hyz.1, ExactValue.same_trans hxy.2 hyz.2⟩

theorem same_int {m n : Int} : (int m).same (int n) = true ↔ m = n := by
  constructor
  · intro h
    have hvalue := (ExactValue.same_finite.mp (Bool.and_eq_true_iff.mp h).1).2
    simpa using hvalue
  · rintro rfl
    simp [same, parts, ExactValue.ofRat, ExactValue.same]

theorem equalsInt_of_same {x : Number} (h : x.same (int m) = true) (n : Int) :
    x.equalsInt n = .ok (m == n) := by
  have hsame : x.same (int n) = (m == n) := by
    rw [Bool.eq_iff_iff, beq_iff_eq]
    constructor
    · exact fun hn => same_int.mp (same_trans (same_symm h) hn)
    · rintro rfl
      exact h
  unfold equalsInt
  split
  -- A signaling NaN, which would be refused, is the same as nothing.
  · cases h
  · rw [hsame]

end Number

end DocQuery
