import DocQuery.Number.DecimalContext
import Mathlib.Algebra.Order.Field.Rat
import Mathlib.Tactic.Ring

/-!
# Decimals of the interchange format

The interchange format keeps a decimal as it is, digit for digit, exactly if it has at
most 34 digits and an exponent in range: `toInterchange_eq_self`. Another decimal is
refused, or gets another exponent, but never another value: `toInterchange_sameValue`.
-/

namespace DocQuery

namespace DecimalContext

variable {negative : Bool} {coefficient : Nat} {exponent : Int} {ctx : DecimalContext}

theorem round_kept (hdigits : decimalLength coefficient ≤ ctx.precision)
    (hlow : ctx.lowest ≤ exponent) (hhigh : exponent ≤ ctx.highest) (hfolds : ctx.folds) :
    ctx.round negative coefficient exponent =
      ⟨some (.finite negative coefficient exponent), true⟩ := by
  rw [round]
  split
  · rename_i hzero
    dsimp only
    rw [max_eq_left hlow, min_eq_left hhigh, hzero]
  · have hlast : exponent + decimalLength coefficient - ctx.precision ≤ exponent := by omega
    rw [if_neg (not_lt.mpr (hlast.trans hhigh))]
    dsimp only
    rw [if_neg (not_lt.mpr (max_le hlast hlow)), if_neg fun h => not_lt.mpr hhigh h.2]

end DecimalContext

namespace Decimal

theorem toInterchange_finite {e : Decimal128} :
    (finite negative coefficient exponent).toInterchange = .ok e ↔
      DecimalContext.interchange.round negative coefficient exponent = ⟨some e.value, true⟩ := by
  cases e
  rw [toInterchange]
  split <;> rename_i hround <;> simp [hround]

/-- The interchange format keeps exactly its own decimals. -/
theorem toInterchange_eq_self {d : Decimal} :
    (∃ h, d.toInterchange = .ok ⟨d, h⟩) ↔ d.IsInterchange := by
  refine ⟨fun ⟨h, _⟩ => h, fun h => ⟨h, ?_⟩⟩
  cases d with
  | finite negative coefficient exponent =>
    obtain ⟨hdigits, hlow, hhigh⟩ := h
    exact toInterchange_finite.mpr (DecimalContext.round_kept hdigits hlow hhigh rfl)
  | infinity => rfl
  | nan =>
    obtain rfl := h
    rfl

theorem IsInterchange.kept {d : Decimal} (h : d.IsInterchange) : d.toInterchange = .ok ⟨d, h⟩ :=
  (toInterchange_eq_self.mpr h).choose_spec

end Decimal

-- ---------------------------------------------------------------------------
-- Values
-- ---------------------------------------------------------------------------

theorem roundHalfEven_mul_tenPow (hn : n ≠ 0) (h : n % tenPowFor n k = 0) :
    roundHalfEven n (tenPowFor n k) * tenPow k = n := by
  have hunit : tenPowFor n k = tenPow k := by
    refine (tenPowFor_eq_or_lt n k).resolve_right fun hlt => hn ?_
    rwa [Nat.mod_eq_of_lt hlt.1] at h
  rw [hunit] at h ⊢
  have hpos : 0 < tenPow k := Nat.pow_pos (by decide)
  rw [roundHalfEven, h, Nat.mul_zero, if_pos hpos]
  exact Nat.div_mul_cancel (Nat.dvd_of_mod_eq_zero h)

namespace Decimal

/-- Finite decimals of one sign and one value, whatever their exponents, and otherwise
equal ones. -/
inductive SameValue : Decimal → Decimal → Prop
  | finite {m n : Nat} {e f : Int} (h : (m : Rat) * 10 ^ e = n * 10 ^ f) :
    SameValue (.finite negative m e) (.finite negative n f)
  | infinity : SameValue (.infinity negative) (.infinity negative)
  | nan : SameValue (.nan negative signaling payload) (.nan negative signaling payload)

theorem SameValue.zeros (negative : Bool) (m k : Nat) (exponent : Int) :
    (Decimal.finite negative (m * tenPow k) exponent).SameValue
      (.finite negative m (exponent + k)) := by
  have hpow : ((tenPow k : Nat) : Rat) = 10 ^ k := by simp [tenPow]
  refine .finite ?_
  rw [zpow_add₀ (by norm_num), zpow_natCast, Nat.cast_mul, hpow]
  ring

theorem SameValue.symm {x y : Decimal} (h : x.SameValue y) : y.SameValue x := by
  cases h with
  | finite h => exact .finite h.symm
  | infinity => exact .infinity
  | nan => exact .nan

end Decimal

namespace DecimalContext

open Decimal (SameValue)

variable {negative : Bool} {coefficient : Nat} {exponent : Int} {ctx : DecimalContext}

theorem round_sameValue (hprecision : 0 < ctx.precision)
    (h : ctx.round negative coefficient exponent = ⟨some d, true⟩) :
    (Decimal.finite negative coefficient exponent).SameValue d := by
  unfold round at h
  split at h
  · rename_i hzero
    simp only [RoundedDecimal.mk.injEq, Option.some.injEq, and_true] at h
    rw [← h, hzero]
    exact .finite (by simp)
  · rename_i hcoefficient
    dsimp only at h
    split at h
    · cases h
    · generalize max _ ctx.lowest = last at h
      split at h
      · rename_i hlow
        obtain ⟨k, rfl⟩ : ∃ k : Nat, last = exponent + k := ⟨(last - exponent).toNat, by omega⟩
        rw [add_sub_cancel_left, Int.toNat_natCast] at h
        split at h
        · -- Rounding carries into a new digit.
          rename_i hcarry
          split at h
          · cases h
          · simp only [RoundedDecimal.mk.injEq, Option.some.injEq, decide_eq_true_eq] at h
            obtain ⟨rfl, hexact⟩ := h
            rw [← roundHalfEven_mul_tenPow hcoefficient hexact, hcarry]
            have hten : tenPow ctx.precision * tenPow k =
                tenPow (ctx.precision - 1) * tenPow (k + 1) := by
              rw [← tenPow_add, ← tenPow_add]
              congr 1
              omega
            rw [hten, add_assoc]
            exact .zeros ..
        · split at h
          · cases h
          · simp only [RoundedDecimal.mk.injEq, Option.some.injEq, decide_eq_true_eq] at h
            obtain ⟨rfl, hexact⟩ := h
            have hzeros := SameValue.zeros negative
              (roundHalfEven coefficient (tenPowFor coefficient k)) k exponent
            rwa [roundHalfEven_mul_tenPow hcoefficient hexact] at hzeros
      · split at h
        · rename_i hpad
          simp only [RoundedDecimal.mk.injEq, Option.some.injEq, and_true] at h
          subst h
          obtain ⟨k, rfl⟩ : ∃ k : Nat, exponent = ctx.highest + k :=
            ⟨(exponent - ctx.highest).toNat, by omega⟩
          rw [add_sub_cancel_left, Int.toNat_natCast]
          exact (SameValue.zeros ..).symm
        · simp only [RoundedDecimal.mk.injEq, Option.some.injEq, and_true] at h
          subst h
          exact .finite rfl

end DecimalContext

namespace Decimal

/-- A decimal has the same value in the interchange format. -/
theorem toInterchange_sameValue {d : Decimal} (h : d.toInterchange = .ok e) :
    d.SameValue e.value := by
  cases d with
  | finite negative coefficient exponent =>
    exact DecimalContext.round_sameValue (by decide) (toInterchange_finite.mp h)
  | infinity negative =>
    cases h
    exact .infinity
  | nan negative signaling payload =>
    rw [toInterchange] at h
    split at h
    · rename_i hzero
      cases h
      rw [hzero]
      exact .nan
    · split at h <;> cases h

end Decimal

end DocQuery
