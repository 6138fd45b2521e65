import DocQuery.Proofs.Number.Remainder
import DocQuery.Value.Kind

/-!
# Kinds of numbers

A number is an `int` or a `float`. `numbers_classified` says which: an integer, a fraction and a
double by whether its exact value is an integer, and a decimal by whether 28-digit arithmetic
finds it to be one.
-/

namespace DocQuery

/-- An integer, a fraction or a finite double, with its exact value. -/
inductive Value.IsExactly : Value → ℚ → Prop
  | int (n : Int) : IsExactly (.int n) n
  | fraction (q : ℚ) : IsExactly (.fraction q) q
  | float (hq : x.toRat? = some q) : IsExactly (.float x) q

inductive Value.IsNotFinite : Value → Prop
  | float (h : x.toRat? = none) : IsNotFinite (.float x)
  | infinity (negative : Bool) : IsNotFinite (.decimal (.infinity negative))
  | nan (negative signaling : Bool) (payload : Nat) :
    IsNotFinite (.decimal (.nan negative signaling payload))

/-- A value is an `int` if a condition holds, and a `float` otherwise. -/
def Value.IntIff (v : Value) (p : Prop) : Prop := (p → v.kind = .int) ∧ (¬ p → v.kind = .float)

theorem Value.IntIff.of_whole {v : Value} {p : Prop} {whole : Bool}
    (hk : v.kind = .ofWhole whole) (hw : whole = true ↔ p) : v.IntIff p := by
  rw [IntIff, hk, ← hw]
  exact ⟨fun h => if_pos h, fun h => if_neg h⟩

theorem Value.IsExactly.intIff {v : Value} (h : v.IsExactly q) : v.IntIff (∃ n : ℤ, q = n) := by
  cases h with
  | int n => exact .of_whole rfl (iff_of_true (by simp) ⟨n, rfl⟩)
  | fraction q => exact .of_whole rfl (by rw [decide_eq_true_eq, remainderRat_eq_zero])
  | float hq => exact .of_whole rfl (Binary64.isWhole_iff hq)

theorem Value.IsNotFinite.kind {v : Value} (h : v.IsNotFinite) : v.kind = .float := by
  cases h with
  | @float x h => cases x <;> first | rfl | cases h
  | infinity negative => rfl
  | nan negative signaling payload => cases signaling <;> rfl

/-- Exact numbers are of kind `int` if and only if they are integers. So are decimals within the
bounds of 28-digit arithmetic; beyond, those are that have at most 28 digits before the point and
nothing behind it that is not rounded to zero. What is no finite number is of kind `float`. -/
theorem numbers_classified (v : Value) :
    (∀ q, v.IsExactly q → v.IntIff (∃ n : ℤ, q = n)) ∧
    (∀ negative coefficient exponent, v = .decimal (.finite negative coefficient exponent) →
      let q := scaledDecimal negative coefficient exponent
      v.IntIff (|q| < 10 ^ 28 ∧ |q - integerPart q| ≤ 10 ^ (-1000026 : ℤ) / 2) ∧
        (|q| < 10 ^ 28 → -1000026 ≤ exponent → v.IntIff (∃ n : ℤ, q = n))) ∧
    (v.IsNotFinite → v.kind = .float) := by
  refine ⟨fun _ => Value.IsExactly.intIff, ?_, Value.IsNotFinite.kind⟩
  rintro negative coefficient exponent rfl
  constructor
  · exact .of_whole rfl (Decimal.isWhole_iff negative coefficient exponent)
  · exact fun hq he => .of_whole rfl (Decimal.isWhole_iff_of_fits he hq)

theorem numbers_classified_least :
    (Value.float (.finite true 1 (-1074))).kind = .float ∧
      (Value.decimal (.finite true 2500 (-2))).kind = .int ∧
      (Value.decimal (.nan false true 0)).kind = .float := by
  refine ⟨?_, ?_, (numbers_classified _).2.2 (.nan false true 0)⟩
  · have hleast : (Binary64.finite true 1 (-1074)).toRat? = some (-(2 : ℚ) ^ (-1074 : ℤ)) := by
      rw [Binary64.toRat?, scaledRat_eq]
      simp
    refine ((numbers_classified _).1 _ (.float hleast)).2 ?_
    rw [whole_neg]
    exact not_whole (by positivity) (zpow_lt_one_of_neg₀ one_lt_two (by decide))
  · have hvalue : scaledDecimal true 2500 (-2) = (-25 : ℤ) := by norm_num [scaledDecimal]
    refine (((numbers_classified _).2.1 true 2500 (-2) rfl).2 ?_ (by decide)).1 ⟨-25, hvalue⟩
    rw [hvalue]
    norm_num

/-- A whole decimal of 29 digits, and a positive one that is rounded to zero. -/
theorem decimals_misclassified :
    scaledDecimal false 1 28 = (10 ^ 28 : ℤ) ∧
      (Value.decimal (.finite false 1 28)).kind = .float ∧
    (¬ ∃ n : ℤ, scaledDecimal false 1 (-1000027) = n) ∧
      (Value.decimal (.finite false 1 (-1000027))).kind = .int := by
  refine ⟨by norm_num [scaledDecimal], by decide, ?_, by decide⟩
  rw [scaledDecimal, if_neg Bool.false_ne_true, Nat.cast_one, one_mul]
  exact not_whole (by positivity) (zpow_lt_one_of_neg₀ (by norm_num) (by decide))

end DocQuery
