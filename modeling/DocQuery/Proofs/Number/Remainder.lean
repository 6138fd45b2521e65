import DocQuery.Proofs.Number.IntegerPart
import DocQuery.Proofs.Number.Nearest

/-!
# What division by 1 leaves

A number is whole if division by 1 leaves nothing of it. Rationals and doubles are divided
exactly, so that this is the case of the integers alone, and what is left of a double is not
rounded to nothing. What is left of a decimal is, if it is small enough.
-/

namespace DocQuery

theorem fract_eq_zero_iff {q : ℚ} : Int.fract q = 0 ↔ ∃ n : ℤ, q = n := by
  rw [Int.fract_eq_zero_iff, Set.mem_range]
  exact exists_congr fun _ => eq_comm

theorem whole_neg {q : ℚ} : (∃ n : ℤ, -q = n) ↔ ∃ n : ℤ, q = n := by
  constructor
  · rintro ⟨n, h⟩
    exact ⟨-n, by rw [Int.cast_neg, ← h, neg_neg]⟩
  · rintro ⟨n, rfl⟩
    exact ⟨-n, (Int.cast_neg n).symm⟩

theorem not_whole {q : ℚ} (hpos : 0 < q) (hlt : q < 1) : ¬ ∃ n : ℤ, q = n := by
  rw [← fract_eq_zero_iff, Int.fract_eq_self.mpr ⟨hpos.le, hlt⟩]
  exact hpos.ne'

theorem whole_quotient {num den : Nat} (hd : 0 < den) :
    (∃ n : ℤ, (num / den : ℚ) = n) ↔ num % den = 0 := by
  have hden : (den : ℚ) ≠ 0 := Nat.cast_ne_zero.mpr hd.ne'
  rw [← fract_eq_zero_iff, Int.fract_div_natCast_eq_div_natCast_mod, div_eq_zero_iff,
    or_iff_left hden, Nat.cast_eq_zero]

theorem remainderRat_eq_zero {q : ℚ} : remainderRat q = 0 ↔ ∃ n : ℤ, q = n := by
  rw [remainderRat, Rat.mkRat_eq_zero q.den_nz, ← Int.dvd_iff_emod_eq_zero]
  constructor
  · rintro ⟨n, hn⟩
    refine ⟨n, ?_⟩
    rw [← Rat.num_div_den q, hn]
    simp
  · rintro ⟨n, rfl⟩
    simp

-- ---------------------------------------------------------------------------
-- Doubles
-- ---------------------------------------------------------------------------

theorem roundHalfEven_eq_zero {num den : Nat} (hd : 0 < den) :
    roundHalfEven num den = 0 ↔ 2 * num ≤ den := by
  have hlt : 0 < roundHalfEven (0 * den + num) den ↔ _ := lt_roundHalfEven hd
  rw [Nat.zero_mul, Nat.zero_add] at hlt
  simp only [Nat.not_odd_zero, and_false, or_false] at hlt
  omega

namespace Binary64

theorem isZero_finite (negative : Bool) (h : IsCanonical significand exponent) :
    (finite negative significand exponent h).isZero = decide (significand = 0) := by
  cases significand <;> rfl

theorem finite_of_toRat? {x : Binary64} (hq : x.toRat? = some q) :
    ∃ negative significand exponent h, x = finite negative significand exponent h := by
  cases x with
  | finite negative significand exponent h => exact ⟨negative, significand, exponent, h, rfl⟩
  | _ => cases hq

/-- No quotient that is at least the least positive double is rounded to zero. -/
theorem isZero_nearest {num den : Nat} (hn : 0 < num) (hd : 0 < den)
    (hle : (2 : ℚ) ^ (-1074 : ℤ) ≤ num / den) (negative : Bool) :
    (nearest negative num den).isZero = false := by
  obtain ⟨n, d, hscale, hpos, hvalue⟩ :=
    scaleQuotient_spec two_pos hd num (-unitExponent num den)
  have hunit : (2 : ℚ) ^ unitExponent num den ≤ num / den := by
    rcases (unitExponent_spec hn hd).1 with h | h
    · rwa [h]
    · exact (zpow_le_zpow_right₀ one_le_two (by omega)).trans h
  have hdn : d ≤ n := by
    rw [← Nat.cast_le (α := ℚ), ← one_le_div (Nat.cast_pos.mpr hpos), hvalue, Nat.cast_ofNat,
      zpow_neg, ← div_eq_mul_inv, one_le_div (by positivity)]
    exact hunit
  have hrounded : roundHalfEven n d ≠ 0 := by
    rw [ne_eq, roundHalfEven_eq_zero hpos]
    omega
  obtain ⟨significand, exponent, hrat, -, hfinite, hinfinite⟩ := nearest_eq hn hd hscale negative
  rcases le_or_gt exponent 971 with hexponent | hexponent
  · have hsignificand : significand ≠ 0 := by
      rintro rfl
      have hunits : (roundHalfEven n d : ℚ) * 2 ^ unitExponent num den ≠ 0 :=
        mul_ne_zero (Nat.cast_ne_zero.mpr hrounded) (by positivity)
      rw [← hrat, Nat.cast_zero, zero_mul] at hunits
      exact hunits rfl
    obtain ⟨h, hnearest⟩ := hfinite hexponent
    rw [hnearest, isZero_finite, decide_eq_false hsignificand]
  · rw [hinfinite hexponent]
    rfl

theorem scaleQuotient_den {exponent : Int} (he : -1074 ≤ exponent)
    (h : scaleQuotient 2 significand 1 exponent = (num, den)) :
    (2 : ℚ) ^ (-1074 : ℤ) ≤ 1 / den := by
  unfold scaleQuotient at h
  split at h
  · cases h
    rw [Nat.cast_one, div_one]
    exact zpow_le_one_of_nonpos₀ one_le_two (by decide)
  · obtain ⟨k, hk⟩ := Int.eq_ofNat_of_zero_le (a := -exponent) (by omega)
    rw [hk] at h
    cases h
    rw [Int.toNat_natCast, Nat.one_mul, Nat.pow_eq, Nat.cast_pow, Nat.cast_ofNat, one_div,
      ← zpow_natCast, ← zpow_neg]
    exact zpow_le_zpow_right₀ one_le_two (by omega)

theorem isWhole_iff {x : Binary64} (hq : x.toRat? = some q) :
    x.isWhole = true ↔ ∃ n : ℤ, q = n := by
  obtain ⟨negative, significand, exponent, canonical, rfl⟩ := finite_of_toRat? hq
  obtain ⟨num, den, hscale, hpos, hvalue⟩ := scaleQuotient_spec two_pos one_pos significand exponent
  have hwhole : (∃ n : ℤ, q = n) ↔ num % den = 0 := by
    cases hq
    rw [← whole_quotient hpos, hvalue, scaledRat_eq, Nat.cast_one, div_one]
    cases negative with
    | false => rfl
    | true =>
      rw [if_pos rfl, Int.cast_neg, neg_mul, whole_neg]
      rfl
  rw [hwhole, isWhole, remainder, hscale]
  dsimp only
  split
  · rename_i hrest
    exact iff_of_true rfl hrest
  · rename_i hrest
    have hlt := Nat.mod_lt num hpos
    have hpart : 0 < if negative then den - num % den else num % den := by
      split <;> omega
    generalize (if negative then den - num % den else num % den) = part at hpart ⊢
    have hle : (2 : ℚ) ^ (-1074 : ℤ) ≤ part / den :=
      (scaleQuotient_den canonical.2.1 hscale).trans (by gcongr; exact_mod_cast hpart)
    rw [isZero_nearest hpart hpos hle]
    exact iff_of_false Bool.false_ne_true hrest

end Binary64

-- ---------------------------------------------------------------------------
-- Powers of ten
-- ---------------------------------------------------------------------------

theorem tenPow_cast (k : Nat) : ((tenPow k : Nat) : ℚ) = 10 ^ (k : ℤ) := by simp [tenPow]

theorem tenPow_le_of_ne_zero (hn : n ≠ 0) : tenPow (decimalLength n - 1) ≤ n := by
  rcases Nat.eq_zero_or_pos (decimalLength n - 1) with h | h
  · rw [h]
    exact Nat.pos_of_ne_zero hn
  · have hlength : ¬decimalLength n ≤ decimalLength n - 1 := by omega
    exact Nat.not_lt.mp (mt (decimalLength_le_iff h).mpr hlength)

theorem twice_le_tenPowFor {n k : Nat} : 2 * n ≤ tenPowFor n k ↔ 2 * n ≤ tenPow k := by
  rcases Nat.le_total k (decimalLength n + 1) with h | h
  · rw [tenPowFor, Nat.min_eq_left h]
  · have hlt := lt_tenPow_decimalLength n
    have hten : 2 * n ≤ tenPow (decimalLength n + 1) := by
      have hsucc : tenPow (decimalLength n + 1) = tenPow (decimalLength n) * 10 :=
        Nat.pow_succ 10 _
      omega
    rw [tenPowFor, Nat.min_eq_right h]
    exact iff_of_true hten (hten.trans (Nat.pow_le_pow_right (by decide) h))

namespace Decimal

theorem leadingPower_bounds (hn : n ≠ 0) (exponent : Int) :
    (10 : ℚ) ^ leadingPower n exponent ≤ n * 10 ^ exponent ∧
      (n * 10 ^ exponent : ℚ) < 10 ^ (leadingPower n exponent + 1) := by
  have hlength : 0 < decimalLength n := Nat.length_toDigits_pos
  have hlow : (10 : ℚ) ^ ((decimalLength n : ℤ) - 1) ≤ n := by
    rw [← Nat.cast_pred hlength, ← tenPow_cast]
    exact_mod_cast tenPow_le_of_ne_zero hn
  have hhigh : (n : ℚ) < 10 ^ (decimalLength n : ℤ) := by
    rw [← tenPow_cast]
    exact_mod_cast lt_tenPow_decimalLength n
  have hten : (10 : ℚ) ≠ 0 := by norm_num
  constructor
  · calc (10 : ℚ) ^ leadingPower n exponent
        = 10 ^ ((decimalLength n : ℤ) - 1) * 10 ^ exponent := by
          rw [← zpow_add₀ hten, leadingPower]; congr 1; omega
      _ ≤ n * 10 ^ exponent := by gcongr
  · calc (n * 10 ^ exponent : ℚ) < 10 ^ (decimalLength n : ℤ) * 10 ^ exponent := by gcongr
      _ = 10 ^ (leadingPower n exponent + 1) := by
          rw [← zpow_add₀ hten, leadingPower]; congr 1; omega

theorem leadingPower_lt_iff (hn : n ≠ 0) (exponent power : Int) :
    leadingPower n exponent < power ↔ (n * 10 ^ exponent : ℚ) < 10 ^ power := by
  obtain ⟨hlow, hhigh⟩ := leadingPower_bounds hn exponent
  have hten : (1 : ℚ) < 10 := by norm_num
  constructor
  · intro h
    exact hhigh.trans_le (zpow_le_zpow_right₀ hten.le h)
  · intro h
    exact (zpow_lt_zpow_iff_right₀ hten).mp (hlow.trans_lt h)

-- ---------------------------------------------------------------------------
-- Decimals
-- ---------------------------------------------------------------------------

theorem fract_scaled (coefficient : Nat) (exponent : Int) :
    Int.fract (coefficient * 10 ^ exponent : ℚ) =
      (coefficient % tenPowFor coefficient (-exponent).toNat : Nat) * 10 ^ min exponent 0 := by
  rw [mod_tenPowFor]
  rcases le_total 0 exponent with h | h
  · obtain ⟨k, rfl⟩ := Int.eq_ofNat_of_zero_le h
    have hcast : (coefficient * 10 ^ (k : ℤ) : ℚ) = (coefficient * tenPow k : Nat) := by
      rw [Nat.cast_mul, tenPow_cast]
    have hunit : tenPow (-(k : ℤ)).toNat = 1 := by
      rw [Int.toNat_eq_zero.mpr (by omega)]
      rfl
    rw [hcast, Int.fract_natCast, hunit, Nat.mod_one, Nat.cast_zero, zero_mul]
  · obtain ⟨k, hk⟩ := Int.eq_ofNat_of_zero_le (a := -exponent) (by omega)
    obtain rfl : exponent = -(k : Int) := by omega
    have hdiv (n : Nat) : (n * 10 ^ (-(k : ℤ)) : ℚ) = n / (tenPow k : Nat) := by
      rw [tenPow_cast, zpow_neg, div_eq_mul_inv]
    rw [min_eq_left h, neg_neg, Int.toNat_natCast, hdiv, hdiv,
      Int.fract_div_natCast_eq_div_natCast_mod]

theorem abs_scaledDecimal (negative : Bool) (coefficient : Nat) (exponent : Int) :
    |scaledDecimal negative coefficient exponent| = coefficient * 10 ^ exponent := by
  have hnonneg : (0 : ℚ) ≤ coefficient * 10 ^ exponent := by positivity
  cases negative with
  | false => exact abs_of_nonneg hnonneg
  | true =>
    rw [scaledDecimal, if_pos rfl, neg_mul, abs_neg]
    exact abs_of_nonneg hnonneg

theorem abs_sub_integerPart (q : ℚ) : |q - integerPart q| = Int.fract |q| := by
  have hpos (q : ℚ) (h : 0 ≤ q) : |q - integerPart q| = Int.fract |q| := by
    rw [integerPart, if_pos h, Int.self_sub_floor, abs_of_nonneg (Int.fract_nonneg q),
      abs_of_nonneg h]
  rcases le_total 0 q with h | h
  · exact hpos q h
  · have hneg := hpos (-q) (by linarith)
    rwa [integerPart_neg, Int.cast_neg, ← neg_sub', abs_neg, abs_neg] at hneg

theorem not_le_half {x : ℚ} {low power : Int} (h : (10 : ℚ) ^ power ≤ x) (hle : low ≤ power) :
    ¬ x ≤ 10 ^ low / 2 := by
  have hpow : (10 : ℚ) ^ low ≤ 10 ^ power := zpow_le_zpow_right₀ (by norm_num) hle
  have hpos : (0 : ℚ) < 10 ^ low := by positivity
  linarith

theorem roundHalfEven_unit {rest : Nat} {exponent last : Int} (h : exponent ≤ last) :
    roundHalfEven rest (tenPowFor rest (last - exponent).toNat) = 0 ↔
      (rest * 10 ^ exponent : ℚ) ≤ 10 ^ last / 2 := by
  obtain ⟨k, hk⟩ := Int.eq_ofNat_of_zero_le (a := last - exponent) (by omega)
  obtain rfl : last = exponent + k := by omega
  have hunit : 0 < tenPowFor rest k := Nat.pow_pos (by decide)
  rw [hk, Int.toNat_natCast, roundHalfEven_eq_zero hunit, twice_le_tenPowFor,
    zpow_add₀ (by norm_num), ← Nat.cast_le (α := ℚ), Nat.cast_mul, tenPow_cast]
  have hpos : (0 : ℚ) < 10 ^ exponent := by positivity
  rw [le_div_iff₀ two_pos, mul_comm _ (2 : ℚ), ← mul_assoc, mul_comm (10 ^ exponent : ℚ),
    mul_le_mul_iff_left₀ hpos]
  rfl

theorem round_zero_iff {ctx : DecimalContext} {coefficient : Nat} {exponent last : Int}
    (negative : Bool) (hfolds : ctx.folds = false) (hc : coefficient ≠ 0)
    (hlast : max (exponent + decimalLength coefficient - ctx.precision) ctx.lowest = last)
    (hfits : last < ctx.highest) :
    ∃ digits power, (ctx.round negative coefficient exponent).value =
        some (finite negative digits power) ∧
      (digits = 0 ↔ exponent < last ∧
        roundHalfEven coefficient (tenPowFor coefficient (last - exponent).toNat) = 0) := by
  have hten (k : Nat) : tenPow k ≠ 0 := (Nat.pow_pos (by decide)).ne'
  have hbelow : ¬ ctx.highest < exponent + decimalLength coefficient - ctx.precision := by omega
  unfold DecimalContext.round
  rw [if_neg hc]
  dsimp only
  rw [if_neg hbelow, hlast]
  split
  · rename_i hlow
    split
    · rename_i hcarry
      rw [if_neg (by dsimp only; omega)]
      refine ⟨_, _, rfl, iff_of_false (hten _) fun h => hten ctx.precision ?_⟩
      rw [← hcarry, h.2]
    · rw [if_neg (by dsimp only; omega)]
      exact ⟨_, _, rfl, (and_iff_right hlow).symm⟩
  · rename_i hlow
    rw [hfolds]
    exact ⟨_, _, rfl, iff_of_false hc fun h => hlow h.1⟩

/-- What is less than 1 is rounded to zero if it is at most half of the least positive number. -/
theorem finish_isZero {rest : Nat} {exponent : Int} (negative : Bool)
    (hrest : (rest * 10 ^ exponent : ℚ) < 1) :
    (DecimalContext.arithmetic.finish negative rest exponent).toOption.any isZero = true ↔
      (rest * 10 ^ exponent : ℚ) ≤ 10 ^ (-1000026 : ℤ) / 2 := by
  by_cases hzero : rest = 0
  · subst hzero
    exact iff_of_true rfl (by rw [Nat.cast_zero, zero_mul]; positivity)
  obtain ⟨hlow, -⟩ := leadingPower_bounds hzero exponent
  have hleading : leadingPower rest exponent < 0 :=
    (leadingPower_lt_iff hzero exponent 0).mpr (by rwa [zpow_zero])
  have hlength : 0 < decimalLength rest := Nat.length_toDigits_pos
  generalize hlast : max (exponent + decimalLength rest - 28) (-1000026) = last
  have hfits : last < DecimalContext.arithmetic.highest := by
    change last < 999972
    rw [leadingPower] at hleading
    omega
  obtain ⟨digits, power, hround, hdigits⟩ := round_zero_iff negative rfl hzero hlast hfits
  rw [DecimalContext.finish, hround]
  change (finite negative digits power).isZero = true ↔ _
  have hisZero : (finite negative digits power).isZero = true ↔ digits = 0 := by
    cases digits <;> simp [isZero]
  rw [hisZero, hdigits]
  rw [leadingPower] at hlow
  -- Only at the least exponent can a unit be more than the leading digit.
  rcases lt_or_ge exponent last with h | h
  · rw [and_iff_right h, roundHalfEven_unit h.le]
    rcases le_total (exponent + decimalLength rest - 28) (-1000026) with hle | hle
    · rw [← hlast, max_eq_right hle]
    · rw [max_eq_left hle] at hlast
      exact iff_of_false (not_le_half hlow (by omega)) (not_le_half hlow (by omega))
  · refine iff_of_false (fun hlt => absurd hlt.1 (by omega)) (not_le_half hlow (by omega))

/-- Nothing is left of a decimal exactly if its integer part fits the precision, and the rest
is rounded to zero. -/
theorem isWhole_iff (negative : Bool) (coefficient : Nat) (exponent : Int) :
    (finite negative coefficient exponent).isWhole = true ↔
      |scaledDecimal negative coefficient exponent| < 10 ^ 28 ∧
        |scaledDecimal negative coefficient exponent -
          integerPart (scaledDecimal negative coefficient exponent)| ≤
            10 ^ (-1000026 : ℤ) / 2 := by
  have hfits : |scaledDecimal negative coefficient exponent| < 10 ^ 28 ↔ ¬ (coefficient ≠ 0 ∧
      (DecimalContext.arithmetic.precision : Int) ≤ leadingPower coefficient exponent) := by
    rw [abs_scaledDecimal]
    by_cases hc : coefficient = 0
    · simp [hc]
    · rw [not_and, imp_iff_right hc, not_le]
      exact (leadingPower_lt_iff hc exponent 28).symm
  have hrest := Int.fract_lt_one (coefficient * 10 ^ exponent : ℚ)
  rw [hfits, abs_sub_integerPart, abs_scaledDecimal, fract_scaled, isWhole, remainder]
  rw [fract_scaled] at hrest
  split
  · rename_i hlarge
    exact iff_of_false Bool.false_ne_true fun h => h.1 hlarge
  · rename_i hsmall
    rw [and_iff_right hsmall]
    exact finish_isZero negative hrest

theorem isWhole_iff_of_fits {coefficient : Nat} {exponent : Int} (he : -1000026 ≤ exponent)
    (hq : |scaledDecimal negative coefficient exponent| < 10 ^ 28) :
    (finite negative coefficient exponent).isWhole = true ↔
      ∃ n : ℤ, scaledDecimal negative coefficient exponent = n := by
  have hwhole : (∃ n : ℤ, scaledDecimal negative coefficient exponent = n) ↔
      Int.fract |scaledDecimal negative coefficient exponent| = 0 := by
    rw [fract_eq_zero_iff]
    rcases abs_choice (scaledDecimal negative coefficient exponent) with h | h
    · rw [h]
    · rw [h, whole_neg]
  rw [isWhole_iff, and_iff_right hq, hwhole, abs_sub_integerPart, abs_scaledDecimal, fract_scaled]
  generalize coefficient % tenPowFor coefficient (-exponent).toNat = rest
  by_cases hrest : rest = 0
  · rw [hrest, Nat.cast_zero, zero_mul]
    exact iff_of_true (by positivity) rfl
  · have hpos : (0 : ℚ) < 10 ^ min exponent 0 := by positivity
    have hone : (1 : ℚ) ≤ rest := by exact_mod_cast Nat.pos_of_ne_zero hrest
    have hle : (10 : ℚ) ^ min exponent 0 ≤ rest * 10 ^ min exponent 0 :=
      le_mul_of_one_le_left hpos.le hone
    exact iff_of_false (not_le_half hle (by omega)) (hpos.trans_le hle).ne'

end Decimal

end DocQuery
