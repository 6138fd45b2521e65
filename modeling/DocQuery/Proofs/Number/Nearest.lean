import DocQuery.Number.Binary64
import Mathlib.Algebra.Order.Field.Power
import Mathlib.Algebra.Order.Field.Rat
import Mathlib.Algebra.Ring.Parity
import Mathlib.Data.Rat.Lemmas
import Mathlib.Tactic.FieldSimp
import Mathlib.Tactic.GCongr
import Mathlib.Tactic.Linarith
import Mathlib.Tactic.NormNum
import Mathlib.Tactic.Positivity
import Mathlib.Tactic.Ring

/-!
# The nearest double

`unitExponent_spec` says what a unit in the last place of a quotient is, and
`nearest_value` that the double nearest to the quotient is a number of units: the
quotient in units, rounded to an integer.
-/

namespace DocQuery

-- ---------------------------------------------------------------------------
-- Rounding
-- ---------------------------------------------------------------------------

theorem roundHalfEven_eq {n num den : Nat} (hlow : 2 * (n * den) < 2 * num + den)
    (hhigh : 2 * num < 2 * (n * den) + den) : roundHalfEven num den = n := by
  have hsplit := Nat.div_add_mod' num den
  have hstep (a b : Nat) (h : a < b) : a * den + den ≤ b * den := by
    rw [← Nat.succ_mul]
    exact Nat.mul_le_mul_right den h
  generalize hq : num / den = whole at *
  rcases lt_trichotomy n whole with hlt | rfl | hlt
  · have := hstep n whole hlt
    omega
  · rcases roundHalfEven_cases num den with ⟨h, hle⟩ | ⟨h, hle⟩ <;> omega
  · have hnext := hstep whole n hlt
    rcases Nat.lt_or_ge (whole + 1) n with hfar | hnear
    · have := hstep (whole + 1) n hfar
      rw [Nat.succ_mul] at this
      have := Nat.mod_lt num (show 0 < den by omega)
      omega
    · have hn : n = whole + 1 := by omega
      have hmul : n * den = whole * den + den := by rw [hn, Nat.succ_mul]
      rcases roundHalfEven_cases num den with ⟨h, hle⟩ | ⟨h, hle⟩ <;> omega

/-- A rest is rounded up if it is more than a half, or a half after an odd integer. -/
theorem lt_roundHalfEven {n rest den : Nat} (hd : 0 < den) :
    n < roundHalfEven (n * den + rest) den ↔ den < 2 * rest ∨ den = 2 * rest ∧ Odd n := by
  rcases Nat.lt_or_ge rest den with hlt | hge
  · have hdiv : (n * den + rest) / den = n := by
      rw [Nat.add_comm, Nat.add_mul_div_right _ _ hd, Nat.div_eq_of_lt hlt, Nat.zero_add]
    have hmod : (n * den + rest) % den = rest := by
      rw [Nat.add_comm, Nat.add_mul_mod_self_right, Nat.mod_eq_of_lt hlt]
    rw [roundHalfEven, hdiv, hmod, Nat.odd_iff]
    split
    · omega
    split
    · omega
    split <;> omega
  · have hdiv : n + 1 ≤ (n * den + rest) / den := by
      rw [Nat.le_div_iff_mul_le hd, Nat.succ_mul]
      omega
    rcases roundHalfEven_cases (n * den + rest) den with ⟨h, -⟩ | ⟨h, -⟩ <;> omega

-- ---------------------------------------------------------------------------
-- Scaling
-- ---------------------------------------------------------------------------

theorem scaleQuotient_spec {base den : Nat} (hb : 0 < base) (hd : 0 < den) (num : Nat)
    (exponent : Int) :
    ∃ n d, scaleQuotient base num den exponent = (n, d) ∧ 0 < d ∧
      (n / d : ℚ) = num / den * (base : ℚ) ^ exponent := by
  unfold scaleQuotient
  split
  · rename_i h
    obtain ⟨k, rfl⟩ := Int.eq_ofNat_of_zero_le h
    refine ⟨_, _, rfl, hd, ?_⟩
    simp only [Int.toNat_natCast, Nat.pow_eq, Nat.cast_mul, Nat.cast_pow, zpow_natCast]
    ring
  · rename_i h
    obtain ⟨k, hk⟩ := Int.eq_ofNat_of_zero_le (a := -exponent) (by omega)
    obtain rfl : exponent = -(k : Int) := by omega
    refine ⟨_, _, rfl, Nat.mul_pos hd (Nat.pow_pos hb), ?_⟩
    simp only [neg_neg, Int.toNat_natCast, Nat.pow_eq, Nat.cast_mul, Nat.cast_pow, zpow_neg,
      zpow_natCast]
    rw [div_mul_eq_div_div, div_eq_mul_inv]

theorem scaledRat_eq (base : Nat) (significand exponent : Int) :
    scaledRat base significand exponent = significand * (base : ℚ) ^ exponent := by
  unfold scaledRat
  split
  · rename_i h
    obtain ⟨k, rfl⟩ := Int.eq_ofNat_of_zero_le h
    simp [Rat.mkRat_eq_div]
  · rename_i h
    obtain ⟨k, hk⟩ := Int.eq_ofNat_of_zero_le (a := -exponent) (by omega)
    obtain rfl : exponent = -(k : Int) := by omega
    simp [Rat.mkRat_eq_div, div_eq_mul_inv]

-- ---------------------------------------------------------------------------
-- Units
-- ---------------------------------------------------------------------------

theorem log2_bounds {num den : Nat} (hn : 0 < num) (hd : 0 < den) :
    (2 : ℚ) ^ ((num.log2 : Int) - den.log2 - 1) ≤ num / den ∧
      (num / den : ℚ) < 2 ^ ((num.log2 : Int) - den.log2 + 1) := by
  have hden : (0 : ℚ) < den := Nat.cast_pos.mpr hd
  have hbounds {n : Nat} (hn : 0 < n) :
      (2 : ℚ) ^ (n.log2 : Int) ≤ n ∧ (n : ℚ) < 2 ^ ((n.log2 : Int) + 1) := by
    rw [← Nat.cast_succ, zpow_natCast, zpow_natCast]
    exact ⟨by exact_mod_cast Nat.log2_self_le hn.ne', by exact_mod_cast Nat.lt_log2_self⟩
  obtain ⟨hnum, hnum'⟩ := hbounds hn
  obtain ⟨hden', hden''⟩ := hbounds hd
  generalize (num.log2 : Int) = a at *
  generalize (den.log2 : Int) = b at *
  rw [le_div_iff₀ hden, div_lt_iff₀ hden]
  constructor
  · calc (2 : ℚ) ^ (a - b - 1) * den ≤ 2 ^ (a - b - 1) * 2 ^ (b + 1) := by gcongr
      _ = 2 ^ a := by rw [← zpow_add₀ two_ne_zero]; congr 1; omega
      _ ≤ num := hnum
  · calc (num : ℚ) < 2 ^ (a + 1) := hnum'
      _ = 2 ^ (a - b + 1) * 2 ^ b := by rw [← zpow_add₀ two_ne_zero]; congr 1; omega
      _ ≤ 2 ^ (a - b + 1) * den := by gcongr

namespace Binary64

/-- A quotient has fewer than `2 ^ 53` units, and at least `2 ^ 52` of them unless the unit is
the least one. -/
theorem unitExponent_spec {num den : Nat} (hn : 0 < num) (hd : 0 < den) :
    (unitExponent num den = -1074 ∨ (2 : ℚ) ^ (unitExponent num den + 52) ≤ num / den) ∧
      (num / den : ℚ) < 2 ^ (unitExponent num den + 53) := by
  obtain ⟨hlow, hhigh⟩ := log2_bounds hn hd
  unfold unitExponent
  dsimp only
  generalize (num.log2 : Int) - den.log2 = guess at *
  obtain ⟨n, d, hscale, hpos, hcompare⟩ := scaleQuotient_spec two_pos hd num (-guess)
  rw [hscale]
  have hguess : d ≤ n ↔ (2 : ℚ) ^ guess ≤ num / den := by
    have hd : (0 : ℚ) < d := Nat.cast_pos.mpr hpos
    have hunit : (0 : ℚ) < 2 ^ guess := by positivity
    rw [← Nat.cast_le (α := ℚ), ← one_le_div hd, hcompare, Nat.cast_ofNat, zpow_neg,
      ← div_eq_mul_inv, one_le_div hunit]
  have hleading : (2 : ℚ) ^ (if d ≤ n then guess else guess - 1) ≤ num / den ∧
      (num / den : ℚ) < 2 ^ ((if d ≤ n then guess else guess - 1) + 1) := by
    split
    · exact ⟨hguess.mp ‹_›, hhigh⟩
    · rw [sub_add_cancel]
      exact ⟨hlow, lt_of_not_ge (mt hguess.mpr ‹_›)⟩
  dsimp only
  generalize (if d ≤ n then guess else guess - 1) = leading at *
  constructor
  · rcases le_total (leading - 52) (-1074) with h | h
    · exact .inl (max_eq_right h)
    · right
      rw [max_eq_left h, sub_add_cancel]
      exact hleading.1
  · refine hleading.2.trans_le (zpow_le_zpow_right₀ one_le_two ?_)
    omega

theorem le_unitExponent (num den : Nat) : -1074 ≤ unitExponent num den := le_max_right ..

theorem rounded_bounds {num den : Nat} (hn : 0 < num) (hd : 0 < den)
    (hscale : scaleQuotient 2 num den (-unitExponent num den) = (n, d)) :
    roundHalfEven n d ≤ twoPow 53 ∧
      (twoPow 52 ≤ roundHalfEven n d ∨ unitExponent num den = -1074) := by
  obtain ⟨hlow, hhigh⟩ := unitExponent_spec hn hd
  obtain ⟨n', d', hscale', hpos, hvalue⟩ := scaleQuotient_spec two_pos hd num (-unitExponent num den)
  cases hscale.symm.trans hscale'
  have hden : (0 : ℚ) < d := Nat.cast_pos.mpr hpos
  have hunit : (0 : ℚ) < 2 ^ unitExponent num den := by positivity
  rw [Nat.cast_ofNat, zpow_neg, ← div_eq_mul_inv] at hvalue
  constructor
  · have hlt : (n / d : ℚ) < 2 ^ 53 := by
      rw [hvalue, div_lt_iff₀ hunit, ← zpow_natCast, ← zpow_add₀ two_ne_zero, add_comm]
      exact hhigh
    rw [div_lt_iff₀ hden] at hlt
    exact roundHalfEven_le hpos (by exact_mod_cast hlt.le)
  · rcases hlow with hleast | hlow
    · exact .inr hleast
    · left
      have hle : (2 : ℚ) ^ 52 ≤ n / d := by
        rw [hvalue, le_div_iff₀ hunit, ← zpow_natCast, ← zpow_add₀ two_ne_zero, add_comm]
        exact hlow
      rw [le_div_iff₀ hden] at hle
      have hwhole : twoPow 52 ≤ n / d :=
        (Nat.le_div_iff_mul_le hpos).mpr (by exact_mod_cast hle)
      rcases roundHalfEven_cases n d with ⟨h, -⟩ | ⟨h, -⟩ <;> omega

/-- The nearest double is infinite only if its exponent is too large. -/
theorem nearest_eq {num den : Nat} (hn : 0 < num) (hd : 0 < den)
    (hscale : scaleQuotient 2 num den (-unitExponent num den) = (n, d)) (negative : Bool) :
    ∃ (significand : Nat) (exponent : Int),
      (significand : ℚ) * 2 ^ exponent = roundHalfEven n d * 2 ^ unitExponent num den ∧
      (exponent = unitExponent num den ∨ exponent = unitExponent num den + 1) ∧
      (exponent ≤ 971 → ∃ h, nearest negative num den = finite negative significand exponent h) ∧
      (971 < exponent → nearest negative num den = infinity negative) := by
  obtain ⟨hmost, hfirst⟩ := rounded_bounds hn hd hscale
  have hleast := le_unitExponent num den
  unfold nearest
  simp only [hn.ne', if_false, hscale]
  by_cases hcarry : roundHalfEven n d = twoPow 53
  · refine ⟨twoPow 52, unitExponent num den + 1, ?_, .inr rfl, fun hexponent => ?_,
      fun hexponent => ?_⟩
    · rw [hcarry, zpow_add_one₀ two_ne_zero]
      norm_num [twoPow]
      ring
    · have h : IsCanonical (twoPow 52) (unitExponent num den + 1) :=
        ⟨by decide, by omega, hexponent, .inl le_rfl⟩
      exact ⟨h, by simp only [hcarry, if_true, dif_pos h]⟩
    · have h : ¬ IsCanonical (twoPow 52) (unitExponent num den + 1) :=
        fun h => absurd h.2.2.1 (by omega)
      simp only [hcarry, if_true, dif_neg h]
  · refine ⟨roundHalfEven n d, unitExponent num den, rfl, .inl rfl, fun hexponent => ?_,
      fun hexponent => ?_⟩
    · have h : IsCanonical (roundHalfEven n d) (unitExponent num den) :=
        ⟨by omega, hleast, hexponent, hfirst⟩
      exact ⟨h, by simp only [hcarry, if_false, dif_pos h]⟩
    · have h : ¬ IsCanonical (roundHalfEven n d) (unitExponent num den) :=
        fun h => absurd h.2.2.1 (by omega)
      simp only [hcarry, if_false, dif_neg h]

theorem nearest_value {num den : Nat} (hn : 0 < num) (hd : 0 < den)
    (hu : unitExponent num den ≤ 970)
    (hscale : scaleQuotient 2 num den (-unitExponent num den) = (n, d)) (negative : Bool) :
    ∃ significand exponent h,
      nearest negative num den = finite negative significand exponent h ∧
      (significand : ℚ) * 2 ^ exponent = roundHalfEven n d * 2 ^ unitExponent num den := by
  obtain ⟨significand, exponent, hvalue, hexponent, hfinite, -⟩ := nearest_eq hn hd hscale negative
  obtain ⟨h, hnearest⟩ := hfinite (by omega)
  exact ⟨significand, exponent, h, hnearest, hvalue⟩

end Binary64

end DocQuery
