import DocQuery.Proofs.Number.Nearest

/-!
# Ceilings of quotients

A quotient that is rounded to a double before its ceiling is taken may be rounded down to an
integer. With documents on pages, the last page is lost when it holds so few of them that it
is no more than half a unit in the last place of the quotient. `ceil_quotient_iff` says so
exactly, and `ceil_quotient` that it does not happen to dividends of up to 53 bits.
-/

namespace DocQuery

-- ---------------------------------------------------------------------------
-- The last part of a quotient
-- ---------------------------------------------------------------------------

/-- The last of the parts of `n` that `m` is cut into is seen in the quotient rounded to 53
bits. `last` is its size, and `before` the number of the parts before it. -/
def LastSeen (m n : ℕ) : Prop :=
  let bits := (m / n).log2
  let before := (m - 1) / n
  let last := m - before * n
  if bits ≤ 52 then
    before = 0 ∨ n < 2 * (last * 2 ^ (52 - bits)) ∨
      n = 2 * (last * 2 ^ (52 - bits)) ∧ Odd (before * 2 ^ (52 - bits))
  else 2 ^ (bits - 52) ∣ before + 1

instance : Decidable (LastSeen m n) := by
  unfold LastSeen
  infer_instance

theorem last_part {m n : ℕ} (hm : 0 < m) (hn : 0 < n) :
    ∃ last, m = (m - 1) / n * n + last ∧ m - (m - 1) / n * n = last ∧ 0 < last ∧ last ≤ n := by
  have hsplit := Nat.div_add_mod' (m - 1) n
  have hlt := Nat.mod_lt (m - 1) hn
  exact ⟨(m - 1) % n + 1, by omega, by omega, by omega, by omega⟩

theorem ceil_div {m n : ℕ} (hm : 0 < m) (hn : 0 < n) :
    (m / n : ℚ).ceil = ((m - 1) / n : ℕ) + 1 := by
  have hden : (0 : ℚ) < n := Nat.cast_pos.mpr hn
  obtain ⟨last, hsplit, -, hpos, hle⟩ := last_part hm hn
  generalize (m - 1) / n = before at *
  apply le_antisymm
  · rw [Rat.ceil_le_iff, div_le_iff₀ hden, hsplit]
    push_cast
    rw [add_one_mul]
    gcongr
  · rw [Int.add_one_le_iff, Rat.lt_ceil_iff, lt_div_iff₀ hden, hsplit]
    push_cast
    simpa using hpos

theorem before_le {m n : ℕ} : (m - 1) / n ≤ m / n := Nat.div_le_div_right (Nat.sub_le ..)

namespace Binary64

theorem ceil_finite (h : IsCanonical significand exponent) :
    (finite false significand exponent h).ceil = .ok ((significand : ℚ) * 2 ^ exponent).ceil := by
  simp [ceil, toRat?, scaledRat_eq]

theorem quotient_of_nearest {m n : ℕ}
    (h : nearest false m n = finite negative significand exponent canonical) :
    quotient m n = .ok (finite negative significand exponent canonical) := by
  have hm : ¬ (m : ℤ) < 0 := by omega
  have hn : ¬ (n : ℤ) < 0 := by omega
  simp only [quotient, hm, hn, decide_false, bne_self_eq_false, Int.natAbs_natCast, h]

/-- A quotient that is at least one has a unit 52 places below its leading one. -/
theorem unitExponent_whole {m n : ℕ} (hm : 0 < m) (hn : 0 < n) (hw : 0 < m / n) :
    unitExponent m n = (m / n).log2 - 52 := by
  have hden : (0 : ℚ) < n := Nat.cast_pos.mpr hn
  obtain ⟨hlow, hhigh⟩ := unitExponent_spec hm hn
  have hfloor : (2 : ℚ) ^ ((m / n).log2 : ℤ) ≤ m / n := by
    rw [zpow_natCast, le_div_iff₀ hden]
    have hle := Nat.mul_le_mul_right n (Nat.log2_self_le hw.ne')
    exact_mod_cast hle.trans (Nat.div_mul_le_self m n)
  have hceil : (m / n : ℚ) < 2 ^ (((m / n).log2 : ℤ) + 1) := by
    rw [← Nat.cast_succ, zpow_natCast, div_lt_iff₀ hden]
    exact_mod_cast Nat.lt_mul_of_div_lt (Nat.lt_log2_self (n := m / n)) hn
  have hle := (zpow_lt_zpow_iff_right₀ one_lt_two).mp (hfloor.trans_lt hhigh)
  rcases hlow with hleast | hlow
  · omega
  · have hge := (zpow_lt_zpow_iff_right₀ one_lt_two).mp (hlow.trans_lt hceil)
    omega

theorem ceil_parts {count before t : ℕ} (hle : count ≤ (before + 1) * 2 ^ t) :
    ((count : ℚ) * 2 ^ (-(t : ℤ))).ceil = before + 1 ↔ before * 2 ^ t < count := by
  have hpow : (0 : ℚ) < 2 ^ t := by positivity
  have hupper : ((count : ℚ) * 2 ^ (-(t : ℤ))).ceil ≤ before + 1 := by
    rw [Rat.ceil_le_iff, zpow_neg, zpow_natCast, ← div_eq_mul_inv, div_le_iff₀ hpow]
    exact_mod_cast hle
  rw [← hupper.ge_iff_eq, Int.add_one_le_iff, Rat.lt_ceil_iff, zpow_neg, zpow_natCast,
    ← div_eq_mul_inv, lt_div_iff₀ hpow]
  exact_mod_cast Iff.rfl

theorem ceil_wholes {count before t : ℕ} :
    ((count : ℚ) * 2 ^ (t : ℤ)).ceil = before + 1 ↔ count * 2 ^ t = before + 1 := by
  have hcast : (count : ℚ) * 2 ^ (t : ℤ) = ((count * 2 ^ t : ℕ) : ℤ) := by
    push_cast
    rw [zpow_natCast]
  rw [hcast, Rat.ceil_intCast]
  exact_mod_cast Iff.rfl

/-- In parts of one, the last part is rounded up if it is more than a half. -/
theorem ceil_fine_iff {m n before last t : ℕ} (hn : 0 < n) (hsplit : m = before * n + last)
    (hle : last ≤ n) :
    ((roundHalfEven (m * 2 ^ t) n : ℚ) * 2 ^ (-(t : ℤ))).ceil = before + 1 ↔
      n < 2 * (last * 2 ^ t) ∨ n = 2 * (last * 2 ^ t) ∧ Odd (before * 2 ^ t) := by
  have hscaled : m * 2 ^ t = before * 2 ^ t * n + last * 2 ^ t := by
    rw [hsplit]
    ring
  have hupper : m * 2 ^ t ≤ (before + 1) * 2 ^ t * n := by
    have := Nat.mul_le_mul_right (2 ^ t) hle
    rw [hscaled]
    linarith
  rw [ceil_parts (roundHalfEven_le hn hupper), hscaled, lt_roundHalfEven hn]

/-- In units of several, a quotient is rounded to its ceiling if that is a number of units. -/
theorem ceil_coarse_iff {m n before last t : ℕ} (ht : 0 < t) (hsplit : m = before * n + last)
    (hpos : 0 < last) (hle : last ≤ n) :
    ((roundHalfEven m (n * 2 ^ t) : ℚ) * 2 ^ (t : ℤ)).ceil = before + 1 ↔
      2 ^ t ∣ before + 1 := by
  rw [ceil_wholes]
  constructor
  · exact Dvd.intro_left _
  · rintro ⟨count, hcount⟩
    have hunits : count * (n * 2 ^ t) = before * n + n := by
      rw [← Nat.succ_mul, Nat.succ_eq_add_one, hcount]
      ring
    have htwo : n * 2 ≤ n * 2 ^ t := Nat.mul_le_mul_left n (Nat.le_self_pow ht.ne' 2)
    rw [roundHalfEven_eq (n := count) (by omega) (by omega), hcount, Nat.mul_comm]

theorem lastSeen_fine {m n last t : ℕ} (hm : 0 < m) (hn : 0 < n)
    (hunit : unitExponent m n = -t) (hlow : n * 2 ^ 52 ≤ m * 2 ^ t)
    (hlast : m - (m - 1) / n * n = last) :
    LastSeen m n ↔ n < 2 * (last * 2 ^ t) ∨ n = 2 * (last * 2 ^ t) ∧ Odd ((m - 1) / n * 2 ^ t) := by
  unfold LastSeen
  dsimp only
  rw [hlast]
  rcases Nat.eq_zero_or_pos ((m - 1) / n) with hbefore | hbefore
  · have hone : m / n ≤ 1 := by
      have := (Nat.div_eq_zero_iff_lt hn).mp hbefore
      exact Nat.div_le_of_le_mul (by omega)
    have hbits : (m / n).log2 ≤ 52 := by
      rcases Nat.le_one_iff_eq_zero_or_eq_one.mp hone with h | h <;> rw [h] <;> decide
    obtain rfl : m = last := by rwa [hbefore, Nat.zero_mul, Nat.sub_zero] at hlast
    rw [if_pos hbits]
    exact iff_of_true (.inl hbefore) (.inl (by omega))
  · have hbits := unitExponent_whole hm hn (hbefore.trans_le before_le)
    have ht : t = 52 - (m / n).log2 := by omega
    rw [if_pos (by omega), ← ht]
    exact or_iff_right hbefore.ne'

theorem lastSeen_coarse {m n t : ℕ} (hm : 0 < m) (hn : 0 < n) (hunit : unitExponent m n = t)
    (ht : 0 < t) (hw : 0 < m / n) : LastSeen m n ↔ 2 ^ t ∣ (m - 1) / n + 1 := by
  have hbits := unitExponent_whole hm hn hw
  have hcount : t = (m / n).log2 - 52 := by omega
  unfold LastSeen
  dsimp only
  rw [if_neg (by omega), ← hcount]

theorem unitExponent_bounds {m n : ℕ} (hpos : 0 < m) (hm : m < 2 ^ 63) (hn : 0 < n)
    (hn' : n < 2 ^ 63) :
    (2 : ℚ) ^ (unitExponent m n + 52) ≤ m / n ∧ unitExponent m n < 11 := by
  have hden : (0 : ℚ) < n := Nat.cast_pos.mpr hn
  obtain ⟨hlow, hhigh⟩ := unitExponent_spec hpos hn
  have hsmall : (2 : ℚ) ^ (-63 : ℤ) ≤ m / n := by
    have hm : (1 : ℚ) ≤ m := by exact_mod_cast hpos
    have hn' : (n : ℚ) ≤ 2 ^ 63 := by exact_mod_cast hn'.le
    rw [zpow_neg, le_div_iff₀ hden, inv_mul_le_iff₀ (by positivity)]
    exact hn'.trans (le_mul_of_one_le_right (by positivity) hm)
  have hlarge : (m / n : ℚ) < 2 ^ (63 : ℤ) := by
    have hm : (m : ℚ) < 2 ^ 63 := by exact_mod_cast hm
    have hn : (1 : ℚ) ≤ n := by exact_mod_cast hn
    exact (div_le_self (by positivity) hn).trans_lt hm
  have hleast := (zpow_lt_zpow_iff_right₀ one_lt_two).mp (hsmall.trans_lt hhigh)
  have hlow := hlow.resolve_left (by omega)
  have hmost := (zpow_lt_zpow_iff_right₀ one_lt_two).mp (hlow.trans_lt hlarge)
  exact ⟨hlow, by omega⟩

/-- The ceiling of a quotient is kept by rounding to a double if and only if the last part is
seen, for dividends and divisors of up to 63 bits. -/
theorem ceil_quotient_iff {m n : ℕ} (hm : m < 2 ^ 63) (hn : 0 < n) (hn' : n < 2 ^ 63) :
    ∃ c, (quotient m n >>= ceil) = .ok c ∧ (c = (m / n : ℚ).ceil ↔ LastSeen m n) := by
  rcases Nat.eq_zero_or_pos m with rfl | hpos
  · have hnearest : nearest false 0 n = finite false 0 (-1074) := by
      rw [nearest, if_pos rfl]
    rw [quotient_of_nearest hnearest]
    refine ⟨_, ceil_finite .., iff_of_true ?_ ?_⟩
    · rw [Nat.cast_zero, zero_mul, zero_div]
    · simp [LastSeen]
  obtain ⟨last, hsplit, hlast, hlpos, hle⟩ := last_part hpos hn
  obtain ⟨hlow, hmost⟩ := unitExponent_bounds hpos hm hn hn'
  have hden : (0 : ℚ) < n := Nat.cast_pos.mpr hn
  rcases le_or_gt (unitExponent m n) 0 with hneg | hgt
  · -- The unit is a part of one: the quotient is rounded between two integers.
    obtain ⟨t, ht⟩ := Int.eq_ofNat_of_zero_le (a := -unitExponent m n) (by omega)
    have hunit : unitExponent m n = -t := by omega
    have hscale : scaleQuotient 2 m n (-unitExponent m n) = (m * 2 ^ t, n) := by
      rw [ht]
      rfl
    have hparts : n * 2 ^ 52 ≤ m * 2 ^ t := by
      rw [hunit, add_comm, zpow_add₀ two_ne_zero, zpow_neg, ← div_eq_mul_inv,
        div_le_div_iff₀ (by positivity) hden, mul_comm] at hlow
      exact_mod_cast hlow
    obtain ⟨significand, exponent, h, hnearest, hvalue⟩ :=
      nearest_value hpos hn (by omega) hscale false
    rw [quotient_of_nearest hnearest]
    refine ⟨_, ceil_finite .., ?_⟩
    rw [hvalue, hunit, ceil_div hpos hn, ceil_fine_iff hn hsplit hle,
      lastSeen_fine hpos hn hunit hparts hlast]
  · -- The unit is more than one: not every integer is a double.
    obtain ⟨t, hunit⟩ := Int.eq_ofNat_of_zero_le (a := unitExponent m n) (by omega)
    have ht : 0 < t := by omega
    have hscale : scaleQuotient 2 m n (-unitExponent m n) = (m, n * 2 ^ t) := by
      rw [scaleQuotient, if_neg (by omega), neg_neg, hunit]
      rfl
    have hwhole : 0 < m / n := by
      have hone : (1 : ℚ) ≤ m / n := (one_le_zpow₀ one_le_two (by omega)).trans hlow
      rw [one_le_div hden] at hone
      exact Nat.div_pos (by exact_mod_cast hone) hn
    obtain ⟨significand, exponent, h, hnearest, hvalue⟩ :=
      nearest_value hpos hn (by omega) hscale false
    rw [quotient_of_nearest hnearest]
    refine ⟨_, ceil_finite .., ?_⟩
    rw [hvalue, hunit, ceil_div hpos hn, ceil_coarse_iff ht hsplit hlpos hle,
      lastSeen_coarse hpos hn hunit ht hwhole]

theorem lastSeen_of_le {m n : ℕ} (hm : m ≤ 2 ^ 53) (hn : 0 < n) : LastSeen m n := by
  rcases Nat.eq_zero_or_pos m with rfl | hpos
  · simp [LastSeen]
  obtain ⟨last, hsplit, hlast, hlpos, -⟩ := last_part hpos hn
  have hfloor (hw : m / n ≠ 0) : 2 ^ (m / n).log2 * n ≤ m :=
    (Nat.mul_le_mul_right n (Nat.log2_self_le hw)).trans (Nat.div_mul_le_self m n)
  unfold LastSeen
  dsimp only
  rw [hlast]
  split
  · rename_i hbits
    refine or_iff_not_imp_left.mpr fun hbefore => .inl (Nat.lt_of_not_le fun hle => ?_)
    have hfloor := hfloor (Nat.ne_of_gt ((Nat.pos_of_ne_zero hbefore).trans_le before_le))
    have hpow : 2 ^ (m / n).log2 * 2 ^ (52 - (m / n).log2) = 2 ^ 52 := by
      rw [← pow_add, Nat.add_sub_cancel' hbits]
    -- The quotient is a power of two, so that the last part is not smaller than the others.
    have hexact : m = 2 ^ (m / n).log2 * n := by
      have := Nat.mul_le_mul_left (2 ^ (m / n).log2) hle
      have : 2 ^ (m / n).log2 * (2 * (last * 2 ^ (52 - (m / n).log2))) = 2 ^ 53 * last := by
        rw [Nat.mul_left_comm, Nat.mul_left_comm _ last, hpow]
        ring
      omega
    have hfull : n ≤ last := by
      have hdvd : n ∣ (m - 1) / n * n + last := by
        rw [← hsplit, hexact]
        exact Nat.dvd_mul_left ..
      exact Nat.le_of_dvd hlpos ((Nat.dvd_add_right (Nat.dvd_mul_left ..)).mp hdvd)
    have := Nat.mul_le_mul_left last (Nat.one_le_two_pow (n := 52 - (m / n).log2))
    omega
  · rename_i hbits
    have hwhole : m / n ≠ 0 := by
      intro h
      rw [h] at hbits
      exact hbits (by decide)
    have hfloor := hfloor hwhole
    have hpow : 2 ^ 53 ≤ 2 ^ (m / n).log2 := Nat.pow_le_pow_right two_pos (by omega)
    obtain rfl : n = 1 := by
      have := Nat.mul_le_mul_right n hpow
      omega
    obtain rfl : m = 2 ^ 53 := by omega
    decide +kernel

/-- The ceiling of the double nearest to a quotient is the ceiling of the quotient, for
dividends of up to 53 bits. -/
theorem ceil_quotient {m n : ℕ} (hm : m ≤ 2 ^ 53) (hn : 0 < n) (hn' : n < 2 ^ 63) :
    (quotient m n >>= ceil) = .ok (m / n : ℚ).ceil := by
  obtain ⟨c, hc, hseen⟩ := ceil_quotient_iff (hm.trans_lt (by decide)) hn hn'
  rw [hc, hseen.mpr (lastSeen_of_le hm hn)]

end Binary64

end DocQuery
