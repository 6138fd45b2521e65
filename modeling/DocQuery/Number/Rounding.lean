/-!
# Exact quotients and rounding

Quotients of natural numbers rounded to an integer, and scaling by powers of a
base with exponents of either sign. All other number modules round through
`roundHalfEven`, once, from an exact quotient.
-/

namespace DocQuery

def twoPow (exponent : Nat) : Nat := Nat.pow 2 exponent

def tenPow (exponent : Nat) : Nat := Nat.pow 10 exponent

theorem tenPow_add (m n : Nat) : tenPow (m + n) = tenPow m * tenPow n := Nat.pow_add 10 m n

theorem tenPow_lt_tenPow : tenPow m < tenPow n ↔ m < n := Nat.pow_lt_pow_iff_right (by decide)

/-- The integer nearest to `num / den`; a half goes to the even neighbour. -/
def roundHalfEven (num den : Nat) : Nat :=
  let whole := num / den
  let twice := 2 * (num % den)
  if twice < den then whole
  else if den < twice then whole + 1
  else if whole % 2 = 0 then whole else whole + 1

theorem roundHalfEven_cases (num den : Nat) :
    roundHalfEven num den = num / den ∧ 2 * (num % den) ≤ den ∨
      roundHalfEven num den = num / den + 1 ∧ den ≤ 2 * (num % den) := by
  unfold roundHalfEven
  dsimp only
  split
  · exact .inl ⟨rfl, by omega⟩
  split
  · exact .inr ⟨rfl, by omega⟩
  split
  · exact .inl ⟨rfl, by omega⟩
  · exact .inr ⟨rfl, by omega⟩

theorem roundHalfEven_le {n num den : Nat} (hd : 0 < den) (h : num ≤ n * den) :
    roundHalfEven num den ≤ n := by
  rcases roundHalfEven_cases num den with ⟨heq, -⟩ | ⟨heq, hrest⟩
  · rw [heq]
    exact Nat.div_le_of_le_mul (Nat.mul_comm .. ▸ h)
  · have hsplit := Nat.div_add_mod' num den
    have hlt : num / den * den < n * den := by omega
    rw [heq]
    exact Nat.lt_of_mul_lt_mul_right hlt

def scaleQuotient (base : Nat) (num den : Nat) (exponent : Int) : Nat × Nat :=
  if 0 ≤ exponent then (num * base.pow exponent.toNat, den)
  else (num, den * base.pow (-exponent).toNat)

def scaledRat (base : Nat) (significand : Int) (exponent : Int) : Rat :=
  if 0 ≤ exponent then mkRat (significand * base.pow exponent.toNat) 1
  else mkRat significand (base.pow (-exponent).toNat)

def decimalLength (n : Nat) : Nat := (Nat.toDigits 10 n).length

theorem decimalLength_le_iff (hk : 0 < k) : decimalLength n ≤ k ↔ n < tenPow k :=
  Nat.length_toDigits_le_iff (by decide) hk

theorem lt_tenPow_decimalLength (n : Nat) : n < tenPow (decimalLength n) :=
  (decimalLength_le_iff Nat.length_toDigits_pos).mp (Nat.le_refl _)

/-- `10 ^ exponent` to divide `n` by. Every power beyond ten times `n` divides it
to zero and rounds it to zero, so that the first of them stands for all. -/
def tenPowFor (n exponent : Nat) : Nat := tenPow (min exponent (decimalLength n + 1))

theorem lt_tenPow_of_decimalLength_le {n exponent : Nat} (h : decimalLength n ≤ exponent) :
    n < tenPow exponent :=
  Nat.lt_of_lt_of_le (lt_tenPow_decimalLength n) (Nat.pow_le_pow_right (by decide) h)

theorem tenPowFor_eq_or_lt (n exponent : Nat) :
    tenPowFor n exponent = tenPow exponent ∨ n < tenPowFor n exponent ∧ n < tenPow exponent := by
  rcases Nat.le_total exponent (decimalLength n + 1) with h | h
  · left
    rw [tenPowFor, Nat.min_eq_left h]
  · right
    rw [tenPowFor, Nat.min_eq_right h]
    exact ⟨lt_tenPow_of_decimalLength_le (by omega), lt_tenPow_of_decimalLength_le (by omega)⟩

theorem div_tenPowFor (n exponent : Nat) : n / tenPowFor n exponent = n / tenPow exponent := by
  rcases tenPowFor_eq_or_lt n exponent with h | ⟨h, h'⟩
  · rw [h]
  · rw [Nat.div_eq_of_lt h, Nat.div_eq_of_lt h']

theorem mod_tenPowFor (n exponent : Nat) : n % tenPowFor n exponent = n % tenPow exponent := by
  rcases tenPowFor_eq_or_lt n exponent with h | ⟨h, h'⟩
  · rw [h]
  · rw [Nat.mod_eq_of_lt h, Nat.mod_eq_of_lt h']

def leadingExponent (num den : Nat) : Int :=
  let guess : Int := (decimalLength num : Int) - decimalLength den
  let (n, d) := scaleQuotient 10 num den (-guess)
  if d ≤ n then guess else guess - 1

def stripZeros : Nat → Nat → Int → Nat × Int
  | 0, digits, exponent => (digits, exponent)
  | fuel + 1, digits, exponent =>
    if digits ≠ 0 ∧ digits % 10 = 0 then stripZeros fuel (digits / 10) (exponent + 1)
    else (digits, exponent)

def truncateRat (q : Rat) : Int := q.num.tdiv q.den

def remainderRat (q : Rat) : Rat := mkRat (q.num % q.den) q.den

end DocQuery
