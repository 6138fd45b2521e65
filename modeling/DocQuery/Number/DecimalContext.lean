import DocQuery.Number.Decimal

/-!
# Decimal arithmetic with bounded precision

A context bounds the number of digits and the exponents of a result. Products
and quotients are formed exactly and rounded once by `DecimalContext.round`. The
34-digit interchange format admits only the decimals it keeps without rounding.
-/

namespace DocQuery

/-- Bounds on a decimal result. A folding context lowers a large exponent by
appending zeros. -/
structure DecimalContext where
  precision : Nat
  minExponent : Int
  maxExponent : Int
  folds : Bool

namespace DecimalContext

def arithmetic : DecimalContext := ⟨28, -999999, 999999, false⟩

def interchange : DecimalContext := ⟨34, -6143, 6144, true⟩

/-- The least exponent of a last digit. -/
def lowest (ctx : DecimalContext) : Int := ctx.minExponent - ctx.precision + 1

def highest (ctx : DecimalContext) : Int := ctx.maxExponent - ctx.precision + 1

end DecimalContext

/-- A rounded result: nothing if it exceeds the largest number, and whether it is exact. -/
structure RoundedDecimal where
  value : Option Decimal
  exact : Bool
  deriving DecidableEq

namespace DecimalContext

/-- Rounds a finite decimal, a half going to the even neighbour. -/
def round (ctx : DecimalContext) (negative : Bool) (coefficient : Nat) (exponent : Int) :
    RoundedDecimal :=
  if coefficient = 0 then
    let top := if ctx.folds then ctx.highest else ctx.maxExponent
    ⟨some (.finite negative 0 (min (max exponent ctx.lowest) top)), true⟩
  else
    let last := exponent + decimalLength coefficient - ctx.precision
    if ctx.highest < last then ⟨none, false⟩
    else
      let last := max last ctx.lowest
      if exponent < last then
        let unit := tenPowFor coefficient (last - exponent).toNat
        let rounded := roundHalfEven coefficient unit
        let (rounded, last) :=
          if rounded = tenPow ctx.precision then (tenPow (ctx.precision - 1), last + 1)
          else (rounded, last)
        if ctx.highest < last then ⟨none, false⟩
        else ⟨some (.finite negative rounded last), coefficient % unit = 0⟩
      else if ctx.folds ∧ ctx.highest < exponent then
        let padded := coefficient * tenPow (exponent - ctx.highest).toNat
        ⟨some (.finite negative padded ctx.highest), true⟩
      else ⟨some (.finite negative coefficient exponent), true⟩

/-- What a folding context rounds to fits its precision and has an exponent in range. -/
theorem fits_of_round {ctx : DecimalContext} (hprecision : 0 < ctx.precision)
    (hfolds : ctx.folds = true) (hrange : ctx.lowest ≤ ctx.highest)
    (h : ctx.round negative coefficient exponent = ⟨some d, exact⟩) :
    ∃ digits last, d = .finite negative digits last ∧ digits < tenPow ctx.precision ∧
      ctx.lowest ≤ last ∧ last ≤ ctx.highest := by
  unfold round at h
  split at h
  · dsimp only at h
    cases h
    exact ⟨0, _, rfl, Nat.pow_pos (by decide), by omega, by omega⟩
  · dsimp only at h
    split at h
    · cases h
    · generalize hlast : max (exponent + decimalLength coefficient - ctx.precision) ctx.lowest =
        last at h
      split at h
      · have hdigits : coefficient < tenPow ctx.precision *
            tenPowFor coefficient (last - exponent).toNat := by
          rw [tenPowFor, ← tenPow_add]
          exact lt_tenPow_of_decimalLength_le (by omega)
        have hunit : 0 < tenPowFor coefficient (last - exponent).toNat := Nat.pow_pos (by decide)
        have hrounded := roundHalfEven_le hunit (Nat.le_of_lt hdigits)
        split at h
        · split at h
          · cases h
          · cases h
            exact ⟨_, _, rfl, tenPow_lt_tenPow.mpr (by omega), by omega, by omega⟩
        · split at h
          · cases h
          · cases h
            exact ⟨_, _, rfl, by omega, by omega, by omega⟩
      · split at h
        · -- Zeros are appended until the exponent is in range.
          cases h
          refine ⟨_, _, rfl, ?_, hrange, Int.le_refl _⟩
          have hzeros : decimalLength coefficient + (exponent - ctx.highest).toNat ≤
              ctx.precision := by omega
          calc coefficient * tenPow (exponent - ctx.highest).toNat
              < tenPow (decimalLength coefficient) * tenPow (exponent - ctx.highest).toNat :=
                Nat.mul_lt_mul_of_pos_right (lt_tenPow_decimalLength _) (Nat.pow_pos (by decide))
            _ = tenPow (decimalLength coefficient + (exponent - ctx.highest).toNat) :=
                (tenPow_add ..).symm
            _ ≤ tenPow ctx.precision := Nat.pow_le_pow_right (by decide) hzeros
        · rename_i hpad
          have hhigh : exponent ≤ ctx.highest := Int.not_lt.mp fun h => hpad ⟨hfolds, h⟩
          cases h
          exact ⟨_, _, rfl, lt_tenPow_of_decimalLength_le (by omega), by omega, hhigh⟩

def finish (ctx : DecimalContext) (negative : Bool) (coefficient : Nat) (exponent : Int) :
    Except Misuse Decimal :=
  match (ctx.round negative coefficient exponent).value with
  | some d => .ok d
  | none => .error .decimalOverflow

end DecimalContext

namespace Decimal

/-- The NaN that an operation on two decimals passes on, if either is one. A
signaling one is refused. -/
def propagated (x y : Decimal) : Except Misuse (Option Decimal) :=
  if x.isSignaling || y.isSignaling then .error .invalidDecimal
  else if x.isNaN then .ok (some x)
  else if y.isNaN then .ok (some y)
  else .ok none

def mul (x y : Decimal) : Except Misuse Decimal := do
  let negative := x.isNegative != y.isNegative
  match ← propagated x y with
  | some d => pure d
  | none => match x, y with
    | finite _ m e, finite _ n f => DecimalContext.arithmetic.finish negative (m * n) (e + f)
    | _, _ => if x.isZero || y.isZero then .error .invalidDecimal else pure (infinity negative)

/-- Coefficient and exponent of `m / n`, with at least one digit more than the
precision when the quotient is not exact; its last digit then tells on which
side of a half the quotient lies. -/
def quotientDigits (precision : Nat) (m n : Nat) (e f : Int) : Nat × Int :=
  let shift : Int := (decimalLength n : Int) - decimalLength m + precision + 1
  let exponent := e - f - shift
  let (num, den) := scaleQuotient 10 m n shift
  let whole := num / den
  if num % den ≠ 0 then (if whole % 5 = 0 then whole + 1 else whole, exponent)
  else stripZeros (e - f - exponent).toNat whole exponent

def div (x y : Decimal) : Except Misuse Decimal := do
  let ctx := DecimalContext.arithmetic
  let negative := x.isNegative != y.isNegative
  match ← propagated x y with
  | some d => pure d
  | none => match x, y with
    | infinity _, infinity _ => .error .invalidDecimal
    | infinity _, _ => pure (infinity negative)
    | _, infinity _ => pure (finite negative 0 ctx.lowest)
    | finite _ m e, finite _ n f =>
      if n = 0 then .error (if m = 0 then .invalidDecimal else .divisionByZero)
      else if m = 0 then ctx.finish negative 0 (e - f)
      else
        let (coefficient, exponent) := quotientDigits ctx.precision m n e f
        ctx.finish negative coefficient exponent
    | nan .., _ | _, nan .. => pure x

/-- The whole part of `coefficient * 10 ^ exponent`, and whether more is left. -/
def wholePart (coefficient : Nat) (exponent : Int) : Nat × Bool :=
  if coefficient = 0 then (0, false)
  else if 0 ≤ exponent then (coefficient * tenPow exponent.toNat, false)
  else
    let unit := tenPowFor coefficient (-exponent).toNat
    (coefficient / unit, coefficient % unit ≠ 0)

def truncate : Decimal → Except Misuse Int
  | finite negative coefficient exponent =>
    let (whole, _) := wholePart coefficient exponent
    .ok (if negative then -whole else whole)
  | infinity _ => .error .tooLarge
  | nan .. => .error .badValue

def ceil : Decimal → Except Misuse Int
  | finite negative coefficient exponent =>
    let (whole, rest) := wholePart coefficient exponent
    .ok (if negative then -whole else if rest then whole + 1 else whole)
  | infinity _ => .error .tooLarge
  | nan .. => .error .badValue

/-- What is left of a number divided by 1, with its sign. The quotient must fit the precision,
and what is left is rounded to the context's exponents. -/
def remainder : Decimal → Except Misuse Decimal
  | finite negative coefficient exponent =>
    let ctx := DecimalContext.arithmetic
    if coefficient ≠ 0 ∧ (ctx.precision : Int) ≤ leadingPower coefficient exponent then
      .error .invalidDecimal
    else
      ctx.finish negative (coefficient % tenPowFor coefficient (-exponent).toNat) (min exponent 0)
  | infinity _ | nan _ true _ => .error .invalidDecimal
  | x@(nan _ false _) => .ok x

def isWhole (d : Decimal) : Bool := d.remainder.toOption.any isZero

/-- A decimal that the 34-digit interchange format has: a finite one of at most 34 digits
with an exponent in range, an infinity, or a NaN without a payload. -/
def IsInterchange : Decimal → Prop
  | finite _ coefficient exponent =>
    decimalLength coefficient ≤ 34 ∧ -6176 ≤ exponent ∧ exponent ≤ 6111
  | infinity _ => True
  | nan _ _ payload => payload = 0

theorem isInterchange_of_round
    (h : DecimalContext.interchange.round negative coefficient exponent = ⟨some d, exact⟩) :
    d.IsInterchange := by
  obtain ⟨digits, last, rfl, hdigits, hlow, hhigh⟩ :=
    DecimalContext.fits_of_round (by decide) rfl (by decide) h
  exact ⟨(decimalLength_le_iff (by decide)).mpr hdigits, hlow, hhigh⟩

end Decimal

structure Decimal128 where
  value : Decimal
  isInterchange : value.IsInterchange
  deriving DecidableEq

namespace Decimal

def payloadLimit : Nat := tenPow 33

/-- The same number in the 34-digit interchange format. A number that would be
rounded is refused, and so is a NaN with a payload. -/
def toInterchange : Decimal → Except Misuse Decimal128
  | finite negative coefficient exponent =>
    match h : DecimalContext.interchange.round negative coefficient exponent with
    | ⟨none, _⟩ => .error .decimalOverflow
    | ⟨some d, true⟩ => .ok ⟨d, isInterchange_of_round h⟩
    | ⟨some _, false⟩ => .error .inexactDecimal
  | infinity negative => .ok ⟨infinity negative, trivial⟩
  | nan negative signaling payload =>
    if payload = 0 then .ok ⟨nan negative signaling 0, rfl⟩
    else if payload < payloadLimit then .error .badValue
    else .error .invalidDecimal

end Decimal

end DocQuery
