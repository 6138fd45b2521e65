import DocQuery.Misuse
import DocQuery.Number.Rounding

/-!
# Double-precision numbers

A finite double is a sign, a natural significand and an exponent of two, so that
its value is an exact rational. Every operation computes the exact result and
rounds it once with `Binary64.nearest`.
-/

namespace DocQuery

/-- Significands of 53 bits with an exponent in range. The first bit is set, unless the
exponent is the least one. -/
def Binary64.IsCanonical (significand : Nat) (exponent : Int) : Prop :=
  significand < twoPow 53 ∧ -1074 ≤ exponent ∧ exponent ≤ 971 ∧
    (twoPow 52 ≤ significand ∨ exponent = -1074)

instance : Decidable (Binary64.IsCanonical significand exponent) :=
  inferInstanceAs (Decidable (_ ∧ _ ∧ _ ∧ _))

/-- A binary64 number. A finite one is `significand * 2 ^ exponent`. -/
inductive Binary64 where
  | nan
  | infinity (negative : Bool)
  | finite (negative : Bool) (significand : Nat) (exponent : Int)
    (canonical : Binary64.IsCanonical significand exponent := by decide)
  deriving DecidableEq, Repr

namespace Binary64

def zero : Binary64 := finite false 0 (-1074)

/-- The exponent of the last place of the double nearest to `num / den`. -/
def unitExponent (num den : Nat) : Int :=
  let guess : Int := (num.log2 : Int) - den.log2
  let (n, d) := scaleQuotient 2 num den (-guess)
  let leading := if d ≤ n then guess else guess - 1
  max (leading - 52) (-1074)

/-- The double nearest to `num / den`, a half going to the even significand;
infinite when the quotient is too large. The denominator is positive. -/
def nearest (negative : Bool) (num den : Nat) : Binary64 :=
  if num = 0 then finite negative 0 (-1074)
  else
    let unit := unitExponent num den
    let (n, d) := scaleQuotient 2 num den (-unit)
    let rounded := roundHalfEven n d
    let (significand, exponent) :=
      if rounded = twoPow 53 then (twoPow 52, unit + 1) else (rounded, unit)
    if h : IsCanonical significand exponent then finite negative significand exponent h
    else infinity negative

def toRat? : Binary64 → Option Rat
  | finite negative significand exponent _ =>
    some (scaledRat 2 (if negative then -significand else significand) exponent)
  | _ => none

def isNaN : Binary64 → Bool
  | nan => true
  | _ => false

def isZero : Binary64 → Bool
  | finite _ 0 _ _ => true
  | _ => false

def isNegative : Binary64 → Bool
  | nan => false
  | infinity negative => negative
  | finite negative .. => negative

/-- An exact quotient that must fit a finite double. -/
def quotient (num den : Int) : Except Misuse Binary64 :=
  match nearest ((num < 0) != (den < 0)) num.natAbs den.natAbs with
  | infinity _ => .error .tooLarge
  | x => .ok x

def exactInt (n : Int) : Except Misuse Binary64 := quotient n 1

def mul (x y : Binary64) : Binary64 :=
  let negative := x.isNegative != y.isNegative
  match x, y with
  | nan, _ | _, nan => nan
  | infinity _, _ => if y.isZero then nan else infinity negative
  | _, infinity _ => if x.isZero then nan else infinity negative
  | finite _ m e _, finite _ n f _ =>
    let (num, den) := scaleQuotient 2 (m * n) 1 (e + f)
    nearest negative num den

def div (x y : Binary64) : Except Misuse Binary64 :=
  let negative := x.isNegative != y.isNegative
  if y.isZero then .error .divisionByZero
  else .ok <| match x, y with
    | nan, _ | _, nan | infinity _, infinity _ => nan
    | infinity _, _ => infinity negative
    | _, infinity _ => finite negative 0 (-1074)
    | finite _ m e _, finite _ n f _ =>
      let (num, den) := scaleQuotient 2 m n (e - f)
      nearest negative num den

/-- What is left of a number divided by 1, which is not negative: what a negative number leaves
is raised by 1 and rounded, and can come to 1. -/
def remainder : Binary64 → Binary64
  | finite negative significand exponent _ =>
    let (num, den) := scaleQuotient 2 significand 1 exponent
    let rest := num % den
    if rest = 0 then zero
    else nearest false (if negative then den - rest else rest) den
  | _ => nan

def isWhole (x : Binary64) : Bool := x.remainder.isZero

/-- The integer part, toward zero; a NaN is no value and an infinity too large. -/
def truncate : Binary64 → Except Misuse Int
  | nan => .error .badValue
  | infinity _ => .error .tooLarge
  | x@(finite ..) => .ok (x.toRat?.elim 0 truncateRat)

def ceil : Binary64 → Except Misuse Int
  | nan => .error .badValue
  | infinity _ => .error .tooLarge
  | x@(finite ..) => .ok (x.toRat?.elim 0 Rat.ceil)

end Binary64

end DocQuery
