import DocQuery.Number.DecimalContext
import DocQuery.Number.Shortest

/-!
# Numbers of every type

Integers, doubles, decimals, fractions and complex numbers together: which of
them are equal, how they compare with an integer, and the mixed arithmetic of
page numbers. Two numbers are equal when they denote the same exact value,
whatever their types; a NaN equals nothing.
-/

namespace DocQuery

inductive Number where
  | int (n : Int)
  | float (x : Binary64)
  | decimal (d : Decimal)
  | fraction (q : Rat)
  | complex (re im : Binary64)

/-- An exact value, or what a finite number cannot be. -/
inductive ExactValue where
  | nan
  | infinity (negative : Bool)
  /-- `significand * 10 ^ power`; the power may be too large to multiply out. -/
  | finite (significand : Rat) (power : Int)

namespace ExactValue

def ofRat (q : Rat) : ExactValue := finite q 0

def ofFloat : Binary64 → ExactValue
  | .nan => nan
  | .infinity negative => infinity negative
  | x@(.finite ..) => ofRat (x.toRat?.getD 0)

def ofDecimal : Decimal → ExactValue
  | .nan .. => nan
  | .infinity negative => infinity negative
  | .finite negative coefficient exponent =>
    if coefficient = 0 then ofRat 0
    else finite (if negative then -(coefficient : Int) else coefficient) exponent

def leadingPower (significand : Rat) (power : Int) : Int :=
  leadingExponent significand.num.natAbs significand.den + power

/-- Equality of values; a NaN equals nothing. Powers are multiplied out only for
values with the same leading power, where their difference is small. -/
def same : ExactValue → ExactValue → Bool
  | infinity a, infinity b => a == b
  | finite p j, finite q k =>
    leadingPower p j == leadingPower q k &&
      p.num * tenPow (j - k).toNat * q.den == q.num * tenPow (k - j).toNat * p.den
  | _, _ => false

/-- Whether a value exceeds an integer; a NaN does not. A power beyond all digits
of the significand and the bound is as good as the first such power. -/
def exceeds (x : ExactValue) (bound : Int) : Bool :=
  match x with
  | nan => false
  | infinity negative => !negative
  | finite q power =>
    let greatest := decimalLength q.den + decimalLength bound.natAbs
    let power := max (-(decimalLength q.num.natAbs : Int)) (min power greatest)
    decide (bound * q.den * tenPow (-power).toNat < q.num * tenPow power.toNat)

end ExactValue

namespace Number

def parts : Number → ExactValue × ExactValue
  | int n => (.ofRat n, .ofRat 0)
  | float x => (.ofFloat x, .ofRat 0)
  | decimal d => (.ofDecimal d, .ofRat 0)
  | fraction q => (.ofRat q, .ofRat 0)
  | complex re im => (.ofFloat re, .ofFloat im)

def same (x y : Number) : Bool :=
  x.parts.1.same y.parts.1 && x.parts.2.same y.parts.2

def isZero (x : Number) : Bool := x.same (int 0)

/-- Equality with an integer; a signaling NaN is refused. -/
def equalsInt (x : Number) (n : Int) : Except Misuse Bool :=
  match x with
  | decimal (.nan _ true _) => .error .invalidDecimal
  | _ => .ok (x.same (int n))

/-- Whether a number exceeds an integer; complex numbers have no order, and a
decimal NaN is refused. -/
def exceeds (x : Number) (bound : Int) : Except Misuse Bool :=
  match x with
  | complex .. => .error .wrongType
  | decimal (.nan ..) => .error .invalidDecimal
  | _ => .ok (x.parts.1.exceeds bound)

def decimalOfInt (n : Int) : Decimal := .finite (n < 0) n.natAbs 0

def scaleInt (n : Int) : Number → Except Misuse Number
  | int m => .ok (int (n * m))
  | float x => do pure (float ((← Binary64.exactInt n).mul x))
  | decimal d => do pure (decimal (← (decimalOfInt n).mul d))
  | fraction q => .ok (fraction (n * q))
  | complex .. => .error .wrongType

def floatOfFraction (q : Rat) : Except Misuse Binary64 := Binary64.quotient q.num q.den

/-- The least integer not below `x / y`, for a divisor greater than zero.
Doubles are rounded before it is taken; decimals are rounded to 28 digits, and
mix with integers only. -/
def ceilQuotient : Number → Number → Except Misuse Int
  | int m, int n => do (← Binary64.quotient m n).ceil
  | int m, float y => do (← (← Binary64.exactInt m).div y).ceil
  | int m, decimal y => do (← (decimalOfInt m).div y).ceil
  | int m, fraction q => .ok ((m : Rat) / q).ceil
  | float x, int n => do (← x.div (← Binary64.exactInt n)).ceil
  | float x, float y => do (← x.div y).ceil
  | float x, fraction q => do (← x.div (← floatOfFraction q)).ceil
  | decimal x, int n => do (← x.div (decimalOfInt n)).ceil
  | decimal x, decimal y => do (← x.div y).ceil
  | fraction p, int n => .ok (p / (n : Rat)).ceil
  | fraction p, float y => do (← (← floatOfFraction p).div y).ceil
  | fraction p, fraction q => .ok (p / q).ceil
  | complex .., int n => do let _ ← Binary64.exactInt n; .error .wrongType
  | complex .., fraction q => do
    let y ← floatOfFraction q
    .error (if y.isZero then .divisionByZero else .wrongType)
  | _, _ => .error .wrongType

end Number

/-- The text of a complex number: the imaginary part alone when the real part
is positive zero, and both in parentheses otherwise. -/
def complexText (re im : Binary64) : String :=
  let imaginary := im.format ""
  if re.isZero && !re.isNegative then imaginary ++ "j"
  else
    let signed := if im.isNegative then imaginary else "+" ++ imaginary
    "(" ++ re.format "" ++ signed ++ "j)"

/-- Splits a sum before its last sign, one that follows an exponent mark apart. -/
def splitLastSign (cs : List Char) : List Char × List Char :=
  let rec go : List Char → List Char → List Char × List Char
    | [], tail => ([], tail)
    | c :: rest, tail =>
      if (c = '+' || c = '-') && !(rest.head?.any fun d => d = 'e' || d = 'E') then
        (rest.reverse, c :: tail)
      else go rest (c :: tail)
  go cs.reverse []

def complexOfText? (s : String) : Option (Binary64 × Binary64) := do
  let cs := s.toList.filter fun c => c ≠ '(' && c ≠ ')'
  let (last, body) := (cs.getLast?, cs.dropLast)
  if last = some 'j' then
    let (re, im) := splitLastSign body
    let x ← if re.isEmpty then some Binary64.zero else Binary64.ofText? (String.ofList re)
    let y ← Binary64.ofText? (String.ofList im)
    pure (x, y)
  else
    let x ← Binary64.ofText? (String.ofList cs)
    pure (x, .zero)

def fractionText (q : Rat) : String :=
  if q.den = 1 then toString q.num else toString q.num ++ "/" ++ toString q.den

def fractionOfText? (s : String) : Option Rat :=
  match s.splitOn "/" with
  | [num] => match Decimal.ofText? num with
    | some (.finite negative coefficient exponent) =>
      some (scaledRat 10 (if negative then -coefficient else coefficient) exponent)
    | _ => none
  | [num, den] => do
    let n ← num.toInt?
    let d ← den.toInt?
    if d = 0 then none else some (mkRat (n * d.sign) d.natAbs)
  | _ => none

end DocQuery
