import DocQuery.Number.Binary64

/-!
# Decimal numbers

A decimal number keeps its sign, its coefficient and its exponent, so that
`1.0` and `1.00` are two numbers of one value. `Decimal.ofText?` reads and
`Decimal.text` writes the scientific string of the general decimal arithmetic.
-/

namespace DocQuery

/-- A decimal number; a NaN may signal and may carry a diagnostic payload. -/
inductive Decimal where
  | finite (negative : Bool) (coefficient : Nat) (exponent : Int)
  | infinity (negative : Bool)
  | nan (negative signaling : Bool) (payload : Nat)
  deriving DecidableEq, Repr

/-- The value of a run of decimal digits; `none` if a character is not one. -/
def digitsValue? (digits : List Char) : Option Nat :=
  digits.foldl (fun value? c => value?.bind fun value =>
    if c.isDigit then some (10 * value + (c.toNat - '0'.toNat)) else none) (some 0)

def splitAtFirst (stop : Char → Bool) (cs : List Char) : List Char × Option (List Char) :=
  match cs.dropWhile (!stop ·) with
  | [] => (cs.takeWhile (!stop ·), none)
  | _ :: rest => (cs.takeWhile (!stop ·), some rest)

def splitSign : List Char → Bool × List Char
  | '-' :: rest => (true, rest)
  | '+' :: rest => (false, rest)
  | cs => (false, cs)

def signedDigits? (cs : List Char) : Option Int :=
  let (negative, digits) := splitSign cs
  if digits.isEmpty then none
  else (digitsValue? digits).map fun n => if negative then -n else n

namespace Decimal

def leadingPower (coefficient : Nat) (exponent : Int) : Int :=
  exponent + decimalLength coefficient - 1

def greatestExponent : Int := 999999999999999999

def leastExponent : Int := -1999999999999999997

def admits (coefficient : Nat) (exponent : Int) : Bool :=
  leastExponent ≤ exponent && leadingPower coefficient exponent ≤ greatestExponent

def ofDigits? (negative : Bool) (cs : List Char) : Option Decimal := do
  let (mantissa, power) := splitAtFirst (fun c => c = 'e' || c = 'E') cs
  let (whole, fraction) := splitAtFirst (· = '.') mantissa
  let fraction := fraction.getD []
  if whole.isEmpty && fraction.isEmpty then none
  else
    let coefficient ← digitsValue? (whole ++ fraction)
    let exponent := (← power.elim (some 0) signedDigits?) - fraction.length
    if admits coefficient exponent then some (finite negative coefficient exponent) else none

def ofText? (s : String) : Option Decimal :=
  let (negative, cs) := splitSign s.toList
  match cs.map Char.toLower with
  | ['i', 'n', 'f'] | ['i', 'n', 'f', 'i', 'n', 'i', 't', 'y'] => some (infinity negative)
  | 'n' :: 'a' :: 'n' :: payload => (digitsValue? payload).map (nan negative false)
  | 's' :: 'n' :: 'a' :: 'n' :: payload => (digitsValue? payload).map (nan negative true)
  | _ => ofDigits? negative cs

/-- The scientific string: positional when the exponent is not positive and the
leading digit stands no further than the sixth decimal place. -/
def finiteText (coefficient : Nat) (exponent : Int) : String :=
  let digits := toString coefficient
  let leading : Int := exponent + digits.length
  let positional := exponent ≤ 0 ∧ -6 < leading
  let point : Int := if positional then leading else 1
  let mantissa :=
    if point ≤ 0 then "0." ++ "".pushn '0' (-point).toNat ++ digits
    else if point < digits.length then
      String.ofList (digits.toList.take point.toNat) ++ "." ++
        String.ofList (digits.toList.drop point.toNat)
    else digits
  let power := leading - point
  if power = 0 then mantissa
  else mantissa ++ "E" ++ (if power < 0 then "-" else "+") ++ toString power.natAbs

def text : Decimal → String
  | finite negative coefficient exponent =>
    (if negative then "-" else "") ++ finiteText coefficient exponent
  | infinity negative => if negative then "-Infinity" else "Infinity"
  | nan negative signaling payload =>
    (if negative then "-" else "") ++ (if signaling then "sNaN" else "NaN") ++
      if payload = 0 then "" else toString payload

def isZero : Decimal → Bool
  | finite _ 0 _ => true
  | _ => false

def isNaN : Decimal → Bool
  | nan .. => true
  | _ => false

def isSignaling : Decimal → Bool
  | nan _ signaling _ => signaling
  | _ => false

def isNegative : Decimal → Bool
  | finite negative .. | infinity negative | nan negative .. => negative

end Decimal

def Binary64.ofText? (s : String) : Option Binary64 :=
  (Decimal.ofText? s).map fun
    | .finite negative coefficient exponent =>
      let (num, den) := scaleQuotient 10 coefficient 1 exponent
      Binary64.nearest negative num den
    | .infinity negative => .infinity negative
    | .nan .. => .nan

end DocQuery
