import DocQuery.Number.Binary64

/-!
# Shortest decimal text of a double

A double is written with the fewest significant digits that round back to it,
and of two such digit strings with the nearer one. Positional notation is used
from `10 ^ -4` up to `10 ^ 16`, and always shows a fractional part.
-/

namespace DocQuery

namespace Binary64

/-- Whether `digits * 10 ^ exponent` rounds to `x`, which is not negative. -/
def readsBack (x : Binary64) (digits : Nat) (exponent : Int) : Bool :=
  let (num, den) := scaleQuotient 10 digits 1 exponent
  decide (nearest false num den = x)

/-- The neighbour of `num / den` on the grid of `10 ^ exponent` that rounds to
`x`; the nearer one if both do, and the even one of two equally near. -/
def neighbour? (x : Binary64) (num den : Nat) (exponent : Int) : Option Nat :=
  let (n, d) := scaleQuotient 10 num den (-exponent)
  let low := n / d
  let near := roundHalfEven n d
  let far := if near = low then low + 1 else low
  if readsBack x near exponent then some near
  else if readsBack x far exponent then some far
  else none

/-- The first grid, from `count` digits on, with a neighbour that reads back. -/
def shortestFrom (x : Binary64) (num den : Nat) (leading : Int) : Nat → Nat → Nat × Int
  | 0, count => (0, leading - count)
  | fuel + 1, count =>
    let exponent := leading - count + 1
    match neighbour? x num den exponent with
    | some digits => stripZeros count.succ digits exponent
    | none => shortestFrom x num den leading fuel (count + 1)

/-- Shortest digits and exponent of ten of a positive double; seventeen digits
always suffice. -/
def shortest (significand : Nat) (exponent : Int) (h : IsCanonical significand exponent) :
    Nat × Int :=
  let (num, den) := scaleQuotient 2 significand 1 exponent
  shortestFrom (finite false significand exponent h) num den (leadingExponent num den) 17 1

end Binary64

def exponentText (exponent : Int) : String :=
  let digits := toString exponent.natAbs
  (if exponent < 0 then "-" else "+") ++ (if digits.length < 2 then "0" ++ digits else digits)

/-- Lays out `digits * 10 ^ exponent`, whose digits have no trailing zero.
`fraction` closes a whole number in positional notation. -/
def layoutDigits (fraction : String) (digits : Nat) (exponent : Int) : String :=
  let text := toString digits
  let point : Int := text.length + exponent
  if -4 < point ∧ point ≤ 16 then
    if point ≤ 0 then "0." ++ "".pushn '0' (-point).toNat ++ text
    else if point < text.length then
      String.ofList (text.toList.take point.toNat) ++ "." ++
        String.ofList (text.toList.drop point.toNat)
    else text ++ "".pushn '0' (point - text.length).toNat ++ fraction
  else
    let rest := String.ofList (text.toList.drop 1)
    String.ofList (text.toList.take 1) ++ (if rest.isEmpty then "" else "." ++ rest) ++ "e" ++
      exponentText (point - 1)

namespace Binary64

def format (fraction : String) : Binary64 → String
  | nan => "nan"
  | infinity negative => if negative then "-inf" else "inf"
  | finite negative significand exponent h =>
    (if negative then "-" else "") ++
      if significand = 0 then "0" ++ fraction
      else
        let (digits, power) := shortest significand exponent h
        layoutDigits fraction digits power

def text (x : Binary64) : String := x.format ".0"

end Binary64

end DocQuery
