import DocQuery.Misuse
import DocQuery.Text.CharClass

/-!
# Integers in text

Two readers of decimal integers. `Integer.ofText?` reads a whole text, and
`leadingInteger` the number at its beginning. Both take the digits of any
script, and neither reads a run of more than `digitLimit` digits.
-/

namespace DocQuery

/-- The most digits of a number that is read or written. -/
def digitLimit : Nat := 4300

def digitsToNat (digits : List Nat) : Nat := digits.foldl (fun value d => 10 * value + d) 0

def boundedDigits (digits : List Nat) : Except Misuse Nat :=
  if digits.length ≤ digitLimit then .ok (digitsToNat digits) else .error .badValue

/-- One or more digits with single underscores between them. -/
def groupedDigits? : List Char → Option (List Nat)
  | [] => none
  | c :: rest =>
    (digitValue? c).bind fun d =>
      match rest with
      | [] => some [d]
      | '_' :: more => (groupedDigits? more).map (d :: ·)
      | next :: more => (groupedDigits? (next :: more)).map (d :: ·)

def leadingSign : List Char → Bool × List Char
  | '-' :: rest => (true, rest)
  | '+' :: rest => (false, rest)
  | cs => (false, cs)

def trimWith (drop : Char → Bool) (cs : List Char) : List Char :=
  ((cs.dropWhile drop).reverse.dropWhile drop).reverse

def Integer.ofChars? (cs : List Char) : Option Int :=
  let (negative, body) := leadingSign (trimWith isMargin cs)
  (groupedDigits? body).bind fun digits =>
    (boundedDigits digits).toOption.map fun n => if negative then -(n : Int) else n

def Integer.ofText? (s : String) : Option Int := Integer.ofChars? s.toList

def Integer.ofBytes? (bytes : List UInt8) : Option Int :=
  if bytes.all (· < 128) then Integer.ofChars? (bytes.map fun b => Char.ofNat b.toNat) else none

/-- The integer at the beginning of a text: white space, a sign, and as many
digits as there are. A text that does not begin so counts as zero. -/
def leadingInteger (s : String) : Except Misuse Int :=
  let (negative, body) := leadingSign (s.toList.dropWhile isBlank)
  let digits := (body.takeWhile isDecimalDigit).filterMap digitValue?
  if digits.isEmpty then .ok 0
  else (boundedDigits digits).map fun n => if negative then -(n : Int) else n

end DocQuery
