import DocQuery.Text.Printable

/-!
# Quoted text

Text and bytes written between quotes, with everything that is not printable
escaped. The single quote is used unless the text holds one and no double quote.
-/

namespace DocQuery

/-- `n` in at least `width` lower-case hexadecimal digits. -/
def hexText (width n : Nat) : String :=
  let digits := String.ofList (Nat.toDigits 16 n)
  "".pushn '0' (width - digits.length) ++ digits

def quoteFor (cs : List Char) : Char :=
  if cs.contains '\'' && !cs.contains '"' then '"' else '\''

/-- One character between quotes; `plain` tells which show as themselves. -/
def escapeChar (plain : Char → Bool) (quote c : Char) : String :=
  if c = quote || c = '\\' then "\\" ++ c.toString
  else if c = '\n' then "\\n"
  else if c = '\r' then "\\r"
  else if c = '\t' then "\\t"
  else if plain c then c.toString
  else if c.toNat < 0x100 then "\\x" ++ hexText 2 c.toNat
  else if c.toNat < 0x10000 then "\\u" ++ hexText 4 c.toNat
  else "\\U" ++ hexText 8 c.toNat

def quoteChars (plain : Char → Bool) (cs : List Char) : String :=
  let quote := quoteFor cs
  quote.toString ++ String.join (cs.map (escapeChar plain quote)) ++ quote.toString

def quoteText (s : String) : String := quoteChars isPrintable s.toList

def quoteBytes (bytes : List UInt8) : String :=
  "b" ++ quoteChars (fun c => 0x20 ≤ c.toNat && c.toNat < 0x7f)
    (bytes.map fun b => Char.ofNat b.toNat)

end DocQuery
