/-!
# Dates with a time of day

Calendar fields without a time zone, in the two standard layouts.
-/

namespace DocQuery

structure DateTime where
  year : Nat
  month : Nat
  day : Nat
  hour : Nat
  minute : Nat
  second : Nat
  microsecond : Nat
  deriving DecidableEq

namespace DateTime

def padded (width n : Nat) : String :=
  let digits := toString n
  "".pushn '0' (width - digits.length) ++ digits

/-- Date and time with a separator between them; a fraction of a second is
written only if there is one. -/
def layout (separator : String) (t : DateTime) : String :=
  padded 4 t.year ++ "-" ++ padded 2 t.month ++ "-" ++ padded 2 t.day ++ separator ++
    padded 2 t.hour ++ ":" ++ padded 2 t.minute ++ ":" ++ padded 2 t.second ++
    if t.microsecond = 0 then "" else "." ++ padded 6 t.microsecond

def isoText (t : DateTime) : String := t.layout "T"

def text (t : DateTime) : String := t.layout " "

/-- The fields in order; seconds and what follows them are left out when zero. -/
def fields (t : DateTime) : List Nat :=
  [t.year, t.month, t.day, t.hour, t.minute] ++
    if t.microsecond ≠ 0 then [t.second, t.microsecond]
    else if t.second ≠ 0 then [t.second] else []

def microseconds? (digits : String) : Option Nat :=
  (String.ofList ((digits.toList ++ List.replicate 6 '0').take 6)).toNat?

def ofText? (s : String) : Option DateTime := do
  let (date, rest) := (s.toList.take 10, s.toList.drop 11)
  let [year, month, day] := (String.ofList date).splitOn "-" | none
  let clock := (String.ofList rest).splitOn ":"
  let hour ← (clock[0]?.getD "0").toNat?
  let minute ← (clock[1]?.getD "0").toNat?
  let seconds := (clock[2]?.getD "0").splitOn "."
  let second ← (seconds[0]?.getD "0").toNat?
  let microsecond ← microseconds? (seconds[1]?.getD "0")
  pure ⟨← year.toNat?, ← month.toNat?, ← day.toNat?, hour, minute, second, microsecond⟩

end DateTime

end DocQuery
