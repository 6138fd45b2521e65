import DocQuery.Text.Quoted

/-!
# Universally unique ids

A 128-bit number, written in hexadecimal as five groups of digits.
-/

namespace DocQuery

structure Uuid where
  number : BitVec 128
  deriving DecidableEq

namespace Uuid

def group (digits : List Char) : List Char :=
  digits.take 8 ++ '-' :: (digits.drop 8).take 4 ++ '-' :: (digits.drop 12).take 4 ++
    '-' :: (digits.drop 16).take 4 ++ '-' :: digits.drop 20

def text (u : Uuid) : String := String.ofList (group (hexText 32 u.number.toNat).toList)

def hexValue? (c : Char) : Option Nat :=
  if '0' ≤ c ∧ c ≤ '9' then some (c.toNat - '0'.toNat)
  else if 'a' ≤ c.toLower ∧ c.toLower ≤ 'f' then some (c.toLower.toNat - 'a'.toNat + 10)
  else none

/-- Reads 32 hexadecimal digits, wherever the hyphens stand. -/
def ofText? (s : String) : Option Uuid :=
  let digits := s.toList.filter (· ≠ '-')
  if digits.length ≠ 32 then none
  else
    (digits.foldl (fun n? c => n?.bind fun n => (hexValue? c).map (16 * n + ·)) (some 0)).map
      fun n => ⟨BitVec.ofNat 128 n⟩

end Uuid

end DocQuery
