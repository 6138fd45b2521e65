import DocQuery.Text.Case

/-!
# Object ids

The id that a document store gives to a document: 24 hexadecimal digits. Ids are
read in either letter case and kept in lower case.
-/

namespace DocQuery

def hexDigits : List Char :=
  ['0', '1', '2', '3', '4', '5', '6', '7', '8', '9', 'a', 'b', 'c', 'd', 'e', 'f']

def ObjectId.isText (s : String) : Bool :=
  s.toList.length == 24 && s.toList.all hexDigits.contains

structure ObjectId where
  text : String
  valid : ObjectId.isText text
  deriving DecidableEq

def ObjectId.ofText? (s : String) : Option ObjectId :=
  let lower := lowerText s
  if h : ObjectId.isText lower then some ⟨lower, h⟩ else none

end DocQuery
