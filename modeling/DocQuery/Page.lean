import DocQuery.Text.Integer
import DocQuery.Value.Basic

/-!
# Pages

A listing is cut into pages of a limited size, counted from 1. A page is asked
for by any value; `pageNumber` makes a page number of it. `PageInfo.of` says how
many pages there are and which ones are next to the current page.
-/

namespace DocQuery

/-- The integer that a value is read as: numbers lose their fraction, texts and
bytes are read as written, ids are numbers. Infinities are too large. -/
def Value.toInteger : Value → Except Misuse Int
  | .bool b => .ok (if b then 1 else 0)
  | .int n => .ok n
  | .float x => x.truncate
  | .decimal d => d.truncate
  | .fraction q => .ok (truncateRat q)
  | .str s => (Integer.ofText? s).elim (.error .badValue) .ok
  | .bytes bs => (Integer.ofBytes? bs).elim (.error .badValue) .ok
  | .uuid id => .ok id.number.toNat
  | .null | .decimal128 _ | .complex .. | .objectId _ | .dateTime _ | .list _ | .tuple _ | .map _
  | .model .. | .expression _ => .error .wrongType

/-- The page that a value asks for: at least 1, and 1 if the value cannot be
read. An infinite page is refused. -/
def pageNumber (page : Value) : Except Misuse Int :=
  match page.toInteger with
  | .ok n => .ok (max 1 n)
  | .error .wrongType | .error .badValue => .ok 1
  | .error cause => .error cause

def Value.number (v : Value) : Except Misuse Number :=
  match v.number? with
  | some n => .ok n
  | none => .error .wrongType

/-- A value, or an integer if the value does not exceed it. -/
def Value.atLeast (v : Value) (bound : Int) : Except Misuse Value := do
  let n ← v.number
  pure (if ← n.exceeds bound then v else .int bound)

def skipFor (page limit : Value) : Except Misuse Value := do
  let page ← pageNumber page
  let limit ← (← limit.atLeast 0).number
  pure (.ofNumber (← limit.scaleInt (page - 1)))

structure PageInfo where
  total : Value
  current : Int
  hasPrevious : Bool
  hasNext : Bool
  pages : Int
  /-- The page before, 0 if there is none. -/
  previous : Int
  /-- The page after, 0 if there is none. -/
  next : Int

/-- How many pages of a size a number of documents fills; none if the size is
not positive. -/
def pageCount (total limit : Value) : Except Misuse Int := do
  let size ← limit.number
  if ← size.exceeds 0 then
    Number.ceilQuotient (← total.number) size
  else pure 0

def PageInfo.of (total page limit : Value) : Except Misuse PageInfo := do
  let current ← pageNumber page
  let pages ← pageCount total limit
  let hasPrevious := decide (1 < current)
  let hasNext := decide (current < pages)
  pure {
    total, current, hasPrevious, hasNext, pages
    previous := if hasPrevious then current - 1 else 0
    next := if hasNext then current + 1 else 0 }

structure Page where
  info : PageInfo
  items : List Value

end DocQuery
