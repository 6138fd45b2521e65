import DocQuery.Text.Case
import DocQuery.Value.Key

/-!
# Sort orders

A sort order is asked for as a map of fields to directions, as a list of pairs,
or as a list of field names with a minus sign before the descending ones. All
three become a list of keys, the most significant one first.
-/

namespace DocQuery

structure SortKey where
  field : Value
  descending : Bool

def SortKey.direction (key : SortKey) : Int := if key.descending then -1 else 1

def SortKey.toValue (key : SortKey) : Value := .tuple [key.field, .int key.direction]

abbrev SortOrder := List SortKey

namespace SortOrder

/-- Whether a direction is descending: the number -1, or its name in any letter case. -/
def isDescending : Value → Except Misuse Bool
  | .str s => .ok (lowerText s == "desc" || lowerText s == "-1")
  | v => match v.number? with
    | some n => n.equalsInt (-1)
    | none => .ok false

def keyOf (field direction : Value) : Except Misuse SortKey := do
  pure ⟨field, ← isDescending direction⟩

/-- The key of a field name, descending after a minus sign. -/
def keyOfName (name : String) : SortKey :=
  match name.toList with
  | '-' :: rest => ⟨.str (String.ofList rest), true⟩
  | _ => ⟨.str name, false⟩

/-- The key that one item of a list asks for; items other than pairs and names
ask for none. -/
def keyOfItem : Value → Except Misuse (Option SortKey)
  | .tuple (field :: direction :: _) => do pure (some (← keyOf field direction))
  | .tuple _ => .error .noSuchItem
  | .str name => .ok (some (keyOfName name))
  | _ => .ok none

def ofValue (order : Value) : Except Misuse SortOrder :=
  if !order.truthy then .ok []
  else match order with
    | .map entries => entries.mapM fun (field, direction) => keyOf field direction
    | order => do
      let keys ← (← order.items).mapM keyOfItem
      pure (keys.filterMap id)

def toValue (keys : SortOrder) : Value := .list (keys.map SortKey.toValue)

def normalize (order : Value) : Except Misuse Value := do pure (← ofValue order).toValue

end SortOrder

end DocQuery
