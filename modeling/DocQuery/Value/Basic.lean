import DocQuery.Number.Basic
import DocQuery.Operator.Basic
import DocQuery.Value.DateTime
import DocQuery.Value.ObjectId
import DocQuery.Value.Uuid

/-!
# Values

The values that documents hold, that filters compare with and that callers pass.
A map keeps its entries in order and admits any value as a key. A value may also
be a parsed filter expression or an instance of a model.
-/

namespace DocQuery

/-- The models a document can be read into. An open record takes any fields; a
person has a fixed set of them. -/
inductive Schema where
  | record
  | person
  deriving DecidableEq, Repr

mutual
inductive Value where
  | null
  | bool (b : Bool)
  | int (n : Int)
  | float (x : Binary64)
  | decimal (d : Decimal)
  | decimal128 (d : Decimal128)
  | fraction (q : Rat)
  | complex (re im : Binary64)
  | str (s : String)
  | bytes (bytes : List UInt8)
  | objectId (id : ObjectId)
  | uuid (id : Uuid)
  | dateTime (t : DateTime)
  | list (items : List Value)
  | tuple (items : List Value)
  | map (entries : List (Value × Value))
  | model (schema : Schema) (fields : List (String × Value))
  | expression (conditions : List Condition)

inductive Condition where
  | literal (field : String) (value : Value)
  /-- The field compares with the operand through the named operator. The name is
  kept as written, so that an unknown one survives until it is applied. -/
  | operator (field : String) (name : String) (operand : Value)
  | logical (combinator : Operator) (branches : List (List Condition))
end

abbrev Expression := List Condition

abbrev Entries := List (Value × Value)

abbrev Fields := List (String × Value)

namespace Value

instance : Inhabited Value := ⟨null⟩

def ofFields (fields : Fields) : Value := .map (fields.map fun (name, v) => (.str name, v))

def single (name : String) (v : Value) : Value := .map [(.str name, v)]

def typeName : Value → String
  | null => "NoneType"
  | bool _ => "bool"
  | int _ => "int"
  | float _ => "float"
  | decimal _ => "Decimal"
  | decimal128 _ => "Decimal128"
  | fraction _ => "Fraction"
  | complex .. => "complex"
  | str _ => "str"
  | bytes _ => "bytes"
  | objectId _ => "ObjectId"
  | uuid _ => "UUID"
  | dateTime _ => "datetime"
  | list _ => "list"
  | tuple _ => "tuple"
  | map _ => "dict"
  | model .record _ => "Record"
  | model .person _ => "Person"
  | expression _ => "FilterExpression"

/-- The number that a value is; a truth value is 0 or 1. -/
def number? : Value → Option Number
  | bool b => some (.int (if b then 1 else 0))
  | int n => some (.int n)
  | float x => some (.float x)
  | decimal d => some (.decimal d)
  | fraction q => some (.fraction q)
  | complex re im => some (.complex re im)
  | _ => none

def ofNumber : Number → Value
  | .int n => int n
  | .float x => float x
  | .decimal d => decimal d
  | .fraction q => fraction q
  | .complex re im => complex re im

def isNull : Value → Bool
  | null => true
  | _ => false

/-- Whether a value counts as true: null, false, zero and everything empty do not. -/
def truthy : Value → Bool
  | null => false
  | bool b => b
  | int n => n ≠ 0
  | float x => !x.isZero
  | decimal d => !d.isZero
  | fraction q => q ≠ 0
  | complex re im => !(re.isZero && im.isZero)
  | str s => s ≠ ""
  | bytes bs => !bs.isEmpty
  | list items | tuple items => !items.isEmpty
  | map entries => !entries.isEmpty
  | expression conditions => !conditions.isEmpty
  | decimal128 _ | objectId _ | uuid _ | dateTime _ | model .. => true

/-- The values met when going through a value: the items of a list or tuple, the
characters of a text, the keys of a map, the numbers of bytes, the named fields
of a model. Other values have none to go through. -/
def items? : Value → Option (List Value)
  | list items | tuple items => some items
  | str s => some (s.toList.map fun c => str c.toString)
  | map entries => some (entries.map (·.1))
  | bytes bs => some (bs.map fun b => int b.toNat)
  | model _ fields => some (fields.map fun (name, v) => tuple [str name, v])
  | _ => none

def items (v : Value) : Except Misuse (List Value) :=
  match v.items? with
  | some items => .ok items
  | none => .error .wrongType

def size? : Value → Option Nat
  | list items | tuple items => some items.length
  | str s => some s.length
  | map entries => some entries.length
  | bytes bs => some bs.length
  | expression conditions => some conditions.length
  | _ => none

end Value

end DocQuery
