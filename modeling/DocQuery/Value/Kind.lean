import DocQuery.Value.Basic

/-!
# Kinds of operands

What an operator looks at before it compares: whether an operand is a text, a
truth value, an array, a map, or a number that is whole or not.
-/

namespace DocQuery

inductive Kind where
  | string | int | float | boolean | array | object | other
  deriving DecidableEq, Repr

namespace Kind

def all : List Kind := [string, int, float, boolean, array, object, other]

def name : Kind → String
  | string => "string"
  | int => "int"
  | float => "float"
  | boolean => "boolean"
  | array => "array"
  | object => "object"
  | other => "other"

def ofName? (name : String) : Option Kind := all.find? (·.name == name)

/-- A number is an `int` when division by 1 leaves nothing of it, whatever its type. -/
def ofWhole (whole : Bool) : Kind := if whole then int else float

end Kind

def Value.kind : Value → Kind
  | .bool _ => .boolean
  | .int n => .ofWhole (n % 1 = 0)
  | .float x => .ofWhole x.isWhole
  | .decimal d => .ofWhole d.isWhole
  | .fraction q => .ofWhole (remainderRat q = 0)
  | .str _ => .string
  | .list _ | .tuple _ => .array
  | .map _ => .object
  | .null | .decimal128 _ | .complex .. | .bytes _ | .objectId _ | .uuid _ | .dateTime _ | .model ..
  | .expression _ => .other

end DocQuery
