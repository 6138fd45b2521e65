/-!
# Operators

The operators of filter expressions and the names they are written with. One
operator has a second, deprecated name.
-/

namespace DocQuery

inductive Operator where
  | eq | ne | lt | le | gt | ge
  | oneOf | between
  | present
  | contains | notContains | startsWith | endsWith
  | and | or
  deriving DecidableEq, Repr

namespace Operator

def all : List Operator :=
  [eq, ne, lt, le, gt, ge, oneOf, between, present, contains, notContains, startsWith, endsWith,
    and, or]

def name : Operator → String
  | eq => "eq"
  | ne => "ne"
  | lt => "lt"
  | le => "le"
  | gt => "gt"
  | ge => "ge"
  | oneOf => "in"
  | between => "between"
  | present => "exists"
  | contains => "contains"
  | notContains => "notContains"
  | startsWith => "startsWith"
  | endsWith => "endsWith"
  | and => "and"
  | or => "or"

def constant : Operator → String
  | eq => "EQ"
  | ne => "NE"
  | lt => "LT"
  | le => "LE"
  | gt => "GT"
  | ge => "GE"
  | oneOf => "IN"
  | between => "BETWEEN"
  | present => "EXISTS"
  | contains => "CONTAINS"
  | notContains => "NOT_CONTAINS"
  | startsWith => "STARTSWITH"
  | endsWith => "ENDSWITH"
  | and => "AND"
  | or => "OR"

theorem name_injective : ∀ {a b : Operator}, a.name = b.name → a = b := by
  intro a b
  cases a <;> cases b <;> decide

def ofName? (name : String) : Option Operator := all.find? (·.name == name)

theorem ofName?_name (op : Operator) : ofName? op.name = some op := by cases op <;> decide

def deprecatedName : String := "beginsWith"

def ofDeprecated? (name : String) : Option Operator :=
  if name = deprecatedName then some startsWith else none

/-- The operator that a name stands for, a deprecated name included. -/
def resolve? (name : String) : Option Operator := (ofName? name).or (ofDeprecated? name)

def isLogical : Operator → Bool
  | and | or => true
  | _ => false

def combinator? (name : String) : Option Operator := (ofName? name).filter isLogical

end Operator

end DocQuery
