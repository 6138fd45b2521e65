import DocQuery.Text.Integer
import DocQuery.Text.Quoted
import DocQuery.Value.Basic

/-!
# Texts of values

`Value.text` is the text of a value by itself, `Value.literal` its text inside
another one or in a message: a string is then quoted and a number names its type
where that does not show. The literal of a container holds the literals of its
items. Both are the texts that a value has; whether they can be written is told
by `Value.isWritable`, since an integer of too many digits cannot, and
`Value.write` is the text of a value if it can be.
-/

namespace DocQuery

/-- Items between commas; a single item of a tuple is followed by one. -/
def tupleText : List String → String
  | [single] => "(" ++ single ++ ",)"
  | texts => "(" ++ ", ".intercalate texts ++ ")"

namespace Value

def decimal128Text (d : Decimal128) : String := if d.value.isNaN then "NaN" else d.value.text

mutual
def literal : Value → String
  | null => "None"
  | bool b => if b then "True" else "False"
  | int n => toString n
  | float x => x.text
  | decimal d => "Decimal('" ++ d.text ++ "')"
  | decimal128 d => "Decimal128('" ++ decimal128Text d ++ "')"
  | fraction q => "Fraction(" ++ toString q.num ++ ", " ++ toString q.den ++ ")"
  | complex re im => complexText re im
  | str s => quoteText s
  | bytes bs => quoteBytes bs
  | objectId id => "ObjectId('" ++ id.text ++ "')"
  | uuid id => "UUID('" ++ id.text ++ "')"
  | dateTime t => "datetime.datetime(" ++ ", ".intercalate (t.fields.map toString) ++ ")"
  | list items => "[" ++ ", ".intercalate (literals items) ++ "]"
  | tuple items => tupleText (literals items)
  | map entries => "\x7b" ++ ", ".intercalate (entryLiterals entries) ++ "\x7d"
  | model .record fields => "Record(" ++ ", ".intercalate (fieldLiterals fields) ++ ")"
  | model .person fields => "Person(" ++ ", ".intercalate (fieldLiterals fields) ++ ")"
  | expression conditions =>
    "FilterExpression(conditions=" ++ tupleText (conditionLiterals conditions) ++ ")"

def literals : List Value → List String
  | [] => []
  | v :: rest => literal v :: literals rest

def entryLiterals : List (Value × Value) → List String
  | [] => []
  | (k, v) :: rest => (literal k ++ ": " ++ literal v) :: entryLiterals rest

def fieldLiterals : List (String × Value) → List String
  | [] => []
  | (name, v) :: rest => (name ++ "=" ++ literal v) :: fieldLiterals rest

def conditionLiterals : List Condition → List String
  | [] => []
  | c :: rest => conditionLiteral c :: conditionLiterals rest

def conditionLiteral : Condition → String
  | .literal field v =>
    "LiteralCondition(field=" ++ quoteText field ++ ", value=" ++ literal v ++ ")"
  | .operator field name operand =>
    "OperatorCondition(field=" ++ quoteText field ++ ", operator=" ++ quoteText name ++
      ", operand=" ++ literal operand ++ ")"
  | .logical combinator branches =>
    "LogicalCondition(operator=<FilterOperator." ++ combinator.constant ++ ": " ++
      quoteText combinator.name ++ ">, expressions=" ++ tupleText (branchLiterals branches) ++ ")"

def branchLiterals : List (List Condition) → List String
  | [] => []
  | conditions :: rest =>
    ("FilterExpression(conditions=" ++ tupleText (conditionLiterals conditions) ++ ")") ::
      branchLiterals rest
end

def text : Value → String
  | str s => s
  | decimal d => d.text
  | decimal128 d => decimal128Text d
  | fraction q => fractionText q
  | objectId id => id.text
  | uuid id => id.text
  | dateTime t => t.text
  | model _ fields => " ".intercalate (fieldLiterals fields)
  | v => literal v

end Value

def Integer.isWritable (n : Int) : Bool := decimalLength n.natAbs ≤ digitLimit

theorem Integer.isWritable_iff : isWritable n ↔ n.natAbs < tenPow digitLimit := by
  rw [isWritable, decide_eq_true_iff]
  exact decimalLength_le_iff (by decide)

theorem Integer.isWritable_tenPow : isWritable (tenPow k) ↔ k < digitLimit := by
  rw [isWritable_iff, Int.natAbs_natCast, tenPow_lt_tenPow]

namespace Value

mutual
/-- Whether every integer in a value is short enough to be written. -/
def isWritable : Value → Bool
  | int n => Integer.isWritable n
  | fraction q => Integer.isWritable q.num && Integer.isWritable q.den
  | list items | tuple items => itemsWritable items
  | map entries => entriesWritable entries
  | model _ fields => fieldsWritable fields
  | expression conditions => conditionsWritable conditions
  | _ => true

def itemsWritable : List Value → Bool
  | [] => true
  | v :: rest => isWritable v && itemsWritable rest

def entriesWritable : List (Value × Value) → Bool
  | [] => true
  | (k, v) :: rest => isWritable k && isWritable v && entriesWritable rest

def fieldsWritable : List (String × Value) → Bool
  | [] => true
  | (_, v) :: rest => isWritable v && fieldsWritable rest

def conditionsWritable : List Condition → Bool
  | [] => true
  | c :: rest => conditionWritable c && conditionsWritable rest

def conditionWritable : Condition → Bool
  | .literal _ v => isWritable v
  | .operator _ _ operand => isWritable operand
  | .logical _ branches => branchesWritable branches

def branchesWritable : List (List Condition) → Bool
  | [] => true
  | conditions :: rest => conditionsWritable conditions && branchesWritable rest
end

def write (v : Value) : Except Misuse String :=
  if v.isWritable then .ok v.text else .error .badValue

end Value

end DocQuery
