import DocQuery.Operator.Transform
import DocQuery.Traced

/-!
# Filter expressions

`Expression.ofEntries` reads a filter as it is sent by a caller into a list of
conditions. A key `and` or `or` with a list combines sub-filters, a map under any
other key is an operator clause, and everything else is a literal. Lenient
reading makes do with what it can use of a malformed filter; strict reading
refuses it at the first malformed part. Keys that are no texts are written as texts, and
one that cannot be written is refused by both.
-/

namespace DocQuery

namespace Expression

/-- Refuses a malformed part of a filter when reading is strict, and notes it
when it is lenient. -/
def refuse (options : CompilerOptions) (path : Path) (cause : Malformed) (note : String) :
    Traced Unit :=
  if options.strict then Traced.fail (Fault.malformed cause (some path)).worded
  else Traced.note .expression .debug note

def checkField (options : CompilerOptions) (path : Path) (field : String) : Traced Unit :=
  match Operator.combinator? field with
  | some combinator => refuse options path (.notList combinator)
      ("'" ++ field ++ "' without a list of filters is treated as a field")
  | none => pure ()

def ofClause (options : CompilerOptions) (path : Path) (field : String) (entries : Entries) :
    Traced Condition :=
  match entries with
  | [] =>
    if options.strict then Traced.fail (.malformed .emptyClause (some path))
    else pure (.literal field (.map []))
  | [(name, operand)] => do
    let name ← Traced.ofOperand name.write
    pure (.operator field name operand)
  | (name, operand) :: _ => do
    refuse options path (.manyOperators (entries.map (·.1)))
      ("Operator clause at " ++ path.text ++ " has " ++ toString entries.length ++
        " keys, using '" ++ name.text ++ "'")
    let name ← Traced.ofOperand name.write
    pure (.operator field name operand)

/-- A condition that combines sub-filters; strict reading asks for at least one. -/
def ofBranches (options : CompilerOptions) (path : Path) (combinator : Operator)
    (filters : List Expression) : Traced Condition :=
  if filters.isEmpty && options.strict then
    Traced.fail (.malformed (.noBranches combinator) (some path))
  else pure (.logical combinator filters)

mutual
def ofEntries (options : CompilerOptions) (path : Path) :
    List (Value × Value) → Traced (List Condition)
  | [] => pure []
  | (key, v) :: rest => do
    let field ← Traced.ofOperand key.write
    let condition ← ofEntry options (path ++ [.field field]) field v
    let conditions ← ofEntries options path rest
    pure (condition :: conditions)

def ofEntry (options : CompilerOptions) (path : Path) (field : String) :
    Value → Traced Condition
  | .list items => match Operator.combinator? field with
    | some combinator => do
      let filters ← branches options path 0 items
      ofBranches options path combinator filters
    | none => pure (.literal field (.list items))
  | .tuple items => match Operator.combinator? field with
    | some combinator => do
      let filters ← branches options path 0 items
      ofBranches options path combinator filters
    | none => pure (.literal field (.tuple items))
  | .map entries => do
    checkField options path field
    ofClause options path field entries
  | v => do
    checkField options path field
    pure (.literal field v)

/-- Reads the sub-filters of a combinator, from the index of the first one on.
Elements that are not maps are dropped. -/
def branches (options : CompilerOptions) (path : Path) (index : Nat) :
    List Value → Traced (List (List Condition))
  | [] => pure []
  | .map entries :: rest => do
    let conditions ← ofEntries options (path ++ [.index index]) entries
    let more ← branches options path (index + 1) rest
    pure (conditions :: more)
  | v :: rest => do
    let here := path ++ [.index index]
    refuse options here (.branchNotMap v.typeName)
      ("Sub-filter at " ++ Path.text here ++ " is not a mapping, dropping it")
    branches options path (index + 1) rest
end

/-- Reads a filter. No filter is the empty expression, and a parsed expression
is itself. -/
def ofValue (options : CompilerOptions) : Value → Traced Expression
  | .expression conditions => pure conditions
  | .null => pure []
  | .map entries => ofEntries options [] entries
  | v => Traced.fail (.malformed (.notMap v.typeName) (some []))

end Expression

end DocQuery
