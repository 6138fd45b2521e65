import DocQuery.Misuse
import DocQuery.Text.Similarity
import DocQuery.Value.Text

/-!
# Faults

Everything that can go wrong, by its cause: a filter of the wrong shape, an
unknown operator, a document that cannot be stored or read, a client that is
missing or fails, an operand that is refused. `Fault.message` words them.
-/

namespace DocQuery

inductive PathStep where
  | field (name : String)
  | index (i : Nat)
  deriving DecidableEq, Repr

abbrev Path := List PathStep

def PathStep.text : PathStep → String
  | field name => "." ++ name
  | index i => "[" ++ toString i ++ "]"

def Path.text (path : Path) : String := "<root>" ++ String.join (path.map PathStep.text)

inductive Malformed where
  | notMap (found : String)
  | notList (combinator : Operator)
  | emptyClause
  | manyOperators (names : List Value)
  | branchNotMap (found : String)
  | noBranches (combinator : Operator)
  | notRange (operand : Value)

def Malformed.message : Malformed → String
  | notMap found => "Filter must be a mapping, got " ++ found
  | notList combinator => "'" ++ combinator.name ++ "' requires a list of filters"
  | emptyClause => "Operator clause is empty"
  | manyOperators names =>
    "Operator clause must have exactly one operator, got " ++ (Value.list names).literal
  | branchNotMap found => "Sub-filter must be a mapping, got " ++ found
  | noBranches combinator => "'" ++ combinator.name ++ "' requires a non-empty list of filters"
  | notRange operand => "between requires a list of two values, got " ++ operand.literal

inductive DriverFault where
  | request (message : String)
  | configuration (message : String)
  | value (message : String)
  | type (message : String)
  deriving DecidableEq, Repr

def DriverFault.message : DriverFault → String
  | request message | configuration message | value message | type message => message

/-- Whether the driver itself failed, not an argument. -/
def DriverFault.isFailure : DriverFault → Bool
  | request _ | configuration _ => true
  | value _ | type _ => false

inductive Fault where
  | malformed (cause : Malformed) (path : Option Path)
  | unknownOperator (name : String) (valid : List String)
  | noCollectionName
  /-- What should become a model is not a map. -/
  | notDocument
  /-- What should be stored is neither a map nor a model. -/
  | notPayload (found : String)
  | invalidModel
  | notConnected
  | noDefaultDatabase
  | connectFailed (message : String)
  | requestFailed (message : String)
  | invalidId (id : Value)
  /-- A fault of the driver that is passed on as it is. -/
  | driver (fault : DriverFault)
  | misuse (cause : Misuse)

def sortedWords (words : List String) : List String :=
  words.mergeSort fun a b => !decide (b < a)

def unknownOperatorMessage (name : String) (valid close : List String) : String :=
  "Unknown operator: '" ++ name ++ "'." ++
    (if close.isEmpty then "" else " Did you mean: " ++ ", ".intercalate close ++ "?") ++
    " Valid operators: " ++ ", ".intercalate (sortedWords valid)

/-- The wording of a fault. What the driver or an operand is at fault for has
none of its own. -/
def Fault.message : Fault → String
  | malformed cause _ => cause.message
  | unknownOperator name valid => unknownOperatorMessage name valid (closeMatches name valid)
  | noCollectionName => "MongoDataSource needs a collection name."
  | notDocument => "Document must be a mapping"
  | notPayload found => "Document must be a mapping or a pydantic model, got " ++ found
  | invalidModel => ""
  | notConnected => "Not connected; call connect() first"
  | noDefaultDatabase => "No default database in connection URL; pass a database name"
  | connectFailed message | requestFailed message => message
  | invalidId id => "Invalid document id: " ++ id.literal
  | driver fault => fault.message
  | misuse _ => ""

def Malformed.isWritable : Malformed → Bool
  | manyOperators names => (Value.list names).isWritable
  | notRange operand => operand.isWritable
  | _ => true

def Fault.isWritable : Fault → Bool
  | malformed cause _ => cause.isWritable
  | invalidId id => id.isWritable
  | _ => true

/-- A fault as it is raised. Its message is worded then, which fails before the fault
does if a value in it cannot be written. -/
def Fault.worded (fault : Fault) : Fault :=
  if fault.isWritable then fault else .misuse .badValue

def orFault (x : Except Misuse α) : Except Fault α := x.mapError .misuse

end DocQuery
