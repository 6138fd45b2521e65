import DocQuery.Fault
import DocQuery.Value.Sequence

/-!
# Error reports

The faults that this library answers for fall into categories, each a special
case of its parent. A report names the category, words the fault and lists its
details for a caller's error response.
-/

namespace DocQuery

inductive Category where
  | dataSource
  | filterCompile
  | filterExpression
  | unknownOperator
  | configuration
  | persistence
  | connection
  | query
  deriving DecidableEq, Repr

namespace Category

def all : List Category :=
  [dataSource, filterCompile, filterExpression, unknownOperator, configuration, persistence,
    connection, query]

def name : Category → String
  | dataSource => "DataSourceError"
  | filterCompile => "FilterCompileError"
  | filterExpression => "FilterExpressionError"
  | unknownOperator => "UnknownOperatorError"
  | configuration => "DataSourceConfigurationError"
  | persistence => "MongoPersistenceError"
  | connection => "MongoConnectionError"
  | query => "MongoQueryError"

def ofName? (name : String) : Option Category := all.find? (·.name == name)

/-- A category and those it is a special case of, the nearest first. -/
def lineage : Category → List Category
  | dataSource => [dataSource]
  | filterCompile => [filterCompile, dataSource]
  | filterExpression => [filterExpression, filterCompile, dataSource]
  | unknownOperator => [unknownOperator, filterCompile, dataSource]
  | configuration => [configuration, dataSource]
  | persistence => [persistence, dataSource]
  | connection => [connection, persistence, dataSource]
  | query => [query, persistence, dataSource]

end Category

/-- A fault as a caller sees it. -/
structure Report where
  category : Category
  message : String
  details : Fields

namespace Report

def plain (category : Category) (message : String) : Report :=
  ⟨category, message, [("error", .str category.name), ("message", .str message)]⟩

def malformed (message path : Value) : Report :=
  ⟨.filterExpression, message.text,
    [("error", .str "FILTER_EXPRESSION_ERROR"), ("message", message), ("path", path)]⟩

def unknownOperator (operator : Value) (valid close : List String) : Report :=
  ⟨.unknownOperator, unknownOperatorMessage operator.text valid close,
    [("error", .str "OPERATOR_NOT_FOUND"), ("operator", operator),
      ("suggestions", .list (close.map .str)),
      ("valid_operators", .list ((sortedWords valid).map .str))]⟩

def ofArguments (category : Category) (arguments : List Value) : Except Misuse Report :=
  match category, arguments with
  | .filterExpression, [message] => do
    let _ ← message.write
    pure (malformed message .null)
  | .filterExpression, [message, path] => do
    let _ ← message.write
    pure (malformed message path)
  | .filterExpression, _ => .error .wrongType
  | .unknownOperator, [operator, valid] => do
    let valid ← valid.items
    let close ← operator.closeMatches valid
    let _ ← operator.write
    pure (unknownOperator operator (← valid.mapM Value.asText) close)
  | .unknownOperator, _ => .error .wrongType
  | category, [] => .ok (plain category "")
  | category, [message] => do pure (plain category (← message.write))
  | category, arguments => do pure (plain category (← (Value.tuple arguments).write))

end Report

def Fault.category? : Fault → Option Category
  | malformed .. => some .filterExpression
  | unknownOperator .. => some .unknownOperator
  | noCollectionName => some .configuration
  | notDocument | notPayload _ | invalidModel => some .persistence
  | notConnected | noDefaultDatabase | connectFailed _ => some .connection
  | requestFailed _ | invalidId _ => some .query
  | driver _ | misuse _ => none

def Fault.report? (fault : Fault) : Option Report :=
  match fault with
  | malformed cause path =>
    some (.malformed (.str cause.message) (path.elim .null fun p => .str p.text))
  | unknownOperator name valid =>
    some (.unknownOperator (.str name) valid (closeMatches name valid))
  | fault => fault.category?.map fun category => .plain category fault.message

end DocQuery
