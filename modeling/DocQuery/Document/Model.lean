import DocQuery.Traced
import DocQuery.Value.Key

/-!
# Models and documents

A document store knows fewer types than a model: it has a decimal format of its
own, no unique ids and no fractions, and it names the id of a document `_id`.
`Model.toDocument` and `Model.ofDocument` convert in both directions; a model
becomes a document in two steps, first in plain form and then in the types of the
store.
-/

namespace DocQuery

def idKey : Value := .str "_id"

def Value.objectId? : Value → Option ObjectId
  | .objectId id => some id
  | .str s => ObjectId.ofText? s
  | _ => none

namespace Model

-- ---------------------------------------------------------------------------
-- From models to documents
-- ---------------------------------------------------------------------------

mutual
/-- A value in plain form: a model is the map of its fields, an expression that of
its conditions, and a fraction its text. Keys are plain too, so that two keys can
become one, of which the later value counts, and a key that becomes a map is
refused. -/
def plainValue : Value → Except Misuse Value
  | .fraction q => do pure (.str (← (Value.fraction q).write))
  | .list items => do pure (.list (← plainValues items))
  | .tuple items => do pure (.tuple (← plainValues items))
  | .map entries => do pure (.map (← Entries.putAll [] (← plainEntries entries)))
  | .model _ fields => do pure (.map (← plainFields fields))
  | .expression conditions => do
    pure (.single "conditions" (.tuple (← plainConditions conditions)))
  | v => .ok v

def plainValues : List Value → Except Misuse (List Value)
  | [] => .ok []
  | v :: rest => do
    let v ← plainValue v
    pure (v :: (← plainValues rest))

def plainEntries : List (Value × Value) → Except Misuse (List (Value × Value))
  | [] => .ok []
  | (k, v) :: rest => do
    let k ← plainValue k
    let v ← plainValue v
    pure ((k, v) :: (← plainEntries rest))

def plainFields : List (String × Value) → Except Misuse (List (Value × Value))
  | [] => .ok []
  | (name, v) :: rest => do
    let v ← plainValue v
    pure ((.str name, v) :: (← plainFields rest))

def plainConditions : List Condition → Except Misuse (List Value)
  | [] => .ok []
  | c :: rest => do
    let c ← plainCondition c
    pure (c :: (← plainConditions rest))

def plainCondition : Condition → Except Misuse Value
  | .literal field v => do
    let v ← plainValue v
    pure (.ofFields [("field", .str field), ("value", v)])
  | .operator field name operand => do
    let v ← plainValue operand
    pure (.ofFields [("field", .str field), ("operator", .str name), ("operand", v)])
  | .logical combinator branches => do
    let expressions ← plainBranches branches
    pure (.ofFields [("operator", .str combinator.name), ("expressions", .tuple expressions)])

def plainBranches : List (List Condition) → Except Misuse (List Value)
  | [] => .ok []
  | conditions :: rest => do
    let items ← plainConditions conditions
    pure (.single "conditions" (.tuple items) :: (← plainBranches rest))
end

mutual
/-- A value in the types of the store: unique ids become texts, and decimals the
store's decimals if they fit. Tuples are kept as they are. -/
def storedValue : Value → Except Misuse Value
  | .uuid id => .ok (.str id.text)
  | .decimal d => do pure (.decimal128 (← d.toInterchange))
  | .list items => do pure (.list (← storedValues items))
  | .map entries => do pure (.map (← storedEntries entries))
  | v => .ok v

def storedValues : List Value → Except Misuse (List Value)
  | [] => .ok []
  | v :: rest => do
    let v ← storedValue v
    pure (v :: (← storedValues rest))

def storedEntries : List (Value × Value) → Except Misuse (List (Value × Value))
  | [] => .ok []
  | (k, v) :: rest => do
    let v ← storedValue v
    pure ((k, v) :: (← storedEntries rest))
end

/-- Moves the value of the id field to `_id`, as an object id if it spells one;
a null id is left out. -/
def nameId (idField : String) (entries : Entries) : Entries :=
  match entries.get? (.str idField) with
  | none => entries
  | some v =>
    let rest := entries.erase (.str idField)
    if v.isNull then rest
    else rest.put idKey (v.objectId?.elim v .objectId)

def toDocument (idField : String) (fields : Fields) : Except Misuse Entries := do
  let entries ← plainFields fields
  pure (nameId idField (← storedEntries entries))

/-- The document to insert or to update with: a model is converted, a map is
taken as it is. -/
def payload : Value → Except Fault Entries
  | .model _ fields => orFault (toDocument "id" fields)
  | .map entries => .ok entries
  | v => .error (.notPayload v.typeName)

-- ---------------------------------------------------------------------------
-- From documents to models
-- ---------------------------------------------------------------------------

mutual
/-- A value in the types of models: the store's decimals become decimals, and
object ids become texts. Tuples are kept as they are. -/
def loadedValue : Value → Value
  | .decimal128 d => .decimal d.value
  | .objectId id => .str id.text
  | .list items => .list (loadedValues items)
  | .map entries => .map (loadedEntries entries)
  | v => v

def loadedValues : List Value → List Value
  | [] => []
  | v :: rest => loadedValue v :: loadedValues rest

def loadedEntries : List (Value × Value) → List (Value × Value)
  | [] => []
  | (k, v) :: rest => (k, loadedValue v) :: loadedEntries rest
end

def unnameId (idField : String) (entries : Entries) : Entries :=
  match entries.get? idKey with
  | none => entries
  | some v => (entries.erase idKey).put (.str idField) v

def fieldsOf? : List (Value × Value) → Option Fields
  | [] => some []
  | (.str name, v) :: rest => (fieldsOf? rest).map ((name, v) :: ·)
  | _ :: _ => none

/-- The fields of a person: an id that is null or a text, a name, an age that is
an integer, and any data. Only the name is required. -/
def personFields? (entries : Entries) : Option Fields := do
  let id ← match (entries.get? (.str "id")).getD .null with
    | .null => some .null
    | .str s => some (.str s)
    | _ => none
  let name ← match entries.get? (.str "name") with
    | some (.str s) => some (.str s)
    | _ => none
  let age ← match (entries.get? (.str "age")).getD (.int 0) with
    | .int n => some (.int n)
    | _ => none
  pure [("id", id), ("name", name), ("age", age),
    ("data", (entries.get? (.str "data")).getD .null)]

def validate (schema : Schema) (entries : Entries) : Except Fault Value :=
  let fields? := match schema with
    | .record => fieldsOf? entries
    | .person => personFields? entries
  match fields? with
  | some fields => .ok (.model schema fields)
  | none => .error .invalidModel

def ofDocument (schema : Schema) (idField : String) : Value → Except Fault Value
  | .map entries => validate schema (loadedEntries (unnameId idField entries))
  | _ => .error .notDocument

end Model

end DocQuery
