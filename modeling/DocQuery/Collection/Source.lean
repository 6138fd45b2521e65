import DocQuery.Connection
import DocQuery.Document.Model
import DocQuery.Selector

/-!
# Data sources

A data source reads and writes one collection. It compiles the filters it is
given, and reads the documents it fetches into models if it has a schema.
-/

namespace DocQuery

structure SourceOptions where
  /-- The page size of listings that are not given one. -/
  limit : Value
  /-- The database; null is the client's default one. -/
  database : Value

def SourceOptions.standard : SourceOptions := ⟨.int 20, .null⟩

/-- A source of documents: one collection, and how it is read and written. -/
structure DataSource where
  collection : String
  options : SourceOptions
  schema : Option Schema
  compiler : Compiler
  /-- What the server keeps for those who use the source. -/
  context : Value

namespace DataSource

def create (collection : Value) (options : SourceOptions) (schema : Option Schema)
    (compiler : Compiler) : Except Fault DataSource :=
  match collection with
  | .str name =>
    if name = "" then .error .noCollectionName
    else .ok ⟨name, options, schema, compiler, .null⟩
  | _ => .error .noCollectionName

def configure (source : DataSource) (config : Value) : Except Misuse DataSource :=
  match config with
  | .map entries =>
    .ok { source with context := (Entries.get? entries (.str "context")).getD .null }
  | config => .error (config.lacks "get")

def openCollection (source : DataSource) : Action Namespace := do
  let database ← openDatabase source.options.database
  let _ ← Action.call (.openCollection source.collection)
  pure ⟨database, source.collection⟩

/-- A fetched document as the caller gets it: read into a model if there is a
schema; no document stays none. -/
def decode (source : DataSource) (document : Value) : Except Fault Value :=
  match document, source.schema with
  | .null, _ | _, none => .ok document
  | document, some schema => Model.ofDocument schema "id" document

def fetch (source : DataSource) (client : Client) : Action (List Value) := do
  let results ← Action.ofExcept (client.documents.mapM source.decode)
  let _ ← Action.call .exhaust
  pure results

/-- The selector that a caller gives in the store's own form; none selects
everything. -/
def rawSelector (filter : Value) : Except Misuse Value :=
  if filter.truthy then do pure (.map (← filter.entries)) else .ok (.map [])

def idSelector (id : ObjectId) : Value := .ofFields [("_id", .objectId id)]

def idsSelector (ids : List ObjectId) : Value :=
  .ofFields [("_id", .single "$in" (.list (ids.map .objectId)))]

def objectIds : List Value → Except Fault (List ObjectId)
  | [] => .ok []
  | v :: rest => match v.objectId? with
    | none => .error (Fault.invalidId v).worded
    | some id => do pure (id :: (← objectIds rest))

/-- The object ids that a caller gives: one text, or several values. -/
def idList : Value → Except Fault (List ObjectId)
  | .str s => objectIds [.str s]
  | ids => do objectIds (← orFault ids.items)

end DataSource

end DocQuery
