import DocQuery.Assoc
import DocQuery.Collection.Writing

/-!
# Operations on a collection

The operations of a data source as values, with their arguments, and how they
are made from named arguments.
-/

namespace DocQuery

inductive Operation where
  | findOne (filter fields : Value)
  | find (filter : Value)
  | all (filter fields order : Value)
  | listPage (listing : DataSource.Listing)
  | listAggregation (stages : Value) (listing : DataSource.Listing)
  | getById (id : Value)
  | add (document : Value)
  | delete (id : Value)
  | deleteManyById (ids : Value)
  | deleteMany (filter : Value)
  | update (id changes : Value)
  | updateMany (ids changes : Value)
  | findOneAndUpdate (id changes : Value)

inductive OperationResult where
  | value (v : Value)
  | page (page : Page)

def DataSource.perform (source : DataSource) : Operation → Action OperationResult
  | .findOne filter fields => .value <$> source.findOne filter fields
  | .find filter => .value <$> source.find filter
  | .all filter fields order => .value <$> source.all filter fields order
  | .listPage listing => .page <$> source.listPage listing
  | .listAggregation stages listing => .page <$> source.listAggregation stages listing
  | .getById id => .value <$> source.getById id
  | .add document => .value <$> source.add document
  | .delete id => .value <$> source.delete id
  | .deleteManyById ids => .value <$> source.deleteManyById ids
  | .deleteMany filter => .value <$> source.deleteMany filter
  | .update id changes => .value <$> source.update id changes
  | .updateMany ids changes => .value <$> source.updateMany ids changes
  | .findOneAndUpdate id changes => .value <$> source.findOneAndUpdate id changes

def checkArguments (required optional : List String) (arguments : Fields) : Except Misuse Unit :=
  if required.all (fun name => (Assoc.lookup name arguments).isSome) &&
      arguments.all (fun (name, _) => required.contains name || optional.contains name)
  then .ok ()
  else .error .wrongType

def argument (arguments : Fields) (name : String) : Value :=
  (Assoc.lookup name arguments).getD .null

def DataSource.Listing.ofArguments (arguments : Fields) : DataSource.Listing where
  page := (Assoc.lookup "page" arguments).getD (.int 1)
  limit := argument arguments "limit"
  order := argument arguments "sort"
  filter := argument arguments "filter"

def Pipeline.ofArguments (arguments : Fields) : Except Misuse Pipeline := do
  checkArguments ["match"] ["stages", "sort_list", "skip", "limit"] arguments
  let value := argument arguments
  pure ⟨value "match", value "stages", value "sort_list", value "skip", value "limit"⟩

namespace Operation

/-- How the operations are called, and what arguments they take. -/
structure Form where
  name : String
  required : List String
  optional : List String
  make : Fields → Operation

def forms : List Form :=
  let value := argument
  [⟨"find_one", [], ["filter", "projection"],
      fun a => .findOne (value a "filter") (value a "projection")⟩,
    ⟨"find", [], ["filter"], fun a => .find (value a "filter")⟩,
    ⟨"all", [], ["filter", "projection", "sort"],
      fun a => .all (value a "filter") (value a "projection") (value a "sort")⟩,
    ⟨"list_page", [], ["page", "limit", "sort", "filter"], fun a => .listPage (.ofArguments a)⟩,
    ⟨"list_aggregation", [], ["pipeline", "page", "limit", "sort", "filter"],
      fun a => .listAggregation (value a "pipeline") (.ofArguments a)⟩,
    ⟨"get_by_id", ["id"], [], fun a => .getById (value a "id")⟩,
    ⟨"add", ["document"], [], fun a => .add (value a "document")⟩,
    ⟨"delete", ["id"], [], fun a => .delete (value a "id")⟩,
    ⟨"delete_many_by_id", ["ids"], [], fun a => .deleteManyById (value a "ids")⟩,
    ⟨"delete_many", [], ["filter"], fun a => .deleteMany (value a "filter")⟩,
    ⟨"update", ["id", "document_update"], [],
      fun a => .update (value a "id") (value a "document_update")⟩,
    ⟨"update_many", ["ids", "document_update"], [],
      fun a => .updateMany (value a "ids") (value a "document_update")⟩,
    ⟨"find_one_and_update", ["id", "document_update"], [],
      fun a => .findOneAndUpdate (value a "id") (value a "document_update")⟩]

/-- The operation that a name and named arguments ask for. An unknown name is no
member of a data source. -/
def ofArguments (name : String) (arguments : Fields) : Except Misuse Operation :=
  match forms.find? (·.name == name) with
  | none => .error .noSuchMember
  | some form => do
    checkArguments form.required form.optional arguments
    pure (form.make arguments)

end Operation

end DocQuery
