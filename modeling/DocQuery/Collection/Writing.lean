import DocQuery.Collection.Reading
import DocQuery.Document.Cleaning
import DocQuery.Text.Case

/-!
# Writing to a collection

Inserting, deleting and updating documents. Ids are checked before a request is
sent; what an update sets is sent under `$set`.
-/

namespace DocQuery

namespace DataSource

def setUpdate (entries : Entries) : Value := .single "$set" (.map entries)

def add (source : DataSource) (document : Value) : Action Value := do
  let entries ← Action.ofExcept (Model.payload document)
  let client ← Action.guarded do
    let ns ← source.openCollection
    Action.call (.insertOne ns (.map entries))
  Action.ofExcept (source.decode (.map (entries.put idKey client.insertedId)))

def delete (source : DataSource) (id : Value) : Action Value :=
  match id.objectId? with
  | none => pure .null
  | some oid => do
    let client ← Action.guarded do
      let ns ← source.openCollection
      Action.call (.deleteOne ns (idSelector oid))
    pure (if client.deletedCount.truthy then client.deletedCount else .null)

def deleteMany (source : DataSource) (filter : Value) : Action Value := do
  let client ← Action.guarded do
    let ns ← source.openCollection
    let selector ← Action.ofOperand (rawSelector filter)
    Action.call (.deleteMany ns selector)
  pure client.deletedCount

def deleteManyById (source : DataSource) (ids : Value) : Action Value := do
  let ids ← Action.ofExcept (idList ids)
  source.deleteMany (idsSelector ids)

/-- Updates one document and returns it as it is then; null if there is none. -/
def update (source : DataSource) (id changes : Value) : Action Value :=
  match id.objectId? with
  | none => pure .null
  | some oid => do
    let entries ← Action.ofExcept (Model.payload changes)
    let changes := entries.erase idKey
    if changes.isEmpty then source.findOne (idSelector oid) .null
    else
      let client ← Action.guarded do
        let ns ← source.openCollection
        Action.call (.findOneAndUpdate ns (idSelector oid) (setUpdate changes) false true)
      Action.ofExcept (source.decode client.document)

/-- Sets the fields of an update that count as true on every listed document, and
returns how many were modified. -/
def updateMany (source : DataSource) (ids changes : Value) : Action Value := do
  let changes ← Action.ofOperand (cleanUpdate changes)
  if changes.isEmpty then
    Action.note .dataSource .debug "update_many: nothing to set after cleaning"
    pure (.int 0)
  else
    let client ← Action.guarded do
      let ns ← source.openCollection
      let ids ← Action.ofExcept (idList ids)
      Action.call (.updateMany ns (idsSelector ids) (setUpdate changes))
    pure client.modifiedCount

/-- Whether an update names update operators: whether any key starts with a
dollar sign. The keys are looked at in order until one does. -/
def namesOperators : Entries → Except Misuse Bool
  | [] => .ok false
  | (.str name, _) :: rest => if beginsWith '$' name then .ok true else namesOperators rest
  | (.bytes _, _) :: _ => .error .wrongType
  | _ :: _ => .error .noSuchMember

/-- Updates the document with an id, or inserts it, and returns it as it was
before. An update without update operators sets fields. -/
def findOneAndUpdate (source : DataSource) (id changes : Value) : Action Value :=
  match id.objectId? with
  | none => Action.fail (Fault.invalidId id).worded
  | some oid => do
    let entries ← Action.ofOperand changes.entries
    let direct ← Action.ofOperand (namesOperators entries)
    let client ← Action.guarded do
      let ns ← source.openCollection
      Action.call (.findOneAndUpdate ns (idSelector oid)
        (if direct then .map entries else setUpdate entries) true false)
    Action.ofExcept (source.decode client.document)

end DataSource

end DocQuery
