import DocQuery.Collection.Source
import DocQuery.Page
import DocQuery.Query.Pipeline
import DocQuery.Query.Projection

/-!
# Reading a collection

Searches by a selector in the store's own form, searches by a filter, and
listings page by page. A listing counts the documents that match, fetches one
page of them, and adds the page info.
-/

namespace DocQuery

namespace DataSource

def findOne (source : DataSource) (filter fields : Value) : Action Value := do
  let client ← Action.guarded do
    let ns ← source.openCollection
    let selector ← Action.ofOperand (rawSelector filter)
    let fields ← Action.ofOperand (projection fields)
    Action.call (.findOne ns selector fields)
  Action.ofExcept (source.decode client.document)

def find (source : DataSource) (filter : Value) : Action Value :=
  Action.guarded do
    let ns ← source.openCollection
    let selector ← Action.ofOperand (rawSelector filter)
    let client ← Action.call (.find ns selector none)
    pure (.list (← source.fetch client))

def selectorOf (source : DataSource) (filter : Value) : Action Value := do
  let fields ← Action.ofTraced (source.compiler.compile filter)
  pure (.ofFields fields)

def sortCursor (order : SortOrder) : Action Unit :=
  if order.isEmpty then pure ()
  else do
    let _ ← Action.call (.sort order)

def all (source : DataSource) (filter fields order : Value) : Action Value := do
  let selector ← source.selectorOf filter
  let order ← Action.ofOperand (SortOrder.ofValue order)
  Action.guarded do
    let ns ← source.openCollection
    let fields ← Action.ofOperand (projection fields)
    let client ← Action.call (.find ns selector (some fields))
    sortCursor order
    pure (.list (← source.fetch client))

/-- How many documents a selector selects. The store's estimate is faster, but
counts everything. -/
def count (source : DataSource) (selector : Value) : Action Value := do
  let ns ← source.openCollection
  if selector.truthy then
    pure (← Action.call (.countDocuments ns selector)).exactCount
  else
    Action.note .dataSource .debug ("Counting " ++ source.collection ++ " without filter")
    pure (← Action.call (.estimateCount ns)).estimatedCount

/-- The page size of a listing: the caller's, at least 1, or the source's own. -/
def pageLimit (source : DataSource) (limit : Value) : Except Misuse Value :=
  if limit.isNull then .ok source.options.limit else limit.atLeast 1

structure Listing where
  page : Value
  limit : Value
  order : Value
  filter : Value

def listPage (source : DataSource) (listing : Listing) : Action Page := do
  let page ← Action.ofOperand (pageNumber listing.page)
  let limit ← Action.ofOperand (source.pageLimit listing.limit)
  let selector ← source.selectorOf listing.filter
  let order ← Action.ofOperand (SortOrder.ofValue listing.order)
  let (total, items) ← Action.guarded do
    let total ← source.count selector
    let ns ← source.openCollection
    let client ← Action.call (.find ns selector none)
    sortCursor order
    let skip ← Action.ofOperand (skipFor (.int page) limit)
    let _ ← Action.call (.skip skip)
    let _ ← Action.call (.limit limit)
    pure (total, ← source.fetch client)
  let info ← Action.ofOperand (PageInfo.of total (.int page) limit)
  pure ⟨info, items⟩

def listAggregation (source : DataSource) (stages : Value) (listing : Listing) : Action Page := do
  let page ← Action.ofOperand (pageNumber listing.page)
  let limit ← Action.ofOperand (source.pageLimit listing.limit)
  let selector ← source.selectorOf listing.filter
  let order ← Action.ofOperand (SortOrder.ofValue listing.order)
  let skip ← Action.ofOperand (skipFor (.int page) limit)
  let pipeline ← Action.ofTraced
    (Pipeline.build ⟨selector, stages, order.toValue, skip, limit⟩)
  let (total, items) ← Action.guarded do
    let total ← source.count selector
    let ns ← source.openCollection
    let client ← Action.call (.aggregate ns pipeline)
    pure (total, ← source.fetch client)
  let info ← Action.ofOperand (PageInfo.of total (.int page) limit)
  pure ⟨info, items⟩

/-- The document with an id; none if the id is not valid. -/
def getById (source : DataSource) (id : Value) : Action Value :=
  match id.objectId? with
  | some oid => source.findOne (idSelector oid) .null
  | none => do
    Action.note .dataSource .debug ("Invalid ObjectId " ++ id.literal)
    pure .null

end DataSource

end DocQuery
