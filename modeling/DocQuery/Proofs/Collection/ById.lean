import DocQuery.Collection.Operation
import DocQuery.Proofs.Collection.Opening
import DocQuery.Proofs.Value.ObjectId
import Mathlib.Data.List.Forall2

/-!
# Operations by id

What the operations that are given ids send to the server: nothing if an id is not
valid, and otherwise one request whose selector names exactly the documents with
those ids. `by_id_requests` says so of all six of them.
-/

namespace DocQuery

-- ---------------------------------------------------------------------------
-- Requests and operations
-- ---------------------------------------------------------------------------

def Call.selector? : Call → Option Value
  | .findOne _ selector _ | .find _ selector _ | .countDocuments _ selector
  | .deleteOne _ selector | .deleteMany _ selector | .updateMany _ selector _
  | .findOneAndUpdate _ selector .. => some selector
  | _ => none

inductive SelectsIds : Value → Prop
  | one (oid : ObjectId) : SelectsIds (.map [(.str "_id", .objectId oid)])
  | several (oids : List ObjectId) :
      SelectsIds (.map [(.str "_id", .map [(.str "$in", .list (oids.map .objectId))])])

/-- A call that, if it is a request, selects documents by id. -/
def Call.IsById (c : Call) : Prop :=
  c.isRequest = true → ∃ selector, c.selector? = some selector ∧ SelectsIds selector

/-- The values that a caller gives as ids: a text is one of them. -/
def Value.idItems? : Value → Option (List Value)
  | .str s => some [.str s]
  | .list items => some items
  | _ => none

namespace Operation

def id? : Operation → Option Value
  | .getById id | .delete id | .update id _ | .findOneAndUpdate id _ => some id
  | _ => none

def ids? : Operation → Option Value
  | .deleteManyById ids | .updateMany ids _ => some ids
  | _ => none

def payload? : Operation → Option Value
  | .update _ changes | .updateMany _ changes | .findOneAndUpdate _ changes => some changes
  | _ => none

def TextKeyed (operation : Operation) : Prop :=
  ∀ payload, operation.payload? = some payload →
    ∃ entries, payload = .map entries ∧ ∀ entry ∈ entries, ∃ name, entry.1 = .str name

/-- An update of several documents has something to set. -/
def Sets : Operation → Prop
  | .updateMany _ changes => ∃ entries, changes = .map entries ∧ ∃ entry ∈ entries, entry.2.truthy
  | _ => True

/-- What an operation on one document answers to a value that is no id. -/
def unnamed (id : Value) : Operation → Except Fault OperationResult
  | .findOneAndUpdate .. => .error (Fault.invalidId id).worded
  | _ => .ok (.value .null)

end Operation

namespace DataSource

open DocQuery.Action

variable {source : DataSource} {client : Client} {id ids : Value}

-- ---------------------------------------------------------------------------
-- Ids
-- ---------------------------------------------------------------------------

theorem objectIds_ok (h : List.Forall₂ Value.Names items oids) : objectIds items = .ok oids := by
  induction h with
  | nil => rfl
  | cons hv _ ih =>
    rw [objectIds, Value.objectId?_eq_some.mpr hv]
    dsimp only
    rw [ih]
    rfl

theorem objectIds_error (hb : ∀ v ∈ before, v.IsId) (hn : ¬ Value.IsId bad) :
    objectIds (before ++ bad :: after) = .error (Fault.invalidId bad).worded := by
  induction before with
  | nil => rw [List.nil_append, objectIds, Value.objectId?_eq_none.mpr hn]
  | cons v before ih =>
    obtain ⟨hv, hrest⟩ := List.forall_mem_cons.mp hb
    obtain ⟨oid, hoid⟩ := Option.ne_none_iff_exists'.mp
      fun h => (Value.objectId?_eq_none.mp h) hv
    rw [List.cons_append, objectIds, hoid]
    dsimp only
    rw [ih hrest]
    rfl

theorem idList_eq (h : ids.idItems? = some items) : idList ids = objectIds items := by
  cases ids with
  | str s =>
    cases h
    rfl
  | list items =>
    cases h
    rfl
  | _ => cases h

theorem namesOperators_ok (h : ∀ entry ∈ entries, ∃ name, entry.1 = .str name) :
    ∃ direct, namesOperators entries = .ok direct := by
  induction entries with
  | nil => exact ⟨false, rfl⟩
  | cons entry rest ih =>
    obtain ⟨key, v⟩ := entry
    obtain ⟨⟨name, rfl⟩, hrest⟩ := List.forall_mem_cons.mp h
    rw [namesOperators]
    split
    · exact ⟨true, rfl⟩
    · exact ih hrest

-- ---------------------------------------------------------------------------
-- What is sent
-- ---------------------------------------------------------------------------

theorem request_byId {c : Namespace → Call} {selector : Value}
    (hc : ∀ ns, (c ns).selector? = some selector) (hs : SelectsIds selector) :
    (source.request c).Only Call.IsById := by
  refine request_only (fun other ho hr => ?_) (fun ns _ => ⟨selector, hc ns, hs⟩)
  rw [ho] at hr
  cases hr

def Sends (source : DataSource) (client : Client) (selector : Value) (x : Action α) : Prop :=
  ∃ c, x.Makes (some client) (source.opening ++ [c]) ∧ c.isRequest = true ∧
    c.selector? = some selector

theorem Sends.bind_silent {x : Action α} {f : α → Action β} (hx : source.Sends client selector x)
    (hf : ∀ a, (f a).Makes (some client) []) : source.Sends client selector (x >>= f) := by
  obtain ⟨c, hmakes, hc⟩ := hx
  exact ⟨c, hmakes.bind_silent hf, hc⟩

theorem request_sends (ho : client.Opens source database) {c : Namespace → Call}
    (hr : ∀ ns, (c ns).isRequest = true) (hc : ∀ ns, (c ns).selector? = some selector) :
    source.Sends client selector (source.request c) :=
  ⟨_, request_makes ho c, hr _, hc _⟩

-- A selector by id is sent as it is.
theorem findOne_idSelector (source : DataSource) (oid : ObjectId) :
    source.findOne (idSelector oid) .null =
      (source.request fun ns => .findOne ns (idSelector oid) .null) >>= fun client =>
        ofExcept (source.decode client.document) := rfl

theorem deleteMany_idsSelector (source : DataSource) (oids : List ObjectId) :
    source.deleteMany (idsSelector oids) =
      (source.request fun ns => .deleteMany ns (idsSelector oids)) >>= fun client =>
        pure client.deletedCount := rfl

-- An update with nothing to set reads the document.
theorem update_reads (hid : id.objectId? = some oid) (hp : Model.payload changes = .ok entries)
    (hk : (entries.erase idKey).isEmpty = true) :
    source.update id changes = source.findOne (idSelector oid) .null := by
  simp only [update, hid, hp]
  change (if (entries.erase idKey).isEmpty then _ else _) = _
  rw [hk]
  rfl

theorem update_writes (hid : id.objectId? = some oid) (hp : Model.payload changes = .ok entries)
    (hk : (entries.erase idKey).isEmpty = false) :
    source.update id changes =
      (source.request fun ns => .findOneAndUpdate ns (idSelector oid)
        (setUpdate (entries.erase idKey)) false true) >>= fun client =>
          ofExcept (source.decode client.document) := by
  simp only [update, hid, hp]
  change (if (entries.erase idKey).isEmpty then _ else _) = _
  rw [hk]
  rfl

-- ---------------------------------------------------------------------------
-- Operations on one document
-- ---------------------------------------------------------------------------

theorem findOne_byId (oid : ObjectId) :
    (source.findOne (idSelector oid) .null).Only Call.IsById := by
  rw [findOne_idSelector]
  refine (request_byId (fun _ => rfl) (.one oid)).bind fun client => ?_
  exact .of_makes fun _ => (Runs.ofExcept _).makes

theorem getById_byId (id : Value) : (source.getById id).Only Call.IsById := by
  unfold getById
  split
  · exact findOne_byId _
  · exact .of_makes fun _ => (Runs.note_pure ..).makes

theorem delete_byId (id : Value) : (source.delete id).Only Call.IsById := by
  unfold delete
  split
  · exact .of_makes fun _ => (Runs.pure _).makes
  · refine (request_byId (fun _ => rfl) (.one _)).bind fun client => ?_
    exact .of_makes fun _ => (Runs.pure _).makes

theorem update_byId (id changes : Value) : (source.update id changes).Only Call.IsById := by
  unfold update
  split
  · exact .of_makes fun _ => (Runs.pure _).makes
  · refine (Only.of_makes fun _ => (Runs.ofExcept _).makes).bind fun entries => ?_
    dsimp only
    split
    · exact findOne_byId _
    · refine (request_byId (fun _ => rfl) (.one _)).bind fun client => ?_
      exact .of_makes fun _ => (Runs.ofExcept _).makes

theorem findOneAndUpdate_byId (id changes : Value) :
    (source.findOneAndUpdate id changes).Only Call.IsById := by
  unfold findOneAndUpdate
  split
  · exact .of_makes fun _ => (Runs.ofExcept _).makes
  · refine (Only.of_makes fun _ => (Runs.ofOperand _).makes).bind fun entries => ?_
    refine (Only.of_makes fun _ => (Runs.ofOperand _).makes).bind fun direct => ?_
    refine (request_byId (fun _ => rfl) (.one _)).bind fun client => ?_
    exact .of_makes fun _ => (Runs.ofExcept _).makes

theorem findOne_sends (ho : client.Opens source database) (oid : ObjectId) :
    source.Sends client (idSelector oid) (source.findOne (idSelector oid) .null) := by
  rw [findOne_idSelector]
  refine (request_sends ho (fun _ => rfl) fun _ => rfl).bind_silent fun client => ?_
  exact (Runs.ofExcept _).makes

theorem getById_sends (ho : client.Opens source database) (hid : id.objectId? = some oid) :
    source.Sends client (idSelector oid) (source.getById id) := by
  simp only [getById, hid]
  exact findOne_sends ho oid

theorem delete_sends (ho : client.Opens source database) (hid : id.objectId? = some oid) :
    source.Sends client (idSelector oid) (source.delete id) := by
  simp only [delete, hid]
  refine (request_sends ho (fun _ => rfl) fun _ => rfl).bind_silent fun client => ?_
  exact (Runs.pure _).makes

theorem update_sends (ho : client.Opens source database) (hid : id.objectId? = some oid)
    (hp : Model.payload changes = .ok entries) :
    source.Sends client (idSelector oid) (source.update id changes) := by
  cases hk : (entries.erase idKey).isEmpty with
  | true =>
    rw [update_reads hid hp hk]
    exact findOne_sends ho oid
  | false =>
    rw [update_writes hid hp hk]
    refine (request_sends ho (fun _ => rfl) fun _ => rfl).bind_silent fun client => ?_
    exact (Runs.ofExcept _).makes

theorem findOneAndUpdate_sends (ho : client.Opens source database) (hid : id.objectId? = some oid)
    (hk : ∀ entry ∈ entries, ∃ name, entry.1 = .str name) :
    source.Sends client (idSelector oid) (source.findOneAndUpdate id (.map entries)) := by
  obtain ⟨direct, hdirect⟩ := namesOperators_ok hk
  simp only [findOneAndUpdate, hid, Value.entries]
  change source.Sends client _ (ofOperand (namesOperators entries) >>= _)
  rw [hdirect]
  change source.Sends client _ (source.request _ >>= _)
  refine (request_sends ho (fun _ => rfl) fun _ => rfl).bind_silent fun client => ?_
  exact (Runs.ofExcept _).makes

section

variable {client? : Option Client} (hn : ¬ id.IsId)

include hn

theorem getById_unnamed : (source.getById id).Runs client? [] (.ok .null) := by
  simp only [getById, Value.objectId?_eq_none.mpr hn]
  exact .note_pure ..

theorem delete_unnamed : (source.delete id).Runs client? [] (.ok .null) := by
  simp only [delete, Value.objectId?_eq_none.mpr hn]
  exact .pure _

theorem update_unnamed : (source.update id changes).Runs client? [] (.ok .null) := by
  simp only [update, Value.objectId?_eq_none.mpr hn]
  exact .pure _

end

-- ---------------------------------------------------------------------------
-- Operations on several documents
-- ---------------------------------------------------------------------------

theorem deleteManyById_byId (ids : Value) : (source.deleteManyById ids).Only Call.IsById := by
  refine (Only.of_makes fun _ => (Runs.ofExcept _).makes).bind fun oids => ?_
  rw [deleteMany_idsSelector]
  refine (request_byId (fun _ => rfl) (.several oids)).bind fun client => ?_
  exact .of_makes fun _ => (Runs.pure _).makes

theorem updateMany_byId (ids changes : Value) :
    (source.updateMany ids changes).Only Call.IsById := by
  refine (Only.of_makes fun _ => (Runs.ofOperand _).makes).bind fun kept => ?_
  split
  · exact .of_makes fun _ => (Runs.note_pure ..).makes
  · refine Only.bind (Only.mapFault ?_) fun client => .of_makes fun _ => (Runs.pure _).makes
    refine (openCollection_only (fun c ho hr => ?_) source).bind fun ns => ?_
    · rw [ho] at hr
      cases hr
    refine (Only.of_makes fun _ => (Runs.ofExcept _).makes).bind fun oids => ?_
    exact .call fun _ => ⟨_, rfl, .several oids⟩

theorem deleteManyById_sends (ho : client.Opens source database) (hids : idList ids = .ok oids) :
    source.Sends client (idsSelector oids) (source.deleteManyById ids) := by
  simp only [deleteManyById, hids]
  change source.Sends client _ (source.deleteMany (idsSelector oids))
  rw [deleteMany_idsSelector]
  refine (request_sends ho (fun _ => rfl) fun _ => rfl).bind_silent fun client => ?_
  exact (Runs.pure _).makes

/-- With something to set, an update of several documents opens the collection
before it looks at the ids. -/
theorem updateMany_eq (hc : cleanUpdate changes = .ok kept) (hk : kept.isEmpty = false) :
    source.updateMany ids changes =
      (guarded do
        let ns ← source.openCollection
        let oids ← ofExcept (idList ids)
        Action.call (.updateMany ns (idsSelector oids) (setUpdate kept))) >>= fun client =>
          pure client.modifiedCount := by
  simp only [updateMany, hc]
  change (if kept.isEmpty then _ else _) = _
  rw [hk]
  rfl

theorem updateMany_sends (ho : client.Opens source database) (hc : cleanUpdate changes = .ok kept)
    (hk : kept.isEmpty = false) (hids : idList ids = .ok oids) :
    source.Sends client (idsSelector oids) (source.updateMany ids changes) := by
  rw [updateMany_eq hc hk, hids]
  change source.Sends client _ (source.request _ >>= _)
  refine (request_sends ho (fun _ => rfl) fun _ => rfl).bind_silent fun client => ?_
  exact (Runs.pure _).makes

theorem requestFault_invalidId (bad : Value) :
    requestFault (Fault.invalidId bad).worded = (Fault.invalidId bad).worded := by
  unfold Fault.worded
  split <;> rfl

theorem updateMany_refuses (ho : client.Opens source database) (hc : cleanUpdate changes = .ok kept)
    (hk : kept.isEmpty = false) (hids : idList ids = .error (Fault.invalidId bad).worded) :
    (source.updateMany ids changes).Runs (some client) source.opening
      (.error (Fault.invalidId bad).worded) := by
  rw [updateMany_eq hc hk, hids]
  refine Runs.bind_error ?_
  have hbody := ho.openCollection.bind_silent
    (f := fun ns => ofExcept (.error (Fault.invalidId bad).worded) >>= fun oids =>
      Action.call (.updateMany ns (idsSelector oids) (setUpdate kept)))
    (Runs.bind_error (.ofExcept _))
  have hraised := hbody.mapFault_error (g := requestFault)
  rwa [requestFault_invalidId] at hraised

theorem cleanUpdate_sets (hs : entry ∈ entries) (ht : entry.2.truthy = true) :
    ∃ kept, cleanUpdate (.map entries) = .ok kept ∧ kept.isEmpty = false := by
  refine ⟨_, rfl, List.isEmpty_eq_false_iff.mpr ?_⟩
  exact List.ne_nil_of_mem (List.mem_filter.mpr ⟨hs, ht⟩)

-- ---------------------------------------------------------------------------
-- All operations by id
-- ---------------------------------------------------------------------------

theorem perform_byId {operation : Operation}
    (h : operation.id?.isSome ∨ operation.ids?.isSome) :
    (source.perform operation).Only Call.IsById := by
  cases operation with
  | getById id => exact (getById_byId id).map _
  | delete id => exact (delete_byId id).map _
  | update id changes => exact (update_byId id changes).map _
  | findOneAndUpdate id changes => exact (findOneAndUpdate_byId id changes).map _
  | deleteManyById ids => exact (deleteManyById_byId ids).map _
  | updateMany ids changes => exact (updateMany_byId ids changes).map _
  | _ => exact absurd h (by simp [Operation.id?, Operation.ids?])

theorem Sends.map (hx : source.Sends client selector x) :
    source.Sends client selector (OperationResult.value <$> x) := by
  obtain ⟨c, hmakes, hc⟩ := hx
  exact ⟨c, hmakes.map _, hc⟩

theorem perform_unnamed {operation : Operation} (hid : operation.id? = some id)
    (hn : ¬ id.IsId) :
    (source.perform operation).Runs (some client) [] (operation.unnamed id) := by
  cases operation with
  | getById _ =>
    cases hid
    exact (getById_unnamed hn).map_ok _
  | delete _ =>
    cases hid
    exact (delete_unnamed hn).map_ok _
  | update _ changes =>
    cases hid
    exact (update_unnamed hn).map_ok _
  | findOneAndUpdate _ changes =>
    cases hid
    simp only [perform, findOneAndUpdate, Value.objectId?_eq_none.mpr hn]
    exact (Runs.ofExcept _).map_error _
  | _ => cases hid

theorem perform_sends {operation : Operation} (ho : client.Opens source database)
    (hk : operation.TextKeyed) (hid : operation.id? = some id) (hn : id.Names oid) :
    source.Sends client (idSelector oid) (source.perform operation) := by
  have hsome := Value.objectId?_eq_some.mpr hn
  cases operation with
  | getById _ =>
    cases hid
    exact (getById_sends ho hsome).map
  | delete _ =>
    cases hid
    exact (delete_sends ho hsome).map
  | update _ changes =>
    cases hid
    obtain ⟨entries, rfl, -⟩ := hk changes rfl
    exact (update_sends ho hsome rfl).map
  | findOneAndUpdate _ changes =>
    cases hid
    obtain ⟨entries, rfl, hentries⟩ := hk changes rfl
    exact (findOneAndUpdate_sends ho hsome hentries).map
  | _ => cases hid

theorem perform_sends_several {operation : Operation} (ho : client.Opens source database)
    (hs : operation.Sets) (hids : operation.ids? = some ids) (hl : idList ids = .ok oids) :
    source.Sends client (idsSelector oids) (source.perform operation) := by
  cases operation with
  | deleteManyById _ =>
    cases hids
    exact (deleteManyById_sends ho hl).map
  | updateMany _ changes =>
    cases hids
    obtain ⟨entries, rfl, entry, he, ht⟩ := hs
    obtain ⟨kept, hc, hkept⟩ := cleanUpdate_sets he ht
    exact (updateMany_sends ho hc hkept hl).map
  | _ => cases hids

theorem perform_refuses {operation : Operation} (ho : client.Opens source database)
    (hs : operation.Sets) (hids : operation.ids? = some ids)
    (hl : idList ids = .error (Fault.invalidId bad).worded) :
    ∃ made, (source.perform operation).Runs (some client) made
        (.error (Fault.invalidId bad).worded) ∧
      made.filter Call.isRequest = [] := by
  cases operation with
  | deleteManyById _ =>
    cases hids
    refine ⟨[], Runs.map_error _ ?_, rfl⟩
    simp only [deleteManyById, hl]
    exact (Runs.ofExcept _).bind_error
  | updateMany _ changes =>
    cases hids
    obtain ⟨entries, rfl, entry, he, ht⟩ := hs
    obtain ⟨kept, hc, hkept⟩ := cleanUpdate_sets he ht
    exact ⟨source.opening, (updateMany_refuses ho hc hkept hl).map_error _, rfl⟩
  | _ => cases hids

/-- Operations by id send requests that select documents by id and nothing else. On a
client that opens the collection, an operation on one document sends nothing and says
so if it is not given an id, and otherwise one request for the document of that id.
An operation on several documents sends one request for the documents of all ids, in
order, or sends nothing and names the first value that is none, if it can be written. -/
theorem by_id_requests (source : DataSource) (client : Client) (journal : Journal)
    (operation : Operation) (h : operation.id?.isSome ∨ operation.ids?.isSome) :
    ∃ made, (source.perform operation (some client) journal).2.calls = journal.calls ++ made ∧
      (∀ c ∈ made, c.isRequest = true →
        ∃ selector, c.selector? = some selector ∧ SelectsIds selector) ∧
      ∀ database, client.Opens source database → operation.TextKeyed →
        (∀ id, operation.id? = some id →
          (¬ id.IsId → made = [] ∧
            (source.perform operation (some client) journal).1 = operation.unnamed id) ∧
          (∀ oid, id.Names oid → ∃ c, made.filter Call.isRequest = [c] ∧
            c.selector? = some (.map [(.str "_id", .objectId oid)]))) ∧
        (∀ ids items, operation.ids? = some ids → ids.idItems? = some items → operation.Sets →
          (∀ oids, List.Forall₂ Value.Names items oids →
            ∃ c, made.filter Call.isRequest = [c] ∧ c.selector? =
              some (.map [(.str "_id", .map [(.str "$in", .list (oids.map .objectId))])])) ∧
          (∀ before bad after, items = before ++ bad :: after → (∀ v ∈ before, v.IsId) →
            ¬ bad.IsId → made.filter Call.isRequest = [] ∧
              (source.perform operation (some client) journal).1 =
                .error (Fault.invalidId bad).worded)) := by
  have honly : (source.perform operation).Only Call.IsById := perform_byId h
  obtain ⟨made, hcalls, hbyId⟩ := honly (some client) journal
  have hmade : ∀ {other}, (source.perform operation).Makes (some client) other → made = other :=
    fun hm => List.append_cancel_left (hcalls.symm.trans (hm journal))
  have hsent : ∀ {selector}, source.Sends client selector (source.perform operation) →
      ∃ c, made.filter Call.isRequest = [c] ∧ c.selector? = some selector := by
    rintro selector ⟨c, hmakes, hrequest, hselector⟩
    refine ⟨c, ?_, hselector⟩
    rw [hmade hmakes, filter_opening, List.filter_singleton, hrequest]
    rfl
  refine ⟨made, hcalls, hbyId, fun database ho hk => ⟨?_, ?_⟩⟩
  · intro id hid
    constructor
    · intro hn
      have hruns : (source.perform operation).Runs (some client) [] (operation.unnamed id) :=
        perform_unnamed hid hn
      exact ⟨hmade hruns.makes, hruns.result_eq journal⟩
    · intro oid hn
      exact hsent (perform_sends ho hk hid hn)
  · intro ids items hids hitems hs
    have hlist := idList_eq hitems
    constructor
    · intro oids hnames
      exact hsent (perform_sends_several ho hs hids (hlist.trans (objectIds_ok hnames)))
    · rintro before bad after rfl hb hn
      obtain ⟨other, hruns, hnone⟩ :=
        perform_refuses ho hs hids (hlist.trans (objectIds_error hb hn))
      exact ⟨hmade hruns.makes ▸ hnone, hruns.result_eq journal⟩

/-- An integer of too many digits is no id, and is not named as one. -/
theorem long_id_not_named :
    let id := Value.int (tenPow 5000)
    ¬ id.IsId ∧
      ((plain "people").perform (.findOneAndUpdate id (.map []))
        (some (.idle (.str "db"))) .empty).1 = .error (.misuse .badValue) := by
  intro id
  have hno : ¬ Value.IsId (.int (tenPow 5000)) := by
    rintro (⟨oid, h⟩ | ⟨s, h, -⟩) <;> cases h
  have hlong : Integer.isWritable (tenPow 5000) = false :=
    Bool.eq_false_iff.mpr fun h => absurd (Integer.isWritable_tenPow.mp h) (by decide)
  have hruns : ((plain "people").perform (.findOneAndUpdate id (.map []))).Runs
      (some (.idle (.str "db"))) [] (.error (Fault.invalidId id).worded) := perform_unnamed rfl hno
  refine ⟨hno, (hruns.result_eq .empty).trans (congrArg _ ?_)⟩
  rw [Fault.worded, Fault.isWritable, Value.isWritable, hlong]
  rfl

theorem by_id_requests_two :
    let oid : ObjectId := ⟨"507f1f77bcf86cd799439011", by decide +kernel⟩
    let other : ObjectId := ⟨"5f43a1b2c3d4e5f601234567", by decide +kernel⟩
    let ids := Value.list [.str "507F1F77BCF86CD799439011", .objectId other]
    ∃ c, (((plain "people").perform (.deleteManyById ids)
        (some (.idle (.str "db"))) .empty).2.calls).filter Call.isRequest = [c] ∧
      c.selector? =
        some (.map [(.str "_id", .map [(.str "$in", .list [.objectId oid, .objectId other])])]) := by
  intro oid other ids
  obtain ⟨made, hcalls, -, hsent⟩ := by_id_requests (plain "people") (.idle (.str "db")) .empty
    (.deleteManyById ids) (.inr rfl)
  have ho : Client.Opens (.idle (.str "db")) (plain "people") (.str "db") :=
    ⟨rfl, fun _ _ _ => rfl⟩
  have hids : List.Forall₂ Value.Names
      [.str "507F1F77BCF86CD799439011", .objectId other] [oid, other] :=
    .cons (.inr ⟨_, rfl, by decide +kernel, by decide +kernel⟩) (.cons (.inl rfl) .nil)
  have hall := (hsent _ ho fun _ h => (nomatch h)).2 ids _ rfl rfl trivial
  rw [hcalls]
  exact hall.1 _ hids

end DataSource

end DocQuery
