import DocQuery.Proofs.Collection.FailedWrites
import DocQuery.Proofs.Document.Stored

/-!
# Finding an added document

Whether a document is found by the id that it has when it is returned from its insertion.
The operations on one document take object ids only, and a model has the text of one, so
that the document is found if it is stored under an object id, and otherwise nothing is
sent: `added_addressed`.
-/

namespace DocQuery

/-- The id that a document is stored under: its own, or else a new one. -/
def storedId (entries : Entries) (fresh : ObjectId) : Value :=
  (Entries.get? entries idKey).getD (.objectId fresh)

def Value.documentId? : Value → Option Value
  | .map entries => Entries.get? entries idKey
  | .model _ fields => Assoc.lookup "id" fields
  | _ => none

-- ---------------------------------------------------------------------------
-- Entries
-- ---------------------------------------------------------------------------

namespace Entries

theorem get?_put_self (entries : Entries) (name : String) (v : Value) :
    get? (put entries (.str name) v) (.str name) = some v := by
  rw [get?_put, if_pos]
  simp

theorem get?_erase_of_none {entries : Entries} {key : Value} (h : get? entries key = none)
    (other : Value) : get? (erase entries other) key = none := by
  rw [get?, Option.map_eq_none_iff, List.find?_eq_none] at h ⊢
  exact fun entry he => h entry (List.mem_filter.mp he).1

end Entries

namespace Value

theorem isId_of_loadedValue {v : Value} (h : (Model.loadedValue v).IsId) : v.IsId := by
  cases v with
  | objectId oid => exact .inl ⟨oid, rfl⟩
  | str s => exact h
  | _ =>
    rcases h with ⟨oid, h⟩ | ⟨s, h, -⟩
    · cases h
    · cases h

end Value

namespace Model

-- ---------------------------------------------------------------------------
-- The id of a model
-- ---------------------------------------------------------------------------

theorem get?_loadedEntries (entries : Entries) (key : Value) :
    Entries.get? (loadedEntries entries) key = (entries.get? key).map loadedValue := by
  induction entries with
  | nil => rfl
  | cons entry rest ih =>
    obtain ⟨k, v⟩ := entry
    rw [loadedEntries, Entries.get?_cons, Entries.get?_cons, ih]
    split <;> rfl

theorem lookup_fieldsOf? {entries : Entries} (h : fieldsOf? entries = some fields) :
    Assoc.lookup name fields = entries.get? (.str name) := by
  induction entries generalizing fields with
  | nil =>
    cases h
    rfl
  | cons entry rest ih =>
    obtain ⟨key, v⟩ := entry
    cases key with
    | str other =>
      obtain ⟨more, hmore, rfl⟩ := Option.map_eq_some_iff.mp h
      rw [Assoc.lookup, Entries.get?_cons, ih hmore]
      simp
    | _ => cases h

theorem lookup_personFields? {entries : Entries} {id : Value}
    (h : personFields? entries = some fields) (hid : entries.get? (.str "id") = some id) :
    Assoc.lookup "id" fields = some id := by
  unfold personFields? at h
  rw [hid, Option.getD_some] at h
  cases id with
  | null | str s =>
    dsimp only at h
    split at h
    · split at h
      · cases h
        rfl
      · cases h
    · cases h
  | _ => cases h

theorem documentId?_ofDocument
    (h : ofDocument schema "id" (.map (Entries.put entries idKey v)) = .ok result) :
    result.documentId? = some (loadedValue v) := by
  have hid : Entries.get? (loadedEntries (unnameId "id" (Entries.put entries idKey v)))
      (.str "id") = some (loadedValue v) := by
    rw [get?_loadedEntries, unnameId, idKey, Entries.get?_put_self]
    dsimp only
    rw [Entries.get?_put_self]
    rfl
  unfold ofDocument validate at h
  cases schema with
  | record =>
    dsimp only at h
    split at h
    · cases h
      exact (lookup_fieldsOf? ‹_›).trans hid
    · cases h
  | person =>
    dsimp only at h
    split at h
    · cases h
      exact lookup_personFields? ‹_› hid
    · cases h

theorem get?_plainFields (h : plainFields fields = .ok plain) (name : String) :
    Option.Rel (fun v w => plainValue v = .ok w) (Assoc.lookup name fields)
      (Entries.get? plain (.str name)) := by
  induction fields generalizing plain with
  | nil =>
    cases h
    exact .none
  | cons field rest ih =>
    obtain ⟨other, v⟩ := field
    obtain ⟨w, hw, h⟩ := bind_ok_iff.mp h
    obtain ⟨more, hmore, h⟩ := bind_ok_iff.mp h
    cases h
    rw [Assoc.lookup, Entries.get?_cons]
    by_cases hn : other = name
    · simpa [hn] using Option.Rel.some hw
    · simpa [hn] using ih hmore

def StoredPlain (v w : Value) : Prop := ∃ p, plainValue v = .ok p ∧ p.StoredAs w

theorem payload_model {schema : Schema} (h : payload (.model schema fields) = .ok entries) :
    ∃ stored, entries = nameId "id" stored ∧ ∀ name,
      Option.Rel StoredPlain (Assoc.lookup name fields) (Entries.get? stored (.str name)) := by
  obtain ⟨plain, hplain, h⟩ := bind_ok_iff.mp (orFault_ok.mp h)
  obtain ⟨stored, hstored, h⟩ := bind_ok_iff.mp h
  cases h
  refine ⟨stored, rfl, fun name => ?_⟩
  have hfield := get?_plainFields hplain name
  have hkept := get?_storedAs (storedEntries_storedAs hstored) (.str name)
  cases hlookup : Assoc.lookup name fields with
  | none =>
    rw [hlookup] at hfield
    rw [none_of_rel hfield] at hkept
    rw [none_of_rel hkept]
    exact .none
  | some v =>
    rw [hlookup] at hfield
    obtain ⟨p, hp, hv⟩ := some_of_rel hfield
    rw [hp] at hkept
    obtain ⟨w, hw, hpw⟩ := some_of_rel hkept
    rw [hw]
    exact .some ⟨p, hv, hpw⟩

theorem storedPlain_of_names (h : StoredPlain v w) (hn : v.Names oid) : w = v := by
  obtain ⟨p, hp, hw⟩ := h
  rcases hn with rfl | ⟨s, rfl, -⟩
  · cases hp
    cases hw
    rfl
  · cases hp
    cases hw
    rfl

theorem storedId_of_names {schema : Schema} (h : payload (.model schema fields) = .ok entries)
    (hlookup : Assoc.lookup "id" fields = some v) (hn : v.Names oid) (fresh : ObjectId) :
    storedId entries fresh = .objectId oid := by
  obtain ⟨stored, rfl, hkept⟩ := payload_model h
  have hid := hkept "id"
  rw [hlookup] at hid
  obtain ⟨w, hw, hv⟩ := some_of_rel hid
  obtain rfl := storedPlain_of_names hv hn
  have hnull : w.isNull = false := by
    rcases hn with rfl | ⟨s, rfl, -⟩ <;> rfl
  rw [storedId, nameId, hw]
  dsimp only
  rw [hnull, if_neg Bool.false_ne_true, idKey, Entries.get?_put_self,
    Value.objectId?_eq_some.mpr hn]
  rfl

theorem storedId_of_no_id {schema : Schema} (h : payload (.model schema fields) = .ok entries)
    (hid : ∀ v, Assoc.lookup "id" fields = some v → v = .null)
    (hkey : Assoc.lookup "_id" fields = none) (fresh : ObjectId) :
    storedId entries fresh = .objectId fresh := by
  obtain ⟨stored, rfl, hkept⟩ := payload_model h
  have hnone : Entries.get? stored idKey = none := none_of_rel (hkey ▸ hkept "_id")
  have hname : Entries.get? (nameId "id" stored) idKey = none := by
    rw [nameId]
    cases hlookup : Assoc.lookup "id" fields with
    | none =>
      have hfield := hkept "id"
      rw [hlookup] at hfield
      rw [none_of_rel hfield]
      exact hnone
    | some v =>
      have hfield := hkept "id"
      rw [hlookup] at hfield
      obtain ⟨w, hw, p, hp, hpw⟩ := some_of_rel hfield
      obtain rfl := hid v hlookup
      cases hp
      cases hpw
      rw [hw]
      exact Entries.get?_erase_of_none hnone _
  rw [storedId, hname]
  rfl

end Model

namespace DataSource

open DocQuery.Action

variable {source : DataSource} {client : Client} {id : Value}

-- ---------------------------------------------------------------------------
-- Operations on one document
-- ---------------------------------------------------------------------------

/-- The operations on one document send one request for an id, which selects the document
of an object id. -/
structure Addresses (source : DataSource) (client : Client) (ns : Namespace) (id : Value)
    (oid : ObjectId) : Prop where
  getById : (source.getById id).Makes (some client)
    (source.opening ++ [.findOne ns (idSelector oid) .null])
  delete : (source.delete id).Makes (some client)
    (source.opening ++ [.deleteOne ns (idSelector oid)])
  /-- An update with nothing to set reads the document. -/
  update : ∀ changes entries, Model.payload changes = .ok entries →
    (source.update id changes).Makes (some client) (source.opening ++
      [if (entries.erase idKey).isEmpty then .findOne ns (idSelector oid) .null
        else .findOneAndUpdate ns (idSelector oid) (setUpdate (entries.erase idKey)) false true])

structure Misses (source : DataSource) (id : Value) : Prop where
  getById : ∀ client?, (source.getById id).Runs client? [] (.ok .null)
  delete : ∀ client?, (source.delete id).Runs client? [] (.ok .null)
  update : ∀ client? changes, (source.update id changes).Runs client? [] (.ok .null)

theorem addresses_of_names (ho : client.Opens source database) (hn : id.Names oid) :
    source.Addresses client (source.namespaceIn database) id oid := by
  have hid : id.objectId? = some oid := Value.objectId?_eq_some.mpr hn
  have hfind : (source.findOne (idSelector oid) .null).Makes (some client)
      (source.opening ++ [.findOne (source.namespaceIn database) (idSelector oid) .null]) := by
    rw [findOne_idSelector]
    exact (request_makes ho _).bind_silent fun _ => (Runs.ofExcept _).makes
  refine ⟨?_, ?_, fun changes entries hp => ?_⟩
  · simp only [getById, hid]
    exact hfind
  · simp only [delete, hid]
    exact (request_makes ho fun ns => .deleteOne ns (idSelector oid)).bind_silent
      fun _ => (Runs.pure _).makes
  · cases hk : (entries.erase idKey).isEmpty with
    | true =>
      rw [update_reads hid hp hk]
      exact hfind
    | false =>
      rw [update_writes hid hp hk]
      exact (request_makes ho _).bind_silent fun _ => (Runs.ofExcept _).makes

theorem misses_of_not_isId (hn : ¬ id.IsId) : source.Misses id :=
  ⟨fun _ => getById_unnamed hn, fun _ => delete_unnamed hn, fun _ _ => update_unnamed hn⟩

-- ---------------------------------------------------------------------------
-- Adding and finding
-- ---------------------------------------------------------------------------

/-- An id as the source gives it to the caller: a model has the text of an object id. -/
def shownId (source : DataSource) (id : Value) : Value :=
  match source.schema with
  | none => id
  | some _ => Model.loadedValue id

theorem documentId?_decode
    (h : source.decode (.map (Entries.put entries idKey id)) = .ok result) :
    result.documentId? = some (source.shownId id) := by
  unfold shownId
  cases hschema : source.schema with
  | none =>
    simp only [decode, hschema] at h
    cases h
    exact Entries.get?_put_self entries "_id" id
  | some schema =>
    simp only [decode, hschema] at h
    exact Model.documentId?_ofDocument h

theorem names_shownId (source : DataSource) (oid : ObjectId) :
    (source.shownId (.objectId oid)).Names oid := by
  unfold shownId
  split
  · exact .inl rfl
  · exact Value.names_text oid

theorem isId_of_shownId (h : (source.shownId id).IsId) : id.IsId := by
  unfold shownId at h
  split at h
  · exact h
  · exact Value.isId_of_loadedValue h

theorem of_add_ok (h : (source.add document client? journal).1 = .ok result) :
    ∃ client entries ns, client? = some client ∧ Model.payload document = .ok entries ∧
      .insertOne ns (.map entries) ∈ (source.add document client? journal).2.calls ∧
      source.decode (.map (entries.put idKey client.insertedId)) = .ok result := by
  cases hp : Model.payload document with
  | error fault =>
    unfold add at h
    rw [hp] at h
    cases h
  | ok entries =>
    rw [add_writes hp] at h ⊢
    obtain ⟨client, after, hrequest, hread⟩ := of_bind_ok h
    obtain ⟨hclient, ns, hsent⟩ := of_request_ok hrequest
    rw [bind_ok hrequest]
    exact ⟨client, entries, ns, hclient, rfl, hsent, hread⟩

/-- A document that was added is found by the id that it is returned with, and deleted and
updated, if it is stored under an object id. An id that is neither that nor the digits of one
is answered as if there was no document. A model is stored under an object id if its id names
one or is missing. -/
theorem added_addressed (source : DataSource) (client : Client) (journal : Journal)
    (document result : Value) (entries : Entries) (fresh : ObjectId)
    (hp : Model.payload document = .ok entries)
    (hinserted : client.insertedId = storedId entries fresh)
    (hadd : (source.add document (some client) journal).1 = .ok result) :
    (∃ ns, .insertOne ns (.map entries) ∈
      (source.add document (some client) journal).2.calls) ∧
    ∃ id, result.documentId? = some id ∧ id = source.shownId (storedId entries fresh) ∧
      (∀ oid, storedId entries fresh = .objectId oid → ∀ later database,
        Client.Opens later source database →
          source.Addresses later (source.namespaceIn database) id oid) ∧
      (¬ (storedId entries fresh).IsId → source.Misses id) ∧
      ∀ schema fields, document = .model schema fields →
        (∀ v oid, Assoc.lookup "id" fields = some v → v.Names oid →
          storedId entries fresh = .objectId oid) ∧
        ((∀ v, Assoc.lookup "id" fields = some v → v = .null) →
          Assoc.lookup "_id" fields = none → storedId entries fresh = .objectId fresh) := by
  obtain ⟨_, _, ns, hclient, hp', hsent, hread⟩ := of_add_ok hadd
  cases hclient
  cases hp.symm.trans hp'
  rw [hinserted] at hread
  refine ⟨⟨ns, hsent⟩, _, documentId?_decode hread, rfl, ?_, ?_, ?_⟩
  · intro oid hstored later database ho
    rw [hstored]
    exact addresses_of_names ho (names_shownId source oid)
  · exact fun hn => misses_of_not_isId fun h => hn (isId_of_shownId h)
  · rintro schema fields rfl
    exact ⟨fun v oid hlookup hn => Model.storedId_of_names hp hlookup hn fresh,
      fun hid hkey => Model.storedId_of_no_id hp hid hkey fresh⟩

theorem added_addressed_by_text :
    let oid : ObjectId := ⟨"60c72b2f9b1d8e4f5a6b7c8d", by decide +kernel⟩
    let source := { plain "people" with schema := some .record }
    let client := { Client.idle (.str "db") with insertedId := .objectId oid }
    let id := Value.str "60c72b2f9b1d8e4f5a6b7c8d"
    (source.add (.map [(.str "x", .int 1)]) (some client) .empty).1 =
        .ok (.model .record [("x", .int 1), ("id", id)]) ∧
      source.Addresses client ⟨.str "db", "people"⟩ id oid := by
  intro oid source client id
  have hread : source.decode (.map (Entries.put [(.str "x", .int 1)] idKey (.objectId oid))) =
      .ok (.model .record [("x", .int 1), ("id", id)]) := by
    simp [source, id, decode, Model.ofDocument, Model.unnameId, Model.validate, Model.fieldsOf?,
      Model.loadedEntries, Model.loadedValue, Entries.put, Entries.get?, Entries.erase, idKey, oid]
  have hserves : client.Serves source (.str "db") := ⟨rfl, fun _ _ => rfl⟩
  have hp : Model.payload (.map [(.str "x", .int 1)]) = .ok [(.str "x", .int 1)] := rfl
  have hadd : (source.add (.map [(.str "x", .int 1)]) (some client) .empty).1 =
      .ok (.model .record [("x", .int 1), ("id", id)]) :=
    ((add_runs hserves hp).result_eq .empty).trans hread
  have hstored : storedId [(.str "x", .int 1)] oid = .objectId oid := by
    simp [storedId, Entries.get?, idKey]
  obtain ⟨-, _, -, rfl, hfound, -⟩ :=
    added_addressed source client .empty _ _ _ oid hp hstored.symm hadd
  have haddresses := hfound oid hstored client (.str "db") hserves.opens
  rw [hstored] at haddresses
  exact ⟨hadd, haddresses⟩

/-- A document that brings an integer as its id is stored under it and not found by it. -/
theorem integer_id_missed :
    let source := plain "people"
    let client := { Client.idle (.str "db") with insertedId := .int 5 }
    let document := Value.map [(.str "_id", .int 5), (.str "a", .int 1)]
    (source.add document (some client) .empty).1 = .ok document ∧
      document.documentId? = some (.int 5) ∧
      (source.getById (.int 5) (some client) .empty).2.calls = [] := by
  intro source client document
  have hread : source.decode
      (.map (Entries.put [(.str "_id", .int 5), (.str "a", .int 1)] idKey (.int 5))) =
      .ok document := by
    simp [source, plain, document, decode, Entries.put, idKey]
  have hserves : client.Serves source (.str "db") := ⟨rfl, fun _ _ => rfl⟩
  refine ⟨((add_runs hserves rfl).result_eq .empty).trans hread, ?_, rfl⟩
  simp [document, Value.documentId?, Entries.get?, idKey]

end DataSource

end DocQuery
