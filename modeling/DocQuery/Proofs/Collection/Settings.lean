import DocQuery.Proofs.Collection.ById
import DocQuery.Proofs.Value.Keys

/-!
# What updates set

An update of fields sends what it sets under `$set`. `updates_set` says of the three operations
that update documents by id what that is, for every payload without update operators: one
document is updated without its id, and the two other operations set the id with the rest. So
they send an update that the store refuses for a document that was read and edited, which
`id_rewritten` shows.
-/

namespace DocQuery

def Call.update? : Call → Option Value
  | .updateMany _ _ update | .findOneAndUpdate _ _ update .. => some update
  | _ => none

/-- A call that, if it sends an update, sets some entries and nothing else. -/
def Call.Sets (entries : Entries) (c : Call) : Prop :=
  ∀ update, c.update? = some update → update = .map [(.str "$set", .map entries)]

namespace Operation

/-- The entries that a payload offers to an operation: of an update of several documents, only
those that count as true. -/
def offered : Operation → Entries → Entries
  | .updateMany .., entries => entries.filter (·.2.truthy)
  | _, entries => entries

def settings : Operation → Entries → Entries
  | .update .., entries => entries.erase idKey
  | operation, entries => operation.offered entries

/-- Whether an operation leaves the id out of what it sets. -/
def keepsId : Operation → Bool
  | .update .. => true
  | _ => false

def Named (operation : Operation) : Prop :=
  (∀ id, operation.id? = some id → id.IsId) ∧
    ∀ ids, operation.ids? = some ids → ∃ items, ids.idItems? = some items ∧ ∀ v ∈ items, v.IsId

-- What is offered is set, but for the id in an update of one document.
theorem settings_eq (operation : Operation) (entries : Entries) :
    operation.settings entries =
      if operation.keepsId then (operation.offered entries).erase idKey
      else operation.offered entries := by
  cases operation <;> rfl

theorem settings_lack_id (operation : Operation) (entries : Entries) :
    (operation.settings entries).get? idKey = none ↔
      operation.settings entries = (operation.offered entries).erase idKey := by
  rw [settings_eq]
  split
  · exact iff_of_true (Entries.get?_erase_self ..) rfl
  · rw [← Entries.erase_eq_self, eq_comm]

theorem settings_lack_id_iff (operation : Operation) (entries : Entries) :
    (operation.settings entries).get? idKey = none ↔
      operation.keepsId = true ∨ (operation.offered entries).get? idKey = none := by
  rw [settings_eq]
  split
  · exact iff_of_true (Entries.get?_erase_self ..) (.inl ‹_›)
  · simp [*]

end Operation

theorem Call.sets_of_isRequest {c : Call} (h : c.isRequest = false) : c.Sets entries := by
  intro update hu
  cases c with
  | openDatabase | openCollection => cases hu
  | _ => cases h

def PlainKeys (entries : Entries) : Prop :=
  ∀ entry ∈ entries, ∃ name, entry.1 = .str name ∧ beginsWith '$' name = false

namespace DataSource

open DocQuery.Action

variable {source : DataSource} {client : Client} {id ids : Value} {entries set : Entries}

-- ---------------------------------------------------------------------------
-- Requests that set
-- ---------------------------------------------------------------------------

def SendsSet (source : DataSource) (client : Client) (set : Entries) (x : Action α) : Prop :=
  ∃ c, x.Makes (some client) (source.opening ++ [c]) ∧ c.update? = some (setUpdate set)

section

variable {c : Namespace → Call} {f : Client → Action α}
  (hc : ∀ ns, (c ns).update? = some (setUpdate set))

include hc

theorem request_sets (hf : ∀ client client?, (f client).Makes client? []) :
    (source.request c >>= f).Only (Call.Sets set) := by
  refine Only.bind (request_only (fun _ => Call.sets_of_isRequest) fun ns update hu => ?_)
    fun client => .of_makes (hf client)
  cases (hc ns).symm.trans hu
  rfl

theorem request_sendsSet (ho : client.Opens source database)
    (hf : ∀ client client?, (f client).Makes client? []) :
    source.SendsSet client set (source.request c >>= f) :=
  ⟨_, (request_makes ho c).bind_silent fun client => hf client _, hc _⟩

end

-- ---------------------------------------------------------------------------
-- Updating one document
-- ---------------------------------------------------------------------------

theorem update_sets (id : Value) (entries : Entries) :
    (source.update id (.map entries)).Only (Call.Sets (entries.erase idKey)) := by
  cases hid : id.objectId? with
  | none =>
    simp only [update, hid]
    exact .of_makes fun _ => (Runs.pure _).makes
  | some oid =>
    cases hk : (entries.erase idKey).isEmpty with
    | true =>
      rw [update_reads hid rfl hk, findOne_idSelector]
      refine Only.bind (request_only (fun _ => Call.sets_of_isRequest) fun ns update hu => ?_)
        fun client => .of_makes fun _ => (Runs.ofExcept _).makes
      cases hu
    | false =>
      rw [update_writes hid rfl hk]
      exact request_sets (fun _ => rfl) fun _ _ => (Runs.ofExcept _).makes

theorem namesOperators_plain (hk : PlainKeys entries) : namesOperators entries = .ok false := by
  induction entries with
  | nil => rfl
  | cons entry rest ih =>
    obtain ⟨key, v⟩ := entry
    obtain ⟨⟨name, rfl, hname⟩, hrest⟩ := List.forall_mem_cons.mp hk
    rw [namesOperators, hname]
    exact ih hrest

theorem findOneAndUpdate_writes (hid : id.objectId? = some oid) (hk : PlainKeys entries) :
    source.findOneAndUpdate id (.map entries) =
      (source.request fun ns => .findOneAndUpdate ns (idSelector oid) (setUpdate entries) true
        false) >>= fun client => ofExcept (source.decode client.document) := by
  simp only [findOneAndUpdate, hid, Value.entries]
  change ofOperand (namesOperators entries) >>= _ = _
  rw [namesOperators_plain hk]
  rfl

theorem findOneAndUpdate_sets (id : Value) (hk : PlainKeys entries) :
    (source.findOneAndUpdate id (.map entries)).Only (Call.Sets entries) := by
  cases hid : id.objectId? with
  | none =>
    simp only [findOneAndUpdate, hid]
    exact .of_makes fun _ => (Runs.ofExcept _).makes
  | some oid =>
    rw [findOneAndUpdate_writes hid hk]
    exact request_sets (fun _ => rfl) fun _ _ => (Runs.ofExcept _).makes

-- ---------------------------------------------------------------------------
-- Updating several documents
-- ---------------------------------------------------------------------------

theorem objectIds_all (h : ∀ v ∈ items, Value.IsId v) : ∃ oids, objectIds items = .ok oids := by
  induction items with
  | nil => exact ⟨[], rfl⟩
  | cons v rest ih =>
    obtain ⟨hv, hrest⟩ := List.forall_mem_cons.mp h
    obtain ⟨oid, hoid⟩ := hv.names
    obtain ⟨oids, hoids⟩ := ih hrest
    refine ⟨oid :: oids, ?_⟩
    rw [objectIds, Value.objectId?_eq_some.mpr hoid]
    dsimp only
    rw [hoids]
    rfl

theorem updateMany_sets (ids : Value) (entries : Entries) :
    (source.updateMany ids (.map entries)).Only (Call.Sets (entries.filter (·.2.truthy))) := by
  have hc : cleanUpdate (.map entries) = .ok (entries.filter (·.2.truthy)) := rfl
  cases hk : (entries.filter (·.2.truthy)).isEmpty with
  | true =>
    simp only [updateMany, hc]
    change (if (entries.filter (·.2.truthy)).isEmpty then _ else _ : Action Value).Only _
    rw [hk]
    exact .of_makes fun _ => (Runs.note_pure ..).makes
  | false =>
    rw [updateMany_eq hc hk]
    refine Only.bind (Only.mapFault ?_) fun client => .of_makes fun _ => (Runs.pure _).makes
    refine (openCollection_only (fun _ => Call.sets_of_isRequest) source).bind fun ns => ?_
    refine (Only.of_makes fun _ => (Runs.ofExcept _).makes).bind fun oids => .call ?_
    intro update hu
    cases hu
    rfl

theorem updateMany_sendsSet (ho : client.Opens source database)
    (hids : idList ids = .ok oids) (hk : entries.filter (·.2.truthy) ≠ []) :
    source.SendsSet client (entries.filter (·.2.truthy)) (source.updateMany ids (.map entries)) := by
  have hc : cleanUpdate (.map entries) = .ok (entries.filter (·.2.truthy)) := rfl
  rw [updateMany_eq hc (List.isEmpty_eq_false_iff.mpr hk), hids]
  change source.SendsSet client _ (source.request _ >>= _)
  exact request_sendsSet (fun _ => rfl) ho fun _ _ => (Runs.pure _).makes

-- ---------------------------------------------------------------------------
-- All three updates
-- ---------------------------------------------------------------------------

theorem SendsSet.map (hx : source.SendsSet client set x) :
    source.SendsSet client set (OperationResult.value <$> x) := by
  obtain ⟨c, hmakes, hc⟩ := hx
  exact ⟨c, hmakes.map _, hc⟩

theorem perform_sets {operation : Operation} (hp : operation.payload? = some (.map entries))
    (hk : PlainKeys entries) :
    (source.perform operation).Only (Call.Sets (operation.settings entries)) := by
  cases operation with
  | update id _ =>
    cases hp
    exact (update_sets id entries).map _
  | updateMany ids _ =>
    cases hp
    exact (updateMany_sets ids entries).map _
  | findOneAndUpdate id _ =>
    cases hp
    exact (findOneAndUpdate_sets id hk).map _
  | _ => cases hp

theorem perform_sendsSet {operation : Operation} (ho : client.Opens source database)
    (hp : operation.payload? = some (.map entries)) (hk : PlainKeys entries)
    (hn : operation.Named) (hs : operation.settings entries ≠ []) :
    source.SendsSet client (operation.settings entries) (source.perform operation) := by
  obtain ⟨hid, hids⟩ := hn
  cases operation with
  | update id _ =>
    cases hp
    obtain ⟨oid, hoid⟩ := (hid id rfl).names
    change source.SendsSet client _ (OperationResult.value <$> source.update id _)
    rw [update_writes (Value.objectId?_eq_some.mpr hoid) rfl (List.isEmpty_eq_false_iff.mpr hs)]
    exact (request_sendsSet (fun _ => rfl) ho fun _ _ => (Runs.ofExcept _).makes).map
  | updateMany ids _ =>
    cases hp
    obtain ⟨items, hitems, hall⟩ := hids ids rfl
    obtain ⟨oids, hoids⟩ := objectIds_all hall
    exact (updateMany_sendsSet ho ((idList_eq hitems).trans hoids) hs).map
  | findOneAndUpdate id _ =>
    cases hp
    obtain ⟨oid, hoid⟩ := (hid id rfl).names
    change source.SendsSet client _ (OperationResult.value <$> source.findOneAndUpdate id _)
    rw [findOneAndUpdate_writes (Value.objectId?_eq_some.mpr hoid) hk]
    exact (request_sendsSet (fun _ => rfl) ho fun _ _ => (Runs.ofExcept _).makes).map
  | _ => cases hp

/-- Whatever the client does, an update by id with a plain payload sets what the operation is
offered and nothing else, and does so on a client that opens the collection if the ids are
valid. It leaves the id as it is, and all else is set, unless an operation other than the
update of one document is offered one. -/
theorem updates_set (source : DataSource) (operation : Operation) (entries : Entries)
    (hp : operation.payload? = some (.map entries)) (hk : PlainKeys entries) :
    let offered := operation.offered entries
    let set := operation.settings entries
    (source.perform operation).Only (Call.Sets set) ∧
      (∀ client database, client.Opens source database → operation.Named → set ≠ [] →
        source.SendsSet client set (source.perform operation)) ∧
      (set.get? idKey = none ↔ set = offered.erase idKey) ∧
      (set.get? idKey = none ↔ operation.keepsId = true ∨ offered.get? idKey = none) := by
  intro offered set
  exact ⟨perform_sets hp hk, fun client database ho hn hs => perform_sendsSet ho hp hk hn hs,
    operation.settings_lack_id entries, operation.settings_lack_id_iff entries⟩

theorem updates_set_edited :
    let id := Value.str "507f1f77bcf86cd799439011"
    let document := [(idKey, id), (.str "age", .int 2), (.str "name", .str "")]
    ∃ c ∈ ((plain "people").perform (.update id (.map document)) (some (.idle (.str "db")))
        .empty).2.calls,
      c.update? = some (setUpdate [(.str "age", .int 2), (.str "name", .str "")]) := by
  intro id document
  have hid : id.IsId := .inr ⟨_, rfl, by decide +kernel⟩
  have hplain : PlainKeys document := by
    simp only [document, PlainKeys, List.forall_mem_cons]
    exact ⟨⟨_, rfl, by decide⟩, ⟨_, rfl, by decide⟩, ⟨_, rfl, by decide⟩, List.forall_mem_nil _⟩
  have hnamed : (Operation.update id (.map document)).Named := by
    refine ⟨fun other h => Option.some.inj h ▸ hid, fun ids h => ?_⟩
    cases h
  have hset : (Operation.update id (.map document)).settings document =
      [(.str "age", .int 2), (.str "name", .str "")] := by
    simp [document, Operation.settings, Entries.erase, idKey]
  obtain ⟨-, hsends, -⟩ := updates_set (plain "people") (.update id (.map document)) document rfl
    hplain
  rw [hset] at hsends
  obtain ⟨c, hmakes, hc⟩ := hsends (.idle (.str "db")) (.str "db") ⟨rfl, fun _ _ _ => rfl⟩ hnamed
    (List.cons_ne_nil _ _)
  refine ⟨c, ?_, hc⟩
  rw [hmakes .empty]
  simp

/-- An update of two documents asks for both to get the id of one. -/
theorem id_rewritten :
    let oid : ObjectId := ⟨"507f1f77bcf86cd799439011", rfl⟩
    let other : ObjectId := ⟨"5f43a1b2c3d4e5f601234567", rfl⟩
    let document := [(idKey, .objectId oid), (.str "age", .int 2)]
    let ids := Value.list [.objectId oid, .objectId other]
    .updateMany ⟨.str "db", "people"⟩ (idsSelector [oid, other]) (setUpdate document) ∈
      ((plain "people").perform (.updateMany ids (.map document)) (some (.idle (.str "db")))
        .empty).2.calls := by
  intro oid other document ids
  exact List.mem_of_getElem? (show _ = some _ from rfl : _[2]? = _)

end DataSource

end DocQuery
