import DocQuery.Proofs.Collection.ById

/-!
# Writes that fail

What was written when inserting or updating a document ends in a fault, on a client that
fails no call. A payload that cannot be stored is refused before anything is sent, but what
the store replies is read into a model only afterwards: `failed_write`.
-/

namespace DocQuery

def Call.isWrite : Call → Bool
  | .insertOne .. | .deleteOne .. | .deleteMany .. | .updateMany .. | .findOneAndUpdate .. => true
  | _ => false

theorem Call.isWrite_of_isRequest {c : Call} (h : c.isRequest = false) : c.isWrite = false := by
  cases c <;> first | rfl | cases h

namespace DataSource

open DocQuery.Action

variable {source : DataSource} {client? : Option Client} {journal : Journal}

/-- A write was the only request, and then a document that the client replies with was not
read into a model. -/
def Unread (source : DataSource) (client? : Option Client) (write : Namespace → Call)
    (reply : Client → Value) (made : List Call) (fault : Fault) : Prop :=
  ∃ client ns schema, client? = some client ∧ source.schema = some schema ∧
    made = source.opening ++ [write ns] ∧
    Model.ofDocument schema "id" (reply client) = .error fault

-- ---------------------------------------------------------------------------
-- Reading
-- ---------------------------------------------------------------------------

theorem decode_error (h : source.decode document = .error fault) :
    ∃ schema, source.schema = some schema ∧
      Model.ofDocument schema "id" document = .error fault := by
  unfold decode at h
  split at h
  · cases h
  · cases h
  · exact ⟨_, ‹_›, h⟩

theorem findOne_only (filter fields : Value) :
    (source.findOne filter fields).Only (·.isWrite = false) := by
  have hopen : source.openCollection.Only (·.isWrite = false) :=
    openCollection_only (fun c => Call.isWrite_of_isRequest) source
  refine (Only.mapFault (hopen.bind fun ns => ?_)).bind fun client => ?_
  · refine (Only.of_makes fun _ => (Runs.ofOperand _).makes).bind fun selector => ?_
    exact (Only.of_makes fun _ => (Runs.ofOperand _).makes).bind fun fields => .call rfl
  · exact .of_makes fun _ => (Runs.ofExcept _).makes

-- ---------------------------------------------------------------------------
-- Writing
-- ---------------------------------------------------------------------------

theorem written_error (hclient : ∀ client, client? = some client → ∀ n c, client.failure n c = none)
    {write : Namespace → Call} {reply : Client → Value}
    (h : ((source.request write >>= fun client => ofExcept (source.decode (reply client)))
      client? journal).1 = .error fault) :
    ∃ made, ((source.request write >>= fun client => ofExcept (source.decode (reply client)))
        client? journal).2.calls = journal.calls ++ made ∧
      ((∀ c ∈ made, c.isWrite = false) ∨ source.Unread client? write reply made fault) := by
  rcases serves_or_unopened source hclient with
      ⟨client, database, rfl, hserves⟩ | ⟨made, _, hopen, hmade⟩
  · have hruns := (request_runs hserves write).bind_silent
      (f := fun client => ofExcept (source.decode (reply client))) (.ofExcept _)
    obtain ⟨schema, hschema, hread⟩ := decode_error ((hruns.result_eq journal).symm.trans h)
    exact ⟨_, hruns.makes journal, .inr ⟨client, _, schema, rfl, hschema, rfl, hread⟩⟩
  · have hruns : (source.request write).Runs client? made _ := hopen.bind_error.mapFault
    exact ⟨made, hruns.bind_error.makes journal,
      .inl fun c hc => Call.isWrite_of_isRequest (hmade c hc)⟩

theorem add_writes (hp : Model.payload document = .ok entries) :
    source.add document =
      (source.request fun ns => .insertOne ns (.map entries)) >>= fun client =>
        ofExcept (source.decode (.map (entries.put idKey client.insertedId))) := by
  unfold add
  rw [hp]
  rfl

theorem add_runs {client : Client} (h : client.Serves source database)
    (hp : Model.payload document = .ok entries) :
    (source.add document).Runs (some client)
      (source.opening ++ [.insertOne (source.namespaceIn database) (.map entries)])
      (source.decode (.map (entries.put idKey client.insertedId))) := by
  rw [add_writes hp]
  exact (request_runs h _).bind_silent (.ofExcept _)

/-- An insertion or an update that ends in a fault has written nothing, unless the source has
a schema and the fault is that of reading what the store replied: the document with its id,
or the updated document. -/
theorem failed_write (source : DataSource) (client? : Option Client) (journal : Journal)
    (fault : Fault)
    (hclient : ∀ client, client? = some client → ∀ n c, client.failure n c = none) :
    (∀ document, (source.add document client? journal).1 = .error fault →
      ∃ made, (source.add document client? journal).2.calls = journal.calls ++ made ∧
        ((∀ c ∈ made, c.isWrite = false) ∨
          ∃ entries, Model.payload document = .ok entries ∧
            source.Unread client? (.insertOne · (.map entries))
              (fun client => .map (entries.put idKey client.insertedId)) made fault)) ∧
    (∀ id changes, (source.update id changes client? journal).1 = .error fault →
      ∃ made, (source.update id changes client? journal).2.calls = journal.calls ++ made ∧
        ((∀ c ∈ made, c.isWrite = false) ∨
          ∃ oid entries, id.Names oid ∧ Model.payload changes = .ok entries ∧
            source.Unread client?
              (.findOneAndUpdate · (idSelector oid) (setUpdate (entries.erase idKey)) false true)
              Client.document made fault)) := by
  constructor
  · intro document h
    cases hp : Model.payload document with
    | error cause =>
      unfold add
      rw [hp]
      exact ⟨[], (List.append_nil _).symm, .inl (List.forall_mem_nil _)⟩
    | ok entries =>
      rw [add_writes hp] at h ⊢
      obtain ⟨made, hcalls, hmade⟩ := written_error hclient h
      exact ⟨made, hcalls, hmade.imp_right fun h => ⟨entries, rfl, h⟩⟩
  · intro id changes h
    cases hid : id.objectId? with
    | none =>
      simp only [update, hid] at h
      cases h
    | some oid =>
      cases hp : Model.payload changes with
      | error cause =>
        simp only [update, hid, hp]
        exact ⟨[], (List.append_nil _).symm, .inl (List.forall_mem_nil _)⟩
      | ok entries =>
        cases hk : (entries.erase idKey).isEmpty with
        | true =>
          rw [update_reads hid hp hk]
          obtain ⟨made, hcalls, hmade⟩ := findOne_only _ _ client? journal
          exact ⟨made, hcalls, .inl hmade⟩
        | false =>
          rw [update_writes hid hp hk] at h ⊢
          obtain ⟨made, hcalls, hmade⟩ := written_error hclient h
          exact ⟨made, hcalls, hmade.imp_right fun h =>
            ⟨oid, entries, Value.objectId?_eq_some.mp hid, rfl, h⟩⟩

theorem failed_write_of_long_decimal :
    let oid : ObjectId := ⟨"5f3e2d1c0b9a897867564534", by decide +kernel⟩
    let long := Decimal.finite false 10000000000000000000000000000000001 0
    let record := Value.model .record [("x", .decimal long)]
    let client? := some (Client.idle (.str "db"))
    let added := (plain "people").add record client? .empty
    let updated := (plain "people").update (.objectId oid) record client? .empty
    (added.1 = .error (.misuse .inexactDecimal) ∧ ∀ c ∈ added.2.calls, c.isWrite = false) ∧
      updated.1 = .error (.misuse .inexactDecimal) ∧ ∀ c ∈ updated.2.calls, c.isWrite = false := by
  intro oid long record client? added updated
  have hdecimal : long.toInterchange = .error .inexactDecimal := by decide +kernel
  have hp : Model.payload record = .error (.misuse .inexactDecimal) := by
    simp only [record, Model.payload, Model.toDocument, Model.plainFields, Model.plainValue, bind,
      Except.bind, pure, Except.pure, Model.storedEntries, Model.storedValue, hdecimal]
    rfl
  have hadded : added.1 = .error (.misuse .inexactDecimal) := by
    simp only [added, add, hp]
    rfl
  have hupdated : updated.1 = .error (.misuse .inexactDecimal) := by
    simp only [updated, update, Value.objectId?, hp]
    rfl
  have hnever : ∀ client, client? = some client → ∀ n c, client.failure n c = none := by
    intro client h
    rw [← Option.some.inj h]
    exact fun _ _ => rfl
  obtain ⟨hadd, hupdate⟩ := failed_write (plain "people") client? .empty _ hnever
  refine ⟨⟨hadded, ?_⟩, hupdated, ?_⟩
  · obtain ⟨made, hcalls, hmade⟩ := hadd record hadded
    rw [hcalls]
    refine hmade.resolve_right ?_
    rintro ⟨entries, hentries, -⟩
    cases hp.symm.trans hentries
  · obtain ⟨made, hcalls, hmade⟩ := hupdate (.objectId oid) record hupdated
    rw [hcalls]
    refine hmade.resolve_right ?_
    rintro ⟨_, entries, -, hentries, -⟩
    cases hp.symm.trans hentries

/-- A person without a name is inserted before it is found to be no person. -/
theorem nameless_person_inserted :
    let oid : ObjectId := ⟨"5f3e2d1c0b9a897867564534", by decide +kernel⟩
    let source := { plain "people" with schema := some .person }
    let client := { Client.idle (.str "db") with insertedId := .objectId oid }
    let person := Value.map [(.str "age", .int 1)]
    let added := source.add person (some client) .empty
    added.1 = .error .invalidModel ∧
      added.2.calls = source.opening ++ [.insertOne ⟨.str "db", "people"⟩ person] := by
  intro oid source client person added
  have hread : source.decode (.map (Entries.put [(.str "age", .int 1)] idKey (.objectId oid))) =
      .error .invalidModel := by
    simp [source, decode, Model.ofDocument, Model.unnameId, Model.validate, Model.personFields?,
      Model.loadedEntries, Model.loadedValue, Entries.put, Entries.get?, Entries.erase, idKey]
  have hserves : client.Serves source (.str "db") := ⟨rfl, fun _ _ => rfl⟩
  have hp : Model.payload person = .ok [(.str "age", .int 1)] := rfl
  have hruns := add_runs hserves hp
  exact ⟨(hruns.result_eq .empty).trans hread, hruns.makes .empty⟩

end DataSource

end DocQuery
