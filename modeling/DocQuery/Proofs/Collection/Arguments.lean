import DocQuery.Proofs.Client.Causes
import DocQuery.Proofs.Collection.Failure
import DocQuery.Proofs.Collection.Listings

/-!
# Arguments are checked before requests

Every operation is done with its arguments when it sends its first request: a fault after
it is a failure of the driver, or is found in what the store replied. `requests_after_checks`
says so of every operation on every client, for limits that are integers.
-/

namespace DocQuery

-- ---------------------------------------------------------------------------
-- What is found in replies
-- ---------------------------------------------------------------------------

namespace DataSource

section

variable (source : DataSource) (client : Client)

def Undecoded (fault : Fault) : Prop :=
  ∃ document ∈ client.documents, source.decode document = .error fault

def Unpaged (listing : Listing) (fault : Fault) : Prop :=
  ∃ plan, source.planFor listing = .ok plan ∧
    orFault (PageInfo.of (client.counted plan.selector) (.int plan.page) plan.limit) = .error fault

/-- A fault is found in what the store replies to an operation: in a document, or in the
count of a listing. What is inserted is decoded once its id is known. -/
def Rejects (fault : Fault) : Operation → Prop
  | .findOne .. | .getById _ | .update .. | .findOneAndUpdate .. =>
    source.decode client.document = .error fault
  | .find _ | .all .. => source.Undecoded client fault
  | .listPage listing | .listAggregation _ listing =>
    source.Undecoded client fault ∨ source.Unpaged client listing fault
  | .add document => ∃ entries, Model.payload document = .ok entries ∧
      source.decode (.map (entries.put idKey client.insertedId)) = .error fault
  | .delete _ | .deleteManyById _ | .deleteMany _ | .updateMany .. => False

def IntegerLimit (listing : Listing) : Prop :=
  (∃ n, listing.limit.IsInteger n) ∨
    listing.limit = .null ∧ ∃ n, source.options.limit.IsInteger n

def IntegerLimits : Operation → Prop
  | .listPage listing | .listAggregation _ listing => source.IntegerLimit listing
  | _ => True

end

open DocQuery.Action

variable {source : DataSource} {client : Client} {admitted : Fault → Prop}

/-- No request was sent and no cursor steered. -/
abbrev Unsent : List Call → Prop := Within (·.isRequest = false)

-- ---------------------------------------------------------------------------
-- Parts of operations
-- ---------------------------------------------------------------------------

theorem databaseName_error (h : databaseName default? name = .error fault) :
    name = .null ∧ default? = none ∧
      fault = .driver (.configuration "No default database defined") := by
  unfold databaseName at h
  split at h
  · cases h
  · cases h
    exact ⟨rfl, rfl, rfl⟩
  · cases h

theorem openDatabase_ends (name : Value) :
    (openDatabase name).Ends client Call.fault Never admitted fun _ => True := by
  intro journal
  have hmade : (openDatabase name).Makes (some client) [.openDatabase name] :=
    ((Makes.call client _).bind_silent fun _ => (Runs.ofExcept _).makes).mapFault
  refine ⟨_, hmade journal, fun _ _ => trivial, fun fault h => .inr (.inr ?_)⟩
  refine ⟨[], .openDatabase name, ?_⟩
  unfold openDatabase at h
  rw [mapFault_run, bind_run] at h
  cases hf : client.failure journal.calls.length (.openDatabase name) with
  | some cause =>
    simp only [Action.call, hf] at h
    cases h
    exact ⟨cause, rfl, Client.fault?_of_failure hf, rfl⟩
  | none =>
    simp only [Action.call, hf, Action.ofExcept] at h
    cases hn : databaseName client.defaultDatabase name with
    | ok database =>
      rw [hn] at h
      cases h
    | error cause =>
      rw [hn] at h
      obtain ⟨rfl, hdefault, rfl⟩ := databaseName_error hn
      cases h
      refine ⟨.configuration "No default database defined", rfl, ?_, rfl⟩
      simp [Client.fault?, hf, hdefault]

theorem openCollection_ends :
    source.openCollection.Ends client Call.fault Never admitted fun _ => True :=
  (openDatabase_ends _).bind fun _ _ => (Ends.call fun _ => rfl).bind fun _ _ => .pure trivial

theorem opened {x : Namespace → Action α} {next : α → Prop}
    (hx : ∀ ns, (x ns).Ends client Call.fault Unsent admitted next) :
    (source.openCollection >>= x).Ends client Call.fault Unsent admitted next :=
  .after (openCollection_only (fun _ h => h) source) hx

theorem except_only (e : Except Fault α) : (Action.ofExcept e).Only (·.isRequest = false) :=
  .of_makes fun _ => (Runs.ofExcept e).makes

theorem traced_only (x : Traced α) : (ofTraced x).Only (·.isRequest = false) :=
  .of_makes fun _ => (Runs.ofTraced x).makes

theorem requestFault_decode (h : source.decode document = .error fault) :
    requestFault fault = fault := by
  have hne := decode_ne_driver source document
  cases fault with
  | driver cause => exact absurd h (hne cause)
  | _ => rfl

theorem answered {x : Action Client}
    (hx : x.Ends client Call.fault Unsent (fun _ => False) (· = client)) :
    x.guarded.Ends client Call.raised Unsent admitted (· = client) :=
  hx.guarded fun _ h => h.elim

theorem replied (reply : Client → Value) {x : Action Client}
    (hx : x.Ends client Call.raised Unsent (source.decode (reply client) = .error ·) (· = client)) :
    (x >>= fun client => Action.ofExcept (source.decode (reply client))).Ends client Call.raised
      Unsent (source.decode (reply client) = .error ·) fun _ => True := by
  refine hx.bind ?_
  rintro _ rfl
  exact .ofExcept (fun _ _ => trivial) fun _ h => h

theorem sortCursor_ends (order : SortOrder) :
    (sortCursor order).Ends client Call.fault Never admitted fun _ => True := by
  unfold sortCursor
  split
  · exact .pure trivial
  · exact (Ends.call fun _ => rfl).bind fun _ _ => .pure trivial

theorem count_ends (selector : Value) :
    (source.count selector).Ends client Call.fault Unsent admitted
      (· = client.counted selector) := by
  refine opened fun ns => ?_
  unfold Client.counted
  split
  · refine (Ends.call fun _ => rfl).bind fun other hother => .pure ?_
    rw [hother]
  · refine .after (traced_only _) fun _ => (Ends.call fun _ => rfl).bind fun other hother => ?_
    refine .pure ?_
    rw [hother]

theorem fetch_ends :
    (source.fetch client).Ends client Call.fault Never (source.Undecoded client) fun _ => True := by
  refine (Ends.ofExcept (fun _ _ => trivial) fun fault h => mapM_error h).bind fun items _ => ?_
  exact (Ends.call fun _ => rfl).bind fun _ _ => .pure trivial

-- ---------------------------------------------------------------------------
-- Operations
-- ---------------------------------------------------------------------------

/-- What an operation is done with before it sends anything, and what it finds in replies. -/
abbrev Orderly (client : Client) (admitted : Fault → Prop) (x : Action α) : Prop :=
  x.Ends client Call.raised Unsent admitted fun _ => True

theorem findOne_orderly (filter fields : Value) :
    Orderly client (source.decode client.document = .error ·) (source.findOne filter fields) := by
  refine replied Client.document (answered (opened fun ns => ?_))
  refine .after (except_only _) fun selector => .after (except_only _) fun fields => ?_
  exact .call fun _ => rfl

theorem fetched_ends :
    (source.fetch client >>= fun items => pure (Value.list items)).Ends client Call.fault Never
      (source.Undecoded client) fun _ => True :=
  fetch_ends.bind fun _ _ => .pure trivial

theorem undecoded_requestFault (h : source.Undecoded client fault) :
    source.Undecoded client (requestFault fault) := by
  obtain ⟨document, hmem, hdecode⟩ := h
  rw [requestFault_decode hdecode]
  exact ⟨document, hmem, hdecode⟩

theorem find_orderly (filter : Value) :
    Orderly client (source.Undecoded client) (source.find filter) := by
  refine .guarded (fun _ => undecoded_requestFault) (opened fun ns => ?_)
  refine .after (except_only _) fun selector => (Ends.call fun _ => rfl).bind ?_
  rintro _ rfl
  exact fetched_ends

theorem selectorOf_only (filter : Value) :
    (source.selectorOf filter).Only (·.isRequest = false) :=
  (traced_only _).bind fun _ => except_only (.ok _)

theorem all_orderly (filter fields order : Value) :
    Orderly client (source.Undecoded client) (source.all filter fields order) := by
  refine .after (selectorOf_only _) fun selector => .after (except_only _) fun order => ?_
  refine .guarded (fun _ => undecoded_requestFault) (opened fun ns => ?_)
  refine .after (except_only _) fun fields => (Ends.call fun _ => rfl).bind ?_
  rintro _ rfl
  exact (sortCursor_ends order).bind fun _ _ => fetched_ends

theorem getById_orderly (id : Value) :
    Orderly client (source.decode client.document = .error ·) (source.getById id) := by
  unfold getById
  split
  · exact findOne_orderly _ _
  · exact .after (traced_only _) fun _ => .pure trivial

theorem request_ends {c : Namespace → Call} (hc : ∀ ns cause, (c ns).fault cause = .driver cause) :
    (source.request c).Ends client Call.raised Unsent admitted (· = client) :=
  answered (opened fun ns => .call (hc ns))

theorem add_orderly (document : Value) :
    Orderly client (source.Rejects client · (.add document)) (source.add document) := by
  refine .after_runs (.ofExcept _) fun entries hentries => ?_
  refine .weaken (fun fault h => ⟨entries, hentries, h⟩) ?_
  exact replied (fun client => .map (entries.put idKey client.insertedId))
    (request_ends (c := (.insertOne · (.map entries))) fun _ _ => rfl)

theorem delete_orderly (id : Value) : Orderly client (fun _ => False) (source.delete id) := by
  unfold delete
  split
  · exact .pure trivial
  · rename_i oid _
    exact (request_ends (c := (.deleteOne · (idSelector oid))) fun _ _ => rfl).bind fun _ _ =>
      .pure trivial

theorem deleteMany_orderly (filter : Value) :
    Orderly client (fun _ => False) (source.deleteMany filter) := by
  refine (answered (opened fun ns => ?_)).bind fun _ _ => .pure trivial
  exact .after (except_only _) fun selector => .call fun _ => rfl

theorem deleteManyById_orderly (ids : Value) :
    Orderly client (fun _ => False) (source.deleteManyById ids) :=
  .after_runs (.ofExcept _) fun _ _ => deleteMany_orderly _

theorem update_orderly (id changes : Value) :
    Orderly client (source.decode client.document = .error ·) (source.update id changes) := by
  unfold update
  split
  · exact .pure trivial
  · rename_i oid _
    refine .after_runs (.ofExcept _) fun entries _ => ?_
    dsimp only
    split
    · exact findOne_orderly _ _
    · exact replied Client.document (request_ends
        (c := (.findOneAndUpdate · (idSelector oid) (setUpdate (entries.erase idKey)) false true))
        fun _ _ => rfl)

theorem updateMany_orderly (ids changes : Value) :
    Orderly client (fun _ => False) (source.updateMany ids changes) := by
  refine .after_runs (.ofOperand _) fun kept _ => ?_
  split
  · exact .after (traced_only _) fun _ => .pure trivial
  · refine (answered (opened fun ns => ?_)).bind fun _ _ => .pure trivial
    exact .after (except_only _) fun oids => .call fun _ => rfl

theorem findOneAndUpdate_orderly (id changes : Value) :
    Orderly client (source.decode client.document = .error ·)
      (source.findOneAndUpdate id changes) := by
  unfold findOneAndUpdate
  split
  · exact .of_only (except_only _)
  · rename_i oid _
    refine .after (except_only _) fun entries => .after (except_only _) fun direct => ?_
    exact replied Client.document (request_ends (c := (.findOneAndUpdate ·
      (idSelector oid) (if direct then .map entries else setUpdate entries) true false))
      fun _ _ => rfl)

theorem skipFor_plan (hl : source.IntegerLimit listing)
    (hp : source.planFor listing = .ok plan) :
    ∃ skip, skipFor (.int plan.page) plan.limit = .ok skip := by
  obtain ⟨hpage, hlimit, -, -⟩ := planFor_ok hp
  obtain ⟨n, -, hn⟩ := pageLimit_integer (p := fun _ => True) (fun _ _ => trivial)
    (by simpa only [IntegerLimit, true_and] using hl) hlimit
  exact ⟨_, skipFor_integer (pageNumber_pos hpage) hn⟩

theorem listing_orderly {found : Action (Value × List Value)}
    (hp : source.planFor listing = .ok plan)
    (hx : found.Ends client Call.fault Unsent (source.Undecoded client)
      (·.1 = client.counted plan.selector)) :
    Orderly client
      (fun fault => source.Undecoded client fault ∨ source.Unpaged client listing fault) (do
        let (total, items) ← guarded found
        let info ← ofOperand (PageInfo.of total (.int plan.page) plan.limit)
        pure (Page.mk info items) : Action Page) := by
  refine (hx.guarded fun _ h => .inl (undecoded_requestFault h)).bind ?_
  rintro ⟨total, items⟩ rfl
  refine (Ends.ofExcept (fun _ _ => trivial) fun fault h => ?_).bind fun info _ => .pure trivial
  exact .inr ⟨plan, hp, h⟩

theorem listPage_orderly (hl : source.IntegerLimit listing) :
    Orderly client (source.Rejects client · (.listPage listing)) (source.listPage listing) := by
  have hplanned : source.listPage listing = source.planned listing _ := rfl
  rw [hplanned, planned_eq]
  refine .after_runs (planned_runs source listing) fun plan hp => listing_orderly hp ?_
  refine (count_ends plan.selector).bind fun total htotal => ?_
  refine openCollection_ends.bind fun ns _ => (Ends.call fun _ => rfl).bind ?_
  rintro _ rfl
  obtain ⟨skip, hskip⟩ := skipFor_plan hl hp
  refine (sortCursor_ends plan.order).bind fun _ _ => ?_
  refine (Ends.ofExcept (fun _ _ => trivial) fun fault h => ?_).bind fun skip _ => ?_
  · rw [hskip] at h
    cases h
  refine (Ends.call fun _ => rfl).bind fun _ _ => (Ends.call fun _ => rfl).bind fun _ _ => ?_
  exact fetch_ends.bind fun items _ => .pure htotal

theorem listAggregation_orderly (stages : Value) (listing : Listing) :
    Orderly client (source.Rejects client · (.listAggregation stages listing))
      (source.listAggregation stages listing) := by
  have hplanned : source.listAggregation stages listing = source.planned listing _ := rfl
  rw [hplanned, planned_eq]
  refine .after_runs (planned_runs source listing) fun plan hp => ?_
  refine .after (except_only _) fun skip => .after (traced_only _) ?_
  refine fun pipeline => listing_orderly hp ?_
  refine (count_ends plan.selector).bind fun total htotal => ?_
  refine openCollection_ends.bind fun ns _ => (Ends.call fun _ => rfl).bind ?_
  rintro _ rfl
  exact fetch_ends.bind fun items _ => .pure htotal

theorem perform_orderly (hl : source.IntegerLimits operation) :
    Orderly client (source.Rejects client · operation) (source.perform operation) := by
  cases operation with
  | findOne filter fields => exact (findOne_orderly filter fields).map _
  | find filter => exact (find_orderly filter).map _
  | all filter fields order => exact (all_orderly filter fields order).map _
  | listPage listing => exact (listPage_orderly hl).map _
  | listAggregation stages listing => exact (listAggregation_orderly stages listing).map _
  | getById id => exact (getById_orderly id).map _
  | add document => exact (add_orderly document).map _
  | delete id => exact (delete_orderly id).map _
  | deleteManyById ids => exact (deleteManyById_orderly ids).map _
  | deleteMany filter => exact (deleteMany_orderly filter).map _
  | update id changes => exact (update_orderly id changes).map _
  | updateMany ids changes => exact (updateMany_orderly ids changes).map _
  | findOneAndUpdate id changes => exact (findOneAndUpdate_orderly id changes).map _

/-- An operation that ends in a fault has sent no request, or the fault is that of the last
call it made, or it is found in what the store replied. So a fault in the arguments comes
before every request. -/
theorem requests_after_checks (source : DataSource) (operation : Operation)
    (hl : source.IntegerLimits operation) (client? : Option Client) (journal : Journal)
    (fault : Fault) (h : (source.perform operation client? journal).1 = .error fault) :
    ∃ made, (source.perform operation client? journal).2.calls = journal.calls ++ made ∧
      ((∀ c ∈ made, c.isRequest = false) ∨
        ∃ client, client? = some client ∧ (source.Rejects client fault operation ∨
          client.Failed Call.raised journal.calls.length made fault)) := by
  cases client? with
  | none =>
    obtain ⟨hcalls, -⟩ := (source.perform_wraps operation).reports.offline journal
    exact ⟨[], hcalls.trans (List.append_nil _).symm, .inl (List.forall_mem_nil _)⟩
  | some client =>
    have hends : Orderly client (source.Rejects client · operation) (source.perform operation) :=
      perform_orderly hl
    obtain ⟨made, hcalls, -, herror⟩ := hends journal
    exact ⟨made, hcalls, (herror fault h).imp_right fun hlate => ⟨client, rfl, hlate⟩⟩

theorem requests_after_checks_infinite_page :
    let listing : Listing := ⟨.float (.infinity false), .int 10, .null, .null⟩
    let run := (plain "people").perform (.listPage listing) (some (.idle (.str "db"))) .empty
    run.1 = .error (.misuse .tooLarge) ∧ ∀ c ∈ run.2.calls, c.isRequest = false := by
  intro listing run
  have hrun : run.1 = .error (.misuse .tooLarge) := rfl
  refine ⟨hrun, ?_⟩
  obtain ⟨made, hcalls, hmade⟩ := requests_after_checks (plain "people") (.listPage listing)
    (.inl ⟨10, rfl⟩) (some (.idle (.str "db"))) .empty _ hrun
  rw [hcalls]
  refine hmade.resolve_right ?_
  rintro ⟨client, hclient, hlate⟩
  cases hclient
  rcases hlate with (⟨document, hmem, -⟩ | ⟨plan, hplan, -⟩) | ⟨before, c, cause, -, -, hraised⟩
  · cases hmem
  · cases hplan
  · cases c <;> cases cause <;> cases hraised

end DataSource

end DocQuery
