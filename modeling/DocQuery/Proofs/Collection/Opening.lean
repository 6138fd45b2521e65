import DocQuery.Collection.Source
import DocQuery.Proofs.Client.Runs
import DocQuery.Proofs.FirstFault

/-!
# Opening a collection

Every request to a collection is preceded by the two calls that open it. They are
no requests themselves, and `Opens` says of a client that they succeed.
-/

namespace DocQuery

/-- Whether a call sends a request or steers a cursor, other than the calls that
open a collection. -/
def Call.isRequest : Call → Bool
  | .openDatabase _ | .openCollection _ => false
  | _ => true

namespace DataSource

def opening (source : DataSource) : List Call :=
  [.openDatabase source.options.database, .openCollection source.collection]

def namespaceIn (source : DataSource) (database : Value) : Namespace :=
  ⟨database, source.collection⟩

theorem filter_opening (source : DataSource) (made : List Call) :
    (source.opening ++ made).filter Call.isRequest = made.filter Call.isRequest := rfl

end DataSource

/-- A client opens the collection of a source in a database: it has the database
that the source asks for, and neither call fails. -/
structure Client.Opens (client : Client) (source : DataSource) (database : Value) : Prop where
  database_eq : databaseName client.defaultDatabase source.options.database = .ok database
  opens : ∀ n, ∀ c ∈ source.opening, client.failure n c = none

structure Client.Serves (client : Client) (source : DataSource) (database : Value) : Prop where
  database_eq : databaseName client.defaultDatabase source.options.database = .ok database
  never : ∀ n c, client.failure n c = none

variable {source : DataSource} {client : Client}

theorem Client.Serves.opens (h : client.Serves source database) : client.Opens source database :=
  ⟨h.database_eq, fun n c _ => h.never n c⟩

theorem Client.Opens.openDatabase (h : client.Opens source database) :
    (openDatabase source.options.database).Runs (some client)
      [.openDatabase source.options.database] (.ok database) := by
  have hcall := Action.Runs.call fun n =>
    h.opens n (.openDatabase source.options.database) List.mem_cons_self
  refine (hcall.bind_silent ?_).mapFault_ok
  rw [h.database_eq]
  exact .ofExcept _

theorem Client.Opens.openCollection (h : client.Opens source database) :
    source.openCollection.Runs (some client) source.opening
      (.ok (source.namespaceIn database)) := by
  have hcall := Action.Runs.call fun n =>
    h.opens n (.openCollection source.collection) (List.mem_cons_of_mem _ List.mem_cons_self)
  exact h.openDatabase.bind (hcall.bind_silent (.pure _))

namespace DataSource

variable {allowed : Call → Prop}

theorem openCollection_only (h : ∀ c, c.isRequest = false → allowed c) (source : DataSource) :
    source.openCollection.Only allowed := by
  have hdatabase : (DocQuery.openDatabase source.options.database).Only allowed := by
    refine ((Action.Only.call (h _ rfl)).bind fun client => ?_).mapFault
    exact .of_makes fun _ => (Action.Runs.ofExcept _).makes
  refine hdatabase.bind fun database => ?_
  refine (Action.Only.call (h _ rfl)).bind fun client => ?_
  exact .of_makes fun _ => (Action.Runs.pure _).makes

def request (source : DataSource) (c : Namespace → Call) : Action Client :=
  Action.guarded do
    let ns ← source.openCollection
    Action.call (c ns)

theorem request_makes (h : client.Opens source database) (c : Namespace → Call) :
    (source.request c).Makes (some client) (source.opening ++ [c (source.namespaceIn database)]) :=
  (h.openCollection.bind_makes (.call client _)).mapFault

theorem request_runs (h : client.Serves source database) (c : Namespace → Call) :
    (source.request c).Runs (some client) (source.opening ++ [c (source.namespaceIn database)])
      (.ok client) :=
  (h.opens.openCollection.bind (.call (h.never · _))).mapFault_ok

theorem of_request_ok {client? : Option Client} {c : Namespace → Call}
    (h : source.request c client? journal = (.ok client, after)) :
    client? = some client ∧ ∃ ns, c ns ∈ after.calls := by
  unfold request Action.guarded at h
  rw [Action.mapFault_run] at h
  obtain ⟨hresult, rfl⟩ := Prod.mk.inj h
  have hinner := mapError_ok.mp hresult
  obtain ⟨ns, opened, hopen, hcall⟩ := Action.of_bind_ok hinner
  obtain ⟨hclient, hmem⟩ := Action.of_call_ok hcall
  rw [Action.bind_ok hopen]
  exact ⟨hclient, ns, hmem⟩

theorem serves_or_unopened (source : DataSource) {client? : Option Client}
    (h : ∀ client, client? = some client → ∀ n c, client.failure n c = none) :
    (∃ client database, client? = some client ∧ client.Serves source database) ∨
      ∃ made fault, source.openCollection.Runs client? made (.error fault) ∧
        ∀ c ∈ made, c.isRequest = false := by
  cases client? with
  | none =>
    have hruns : source.openCollection.Runs none [] (.error .notConnected) :=
      ⟨fun _ => rfl, fun _ => (List.append_nil _).symm⟩
    exact .inr ⟨[], _, hruns, List.forall_mem_nil _⟩
  | some client =>
    cases hdatabase : databaseName client.defaultDatabase source.options.database with
    | ok database => exact .inl ⟨client, database, rfl, hdatabase, h client rfl⟩
    | error fault =>
      have hopen : (openDatabase source.options.database).Runs (some client)
          [.openDatabase source.options.database] (.error (databaseFault fault)) := by
        refine ((Action.Runs.call (h client rfl · _)).bind_silent ?_).mapFault_error
        rw [hdatabase]
        exact .ofExcept _
      exact .inr ⟨_, _, hopen.bind_error, List.forall_mem_singleton.mpr rfl⟩

theorem request_only (h : ∀ c, c.isRequest = false → allowed c) {c : Namespace → Call}
    (hc : ∀ ns, allowed (c ns)) : (source.request c).Only allowed :=
  ((openCollection_only h source).bind fun ns => .call (hc ns)).mapFault

def plain (collection : String) : DataSource := ⟨collection, .standard, none, .standard, .null⟩

end DataSource

/-- A client of one database without documents, which never fails. -/
def Client.idle (database : Value) : Client where
  defaultDatabase := some database
  documents := []
  document := .null
  estimatedCount := .int 0
  exactCount := .int 0
  deletedCount := .int 0
  modifiedCount := .int 0
  insertedId := .null
  failure := fun _ _ => none

end DocQuery
