import DocQuery.Connection

/-!
# The life of a client

A connection keeps at most one client, the one that it created last, and creates
another one only when that one is closed. `step_effect` says what a request can
do, `run_lifecycle` what holds after any sequence of requests, whatever calls fail
on the way, and `client_lifecycle` what follows for the next request.
-/

namespace DocQuery

namespace ConnectionOutcome

def used (outcome : ConnectionOutcome) : List Nat :=
  outcome.calls.map (·.1) ++ outcome.asked.toList

/-- The clients that a request closed. A call to close that fails closes none. -/
def closed (outcome : ConnectionOutcome) : List Nat :=
  match outcome.reply with
  | .ok _ => (outcome.calls.filter (·.2 = .close)).map (·.1)
  | .error _ => []

end ConnectionOutcome

namespace Connection

variable {connection : Connection}

def run (connection : Connection) : List ConnectionRequest → List ConnectionOutcome × Connection
  | [] => ([], connection)
  | request :: rest =>
    let (outcome, next) := connection.step request
    let (outcomes, last) := next.run rest
    (outcome :: outcomes, last)

def closedIn (history : List ConnectionOutcome) : List Nat :=
  history.flatMap ConnectionOutcome.closed

-- ---------------------------------------------------------------------------
-- One request
-- ---------------------------------------------------------------------------

/-- What a request can do to a connection: leave it as it is, create a client, or
close the one it keeps. -/
inductive Effect (connection : Connection) : ConnectionOutcome → Connection → Prop
  | keep (none_closed : outcome.closed = [])
      (used_current : ∀ n ∈ outcome.used, ∃ client, connection.current = some client ∧
        client.number = n) :
      Effect connection outcome connection
  | create (client : CreatedClient) (none_current : connection.current = none)
      (number_eq : client.number = connection.created)
      (none_closed : outcome.closed = []) (none_used : outcome.used = []) :
      Effect connection outcome
        { connection with created := connection.created + 1, current := some client }
  | close (client : CreatedClient) (current_eq : connection.current = some client)
      (closed_eq : outcome.closed = [client.number]) (used_eq : outcome.used = [client.number]) :
      Effect connection outcome { connection with current := none }

theorem quiet_effect (reply : Except Fault ConnectionReply) :
    Effect connection (quiet reply) connection := by
  refine .keep ?_ (fun n hn => (nomatch hn))
  cases reply <;> rfl

theorem connect_effect (defaultDatabase : Option Value) (failure : Option DriverFault) :
    Effect connection (connection.connect defaultDatabase failure).1
      (connection.connect defaultDatabase failure).2 := by
  unfold connect
  cases hc : connection.current with
  | some client => exact quiet_effect _
  | none =>
    cases connection.settings.clientOptions with
    | error cause => exact quiet_effect _
    | ok options =>
      cases failure with
      | some fault => exact quiet_effect _
      | none => exact .create _ hc rfl rfl rfl

theorem Effect.of_used {client : CreatedClient} (hc : connection.current = some client)
    (none_closed : outcome.closed = []) (used_eq : outcome.used = [client.number]) :
    Effect connection outcome connection := by
  refine .keep none_closed ?_
  intro n hn
  rw [used_eq, List.mem_singleton] at hn
  exact ⟨client, hc, hn.symm⟩

theorem database_effect (name : Value) (failure : Option DriverFault) :
    Effect connection (connection.database name failure) connection := by
  unfold database
  cases hc : connection.current with
  | none => exact quiet_effect _
  | some client =>
    refine .of_used hc ?_ rfl
    unfold ConnectionOutcome.closed
    split <;> rfl

theorem close_effect (failure : Option DriverFault) :
    Effect connection (connection.close failure).1 (connection.close failure).2 := by
  unfold close
  cases hc : connection.current with
  | none => exact quiet_effect _
  | some client =>
    cases failure with
    | none => exact .close client hc rfl rfl
    | some fault => exact .of_used hc rfl rfl

theorem checkHealth_effect (failure : Option DriverFault) :
    Effect connection (connection.checkHealth failure) connection := by
  unfold checkHealth
  cases hc : connection.current with
  | none => exact quiet_effect _
  | some client =>
    cases failure with
    | none => exact .of_used hc rfl rfl
    | some fault =>
      dsimp only
      split <;> exact .of_used hc rfl rfl

theorem step_effect (request : ConnectionRequest) :
    Effect connection (connection.step request).1 (connection.step request).2 := by
  cases request with
  | connect defaultDatabase failure => exact connect_effect defaultDatabase failure
  | client => exact quiet_effect _
  | database name failure => exact database_effect name failure
  | close failure => exact close_effect failure
  | checkHealth failure => exact checkHealth_effect failure

/-- How a connection stands to the clients that were closed so far: they are the
first ones that it created, each closed once and in order, and the client that it
keeps is the only other one. -/
structure Lifecycle (closed : List Nat) (connection : Connection) : Prop where
  closed_eq : closed = List.range closed.length
  created_eq : connection.created = closed.length + if connection.current.isSome then 1 else 0
  number_eq : ∀ client, connection.current = some client → client.number = closed.length

theorem Lifecycle.mem_closed (h : Lifecycle closed connection) :
    n ∈ closed ↔ n < closed.length := by
  rw [← List.mem_range, ← h.closed_eq]

theorem Lifecycle.effect (h : Lifecycle closed connection)
    (he : Effect connection outcome next) : Lifecycle (closed ++ outcome.closed) next := by
  cases he with
  | keep none_closed => rwa [none_closed, List.append_nil]
  | create client none_current number_eq none_closed =>
    have hcreated : connection.created = closed.length := by
      simpa [none_current] using h.created_eq
    rw [none_closed, List.append_nil]
    refine ⟨h.closed_eq, ?_, ?_⟩
    · simp [hcreated]
    · intro current hcurrent
      cases hcurrent
      rw [number_eq, hcreated]
  | close client current_eq closed_eq =>
    have hcreated : connection.created = closed.length + 1 := by
      simpa [current_eq] using h.created_eq
    rw [closed_eq, h.number_eq client current_eq]
    refine ⟨?_, ?_, fun _ hn => (nomatch hn)⟩
    · rw [List.length_append, List.length_singleton, List.range_succ, ← h.closed_eq]
    · simp [hcreated]

/-- The induction is on the requests, from any point of the life of a connection. -/
theorem Lifecycle.run (h : Lifecycle closed connection) (requests : List ConnectionRequest) :
    Lifecycle (closed ++ closedIn (connection.run requests).1) (connection.run requests).2 := by
  induction requests generalizing closed connection with
  | nil => simpa [Connection.run, closedIn] using h
  | cons request rest ih =>
    have hnext := ih (h.effect (step_effect request))
    rwa [List.append_assoc] at hnext

theorem Lifecycle.used (h : Lifecycle closed connection) (he : Effect connection outcome next) :
    ∀ n ∈ outcome.used, n ∉ closed := by
  intro n hn
  rw [h.mem_closed]
  cases he with
  | keep _ used_current =>
    obtain ⟨client, hc, rfl⟩ := used_current n hn
    rw [h.number_eq client hc]
    exact Nat.lt_irrefl _
  | create _ _ _ _ none_used =>
    rw [none_used] at hn
    cases hn
  | close client current_eq _ used_eq =>
    rw [used_eq, List.mem_singleton] at hn
    rw [hn, h.number_eq client current_eq]
    exact Nat.lt_irrefl _

theorem Lifecycle.create (h : Lifecycle closed connection) (he : Effect connection outcome next)
    (hc : next.created ≠ connection.created) :
    connection.current = none ∧ ∀ n < connection.created, n ∈ closed := by
  cases he with
  | keep | close => exact absurd rfl hc
  | create _ none_current =>
    refine ⟨none_current, fun n hn => h.mem_closed.mpr ?_⟩
    simpa [h.created_eq, none_current] using hn

end Connection

end DocQuery
