import DocQuery.Assoc
import DocQuery.Client

/-!
# Connections

A connection creates its client when it is first asked to connect and keeps it
until it is closed. `Connection.step` performs one request and tells the outcome,
the calls that a client received and what was noted. A request that fails leaves
the client as it was.
-/

namespace DocQuery

-- ---------------------------------------------------------------------------
-- Databases
-- ---------------------------------------------------------------------------

/-- A driver that is not configured for a database has no default one. -/
def databaseFault : Fault → Fault
  | .driver (.configuration _) => .noDefaultDatabase
  | fault => fault

/-- The name of the database that a name stands for: itself, or the client's
default database if there is no name. -/
def databaseName (default? : Option Value) (name : Value) : Except Fault Value :=
  match name, default? with
  | .null, some database => .ok database
  | .null, none => .error (.driver (.configuration "No default database defined"))
  | name, _ => .ok name

def openDatabase (name : Value) : Action Value :=
  Action.mapFault databaseFault do
    let client ← Action.call (.openDatabase name)
    Action.ofExcept (databaseName client.defaultDatabase name)

-- ---------------------------------------------------------------------------
-- The life of a client
-- ---------------------------------------------------------------------------

structure ConnectionSettings where
  url : Value
  serverSelectionTimeout : Value
  connectTimeout : Value
  /-- Further options, passed on to the client by name. -/
  extra : Fields

namespace ConnectionSettings

def urlKey : String := "url"
def serverSelectionTimeoutKey : String := "server_selection_timeout_ms"
def connectTimeoutKey : String := "connect_timeout_ms"

def ofArguments (arguments : Fields) : ConnectionSettings where
  url := (Assoc.lookup urlKey arguments).getD (.str "mongodb://localhost:27017")
  serverSelectionTimeout := (Assoc.lookup serverSelectionTimeoutKey arguments).getD (.int 5000)
  connectTimeout := (Assoc.lookup connectTimeoutKey arguments).getD (.int 10000)
  extra := arguments.filter fun (name, _) =>
    name ≠ urlKey && name ≠ serverSelectionTimeoutKey && name ≠ connectTimeoutKey

/-- The options of a client in order; an option cannot be given twice. -/
def clientOptions (settings : ConnectionSettings) : Except Misuse Fields :=
  let own := [("serverSelectionTimeoutMS", settings.serverSelectionTimeout),
    ("connectTimeoutMS", settings.connectTimeout)]
  if settings.extra.any fun (name, _) => (Assoc.lookup name own).isSome then .error .wrongType
  else .ok (own ++ settings.extra)

end ConnectionSettings

structure CreatedClient where
  number : Nat
  defaultDatabase : Option Value
  url : Value
  options : Fields

structure Connection where
  settings : ConnectionSettings
  created : Nat
  current : Option CreatedClient

def Connection.new (settings : ConnectionSettings) : Connection := ⟨settings, 0, none⟩

inductive ConnectionRequest where
  | connect (defaultDatabase : Option Value) (failure : Option DriverFault)
  | client
  | database (name : Value) (failure : Option DriverFault)
  | close (failure : Option DriverFault)
  | checkHealth (failure : Option DriverFault)

inductive ClientCall where
  | ping
  | close
  deriving DecidableEq, Repr

inductive ConnectionReply where
  | client (client : CreatedClient)
  | number (n : Nat)
  | database (client : Nat) (name : Value)
  | closed
  | healthy (b : Bool)

/-- The outcome of a request: the reply, the calls received, by the client's
number, the client that was asked for a database, which it gives without asking
the server, and the records noted. -/
structure ConnectionOutcome where
  reply : Except Fault ConnectionReply
  calls : List (Nat × ClientCall)
  asked : Option Nat
  log : List LogRecord

namespace Connection

def quiet (reply : Except Fault ConnectionReply) : ConnectionOutcome :=
  ⟨reply, [], none, []⟩

/-- How a client's constructor fails. A type it refuses is passed on. -/
def constructionFault : DriverFault → Fault
  | .type message => .driver (.type message)
  | fault => .connectFailed fault.message

def connect (connection : Connection) (defaultDatabase : Option Value)
    (failure : Option DriverFault) : ConnectionOutcome × Connection :=
  match connection.current with
  | some client => (quiet (.ok (.client client)), connection)
  | none => match connection.settings.clientOptions, failure with
    | .error cause, _ => (quiet (.error (.misuse cause)), connection)
    | .ok _, some fault => (quiet (.error (constructionFault fault)), connection)
    | .ok options, none =>
      let client : CreatedClient :=
        ⟨connection.created, defaultDatabase, connection.settings.url, options⟩
      let message := "Created Motor client for " ++ connection.settings.url.text
      (⟨.ok (.client client), [], none, [⟨.connection, .debug, message⟩]⟩,
        { connection with created := connection.created + 1, current := some client })

def database (connection : Connection) (name : Value) (failure : Option DriverFault) :
    ConnectionOutcome :=
  match connection.current with
  | none => quiet (.error .notConnected)
  | some client =>
    let opened : Except Fault Value := match failure with
      | some fault => .error (.driver fault)
      | none => databaseName client.defaultDatabase name
    ⟨(opened.map (.database client.number)).mapError databaseFault, [], some client.number, []⟩

/-- Closes the client; one that cannot be closed stays. -/
def close (connection : Connection) (failure : Option DriverFault) :
    ConnectionOutcome × Connection :=
  match connection.current with
  | none => (quiet (.ok .closed), connection)
  | some client =>
    let calls := [(client.number, ClientCall.close)]
    match failure with
    | some fault => (⟨.error (.driver fault), calls, none, []⟩, connection)
    | none => (⟨.ok .closed, calls, none, []⟩, { connection with current := none })

/-- Whether the server answers. A failure of the driver is a negative answer, and
noted. -/
def checkHealth (connection : Connection) (failure : Option DriverFault) : ConnectionOutcome :=
  match connection.current with
  | none => quiet (.ok (.healthy false))
  | some client =>
    let calls := [(client.number, ClientCall.ping)]
    match failure with
    | none => ⟨.ok (.healthy true), calls, none, []⟩
    | some fault =>
      if fault.isFailure then
        ⟨.ok (.healthy false), calls, none,
          [⟨.connection, .warning, "MongoDB health check failed: " ++ fault.message⟩]⟩
      else ⟨.error (.driver fault), calls, none, []⟩

def step (connection : Connection) : ConnectionRequest → ConnectionOutcome × Connection
  | .connect defaultDatabase failure => connection.connect defaultDatabase failure
  | .client =>
    (quiet (connection.current.elim (.error .notConnected) fun c => .ok (.number c.number)),
      connection)
  | .database name failure => (connection.database name failure, connection)
  | .close failure => connection.close failure
  | .checkHealth failure => (connection.checkHealth failure, connection)

end Connection

end DocQuery
