import DocQuery.Query.SortOrder
import DocQuery.Traced

/-!
# Database clients

The calls that this library makes to a database driver, and a client as it is
seen from here: what it replies, and which of the calls fail. An action runs
against a client and keeps a journal of the calls it made and of what it noted;
a fault ends the action and leaves the journal as it is.
-/

namespace DocQuery

structure Namespace where
  database : Value
  collection : String

def Namespace.text (ns : Namespace) : String := ns.database.text ++ "." ++ ns.collection

inductive Call where
  | openDatabase (name : Value)
  | openCollection (name : String)
  | findOne (ns : Namespace) (filter projection : Value)
  /-- A search; the projection is passed only where the caller can ask for one. -/
  | find (ns : Namespace) (filter : Value) (projection : Option Value)
  | sort (order : SortOrder)
  | skip (count : Value)
  | limit (count : Value)
  | aggregate (ns : Namespace) (stages : List Value)
  /-- Reading past the last document of a cursor. -/
  | exhaust
  | estimateCount (ns : Namespace)
  | countDocuments (ns : Namespace) (filter : Value)
  | insertOne (ns : Namespace) (document : Value)
  | deleteOne (ns : Namespace) (filter : Value)
  | deleteMany (ns : Namespace) (filter : Value)
  | updateMany (ns : Namespace) (filter update : Value)
  | findOneAndUpdate (ns : Namespace) (filter update : Value) (upsert returnNew : Bool)

/-- A client: its replies, and how the call fails that follows a number of
earlier ones. -/
structure Client where
  defaultDatabase : Option Value
  /-- The documents that a cursor yields. -/
  documents : List Value
  document : Value
  estimatedCount : Value
  exactCount : Value
  deletedCount : Value
  modifiedCount : Value
  insertedId : Value
  failure : Nat → Call → Option DriverFault

structure Journal where
  calls : List Call
  log : List LogRecord

def Journal.empty : Journal := ⟨[], []⟩

/-- A computation that talks to a client, if there is one. -/
def Action (α : Type) := Option Client → Journal → Except Fault α × Journal

namespace Action

instance : Monad Action where
  pure a := fun _ journal => (.ok a, journal)
  bind x f := fun client? journal =>
    match x client? journal with
    | (.ok a, journal) => f a client? journal
    | (.error fault, journal) => (.error fault, journal)

@[simp] theorem pure_run (a : α) (client? : Option Client) (journal : Journal) :
    (pure a : Action α) client? journal = (.ok a, journal) := rfl

theorem bind_run (x : Action α) (f : α → Action β) (client? : Option Client) (journal : Journal) :
    (x >>= f) client? journal = match x client? journal with
      | (.ok a, journal) => f a client? journal
      | (.error fault, journal) => (.error fault, journal) := rfl

def ofExcept (x : Except Fault α) : Action α := fun _ journal => (x, journal)

def ofOperand (x : Except Misuse α) : Action α := ofExcept (orFault x)

def fail (fault : Fault) : Action α := ofExcept (.error fault)

def ofTraced (x : Traced α) : Action α := fun _ journal =>
  (x.result, { journal with log := journal.log ++ x.log })

def note (source : LogSource) (level : LogLevel) (message : String) : Action Unit :=
  ofTraced (Traced.note source level message)

/-- Makes a call, and gives the client for its reply. -/
def call (c : Call) : Action Client := fun client? journal =>
  match client? with
  | none => (.error .notConnected, journal)
  | some client =>
    let made := { journal with calls := journal.calls ++ [c] }
    match client.failure journal.calls.length c with
    | some fault => (.error (.driver fault), made)
    | none => (.ok client, made)

def mapFault (f : Fault → Fault) (x : Action α) : Action α := fun client? journal =>
  match x client? journal with
  | (.ok a, journal) => (.ok a, journal)
  | (.error fault, journal) => (.error (f fault), journal)

def requestFault : Fault → Fault
  | .driver (.request message) | .driver (.configuration message) => .requestFailed message
  | fault => fault

def guarded (x : Action α) : Action α := x.mapFault requestFault

end Action

end DocQuery
