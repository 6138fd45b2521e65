import DocQuery.Connection
import DocQuery.Proofs.Client.Runs
import DocQuery.Proofs.FirstFault
import DocQuery.Report

/-!
# Calls that fail

In what an action ends when one of its calls fails, wherever that call stands, and
in what it ends without a client. `Reports` says so of the calls alone; `Wraps` says
besides which failures of the driver an action may end in itself.
-/

namespace DocQuery

/-- How a call fails that follows a number of earlier ones: as the client says, or
because there is no database to open. -/
def Client.fault? (client : Client) (n : Nat) : Call → Option DriverFault
  | .openDatabase .null => (client.failure n (.openDatabase .null)).or
      (if client.defaultDatabase.isNone then some (.configuration "No default database defined")
      else none)
  | c => client.failure n c

/-- What a call that fails ends in where it is made, which tells a database that is
missing apart. -/
def Call.fault : Call → DriverFault → Fault
  | .openDatabase _, fault => databaseFault (.driver fault)
  | _, fault => .driver fault

def Call.raised : Call → DriverFault → Fault
  | .openDatabase _, .configuration _ => .noDefaultDatabase
  | _, .request message | _, .configuration message => .requestFailed message
  | _, .value message => .driver (.value message)
  | _, .type message => .driver (.type message)

theorem Call.requestFault_fault (c : Call) (fault : DriverFault) :
    Action.requestFault (c.fault fault) = c.raised fault := by
  cases c <;> cases fault <;> rfl

theorem Client.fault?_of_failure {client : Client} (hf : client.failure n c = some fault) :
    client.fault? n c = some fault := by
  unfold Client.fault?
  split
  · rw [hf, Option.some_or]
  · exact hf

theorem databaseName_fault? {client : Client} (hf : client.failure n (.openDatabase name) = none)
    (h : client.fault? n (.openDatabase name) = some fault) :
    databaseName client.defaultDatabase name = .error (.driver fault) := by
  unfold Client.fault? at h
  split at h
  · rename_i hname
    cases hname
    rw [hf, Option.none_or] at h
    cases hdefault : client.defaultDatabase with
    | some database => simp [hdefault] at h
    | none =>
      simp only [hdefault, Option.isNone_none, if_true, Option.some.injEq] at h
      rw [← h]
      rfl
  · rw [hf] at h
    cases h

namespace Action

variable {raised : Call → DriverFault → Fault} {x : Action α} {f : α → Action β}

-- ---------------------------------------------------------------------------
-- Calls
-- ---------------------------------------------------------------------------

/-- Of calls made after a number of earlier ones, one that fails is the last, and the
result is what `raised` makes of the failure. -/
def FailsLast (raised : Call → DriverFault → Fault) (client : Client) (start : Nat)
    (made : List Call) (result : Except Fault α) : Prop :=
  ∀ i c fault, made[i]? = some c → client.fault? (start + i) c = some fault →
    made.length = i + 1 ∧ result = .error (raised c fault)

theorem FailsLast.append (hx : FailsLast raised client start made (.ok (a : α)))
    (hf : FailsLast raised client (start + made.length) more (result : Except Fault β)) :
    FailsLast raised client start (made ++ more) result := by
  intro i c fault hi hfault
  by_cases hlt : i < made.length
  · rw [List.getElem?_append_left hlt] at hi
    cases (hx i c fault hi hfault).2
  · rw [List.getElem?_append_right (Nat.not_lt.mp hlt)] at hi
    have hpos : start + made.length + (i - made.length) = start + i := by omega
    obtain ⟨hlast, heq⟩ := hf _ c fault hi (hpos ▸ hfault)
    refine ⟨?_, heq⟩
    rw [List.length_append]
    omega

theorem FailsLast.error (h : FailsLast raised client start made (.error fault : Except Fault α)) :
    FailsLast raised client start made (.error fault : Except Fault β) := by
  intro i c cause hi hcause
  obtain ⟨hlast, heq⟩ := h i c cause hi hcause
  exact ⟨hlast, congrArg Except.error (Except.error.inj heq)⟩

/-- A call that fails is the last one that an action makes, and the action ends in
what `raised` makes of the failure. Without a client it ends where the first call
would be made. -/
structure Reports (raised : Call → DriverFault → Fault) (x : Action α) : Prop where
  failing : ∀ client journal, ∃ made,
    (x (some client) journal).2.calls = journal.calls ++ made ∧
    FailsLast raised client journal.calls.length made (x (some client) journal).1
  offline : ∀ journal, (x none journal).2.calls = journal.calls ∧
    ((x none journal).1 = .error .notConnected ∨
      ∀ client, x (some client) journal = x none journal)

theorem Reports.of_silent (hx : ∀ client? journal, (x client? journal).2.calls = journal.calls)
    (hi : ∀ client journal, x (some client) journal = x none journal) : x.Reports raised := by
  refine ⟨fun client journal => ⟨[], ?_, fun i c fault hc => ?_⟩, fun journal => ⟨hx _ _, .inr ?_⟩⟩
  · rw [hx, List.append_nil]
  · simp at hc
  · exact fun client => hi client journal

theorem Reports.ofExcept (e : Except Fault α) : (ofExcept e).Reports raised :=
  .of_silent (fun _ _ => rfl) fun _ _ => rfl

theorem Reports.pure (a : α) : (pure a : Action α).Reports raised := .ofExcept (.ok a)

theorem Reports.ofTraced (t : Traced α) : (ofTraced t).Reports raised :=
  .of_silent (fun _ _ => rfl) fun _ _ => rfl

theorem Reports.of_single (hm : ∀ client, x.Makes (some client) [c])
    (hf : ∀ client journal fault, client.fault? journal.calls.length c = some fault →
      (x (some client) journal).1 = .error (raised c fault))
    (ho : ∀ journal, x none journal = (.error .notConnected, journal)) : x.Reports raised := by
  refine ⟨fun client journal => ⟨[c], hm client journal, fun i made fault hi hfault => ?_⟩, ?_⟩
  · cases i with
    | zero =>
      cases hi
      exact ⟨rfl, hf client journal fault hfault⟩
    | succ i => cases hi
  · intro journal
    rw [ho]
    exact ⟨rfl, .inl rfl⟩

theorem Reports.call (hc : ∀ fault, c.fault fault = .driver fault) :
    (call c).Reports Call.fault := by
  refine .of_single (.call · c) (fun client journal fault hfault => ?_) fun journal => rfl
  cases c with
  | openDatabase name => cases hc (.configuration "")
  | _ =>
    unfold Client.fault? at hfault
    simp only [Action.call, hfault]
    rfl

theorem Reports.bind (hx : x.Reports raised) (hf : ∀ a, (f a).Reports raised) :
    (x >>= f).Reports raised := by
  constructor
  · intro client journal
    obtain ⟨made, hcalls, hfail⟩ := hx.failing client journal
    rw [bind_run]
    cases hrun : x (some client) journal with
    | mk result after =>
      rw [hrun] at hcalls hfail
      cases result with
      | error fault => exact ⟨made, hcalls, hfail.error⟩
      | ok a =>
        obtain ⟨more, hmore, hlater⟩ := (hf a).failing client after
        refine ⟨made ++ more, ?_, hfail.append ?_⟩
        · rw [hmore, hcalls, List.append_assoc]
        · rwa [hcalls, List.length_append] at hlater
  · intro journal
    obtain ⟨hcalls, hoff⟩ := hx.offline journal
    rw [bind_run]
    cases hrun : x none journal with
    | mk result after =>
      rw [hrun] at hcalls hoff
      cases result with
      | error fault =>
        refine ⟨hcalls, hoff.imp (fun h => ?_) fun h client => ?_⟩
        · cases h
          rfl
        · rw [bind_run, h client]
      | ok a =>
        obtain ⟨hmore, hlater⟩ := (hf a).offline after
        refine ⟨hmore.trans hcalls, hlater.imp_right fun h client => ?_⟩
        rcases hoff with hoff | hoff
        · cases hoff
        · rw [bind_run, hoff client]
          exact h client

theorem Reports.mapFault {g : Fault → Fault} (hg : g .notConnected = .notConnected)
    (hx : x.Reports raised) : (x.mapFault g).Reports fun c fault => g (raised c fault) := by
  constructor
  · intro client journal
    obtain ⟨made, hcalls, hfail⟩ := hx.failing client journal
    rw [mapFault_run]
    refine ⟨made, hcalls, fun i c fault hi hf => ?_⟩
    obtain ⟨hlast, heq⟩ := hfail i c fault hi hf
    refine ⟨hlast, ?_⟩
    rw [heq]
    rfl
  · intro journal
    obtain ⟨hcalls, hoff⟩ := hx.offline journal
    simp only [mapFault_run]
    refine ⟨hcalls, hoff.imp (fun h => ?_) fun h client => ?_⟩
    · rw [h]
      exact congrArg Except.error hg
    · rw [h client]

theorem Reports.guarded (hx : x.Reports Call.fault) : x.guarded.Reports Call.raised := by
  have h : x.guarded.Reports fun c fault => requestFault (c.fault fault) := hx.mapFault rfl
  simpa only [Call.requestFault_fault] using h

-- ---------------------------------------------------------------------------
-- The driver's failures
-- ---------------------------------------------------------------------------

def Contains (raises : DriverFault → Prop) (x : Action α) : Prop :=
  ∀ client? journal fault, (x client? journal).1 = .error (.driver fault) →
    fault.isFailure = true → raises fault

variable {raises : DriverFault → Prop}

theorem Contains.of_ne (h : ∀ client? journal fault, (x client? journal).1 ≠ .error (.driver fault)) :
    x.Contains raises :=
  fun client? journal fault hx _ => absurd hx (h client? journal fault)

theorem Contains.bind (hx : x.Contains raises) (hf : ∀ a, (f a).Contains raises) :
    (x >>= f).Contains raises := by
  intro client? journal fault h hfailure
  rw [bind_run] at h
  cases hrun : x client? journal with
  | mk result after =>
    rw [hrun] at h
    cases result with
    | ok a => exact hf a client? after fault h hfailure
    | error other =>
      have hother : (x client? journal).1 = .error (.driver fault) := by
        rw [hrun]
        exact congrArg Except.error (Except.error.inj h)
      exact hx client? journal fault hother hfailure

theorem requestFault_driver (h : requestFault other = .driver fault) : fault.isFailure = false := by
  cases other with
  | driver cause =>
    cases cause with
    | request message | configuration message => cases h
    | value message | type message =>
      cases h
      rfl
  | _ => cases h

theorem Contains.guarded (x : Action α) : x.guarded.Contains raises := by
  intro client? journal fault h hfailure
  unfold Action.guarded at h
  rw [mapFault_run] at h
  cases hrun : (x client? journal).1 with
  | ok a => rw [hrun] at h; cases h
  | error other =>
    rw [hrun] at h
    rw [requestFault_driver (Except.error.inj h)] at hfailure
    cases hfailure

-- ---------------------------------------------------------------------------
-- Both together
-- ---------------------------------------------------------------------------

/-- An action reports the failures of calls as its own and passes on no other failure
of the driver than those that it raises itself. -/
structure Wraps (raises : DriverFault → Prop) (x : Action α) : Prop where
  reports : x.Reports Call.raised
  contains : x.Contains raises

theorem Wraps.ofExcept (h : ∀ fault, e ≠ .error (.driver fault)) :
    (ofExcept e : Action α).Wraps raises :=
  ⟨.ofExcept e, .of_ne fun _ _ => h⟩

theorem Wraps.pure (a : α) : (pure a : Action α).Wraps raises :=
  .ofExcept (e := .ok a) fun _ h => nomatch h

theorem Wraps.ofOperand (e : Except Misuse α) : (ofOperand e).Wraps raises :=
  .ofExcept (orFault_ne_driver e)

theorem Wraps.ofTraced (h : ∀ fault, t.result = .error (.driver fault) → raises fault) :
    (ofTraced t : Action α).Wraps raises :=
  ⟨.ofTraced t, fun _ _ fault hx _ => h fault hx⟩

theorem Wraps.note (source : LogSource) (level : LogLevel) (message : String) :
    (note source level message).Wraps raises :=
  .ofTraced fun _ h => nomatch h

theorem Wraps.guarded (hx : x.Reports Call.fault) : x.guarded.Wraps raises :=
  ⟨hx.guarded, .guarded x⟩

theorem Wraps.bind (hx : x.Wraps raises) (hf : ∀ a, (f a).Wraps raises) :
    (x >>= f).Wraps raises :=
  ⟨hx.reports.bind fun a => (hf a).reports, hx.contains.bind fun a => (hf a).contains⟩

theorem Wraps.map (g : α → β) (hx : x.Wraps raises) : (g <$> x).Wraps raises :=
  hx.bind fun _ => .pure _

end Action

open DocQuery.Action

-- ---------------------------------------------------------------------------
-- Opening a database
-- ---------------------------------------------------------------------------

theorem openDatabase_reports (name : Value) : (openDatabase name).Reports Call.fault := by
  refine .of_single (c := .openDatabase name) (fun client => ?_) ?_ fun journal => rfl
  · exact ((Makes.call client _).bind_silent fun _ => (Runs.ofExcept _).makes).mapFault
  · intro client journal fault hfault
    unfold openDatabase
    rw [mapFault_run, bind_run]
    cases hf : client.failure journal.calls.length (.openDatabase name) with
    | some cause =>
      obtain rfl : cause = fault := by
        simpa [Client.fault?_of_failure hf] using hfault
      simp only [Action.call, hf]
      rfl
    | none =>
      simp only [Action.call, hf, Action.ofExcept, databaseName_fault? hf hfault]
      rfl

end DocQuery
