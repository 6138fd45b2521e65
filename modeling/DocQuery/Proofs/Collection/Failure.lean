import DocQuery.Collection.Operation
import DocQuery.Proofs.Client.Failure
import DocQuery.Proofs.Collection.Opening
import DocQuery.Proofs.Selector.Assembly

/-!
# Operations on a client that fails

Every operation of a data source wraps the failures of the driver: in whichever
call one strikes, the operation ends there and reports it as its own. No failure of
the driver is passed on, unless a transform in the table of operators raises one.
-/

namespace DocQuery

theorem Fault.eq_driver_of_worded {reason : Fault} (h : reason.worded = .driver fault) :
    reason = .driver fault := by
  unfold worded at h
  split at h
  · exact h
  · cases h

-- ---------------------------------------------------------------------------
-- Compiling
-- ---------------------------------------------------------------------------

namespace Compiler

/-- A fault of the driver that a transform in the table of a compiler ends in. -/
def Raises (compiler : Compiler) (fault : DriverFault) : Prop :=
  ∃ op transform operand, compiler.table.get? op = some transform ∧
    transform.run compiler.options operand.kind operand = .error (.driver fault)

variable {compiler : Compiler}

theorem node_driver (h : (compiler.node field name operand).result = .error (.driver fault)) :
    compiler.Raises fault := by
  unfold node at h
  rw [Traced.result_bind, OperatorTable.apply_result] at h
  rcases bind_error_iff.mp h with h | ⟨_, _, h⟩
  · split at h
    · rename_i transform hget
      obtain ⟨op, -, hop⟩ := Option.bind_eq_some_iff.mp hget
      exact ⟨op, transform, operand, hop, h⟩
    · split at h <;> cases h
  · cases h

theorem selector_driver (h : (compiler.selector expression).result = .error (.driver fault)) :
    compiler.Raises fault := by
  obtain ⟨refusal?, node, hb⟩ := compiler.builds
  rw [selector_result hb, settle_error] at h
  obtain ⟨clause, -, hclause⟩ := List.exists_of_findSome?_eq_some h
  have hnode : (compiler.node clause.field clause.name clause.operand).result =
      .error (.driver fault) := by
    rw [hb, hclause, settle_some]
  exact node_driver hnode

theorem refusal?_ne_driver (options : CompilerOptions) (found : List Filter.Obstacle) :
    ¬ Filter.refusal? options found = some (.driver fault) := by
  intro h
  obtain ⟨obstacle, -, h⟩ := List.exists_of_findSome?_eq_some h
  cases obstacle with
  | malformed violation =>
    rw [Filter.Obstacle.fault?] at h
    split at h
    · cases Fault.eq_driver_of_worded (Option.some.inj h)
    · cases h
  | unwritable key => cases h

theorem compile_driver (h : (compiler.compile filter).result = .error (.driver fault)) :
    compiler.Raises fault := by
  unfold compile at h
  rw [Traced.result_bind] at h
  rcases bind_error_iff.mp h with h | ⟨expression, -, h⟩
  · cases filter with
    | map entries =>
      rw [Filter.ofValue_result, settle_error] at h
      exact absurd h (refusal?_ne_driver _ _)
    | _ => cases h
  · exact selector_driver h

theorem not_raises_withOptions (options : CompilerOptions) (fault : DriverFault) :
    ¬ (withOptions options).Raises fault := by
  rintro ⟨op, transform, operand, hget, hrun⟩
  change OperatorTable.standard.get? op = some transform at hget
  rw [OperatorTable.get?_standard] at hget
  obtain ⟨rule, hrule, rfl⟩ := Option.map_eq_some_iff.mp hget
  change rule options operand.kind operand = .error (.driver fault) at hrun
  rw [Transform.standardRule_run hrule, settle_error] at hrun
  unfold Operator.operandRefusal? at hrun
  split at hrun
  · split at hrun
    · cases Fault.eq_driver_of_worded (Option.some.inj hrun)
    · cases hrun
  · split at hrun <;> cases hrun
  · cases hrun

end Compiler

namespace DataSource

open DocQuery.Action

-- ---------------------------------------------------------------------------
-- Parts of operations
-- ---------------------------------------------------------------------------

theorem openCollection_reports (source : DataSource) : source.openCollection.Reports Call.fault :=
  (openDatabase_reports _).bind fun _ =>
    (Reports.call fun _ => rfl).bind fun _ => .pure _

theorem request_reports (source : DataSource) {x : Namespace → Action α}
    (hx : ∀ ns, (x ns).Reports Call.fault) : (source.openCollection >>= x).Reports Call.fault :=
  (openCollection_reports source).bind hx

theorem fetch_reports (source : DataSource) (client : Client) :
    (source.fetch client).Reports Call.fault :=
  (Reports.ofExcept _).bind fun _ =>
    (Reports.call fun _ => rfl).bind fun _ => .pure _

theorem sortCursor_reports (order : SortOrder) : (sortCursor order).Reports Call.fault := by
  unfold sortCursor
  split
  · exact .pure _
  · exact (Reports.call fun _ => rfl).bind fun _ => .pure _

theorem count_reports (source : DataSource) (selector : Value) :
    (source.count selector).Reports Call.fault := by
  refine (openCollection_reports source).bind fun ns => ?_
  split
  · exact (Reports.call fun _ => rfl).bind fun _ => .pure _
  · refine (Reports.ofTraced _).bind fun _ => ?_
    exact (Reports.call fun _ => rfl).bind fun _ => .pure _

theorem decode_ne_driver (source : DataSource) (document : Value) (fault : DriverFault) :
    source.decode document ≠ .error (.driver fault) := by
  intro h
  unfold decode at h
  split at h
  · cases h
  · cases h
  · unfold Model.ofDocument at h
    split at h
    · unfold Model.validate at h
      dsimp only at h
      split at h <;> cases h
    · cases h

theorem payload_ne_driver (v : Value) (fault : DriverFault) :
    Model.payload v ≠ .error (.driver fault) := by
  intro h
  cases v with
  | model schema fields => exact orFault_ne_driver _ _ h
  | _ => cases h

theorem objectIds_ne_driver (items : List Value) (fault : DriverFault) :
    objectIds items ≠ .error (.driver fault) := by
  induction items with
  | nil => exact nofun
  | cons v rest ih =>
    intro h
    unfold objectIds at h
    split at h
    · cases Fault.eq_driver_of_worded (Except.error.inj h)
    · rcases bind_error_iff.mp h with h | ⟨_, _, h⟩
      · exact ih h
      · cases h

theorem idList_ne_driver (ids : Value) (fault : DriverFault) :
    idList ids ≠ .error (.driver fault) := by
  intro h
  unfold idList at h
  split at h
  · exact objectIds_ne_driver _ _ h
  · rcases bind_error_iff.mp h with h | ⟨items, _, h⟩
    · exact orFault_ne_driver _ _ h
    · exact objectIds_ne_driver items fault h

theorem pipeline_ne_driver (pipeline : Pipeline) (fault : DriverFault) :
    pipeline.build.result ≠ .error (.driver fault) := by
  intro h
  unfold Pipeline.build at h
  rw [Traced.result_bind] at h
  rcases bind_error_iff.mp h with h | ⟨_, _, h⟩
  · exact orFault_ne_driver _ _ h
  · cases h

theorem selectorOf_wraps (source : DataSource) (filter : Value) :
    (source.selectorOf filter).Wraps source.compiler.Raises :=
  (Wraps.ofTraced fun _ h => Compiler.compile_driver h).bind fun _ => .pure _

-- ---------------------------------------------------------------------------
-- Operations
-- ---------------------------------------------------------------------------

variable (source : DataSource) {raises : DriverFault → Prop}

theorem decode_wraps (document : Value) :
    (Action.ofExcept (source.decode document)).Wraps raises :=
  .ofExcept (source.decode_ne_driver document)

theorem findOne_wraps (filter fields : Value) : (source.findOne filter fields).Wraps raises := by
  refine (Wraps.guarded ?_).bind fun client => source.decode_wraps _
  refine request_reports source fun ns => ?_
  refine (Reports.ofExcept _).bind fun selector => (Reports.ofExcept _).bind fun fields => ?_
  exact .call fun _ => rfl

theorem find_wraps (filter : Value) : (source.find filter).Wraps raises := by
  refine .guarded (request_reports source fun ns => ?_)
  refine (Reports.ofExcept _).bind fun selector => ?_
  refine (Reports.call fun _ => rfl).bind fun client => ?_
  exact (fetch_reports source client).bind fun _ => .pure _

theorem all_wraps (filter fields order : Value) :
    (source.all filter fields order).Wraps source.compiler.Raises := by
  refine (source.selectorOf_wraps filter).bind fun selector => (Wraps.ofOperand _).bind fun order => ?_
  refine .guarded (request_reports source fun ns => ?_)
  refine (Reports.ofExcept _).bind fun fields => ?_
  refine (Reports.call fun _ => rfl).bind fun client => ?_
  refine (sortCursor_reports order).bind fun _ => ?_
  exact (fetch_reports source client).bind fun _ => .pure _

theorem listPage_wraps (listing : Listing) :
    (source.listPage listing).Wraps source.compiler.Raises := by
  refine (Wraps.ofOperand _).bind fun page => (Wraps.ofOperand _).bind fun limit => ?_
  refine (source.selectorOf_wraps _).bind fun selector => (Wraps.ofOperand _).bind fun order => ?_
  refine (Wraps.guarded ?_).bind fun found => (Wraps.ofOperand _).bind fun info => .pure _
  refine (count_reports source selector).bind fun total => request_reports source fun ns => ?_
  refine (Reports.call fun _ => rfl).bind fun client => ?_
  refine (sortCursor_reports order).bind fun _ => (Reports.ofExcept _).bind fun skip => ?_
  refine (Reports.call fun _ => rfl).bind fun _ => ?_
  refine (Reports.call fun _ => rfl).bind fun _ => ?_
  exact (fetch_reports source client).bind fun _ => .pure _

theorem listAggregation_wraps (stages : Value) (listing : Listing) :
    (source.listAggregation stages listing).Wraps source.compiler.Raises := by
  refine (Wraps.ofOperand _).bind fun page => (Wraps.ofOperand _).bind fun limit => ?_
  refine (source.selectorOf_wraps _).bind fun selector => (Wraps.ofOperand _).bind fun order => ?_
  refine (Wraps.ofOperand _).bind fun skip => (Wraps.ofTraced ?_).bind fun pipeline => ?_
  · exact fun fault h => absurd h (pipeline_ne_driver _ fault)
  refine (Wraps.guarded ?_).bind fun found => (Wraps.ofOperand _).bind fun info => .pure _
  refine (count_reports source selector).bind fun total => request_reports source fun ns => ?_
  refine (Reports.call fun _ => rfl).bind fun client => ?_
  exact (fetch_reports source client).bind fun _ => .pure _

theorem getById_wraps (id : Value) : (source.getById id).Wraps raises := by
  unfold getById
  split
  · exact source.findOne_wraps _ _
  · exact (Wraps.note ..).bind fun _ => .pure _

theorem add_wraps (document : Value) : (source.add document).Wraps raises := by
  refine (Wraps.ofExcept (payload_ne_driver document)).bind fun entries => ?_
  refine (Wraps.guarded ?_).bind fun client => source.decode_wraps _
  exact request_reports source fun ns => .call fun _ => rfl

theorem delete_wraps (id : Value) : (source.delete id).Wraps raises := by
  unfold delete
  split
  · exact .pure _
  · refine (Wraps.guarded ?_).bind fun client => .pure _
    exact request_reports source fun ns => .call fun _ => rfl

theorem deleteMany_wraps (filter : Value) : (source.deleteMany filter).Wraps raises := by
  refine (Wraps.guarded ?_).bind fun client => .pure _
  refine request_reports source fun ns => (Reports.ofExcept _).bind fun selector => ?_
  exact .call fun _ => rfl

theorem deleteManyById_wraps (ids : Value) : (source.deleteManyById ids).Wraps raises :=
  (Wraps.ofExcept (idList_ne_driver ids)).bind fun _ => source.deleteMany_wraps _

theorem update_wraps (id changes : Value) : (source.update id changes).Wraps raises := by
  unfold update
  split
  · exact .pure _
  · refine (Wraps.ofExcept (payload_ne_driver changes)).bind fun entries => ?_
    dsimp only
    split
    · exact source.findOne_wraps _ _
    · refine (Wraps.guarded ?_).bind fun client => source.decode_wraps _
      exact request_reports source fun ns => .call fun _ => rfl

theorem updateMany_wraps (ids changes : Value) : (source.updateMany ids changes).Wraps raises := by
  refine (Wraps.ofOperand _).bind fun kept => ?_
  split
  · exact (Wraps.note ..).bind fun _ => .pure _
  · refine (Wraps.guarded ?_).bind fun client => .pure _
    refine request_reports source fun ns => (Reports.ofExcept _).bind fun oids => ?_
    exact .call fun _ => rfl

theorem findOneAndUpdate_wraps (id changes : Value) :
    (source.findOneAndUpdate id changes).Wraps raises := by
  unfold findOneAndUpdate
  split
  · exact .ofExcept fun _ h => nomatch Fault.eq_driver_of_worded (Except.error.inj h)
  · refine (Wraps.ofOperand _).bind fun entries => (Wraps.ofOperand _).bind fun direct => ?_
    refine (Wraps.guarded ?_).bind fun client => source.decode_wraps _
    exact request_reports source fun ns => .call fun _ => rfl

theorem perform_wraps (operation : Operation) :
    (source.perform operation).Wraps source.compiler.Raises := by
  cases operation with
  | findOne filter fields => exact (source.findOne_wraps filter fields).map _
  | find filter => exact (source.find_wraps filter).map _
  | all filter fields order => exact (source.all_wraps filter fields order).map _
  | listPage listing => exact (source.listPage_wraps listing).map _
  | listAggregation stages listing => exact (source.listAggregation_wraps stages listing).map _
  | getById id => exact (source.getById_wraps id).map _
  | add document => exact (source.add_wraps document).map _
  | delete id => exact (source.delete_wraps id).map _
  | deleteManyById ids => exact (source.deleteManyById_wraps ids).map _
  | deleteMany filter => exact (source.deleteMany_wraps filter).map _
  | update id changes => exact (source.update_wraps id changes).map _
  | updateMany ids changes => exact (source.updateMany_wraps ids changes).map _
  | findOneAndUpdate id changes => exact (source.findOneAndUpdate_wraps id changes).map _

/-- Wherever a failure of the driver strikes, an operation ends there in a fault of its
own with the same message, or without a database if there is none to open; an argument
that the driver refuses is passed on as it is. Without a client an operation makes no
call and ends in a fault if it would make one. No failure of the driver is passed on but
what a transform of the source's own compiler raises, and a standard transform raises
none. -/
theorem failures_wrapped (source : DataSource) (operation : Operation) (journal : Journal) :
    (∀ client : Client, ∃ made,
      (source.perform operation (some client) journal).2.calls = journal.calls ++ made ∧
      ∀ i c fault, made[i]? = some c → client.fault? (journal.calls.length + i) c = some fault →
        made.length = i + 1 ∧
          (source.perform operation (some client) journal).1 = .error (c.raised fault)) ∧
    ((source.perform operation none journal).2.calls = journal.calls ∧
      ((source.perform operation none journal).1 = .error .notConnected ∨
        ∀ client, source.perform operation (some client) journal =
          source.perform operation none journal)) ∧
    (∀ client? fault, (source.perform operation client? journal).1 = .error (.driver fault) →
      fault.isFailure = true → source.compiler.Raises fault ∧
        ∀ options, source.compiler ≠ .withOptions options) := by
  have hw := source.perform_wraps operation
  refine ⟨fun client => hw.reports.failing client journal, hw.reports.offline journal, ?_⟩
  intro client? fault h hfailure
  have hraises := hw.contains client? journal fault h hfailure
  refine ⟨hraises, fun options ho => ?_⟩
  rw [ho] at hraises
  exact Compiler.not_raises_withOptions options fault hraises

-- A cursor that fails behind its second document: nothing of what it yielded is left.
example :
    let client : Client := { Client.idle (.str "db") with
      documents := [.map [], .map []]
      failure := fun _ c => match c with
        | .exhaust => some (.request "connection closed")
        | _ => none }
    ((plain "people").perform (.find .null) (some client) .empty).1 =
      .error (.requestFailed "connection closed") := rfl

end DataSource

end DocQuery
