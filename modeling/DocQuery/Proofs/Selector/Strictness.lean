import DocQuery.Report
import DocQuery.Proofs.Filter.Routes
import DocQuery.Proofs.Selector.Assembly

/-!
# What strict compiling refuses

A filter can be wrong in its shape and in its operator clauses. `compile_strict`
says that strict compiling reports the first fault of shape, or without one the
first clause that is wrong, and that it refuses nothing else. The exception are
integers of too many digits, where one is to be read or to be written.
-/

namespace DocQuery

-- ---------------------------------------------------------------------------
-- Clauses
-- ---------------------------------------------------------------------------

/-- What is wrong with a clause: its operator is not registered, or is a range
without two bounds. -/
def Clause.violation? (clause : Clause) : Option Fault :=
  match Operator.registered? clause.name with
  | none => some (.unknownOperator clause.name OperatorTable.standard.names)
  | some .between =>
    if clause.operand.isPair then none else some (.malformed (.notRange clause.operand) none)
  | some _ => none

def Clause.isOverlong (clause : Clause) : Bool :=
  Operator.registered? clause.name == some .present && clause.operand.isOverlong

/-- Whether a clause is refused for a number of too many digits: one that is to be read
from a text, or one that is to be written in the fault about a range without two bounds. -/
def Clause.obstructs (clause : Clause) : Bool :=
  match Operator.registered? clause.name with
  | some .present => clause.operand.isOverlong
  | some .between => !clause.operand.isPair && !clause.operand.isWritable
  | _ => false

/-- Whether the first clause with which something is wrong is one of those. -/
def Clause.obstructedFirst (clauses : List Clause) : Bool :=
  (clauses.find? fun clause => clause.obstructs || clause.violation?.isSome).any obstructs

theorem Clause.obstructs_present {clause : Clause}
    (h : Operator.registered? clause.name = some .present) :
    clause.obstructs = clause.operand.isOverlong := by
  rw [obstructs, h]

theorem Clause.obstructedFirst_singleton (clause : Clause) :
    obstructedFirst [clause] = clause.obstructs := by
  cases ho : clause.obstructs <;> cases hv : clause.violation? <;> simp [obstructedFirst, ho, hv]

theorem Clause.refusal?_strict (hs : options.strict = true) (clause : Clause) :
    clause.refusal? options =
      if clause.obstructs then some (.misuse .badValue) else clause.violation? := by
  unfold Clause.refusal? Operator.refusal? Clause.violation? Clause.obstructs
  cases Operator.registered? clause.name with
  | none => simp [hs]
  | some op =>
    cases op with
    | between =>
      cases hp : clause.operand.isPair <;> cases hw : clause.operand.isWritable <;>
        simp [Operator.operandRefusal?, Fault.worded, Fault.isWritable, Malformed.isWritable,
          hs, hp, hw]
    | _ => simp [Operator.operandRefusal?]

theorem Clause.findSome?_refusal? (hs : options.strict = true) (clauses : List Clause) :
    clauses.findSome? (Clause.refusal? options) =
      if obstructedFirst clauses then some (.misuse .badValue)
      else clauses.findSome? Clause.violation? := by
  unfold obstructedFirst
  induction clauses with
  | nil => rfl
  | cons clause rest ih =>
    rw [List.findSome?_cons, List.findSome?_cons, List.find?_cons, refusal?_strict hs, ih]
    cases ho : clause.obstructs with
    | true => simp [ho]
    | false => cases hv : clause.violation? <;> simp [ho]

namespace Filter

mutual
def clauses : Entries → List Clause
  | [] => []
  | (key, v) :: rest => valueClauses key.text v ++ clauses rest

def valueClauses (field : String) : Value → List Clause
  | .list items | .tuple items =>
    if (Operator.combinator? field).isSome then elementClauses items else []
  | .map ((name, operand) :: _) => [⟨field, name.text, operand⟩]
  | _ => []

def elementClauses : List Value → List Clause
  | [] => []
  | .map entries :: rest => clauses entries ++ elementClauses rest
  | _ :: rest => elementClauses rest
end

mutual
theorem clauses_conditions : (filter : Entries) →
    Expression.clauses (conditions filter) = clauses filter
  | [] => rfl
  | (key, v) :: rest => by
    rw [conditions, Expression.clauses, clauses, clauses_condition key.text v,
      clauses_conditions rest]

theorem clauses_condition (field : String) (v : Value) :
    Expression.conditionClauses (condition field v) = valueClauses field v := by
  cases v with
  | list items | tuple items =>
    rw [condition, valueClauses]
    cases Operator.combinator? field with
    | none => rfl
    | some combinator => exact clauses_expressions items
  | map entries => cases entries <;> rfl
  | _ => rfl

theorem clauses_expressions (items : List Value) :
    Expression.branchClauses (expressions items) = elementClauses items := by
  match items with
  | [] => rfl
  | v :: rest =>
    cases v with
    | map entries =>
      rw [expressions, Expression.branchClauses, elementClauses, clauses_conditions entries,
        clauses_expressions rest]
    | _ => exact clauses_expressions rest
end

def Obstacle.isUnwritable : Obstacle → Bool
  | malformed violation => !violation.cause.isWritable
  | unwritable _ => true

theorem Obstacle.fault?_unwritable (hs : options.strict = true) {obstacle : Obstacle}
    (hu : obstacle.isUnwritable) : obstacle.fault? options = some (.misuse .badValue) := by
  cases obstacle with
  | malformed violation =>
    rw [isUnwritable, Bool.not_eq_true'] at hu
    simp [fault?, hs, Violation.fault, Fault.worded, Fault.isWritable, hu]
  | unwritable key => rfl

theorem Obstacle.fault?_malformed (hs : options.strict = true) (hw : violation.cause.isWritable) :
    (malformed violation).fault? options = some violation.fault := by
  simp [fault?, hs, Violation.fault, Fault.worded, Fault.isWritable, hw]

/-- A filter is obstructed if the first obstacle in it cannot be written, or if there is
none and the first clause with which something is wrong obstructs. -/
inductive Obstructed (filter : Entries) : Prop
  | obstacle (h : (obstacles [] filter).head? = some obstacle) (hu : obstacle.isUnwritable)
  | clause (hn : obstacles [] filter = []) (h : Clause.obstructedFirst (clauses filter))

theorem obstacles_of_violations {filter : Entries} (hn : ¬ Obstructed filter) :
    match violations [] filter with
    | [] => obstacles [] filter = []
    | violation :: _ => violation.cause.isWritable ∧
        ∃ more, obstacles [] filter = .malformed violation :: more := by
  unfold violations
  cases ho : obstacles [] filter with
  | nil => rfl
  | cons obstacle more =>
    have hw : obstacle.isUnwritable = false :=
      Bool.eq_false_iff.mpr fun hu => hn (.obstacle (by rw [ho]; rfl) hu)
    cases obstacle with
    | malformed violation => exact ⟨by simpa [Obstacle.isUnwritable] using hw, more, rfl⟩
    | unwritable key => cases hw

end Filter

-- ---------------------------------------------------------------------------
-- Strict compiling
-- ---------------------------------------------------------------------------

namespace Compiler

open DocQuery.Filter

variable {options : CompilerOptions}

theorem strict_nil (hs : options.strict = true) (hn : obstacles [] filter = []) :
    ((withOptions options).compile (.map filter)).result =
      settle (if Clause.obstructedFirst (clauses filter) then some (.misuse .badValue)
          else (clauses filter).findSome? Clause.violation?)
        (Assoc.assignAll [] (Expression.assembled (Clause.node options) (conditions filter))) := by
  rw [compile_result (builds_standard options), clauses_conditions, Clause.findSome?_refusal? hs, hn]
  rfl

theorem strict_cons (hs : options.strict = true) (ho : obstacles [] filter = obstacle :: more)
    (hf : obstacle.fault? options = some fault) :
    ((withOptions options).compile (.map filter)).result = .error fault := by
  have hr : refusal? (withOptions options).options (obstacles [] filter) = some fault := by
    rw [ho]
    exact (refusal?_strict hs obstacle more).trans hf
  rw [compile_result (builds_standard options), hr]
  rfl

theorem strict_obstructed (hs : options.strict = true) (ho : Obstructed filter) :
    ((withOptions options).compile (.map filter)).result = .error (.misuse .badValue) := by
  cases ho with
  | obstacle h hu =>
    obtain ⟨more, hm⟩ := List.head?_eq_some_iff.mp h
    exact strict_cons hs hm (Obstacle.fault?_unwritable hs hu)
  | clause hn h =>
    rw [strict_nil hs hn, if_pos h]
    rfl

theorem strict_violation (hs : options.strict = true) (hn : ¬ Obstructed filter)
    (hv : violations [] filter = violation :: more) :
    ((withOptions options).compile (.map filter)).result = .error violation.fault := by
  have hfirst := obstacles_of_violations hn
  rw [hv] at hfirst
  obtain ⟨hw, others, ho⟩ := hfirst
  exact strict_cons hs ho (Obstacle.fault?_malformed hs hw)

theorem strict_clear (hs : options.strict = true) (hn : ¬ Obstructed filter)
    (hv : violations [] filter = []) :
    ((withOptions options).compile (.map filter)).result =
      settle ((clauses filter).findSome? Clause.violation?)
        (Assoc.assignAll [] (Expression.assembled (Clause.node options) (conditions filter))) := by
  have hnil := obstacles_of_violations hn
  rw [hv] at hnil
  rw [strict_nil hs hnil, if_neg fun h => hn (.clause hnil h)]

theorem strict_ok_iff (hs : options.strict = true) (hn : ¬ Obstructed filter) :
    (∃ fields, ((withOptions options).compile (.map filter)).result = .ok fields) ↔
      violations [] filter = [] ∧ ∀ clause ∈ clauses filter, clause.violation? = none := by
  cases hv : violations [] filter with
  | nil =>
    rw [strict_clear hs hn hv]
    simp only [settle_ok, exists_and_left, exists_eq', and_true, true_and,
      List.findSome?_eq_none_iff]
  | cons violation more => simp [strict_violation hs hn hv]

/-- Strict compiling succeeds exactly if a filter has no violation of shape and no
wrong clause. It reports the first violation of shape by its path, and without one
the first wrong clause. An obstructed filter is the exception. -/
theorem compile_strict (hs : options.strict = true) (filter : Entries)
    (ht : ∀ sub ∈ subfilters filter, TextKeyed sub) :
    let result := ((withOptions options).compile (.map filter)).result
    (Obstructed filter → result = .error (.misuse .badValue)) ∧
    (¬ Obstructed filter →
      ((∃ fields, result = .ok fields) ↔
        violations [] filter = [] ∧ ∀ clause ∈ clauses filter, clause.violation? = none) ∧
      (∀ violation more, violations [] filter = violation :: more →
        result = .error violation.fault ∧
        violation.fault.report? =
          some (.malformed (.str violation.cause.message) (.str violation.path.text)) ∧
        ∃ part, (Value.map filter).at? violation.path = some part ∧
          violation.cause.Describes part) ∧
      (∀ before clause after fault, violations [] filter = [] →
        clauses filter = before ++ clause :: after →
        (∀ earlier ∈ before, earlier.violation? = none) → clause.violation? = some fault →
        result = .error fault)) := by
  refine ⟨strict_obstructed hs, fun hn => ⟨strict_ok_iff hs hn, ?_, ?_⟩⟩
  · intro violation more hv
    have hm : violation ∈ violations [] filter := hv ▸ List.mem_cons_self
    exact ⟨strict_violation hs hn hv, rfl, at?_violation ht hm⟩
  · intro before clause after fault hv hc hb hf
    have hfirst : (clauses filter).findSome? Clause.violation? = some fault := by
      rw [hc, List.findSome?_append, List.findSome?_eq_none_iff.mpr hb, Option.none_or,
        List.findSome?_cons, hf]
    rw [strict_clear hs hn hv, hfirst]
    rfl

theorem compile_strict_nested :
    ((withOptions { CompilerOptions.standard with strict := true }).compile (.map
      [(.str "a", .single "equals" (.int 1)),
        (.str "or", .list [.single "b" (.int 2), .single "c" (.ofFields [])])])).result =
      .error (.malformed .emptyClause (some [.field "or", .index 1, .field "c"])) := by
  let filter : Entries := [(.str "a", .single "equals" (.int 1)),
    (.str "or", .list [.single "b" (.int 2), .single "c" (.ofFields [])])]
  have ht : ∀ sub ∈ subfilters filter, TextKeyed sub := by
    rintro sub (_ | ⟨_, _ | ⟨_, _ | ⟨_, ⟨⟩⟩⟩⟩)
    all_goals exact textKeyed_of_names rfl (by decide)
  have hs : { CompilerOptions.standard with strict := true }.strict = true := rfl
  have hn : ¬ Obstructed filter := by
    rintro (⟨ho, hu⟩ | ⟨ho, -⟩)
    · cases ho
      cases hu
    · cases ho
  obtain ⟨-, hclear⟩ := compile_strict hs filter ht
  exact ((hclear hn).2.1 _ _ rfl).1

def overlongFilter : Entries :=
  [(.str "a", .single "exists" (.str (String.ofList (List.replicate (digitLimit + 1) '0'))))]

/-- Nothing is wrong with the filter, and it is refused. -/
theorem compile_strict_overlong :
    violations [] overlongFilter = [] ∧
      (∀ clause ∈ clauses overlongFilter, clause.violation? = none) ∧
      ((withOptions { CompilerOptions.standard with strict := true }).compile
        (.map overlongFilter)).result = .error (.misuse .badValue) := by
  have hn : obstacles [] overlongFilter = [] := by
    have hc : Operator.combinator? "a" = none := rfl
    simp [overlongFilter, obstacles, keyObstacles, valueObstacles, listObstacles, clauseObstacles,
      Value.isWritable, Value.single, Value.text, hc]
  have hc : clauses overlongFilter =
      [⟨"a", "exists", .str (String.ofList (List.replicate (digitLimit + 1) '0'))⟩] := by
    simp [overlongFilter, clauses, valueClauses, Value.single, Value.text]
  have ho : Clause.obstructedFirst (clauses overlongFilter) := by
    rw [hc, Clause.obstructedFirst_singleton, Clause.obstructs_present rfl]
    simp [Value.isOverlong, digitRun_zeros]
  refine ⟨by rw [violations, hn, List.filterMap_nil], ?_, strict_obstructed rfl (.clause hn ho)⟩
  rw [hc, List.forall_mem_singleton]
  rfl

end Compiler

end DocQuery
