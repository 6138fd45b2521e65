import DocQuery.Operator.Table
import DocQuery.Proofs.FirstFault
import DocQuery.Proofs.Text.LeadingInteger

/-!
# The table of operators

`Operator.node` is the table of what a field is compared with: a row for each
operator and the operands it is made for, and the operand itself for the rest.
`apply_standard` ties the table to the standard transforms and says, through
`Operator.refusal?`, which operands they refuse instead.
-/

namespace DocQuery

def matching (options : CompilerOptions) (pattern : String) : Value :=
  .ofFields [("$regex", .str pattern), ("$options", .str options.regexOptions)]

def patternText (options : CompilerOptions) (s : String) : String :=
  if options.escapeRegex then escapePattern s else s

def Value.isPair : Value → Bool
  | .list [_, _] | .tuple [_, _] => true
  | _ => false

/-- Whether a value is a text that begins with more digits than can be read. -/
def Value.isOverlong : Value → Bool
  | .str s => digitLimit < (digitRun s).length
  | _ => false

namespace Operator

/-- What a field is compared with, given the name of an operator and its operand. -/
def node (options : CompilerOptions) : String → Value → Value
  | "ne", v => .single "$ne" v
  | "lt", v => .single "$lt" v
  | "le", v => .single "$lte" v
  | "gt", v => .single "$gt" v
  | "ge", v => .single "$gte" v
  | "in", .list items | "in", .tuple items => .single "$in" (.list items)
  | "between", .list [low, high] | "between", .tuple [low, high] =>
    .ofFields [("$gte", low), ("$lte", high)]
  | "exists", v => .single "$exists" (.int ((existsFlag v).toOption.getD 0))
  | "contains", .str s => matching options (patternText options s)
  | "notContains", .str s => .single "$not" (matching options (patternText options s))
  | "startsWith", .str s | "beginsWith", .str s => matching options ("^" ++ patternText options s)
  | "endsWith", .str s => matching options (patternText options s ++ "$")
  | _, v => v

def operandRefusal? (options : CompilerOptions) (v : Value) : Operator → Option Fault
  | between =>
    if options.strict && !v.isPair then some (Fault.malformed (.notRange v) none).worded else none
  | present => if v.isOverlong then some (.misuse .badValue) else none
  | _ => none

def registered? (name : String) : Option Operator := (resolve? name).filter OperatorTable.standard.has

def refusal? (options : CompilerOptions) (name : String) (v : Value) : Option Fault :=
  match registered? name with
  | some op => operandRefusal? options v op
  | none => if options.strict then some (.unknownOperator name OperatorTable.standard.names) else none

end Operator

-- ---------------------------------------------------------------------------
-- Kinds of operands
-- ---------------------------------------------------------------------------

namespace Value

theorem kind_eq_array {v : Value} :
    v.kind = .array ↔ ∃ items, v = .list items ∨ v = .tuple items := by
  cases v <;> simp [kind, Kind.ofWhole] <;> split <;> simp

theorem kind_eq_string {v : Value} : v.kind = .string ↔ ∃ s, v = .str s := by
  cases v <;> simp [kind, Kind.ofWhole] <;> split <;> simp

theorem isOverlong_iff {v : Value} :
    v.isOverlong = true ↔ existsFlag v = .error .badValue := by
  cases v with
  | str s => simp [isOverlong, existsFlag, leadingInteger_error]
  | _ => simp [isOverlong, existsFlag]

/-- An overlong number is the only operand that presence refuses. -/
theorem existsFlag_eq (v : Value) :
    existsFlag v =
      if v.isOverlong then .error .badValue else .ok ((existsFlag v).toOption.getD 0) := by
  cases hf : existsFlag v with
  | ok n => simp [isOverlong_iff, hf, Except.toOption]
  | error cause =>
    cases v with
    | str s =>
      obtain ⟨rfl, -⟩ := leadingInteger_error.mp hf
      simp [isOverlong_iff, hf]
    | _ => simp [existsFlag] at hf

end Value

-- ---------------------------------------------------------------------------
-- Standard transforms
-- ---------------------------------------------------------------------------

namespace Transform

open Operator (node operandRefusal?)

variable {options : CompilerOptions}

theorem membership_run (v : Value) :
    membership options v.kind v = .ok (node options Operator.oneOf.name v) := by
  unfold membership
  split
  · rename_i hk
    obtain ⟨items, rfl | rfl⟩ := Value.kind_eq_array.mp hk <;> rfl
  · rename_i hk
    cases v <;> first | rfl | exact absurd rfl hk

theorem range_run_other (hv : v.isPair = false) :
    (if options.strict then .error (Fault.malformed (.notRange v) none).worded else .ok v) =
      settle (operandRefusal? options v .between) v := by
  cases hs : options.strict <;> simp [operandRefusal?, hv, hs]

theorem range_run (v : Value) :
    range options v.kind v =
      settle (operandRefusal? options v .between) (node options Operator.between.name v) := by
  by_cases hk : v.kind = .array
  · obtain ⟨items, rfl | rfl⟩ := Value.kind_eq_array.mp hk
    all_goals
      match items with
      | [low, high] => simp [operandRefusal?, Value.isPair]; rfl
      | [] | [_] | _ :: _ :: _ :: _ => exact range_run_other rfl
  · unfold range
    rw [if_pos hk]
    cases v <;> first | exact range_run_other rfl | exact absurd rfl hk

theorem presence_run (v : Value) :
    presence options v.kind v =
      settle (operandRefusal? options v .present) (node options Operator.present.name v) := by
  unfold presence operandRefusal?
  rw [Value.existsFlag_eq v]
  split <;> rfl

theorem pattern_run (build : Value → Except Misuse Value) (extend : String → String)
    (wrap : Value → Value) (hb : ∀ s, build (.str s) = .ok (.str (extend s))) (v : Value) :
    pattern build wrap options v.kind v = .ok (match v with
      | .str s => wrap (matching options (extend (patternText options s)))
      | v => v) := by
  by_cases hk : v.kind = .string
  · obtain ⟨s, rfl⟩ := Value.kind_eq_string.mp hk
    unfold pattern Pattern.ofOperand patternText
    rw [if_pos hk]
    split <;> simp only [bind, Except.bind, hb] <;> rfl
  · unfold pattern
    rw [if_neg hk]
    cases v <;> first | rfl | exact absurd rfl hk

/-- Every standard rule gives the row of its operator, or refuses the operand. -/
theorem standardRule_run {rule : Rule} (hr : standardRule? op = some rule) (v : Value) :
    rule options v.kind v = settle (operandRefusal? options v op) (node options op.name v) := by
  cases op <;> cases hr
  case eq | ne | lt | le | gt | ge => rfl
  case oneOf => exact membership_run v
  case between => exact range_run v
  case present => exact presence_run v
  case contains =>
    rw [pattern_run .ok id id fun _ => rfl]
    cases v <;> rfl
  case notContains =>
    rw [pattern_run .ok id (.single "$not") fun _ => rfl]
    cases v <;> rfl
  case startsWith =>
    rw [pattern_run _ ("^" ++ ·) id fun _ => by simp [Pattern.between]]
    cases v <;> rfl
  case endsWith =>
    rw [pattern_run _ (· ++ "$") id fun _ => by simp [Pattern.between]]
    cases v <;> rfl

end Transform

-- ---------------------------------------------------------------------------
-- The standard table
-- ---------------------------------------------------------------------------

namespace Operator

theorem ofName?_some {name : String} (h : ofName? name = some op) : op.name = name := by
  simpa using List.find?_some h

theorem resolve?_some {name : String} (h : resolve? name = some op) :
    name = op.name ∨ name = deprecatedName ∧ op = startsWith := by
  simp only [resolve?, Option.or_eq_some_iff, ofDeprecated?] at h
  rcases h with h | ⟨-, h⟩
  · exact .inl (ofName?_some h).symm
  · split at h
    · exact .inr ⟨‹_›, (Option.some.inj h).symm⟩
    · cases h

theorem combinator?_some {field : String} (h : combinator? field = some combinator) :
    combinator.isLogical ∧ combinator.name = field := by
  obtain ⟨hn, hl⟩ := Option.filter_eq_some_iff.mp h
  exact ⟨hl, ofName?_some hn⟩

theorem combinator?_name (hl : op.isLogical) : combinator? op.name = some op := by
  rw [combinator?, ofName?_name, Option.filter_some, hl]
  rfl

theorem combinator?_cases (field : String) :
    field = "and" ∨ field = "or" ∨ (combinator? field = none ∧ field ≠ "and" ∧ field ≠ "or") := by
  by_cases ha : field = "and"
  · exact .inl ha
  by_cases ho : field = "or"
  · exact .inr (.inl ho)
  refine .inr (.inr ⟨?_, ha, ho⟩)
  cases hc : combinator? field with
  | none => rfl
  | some combinator =>
    obtain ⟨hl, hn⟩ := combinator?_some hc
    cases combinator with
    | and => exact absurd hn.symm ha
    | or => exact absurd hn.symm ho
    | _ => cases hl

theorem node_of_resolve? {name : String} (h : resolve? name = some op) (v : Value) :
    node options name v = node options op.name v := by
  rcases resolve?_some h with rfl | ⟨rfl, rfl⟩
  · rfl
  · cases v <;> rfl

theorem node_unresolved {name : String} (h : resolve? name = none) (v : Value) :
    node options name v = v := by
  unfold node
  split
  all_goals first | rfl | exact absurd h (by decide)

end Operator

namespace OperatorTable

theorem get?_standard (op : Operator) : standard.get? op = Transform.standard? op := by
  cases op <;> rfl

theorem has_standard (op : Operator) : standard.has op = (Transform.standardRule? op).isSome := by
  cases op <;> rfl

theorem resolve_result (table : OperatorTable) (name : String) :
    (table.resolve name).result = .ok ((Operator.resolve? name).filter table.has) := by
  unfold resolve
  cases Operator.ofDeprecated? name <;> rfl

theorem apply_result (table : OperatorTable) (options : CompilerOptions) (name : String)
    (kind : Kind) (v : Value) :
    (table.apply options name kind v).result =
      match ((Operator.resolve? name).filter table.has).bind table.get? with
      | some transform => transform.run options kind v
      | none =>
        if options.strict then .error (.unknownOperator name table.names) else .ok v := by
  unfold apply
  rw [Traced.result_bind, resolve_result]
  simp only [bind, Except.bind]
  cases ((Operator.resolve? name).filter table.has).bind table.get? with
  | some transform => rfl
  | none => cases options.strict <;> simp

/-- The standard table gives the row of a clause, or refuses the clause. -/
theorem apply_standard (options : CompilerOptions) (name : String) (v : Value) :
    (standard.apply options name v.kind v).result =
      settle (Operator.refusal? options name v) (Operator.node options name v) := by
  rw [apply_result]
  unfold Operator.refusal? Operator.registered?
  cases h : Operator.resolve? name with
  | none =>
    rw [Operator.node_unresolved h]
    cases options.strict <;> rfl
  | some op =>
    rw [Operator.node_of_resolve? h, Option.filter_some, has_standard]
    cases hr : Transform.standardRule? op with
    | none =>
      cases op <;> cases hr
      all_goals cases options.strict <;> rfl
    | some rule =>
      simp [get?_standard, Transform.standard?, hr, Transform.standardRule_run hr]

end OperatorTable

end DocQuery
