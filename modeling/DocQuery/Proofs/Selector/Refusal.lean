import DocQuery.Proofs.Selector.Branches
import DocQuery.Proofs.Selector.Strictness
import DocQuery.Report

/-!
# What lenient compiling refuses

`compile_lenient` says of every value what lenient compiling makes of it. A value that is
neither a map nor a parsed expression is refused, null apart. Of all other filters only
those are refused that test for presence by a text with more digits than can be read, or have
a key with more digits than can be written, and every other one has a selector, whatever its
operators and operands are.
-/

namespace DocQuery

variable {options : CompilerOptions}

/-- The conditions that a value stands for as a filter, if it is one. -/
def Value.expression? : Value → Option Expression
  | .null => some []
  | .map entries => some (Filter.conditions entries)
  | .expression conditions => some conditions
  | _ => none

def Value.readKeys : Value → List Value
  | .map entries => Filter.readKeys entries
  | _ => []

theorem Expression.ofValue_lenient (hs : options.strict = false) (filter : Value) :
    (ofValue options filter).result =
      match filter.expression? with
      | some expression => settle (Filter.keyFault? filter.readKeys) expression
      | none => .error (.malformed (.notMap filter.typeName) (some [])) := by
  cases filter with
  | map entries =>
    rw [Filter.ofValue_result, Filter.refusal?_lenient hs]
    rfl
  | _ => rfl

theorem Clause.refusal?_lenient (hs : options.strict = false) (clause : Clause) :
    clause.refusal? options = if clause.isOverlong then some (.misuse .badValue) else none := by
  unfold Clause.refusal? Operator.refusal? Clause.isOverlong
  cases Operator.registered? clause.name with
  | none => simp [hs]
  | some op => cases op <;> simp [Operator.operandRefusal?, hs]

theorem Clause.findSome?_refusal?_lenient (hs : options.strict = false) (clauses : List Clause) :
    clauses.findSome? (Clause.refusal? options) =
      if clauses.any Clause.isOverlong then some (.misuse .badValue) else none := by
  induction clauses with
  | nil => rfl
  | cons clause rest ih =>
    rw [List.findSome?_cons, List.any_cons, refusal?_lenient hs, ih]
    cases clause.isOverlong <;> rfl

namespace Compiler

open Expression

theorem compile_lenient_expression (hs : options.strict = false) {filter : Value}
    (he : filter.expression? = some expression) :
    ((withOptions options).compile filter).result =
      settle ((Filter.keyFault? filter.readKeys).or
          (if (clauses expression).any Clause.isOverlong then some (.misuse .badValue) else none))
        (Assoc.assignAll [] (assembled (Clause.node options) expression)) := by
  have hread : (Expression.ofValue (withOptions options).options filter).result = _ :=
    ofValue_lenient hs filter
  rw [compile, Traced.result_bind, hread, he]
  simp only [selector_result (builds_standard options), Clause.findSome?_refusal?_lenient hs,
    settle_bind]

/-- Lenient compiling refuses a value that is no filter, as malformed at the root, and a
filter with an integer of too many digits, as a key to be written or to be read in a test for
presence. Every other filter gets the selector that is assembled from the rows of its
clauses. -/
theorem compile_lenient (flags : String) (escape : Bool) (filter : Value) :
    let options : CompilerOptions := ⟨false, flags, escape⟩
    let result := ((withOptions options).compile filter).result
    (filter.expression? = none → ∃ fault, result = .error fault ∧
      fault.report? = some (.malformed (.str ("Filter must be a mapping, got " ++ filter.typeName))
        (.str "<root>"))) ∧
    ∀ expression, filter.expression? = some expression →
      ((∃ key ∈ filter.readKeys, key.isWritable = false) ∨
          (∃ clause ∈ clauses expression, clause.isOverlong) →
        result = .error (.misuse .badValue)) ∧
      ((∀ key ∈ filter.readKeys, key.isWritable) →
          (∀ clause ∈ clauses expression, clause.isOverlong = false) →
        result = .ok (Assoc.assignAll [] (assembled (Clause.node options) expression))) := by
  intro options result
  constructor
  · intro hnone
    have hread : (Expression.ofValue options filter).result = _ := ofValue_lenient rfl filter
    rw [hnone] at hread
    have hresult : result = (Expression.ofValue options filter).result >>= fun expression =>
        ((withOptions options).selector expression).result := Traced.result_bind ..
    rw [hread] at hresult
    exact ⟨_, hresult, rfl⟩
  · intro expression hsome
    have hresult : result = _ := compile_lenient_expression rfl hsome
    rw [hresult]
    constructor
    · rintro (⟨key, hk, hlong⟩ | hlong)
      · have hfault : Filter.keyFault? filter.readKeys = some (.misuse .badValue) :=
          if_neg fun hall => by simp [List.all_eq_true.mp hall key hk] at hlong
        rw [hfault]
        rfl
      · rw [if_pos (List.any_eq_true.mpr hlong)]
        unfold Filter.keyFault?
        split <;> rfl
    · intro hkeys hshort
      have hany : (clauses expression).any Clause.isOverlong = false :=
        List.any_eq_false.mpr fun clause hc => by simp [hshort clause hc]
      rw [Filter.keyFault?_eq_none.mpr hkeys, hany]
      rfl

/-- A lenient filter may be anything but a text of too many zeros. -/
theorem compile_lenient_overlong :
    (Value.map overlongFilter).expression?.isSome ∧
      (standard.compile (.map overlongFilter)).result = .error (.misuse .badValue) := by
  have hlong : (clauses (Filter.conditions overlongFilter)).any Clause.isOverlong = true := by
    have hn : Operator.registered? "exists" = some .present := rfl
    simp [Filter.clauses_conditions, overlongFilter, Filter.clauses, Filter.valueClauses,
      Value.single, Value.text, Clause.isOverlong, hn, Value.isOverlong, digitRun_zeros]
  refine ⟨rfl, ?_⟩
  rw [standard, compile_lenient_expression rfl rfl, if_pos hlong]
  rfl

end Compiler

end DocQuery
