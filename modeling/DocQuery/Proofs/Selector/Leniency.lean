import DocQuery.Proofs.Selector.Assembly

/-!
# What strict compiling accepts

Strictness changes what is refused and never what is built: `compile_of_strict` says
that a filter which is accepted strictly has the same selector when it is compiled
leniently, whether the filter itself is compiled or the expression it is read into.
-/

namespace DocQuery

variable {options : CompilerOptions}

theorem Expression.ofValue_of_strict (hs : options.strict = true)
    (h : (ofValue options filter).result = .ok expression) (others : CompilerOptions) :
    (ofValue others filter).result = .ok expression := by
  cases filter with
  | map entries =>
    rw [Filter.ofValue_result, settle_ok] at h ⊢
    obtain ⟨hr, he⟩ := h
    rw [(Filter.refusal?_strict_eq_none hs).mp hr]
    exact ⟨Filter.refusal?_nil, he⟩
  | null | expression conditions => exact h
  | _ => cases h

namespace Operator

theorem operandRefusal?_of_strict (hs : options.strict = true)
    (h : operandRefusal? options v op = none) (strict : Bool) :
    operandRefusal? { options with strict } v op = none := by
  cases op with
  | between =>
    have hp : v.isPair = true := by simpa [operandRefusal?, hs] using h
    simp [operandRefusal?, hp]
  | _ => exact h

theorem refusal?_of_strict {name : String} (hs : options.strict = true)
    (h : refusal? options name v = none) (strict : Bool) :
    refusal? { options with strict } name v = none := by
  unfold refusal? at h ⊢
  cases hn : registered? name with
  | none => simp [hn, hs] at h
  | some op =>
    rw [hn] at h
    exact operandRefusal?_of_strict hs h strict

end Operator

theorem Clause.node_strict (strict : Bool) :
    Clause.node { options with strict } = Clause.node options := rfl

namespace Compiler

theorem selector_of_strict {expression : Expression} (hs : options.strict = true)
    (h : ((withOptions options).selector expression).result = .ok fields) (strict : Bool) :
    ((withOptions { options with strict }).selector expression).result = .ok fields := by
  rw [selector_result (builds_standard _), settle_ok, List.findSome?_eq_none_iff] at h ⊢
  obtain ⟨haccepted, hfields⟩ := h
  refine ⟨fun clause hc => ?_, ?_⟩
  · exact Operator.refusal?_of_strict hs (haccepted clause hc) strict
  · rw [Clause.node_strict]
    exact hfields

/-- What strict compiling accepts, lenient compiling gives the same selector, and so
does either mode for the expression that strict reading makes of it. -/
theorem compile_of_strict (options : CompilerOptions) (filter : Value)
    (h : ((withOptions { options with strict := true }).compile filter).result = .ok fields) :
    ((withOptions { options with strict := false }).compile filter).result = .ok fields ∧
      ∃ expression,
        (Expression.ofValue { options with strict := true } filter).result = .ok expression ∧
        ∀ strict, ((withOptions { options with strict }).compile (.expression expression)).result =
          .ok fields := by
  rw [compile, Traced.result_bind, bind_ok_iff] at h
  obtain ⟨expression, hread, hselector⟩ := h
  have hmode (strict : Bool) :
      ((withOptions { options with strict }).selector expression).result = .ok fields :=
    selector_of_strict rfl hselector strict
  refine ⟨?_, expression, hread, hmode⟩
  rw [compile, Traced.result_bind, bind_ok_iff]
  exact ⟨expression, Expression.ofValue_of_strict rfl hread _, hmode false⟩

def strictFilter : Value :=
  .map [(.str "or", .tuple [.single "a" (.single "between" (.list [.int 1, .int 2])),
      .single "b" (.single "beginsWith" (.str "x."))]), (.str "c", .null)]

theorem compile_of_strict_range :
    let fields := [("$or", Value.list [.single "a" (.ofFields [("$gte", .int 1), ("$lte", .int 2)]),
      .single "b" (.ofFields [("$regex", .str "^x\\."), ("$options", .str "m")])]), ("c", .null)]
    ((withOptions ⟨true, "m", true⟩).compile strictFilter).result = .ok fields ∧
      ((withOptions ⟨false, "m", true⟩).compile strictFilter).result = .ok fields :=
  ⟨rfl, (compile_of_strict ⟨true, "m", true⟩ strictFilter rfl).1⟩

end Compiler

end DocQuery
