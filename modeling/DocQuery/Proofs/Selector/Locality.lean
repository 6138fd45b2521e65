import DocQuery.Proofs.Operator.Bindings
import DocQuery.Proofs.Selector.Deprecation

/-!
# Operators that an expression does not use

What an expression is compiled to depends on the operators that its clauses name and on no
others. `compile_agreeing` says so of any tables that bind those alike, and `compile_local`
of a table in which one operator is bound anew, or not at all.
-/

namespace DocQuery

/-- Faults of one class and cause. They differ at most in the names that are valid instead of
an unknown one. -/
inductive Fault.Alike : Fault → Fault → Prop
  | same : Alike fault fault
  | unknownOperator : Alike (.unknownOperator name valid) (.unknownOperator name others)

theorem Fault.Alike.category? {fault other : Fault} (h : fault.Alike other) :
    fault.category? = other.category? := by
  cases h <;> rfl

namespace OperatorTable

theorem get?_register_of_ne (table : OperatorTable) {op other : Operator} (transform : Transform)
    (h : other ≠ op) : (table.register op transform).get? other = table.get? other :=
  (Assoc.lookup_assign ..).trans (if_neg h.symm)

theorem get?_unregister_of_ne (table : OperatorTable) {op other : Operator} (h : other ≠ op) :
    (table.unregister op).get? other = table.get? other :=
  (Assoc.lookup_remove ..).trans (if_neg h.symm)

def Agree (table other : OperatorTable) (name : String) : Prop :=
  ∀ op : Operator, op.IsNamed name → other.get? op = table.get? op

theorem Agree.bind_get? {table other : OperatorTable} {name : String} (h : table.Agree other name) :
    (Operator.resolve? name).bind other.get? = (Operator.resolve? name).bind table.get? := by
  cases hr : Operator.resolve? name with
  | none => rfl
  | some op => exact h op (Operator.resolve?_eq_some.mp hr)

end OperatorTable

-- ---------------------------------------------------------------------------
-- Assembled nodes
-- ---------------------------------------------------------------------------

namespace Expression

variable {node other : Clause → Value}

mutual
theorem assembled_congr : (conditions : List Condition) →
    (∀ clause ∈ clauses conditions, node clause = other clause) →
    assembled node conditions = assembled other conditions
  | [], _ => rfl
  | condition :: rest, h => by
    rw [clauses, List.forall_mem_append] at h
    rw [assembled, assembled, assembled?_congr condition h.1, assembled_congr rest h.2]

theorem assembled?_congr : (condition : Condition) →
    (∀ clause ∈ conditionClauses condition, node clause = other clause) →
    assembled? node condition = assembled? other condition
  | .literal .., _ => rfl
  | .operator field name operand, h => by
    rw [assembled?, assembled?, h _ List.mem_cons_self]
  | .logical _ filters, h => by
    rw [assembled?, assembled?, documents_congr filters h]

theorem documents_congr : (filters : List (List Condition)) →
    (∀ clause ∈ branchClauses filters, node clause = other clause) →
    documents node filters = documents other filters
  | [], _ => rfl
  | conditions :: rest, h => by
    rw [branchClauses, List.forall_mem_append] at h
    rw [documents, documents, assembled_congr conditions h.1, documents_congr rest h.2]
end

end Expression

namespace Compiler

open Expression

variable {compiler other : Compiler} {options : CompilerOptions} {expression : Expression}

-- ---------------------------------------------------------------------------
-- One clause
-- ---------------------------------------------------------------------------

theorem compiled_eq (compiler : Compiler) (clause : Clause) :
    compiler.compiled clause =
      match (Operator.resolve? clause.name).bind compiler.table.get? with
      | some transform => transform.run compiler.options clause.operand.kind clause.operand
      | none =>
        if compiler.options.strict then
          .error (.unknownOperator clause.name compiler.table.names)
        else .ok clause.operand := by
  have hresult : compiler.compiled clause = (compiler.table.apply compiler.options clause.name
      clause.operand.kind clause.operand).result := by
    simp only [compiled, node, Traced.result_bind, Traced.result_note, Traced.result_pure]
    cases (compiler.table.apply _ _ _ _).result <;> rfl
  have happly := OperatorTable.apply_result compiler.table compiler.options clause.name
    clause.operand.kind clause.operand
  rw [OperatorTable.filter_has_bind] at happly
  exact hresult.trans happly

/-- Tables that bind the operator of a clause alike treat it alike. Only a refusal of the
operator tells them apart, by the names that it lists. -/
theorem compiled_agreeing {table other : OperatorTable} (ha : table.Agree other clause.name) :
    (mk options other).compiled clause = (mk options table).compiled clause ∨
    (mk options table).compiled clause = .error (.unknownOperator clause.name table.names) ∧
      (mk options other).compiled clause = .error (.unknownOperator clause.name other.names) := by
  simp only [compiled_eq, ha.bind_get?]
  cases (Operator.resolve? clause.name).bind table.get? with
  | some transform => exact .inl rfl
  | none =>
    cases options.strict with
    | false => exact .inl rfl
    | true => exact .inr ⟨rfl, rfl⟩

theorem compiled_ok {table other : OperatorTable} (ha : table.Agree other clause.name)
    (h : (mk options table).compiled clause = .ok v) :
    (mk options other).compiled clause = .ok v := by
  rcases compiled_agreeing ha with heq | ⟨hrefused, -⟩
  · exact heq.trans h
  · cases hrefused.symm.trans h

theorem compiled_error {table other : OperatorTable} {fault : Fault}
    (ha : table.Agree other clause.name) (h : (mk options table).compiled clause = .error fault) :
    ∃ fault', fault.Alike fault' ∧ (mk options other).compiled clause = .error fault' := by
  rcases compiled_agreeing ha with heq | ⟨hrefused, hother⟩
  · exact ⟨fault, .same, heq.trans h⟩
  · cases hrefused.symm.trans h
    exact ⟨_, .unknownOperator, hother⟩

-- ---------------------------------------------------------------------------
-- Expressions
-- ---------------------------------------------------------------------------

/-- A compiler fails at a clause, after those before it have got their nodes. -/
structure FailsAt (compiler : Compiler) (expression : Expression) (before : List Clause)
    (failing : Clause) (fault : Fault) : Prop where
  before_ok : ∀ clause ∈ before, ∃ node, compiler.compiled clause = .ok node
  failing_error : compiler.compiled failing = .error fault
  result_eq : (compiler.compile (.expression expression)).result = .error fault

theorem compile_failsAt (hc : clauses expression = before ++ failing :: after)
    (hbefore : ∀ clause ∈ before, ∃ node, compiler.compiled clause = .ok node)
    (hfailing : compiler.compiled failing = .error fault) :
    compiler.FailsAt expression before failing fault := by
  obtain ⟨refusal?, node, hb⟩ := compiler.builds
  have hclause (clause : Clause) : compiler.compiled clause =
      settle (refusal? clause) (node clause) := hb clause.field clause.name clause.operand
  have hnone : before.findSome? refusal? = none := by
    refine List.findSome?_eq_none_iff.mpr fun clause hm => ?_
    obtain ⟨node, hn⟩ := hbefore clause hm
    exact (settle_ok.mp ((hclause clause).symm.trans hn)).1
  have hsome : refusal? failing = some fault :=
    settle_error.mp ((hclause failing).symm.trans hfailing)
  refine ⟨hbefore, hfailing, ?_⟩
  rw [compile_expression hb, hc, List.findSome?_append, hnone, List.findSome?_cons, hsome]
  rfl

theorem compile_eq_of_compiled (h : ∀ clause ∈ clauses expression,
    ∃ node, compiler.compiled clause = .ok node ∧ other.compiled clause = .ok node) :
    (other.compile (.expression expression)).result =
      (compiler.compile (.expression expression)).result := by
  obtain ⟨refusal?, node, hb⟩ := compiler.builds
  obtain ⟨refusal'?, node', hb'⟩ := other.builds
  have hclause (clause : Clause) (hm : clause ∈ clauses expression) :
      refusal? clause = none ∧ refusal'? clause = none ∧ node' clause = node clause := by
    obtain ⟨_, hn, hn'⟩ := h clause hm
    obtain ⟨hr, rfl⟩ := settle_ok.mp ((hb ..).symm.trans hn)
    obtain ⟨hr', hnode⟩ := settle_ok.mp ((hb' ..).symm.trans hn')
    exact ⟨hr, hr', hnode⟩
  rw [compile_expression hb, compile_expression hb',
    List.findSome?_eq_none_iff.mpr fun clause hm => (hclause clause hm).1,
    List.findSome?_eq_none_iff.mpr fun clause hm => (hclause clause hm).2.1,
    assembled_congr expression fun clause hm => (hclause clause hm).2.2]

theorem compile_agreeing (options : CompilerOptions) (table : OperatorTable)
    {tables : List OperatorTable} (h : ∀ other ∈ tables, ∀ clause ∈ clauses expression,
      table.Agree other clause.name) :
    (∃ fields, ∀ other ∈ tables,
      ((mk options other).compile (.expression expression)).result = .ok fields) ∨
    ∃ before failing after, ∃ fault : Fault, clauses expression = before ++ failing :: after ∧
      ∀ other ∈ tables, ∃ fault', fault.Alike fault' ∧ fault.category? = fault'.category? ∧
        (mk options other).FailsAt expression before failing fault' := by
  have htries : (mk options table).Tries _ _ := compile_tries expression
  cases hr : ((mk options table).compile (.expression expression)).result with
  | ok fields =>
    refine .inl ⟨fields, fun other ho => hr ▸ compile_eq_of_compiled fun clause hm => ?_⟩
    obtain ⟨node, hn⟩ := (htries.of_ok fields hr).1 clause hm
    exact ⟨node, hn, compiled_ok (h other ho clause hm) hn⟩
  | error fault =>
    obtain ⟨before, failing, after, hc, hbefore, hfailing, -⟩ := htries.of_error fault hr
    refine .inr ⟨before, failing, after, fault, hc, fun other ho => ?_⟩
    have hagree : ∀ clause ∈ before ++ failing :: after, table.Agree other clause.name :=
      fun clause hm => h other ho clause (hc ▸ hm)
    rw [List.forall_mem_append, List.forall_mem_cons] at hagree
    obtain ⟨fault', halike, hfailing'⟩ := compiled_error hagree.2.1 hfailing
    refine ⟨fault', halike, halike.category?, compile_failsAt hc (fun clause hm => ?_) hfailing'⟩
    obtain ⟨node, hn⟩ := hbefore clause hm
    exact ⟨node, compiled_ok (hagree.1 clause hm) hn⟩

/-- Where no clause of an expression names an operator, it does not matter what the operator
is bound to, or whether it is: all of this gives one selector, or a fault of one class at one
clause. -/
theorem compile_local (options : CompilerOptions) (table : OperatorTable) (op : Operator)
    (transform : Transform) (expression : Expression)
    (h : ∀ clause ∈ clauses expression, ¬ op.IsNamed clause.name) :
    let tables := [table, table.register op transform, table.unregister op]
    (∃ fields, ∀ other ∈ tables,
      ((mk options other).compile (.expression expression)).result = .ok fields) ∨
    ∃ before failing after, ∃ fault : Fault, clauses expression = before ++ failing :: after ∧
      ∀ other ∈ tables, ∃ fault', fault.Alike fault' ∧ fault.category? = fault'.category? ∧
        (mk options other).FailsAt expression before failing fault' := by
  intro tables
  refine compile_agreeing options table fun other ho clause hm named hn => ?_
  have hne : named ≠ op := fun he => h clause hm (he ▸ hn)
  simp only [tables, List.mem_cons, List.not_mem_nil, or_false] at ho
  rcases ho with rfl | rfl | rfl
  · rfl
  · exact table.get?_register_of_ne transform hne
  · exact table.get?_unregister_of_ne hne

theorem compile_local_unknown :
    let strict := { CompilerOptions.standard with strict := true }
    let expression : Expression :=
      [.logical .or [[.operator "a" "ne" (.int 1)], [.operator "b" "has" (.str "x")]]]
    (∀ clause ∈ clauses expression, ¬ Operator.contains.IsNamed clause.name) ∧
      ∃ fault, ((mk strict (OperatorTable.standard.unregister .contains)).compile
        (.expression expression)).result = .error fault ∧
        fault.category? = some .unknownOperator := by
  intro strict expression
  have hunused : ∀ clause ∈ clauses expression, ¬ Operator.contains.IsNamed clause.name := by decide
  refine ⟨hunused, ?_⟩
  rcases compile_local strict .standard .contains (.recording "seen" "seen") expression hunused with
    ⟨fields, hok⟩ | ⟨before, failing, after, fault, -, hfails⟩
  · cases hok .standard List.mem_cons_self
  · obtain ⟨_, -, hcategory, hstandard⟩ := hfails .standard List.mem_cons_self
    obtain ⟨fault', -, hcategory', hunregistered⟩ :=
      hfails (OperatorTable.standard.unregister .contains) (.tail _ (.tail _ List.mem_cons_self))
    cases hstandard.result_eq
    exact ⟨fault', hunregistered.result_eq, hcategory'.symm.trans hcategory⟩

end Compiler

end DocQuery
