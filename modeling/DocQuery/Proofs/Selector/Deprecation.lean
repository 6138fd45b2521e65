import DocQuery.Proofs.Selector.Assembly

/-!
# The deprecated name of an operator

One operator may still be written with a deprecated name. `deprecated_name` says of every
expression that it is compiled as if the operator had its own name, and which warnings that
gives: one for each deprecated name up to the first clause that fails, and so one for each of
them if there is none.
-/

namespace DocQuery

-- ---------------------------------------------------------------------------
-- Names of operators
-- ---------------------------------------------------------------------------

namespace Operator

def currentName (name : String) : String := if name = deprecatedName then startsWith.name else name

theorem currentName_ne (name : String) : currentName name ≠ deprecatedName := by
  unfold currentName
  split
  · decide
  · assumption

theorem resolve?_currentName (name : String) : resolve? (currentName name) = resolve? name := by
  unfold currentName
  split
  · rename_i h
    rw [h]
    decide
  · rfl

def deprecation : LogRecord :=
  ⟨.registry, .warning, OperatorTable.deprecationMessage deprecatedName startsWith⟩

end Operator

def Clause.isDeprecated (clause : Clause) : Bool := clause.name = Operator.deprecatedName

def Clause.deprecations (clauses : List Clause) : List LogRecord :=
  List.replicate (clauses.countP isDeprecated) Operator.deprecation

theorem Clause.deprecations_append (clauses more : List Clause) :
    deprecations (clauses ++ more) = deprecations clauses ++ deprecations more := by
  simp [deprecations]

theorem Clause.deprecations_eq_nil {clauses : List Clause}
    (h : ∀ clause ∈ clauses, clause.isDeprecated = false) : deprecations clauses = [] := by
  rw [deprecations, List.countP_eq_zero.mpr fun clause hc => by simp [h clause hc]]
  rfl

namespace Expression

mutual
def renamed : List Condition → List Condition
  | [] => []
  | condition :: rest => renamedCondition condition :: renamed rest

def renamedCondition : Condition → Condition
  | .literal field v => .literal field v
  | .operator field name operand => .operator field (Operator.currentName name) operand
  | .logical combinator filters => .logical combinator (renamedBranches filters)

def renamedBranches : List (List Condition) → List (List Condition)
  | [] => []
  | conditions :: rest => renamed conditions :: renamedBranches rest
end

mutual
theorem not_isDeprecated_renamed : (conditions : List Condition) →
    ∀ clause ∈ clauses (renamed conditions), clause.isDeprecated = false
  | [] => List.forall_mem_nil _
  | condition :: rest => by
    rw [renamed, clauses, List.forall_mem_append]
    exact ⟨not_isDeprecated_renamedCondition condition, not_isDeprecated_renamed rest⟩

theorem not_isDeprecated_renamedCondition : (condition : Condition) →
    ∀ clause ∈ conditionClauses (renamedCondition condition), clause.isDeprecated = false
  | .literal .. => List.forall_mem_nil _
  | .operator field name operand => by
    simp [renamedCondition, conditionClauses, Clause.isDeprecated, Operator.currentName_ne]
  | .logical _ filters => not_isDeprecated_renamedBranches filters

theorem not_isDeprecated_renamedBranches : (filters : List (List Condition)) →
    ∀ clause ∈ branchClauses (renamedBranches filters), clause.isDeprecated = false
  | [] => List.forall_mem_nil _
  | conditions :: rest => by
    rw [renamedBranches, branchClauses, List.forall_mem_append]
    exact ⟨not_isDeprecated_renamed conditions, not_isDeprecated_renamedBranches rest⟩
end

end Expression

-- ---------------------------------------------------------------------------
-- Warnings
-- ---------------------------------------------------------------------------

namespace Traced

def warnings (x : Traced α) : List LogRecord :=
  x.log.filter fun record => record.source = .registry && record.level = .warning

theorem warnings_bind_ok {x : Traced α} {f : α → Traced β} (h : x.result = .ok a) :
    (x >>= f).warnings = x.warnings ++ (f a).warnings := by
  rw [warnings, log_bind, h, List.filter_append]
  rfl

theorem warnings_bind_error {x : Traced α} {f : α → Traced β} (h : x.result = .error fault) :
    (x >>= f).warnings = x.warnings := by
  rw [warnings, log_bind, h, List.append_nil]
  rfl

theorem warnings_bind_silent {x : Traced α} {f : α → Traced β} (hf : ∀ a, (f a).warnings = []) :
    (x >>= f).warnings = x.warnings := by
  cases h : x.result with
  | ok a => rw [warnings_bind_ok h, hf, List.append_nil]
  | error fault => exact warnings_bind_error h

/-- One computation ends well exactly when another one does, and in the same result. -/
def SucceedsAs (x y : Traced α) : Prop := ∀ a, x.result = .ok a ↔ y.result = .ok a

theorem SucceedsAs.refl (x : Traced α) : x.SucceedsAs x := fun _ => Iff.rfl

theorem SucceedsAs.bind {x y : Traced α} {f g : α → Traced β} (hx : x.SucceedsAs y)
    (hf : ∀ a, (f a).SucceedsAs (g a)) : (x >>= f).SucceedsAs (y >>= g) := by
  intro b
  simp only [result_bind, bind_ok_iff, hx _, hf _ b]

end Traced

theorem OperatorTable.resolve_warnings (table : OperatorTable) (name : String) :
    (table.resolve name).warnings =
      if name = Operator.deprecatedName then [Operator.deprecation] else [] := by
  by_cases h : name = Operator.deprecatedName
  · subst h
    rfl
  · have hn : Operator.ofDeprecated? name = none := if_neg h
    rw [resolve, hn, if_neg h]
    rfl

-- Whether an operator is known, and what its transform makes of the operand, is not warned about.
theorem OperatorTable.apply_warnings (table : OperatorTable) (options : CompilerOptions)
    (name : String) (kind : Kind) (v : Value) :
    (table.apply options name kind v).warnings = (table.resolve name).warnings := by
  refine Traced.warnings_bind_silent fun op? => ?_
  split
  · rfl
  · split
    · rfl
    · exact Traced.warnings_bind_silent fun _ => rfl

namespace Compiler

open Expression

variable {compiler : Compiler}

/-- What a compiler makes of a clause. -/
def compiled (compiler : Compiler) (clause : Clause) : Except Fault Value :=
  (compiler.node clause.field clause.name clause.operand).result

theorem node_warnings (clause : Clause) :
    (compiler.node clause.field clause.name clause.operand).warnings =
      Clause.deprecations [clause] := by
  have hsilent : (compiler.node clause.field clause.name clause.operand).warnings = _ :=
    Traced.warnings_bind_silent fun _ => Traced.warnings_bind_silent fun _ => rfl
  rw [hsilent, OperatorTable.apply_warnings, OperatorTable.resolve_warnings]
  unfold Clause.deprecations Clause.isDeprecated
  split <;> simp [*]

-- ---------------------------------------------------------------------------
-- Clauses tried in order
-- ---------------------------------------------------------------------------

/-- A step compiles clauses one after the other until one fails, and warns about the deprecated
names among those that it tried. -/
structure Tries (compiler : Compiler) (clauses : List Clause) (x : Traced α) : Prop where
  of_ok : ∀ a, x.result = .ok a → (∀ clause ∈ clauses, ∃ node, compiler.compiled clause = .ok node) ∧
    x.warnings = Clause.deprecations clauses
  of_error : ∀ fault, x.result = .error fault → ∃ before failing after,
    clauses = before ++ failing :: after ∧
      (∀ clause ∈ before, ∃ node, compiler.compiled clause = .ok node) ∧
      compiler.compiled failing = .error fault ∧
      x.warnings = Clause.deprecations (before ++ [failing])

theorem Tries.silent {x : Traced α} (hx : x.result = .ok a) (hw : x.warnings = []) :
    compiler.Tries [] x := by
  refine ⟨fun _ _ => ⟨List.forall_mem_nil _, hw⟩, fun fault h => ?_⟩
  cases hx.symm.trans h

theorem Tries.bind {x : Traced α} {f : α → Traced β} (hx : compiler.Tries tried x)
    (hf : ∀ a, compiler.Tries more (f a)) : compiler.Tries (tried ++ more) (x >>= f) := by
  cases hr : x.result with
  | ok a =>
    obtain ⟨hcompiled, hw⟩ := hx.of_ok a hr
    have hwarnings : (x >>= f).warnings = Clause.deprecations tried ++ (f a).warnings :=
      hw ▸ Traced.warnings_bind_ok hr
    have hresult : (x >>= f).result = (f a).result := by
      rw [Traced.result_bind, hr]
      rfl
    constructor
    · intro b hb
      obtain ⟨hmore, hw⟩ := (hf a).of_ok b (hresult ▸ hb)
      refine ⟨List.forall_mem_append.mpr ⟨hcompiled, hmore⟩, ?_⟩
      rw [hwarnings, hw, Clause.deprecations_append]
    · intro fault hb
      obtain ⟨before, failing, after, rfl, hbefore, hfailing, hw⟩ :=
        (hf a).of_error fault (hresult ▸ hb)
      refine ⟨tried ++ before, failing, after, (List.append_assoc ..).symm,
        List.forall_mem_append.mpr ⟨hcompiled, hbefore⟩, hfailing, ?_⟩
      rw [hwarnings, hw, ← Clause.deprecations_append, List.append_assoc]
  | error cause =>
    have hresult : (x >>= f).result = .error cause := by
      rw [Traced.result_bind, hr]
      rfl
    constructor
    · intro b hb
      cases hresult.symm.trans hb
    · intro fault hb
      cases hresult.symm.trans hb
      obtain ⟨before, failing, after, rfl, hbefore, hfailing, hw⟩ := hx.of_error _ hr
      refine ⟨before, failing, after ++ more, by simp, hbefore, hfailing, ?_⟩
      rw [Traced.warnings_bind_error hr, hw]

theorem Tries.map {x : Traced α} {f : α → Traced β} (hx : compiler.Tries tried x)
    (hf : ∀ a, compiler.Tries [] (f a)) : compiler.Tries tried (x >>= f) :=
  List.append_nil tried ▸ hx.bind hf

theorem Tries.unwarned {x : Traced α} (hx : compiler.Tries tried x)
    (hn : ∀ clause ∈ tried, clause.isDeprecated = false) : x.warnings = [] := by
  cases hr : x.result with
  | ok a => rw [(hx.of_ok a hr).2, Clause.deprecations_eq_nil hn]
  | error fault =>
    obtain ⟨before, failing, after, rfl, -, -, hw⟩ := hx.of_error fault hr
    have htried : before ++ [failing] <+: before ++ failing :: after := ⟨after, by simp⟩
    rw [hw, Clause.deprecations_eq_nil fun clause hc => hn clause (htried.subset hc)]

theorem node_tries (field name : String) (operand : Value) :
    compiler.Tries [⟨field, name, operand⟩] (compiler.node field name operand) := by
  let clause : Clause := ⟨field, name, operand⟩
  constructor
  · intro node h
    exact ⟨List.forall_mem_singleton.mpr ⟨node, h⟩, node_warnings clause⟩
  · intro fault h
    exact ⟨[], clause, [], rfl, List.forall_mem_nil _, h, node_warnings clause⟩

mutual
theorem entries_tries : (conditions : List Condition) →
    compiler.Tries (clauses conditions) (compiler.entries conditions)
  | [] => .silent rfl rfl
  | condition :: rest =>
    (contribution_tries condition).bind fun _ => (entries_tries rest).map fun _ => .silent rfl rfl

theorem contribution_tries : (condition : Condition) →
    compiler.Tries (conditionClauses condition) (contribution compiler condition)
  | .literal .. => .silent rfl rfl
  | .operator field name operand => (node_tries field name operand).map fun _ => .silent rfl rfl
  | .logical _ [] => .silent rfl rfl
  | .logical _ (first :: rest) =>
    (entries_tries first).bind fun _ => (selectors_tries rest).map fun _ => .silent rfl rfl

theorem selectors_tries : (filters : List (List Condition)) →
    compiler.Tries (branchClauses filters) (compiler.selectors filters)
  | [] => .silent rfl rfl
  | conditions :: rest =>
    (entries_tries conditions).bind fun _ => (selectors_tries rest).map fun _ => .silent rfl rfl
end

theorem compile_tries (expression : Expression) :
    compiler.Tries (clauses expression) (compiler.compile (.expression expression)) := by
  have hselector : compiler.Tries (clauses expression) (compiler.selector expression) :=
    (entries_tries expression).map fun _ => .silent rfl rfl
  exact hselector

-- ---------------------------------------------------------------------------
-- Renaming
-- ---------------------------------------------------------------------------

theorem apply_currentName (table : OperatorTable) (options : CompilerOptions) (name : String)
    (kind : Kind) (v : Value) : (table.apply options (Operator.currentName name) kind v).SucceedsAs
      (table.apply options name kind v) := by
  have hresolve : (table.resolve (Operator.currentName name)).result = (table.resolve name).result := by
    rw [OperatorTable.resolve_result, OperatorTable.resolve_result, Operator.resolve?_currentName]
  refine .bind (fun op? => by rw [hresolve]) fun op? => ?_
  split
  · exact .refl _
  · split
    · intro node
      constructor <;> intro h <;> cases h
    · exact .bind (fun _ => Iff.rfl) fun _ => .refl _

theorem node_currentName (field name : String) (operand : Value) :
    (compiler.node field (Operator.currentName name) operand).SucceedsAs
      (compiler.node field name operand) :=
  .bind (apply_currentName _ _ name _ _) fun _ => .bind (fun _ => Iff.rfl) fun _ => .refl _

mutual
theorem entries_renamed : (conditions : List Condition) →
    (compiler.entries (renamed conditions)).SucceedsAs (compiler.entries conditions)
  | [] => .refl _
  | condition :: rest =>
    .bind (contribution_renamed condition) fun _ => .bind (entries_renamed rest) fun _ => .refl _

theorem contribution_renamed : (condition : Condition) →
    (contribution compiler (renamedCondition condition)).SucceedsAs (contribution compiler condition)
  | .literal .. => .refl _
  | .operator field name operand => .bind (node_currentName field name operand) fun _ => .refl _
  | .logical _ [] => .refl _
  | .logical _ (first :: rest) =>
    .bind (entries_renamed first) fun _ => .bind (selectors_renamed rest) fun _ => .refl _

theorem selectors_renamed : (filters : List (List Condition)) →
    (compiler.selectors (renamedBranches filters)).SucceedsAs (compiler.selectors filters)
  | [] => .refl _
  | conditions :: rest =>
    .bind (entries_renamed conditions) fun _ => .bind (selectors_renamed rest) fun _ => .refl _
end

theorem compile_renamed (expression : Expression) :
    (compiler.compile (.expression (renamed expression))).SucceedsAs
      (compiler.compile (.expression expression)) := by
  have hselector : (compiler.selector (renamed expression)).SucceedsAs
      (compiler.selector expression) := .bind (entries_renamed expression) fun _ => .refl _
  exact hselector

/-- With the operator's own name in place of the deprecated one, an expression has the same
selector if either has one, and no warning is given. With the deprecated name a compiler warns
as often as it stands in the expression, or, if a clause fails, as often as it stands in the
clauses up to that one. -/
theorem deprecated_name (compiler : Compiler) (expression : Expression) :
    let run := compiler.compile (.expression expression)
    let current := compiler.compile (.expression (renamed expression))
    (∀ fields, current.result = .ok fields ↔ run.result = .ok fields) ∧
      current.warnings = [] ∧
      (∀ fields, run.result = .ok fields →
        run.warnings = Clause.deprecations (clauses expression)) ∧
      ∀ fault, run.result = .error fault → ∃ before failing after,
        clauses expression = before ++ failing :: after ∧
          (∀ clause ∈ before, ∃ node, compiler.compiled clause = .ok node) ∧
          compiler.compiled failing = .error fault ∧
          run.warnings = Clause.deprecations (before ++ [failing]) := by
  intro run current
  have htries : compiler.Tries (clauses expression) run := compile_tries expression
  refine ⟨compile_renamed expression, ?_, fun fields h => (htries.of_ok fields h).2,
    htries.of_error⟩
  exact (compile_tries (renamed expression)).unwarned (not_isDeprecated_renamed expression)

-- The name is warned about where its operator is unknown and the operand passes through.
example :
    let compiler : Compiler := ⟨.standard, OperatorTable.standard.unregister .startsWith⟩
    let run := compiler.compile (.expression [.operator "a" "beginsWith" (.str "x")])
    run.result = .ok [("a", .str "x")] ∧ run.warnings = [Operator.deprecation] := ⟨rfl, rfl⟩

/-- A clause that fails hides the deprecated name in the next one. -/
theorem deprecated_name_hidden :
    let strict := withOptions { CompilerOptions.standard with strict := true }
    let expression := [.operator "a" "nope" (.int 1), .operator "b" "beginsWith" (.str "x")]
    (clauses expression).countP Clause.isDeprecated = 1 ∧
      (strict.compile (.expression expression)).warnings = [] := ⟨rfl, rfl⟩

end Compiler

end DocQuery
