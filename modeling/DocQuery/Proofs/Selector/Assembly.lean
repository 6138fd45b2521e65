import DocQuery.Selector
import DocQuery.Proofs.Assignment
import DocQuery.Proofs.Filter.Reading
import DocQuery.Proofs.Operator.Node

/-!
# What an expression is compiled to

`Expression.clauses` lists the operator clauses of an expression, and
`Expression.assembled` puts their nodes, the literals and the sub-selectors
together. `entries_result` ties both to the compiler: it ends at the first clause
that is refused, and otherwise in what is assembled. `compile_result` says the
same of filters as callers send them.
-/

namespace DocQuery

structure Clause where
  field : String
  name : String
  operand : Value

def Clause.node (options : CompilerOptions) (clause : Clause) : Value :=
  Operator.node options clause.name clause.operand

def Clause.refusal? (options : CompilerOptions) (clause : Clause) : Option Fault :=
  Operator.refusal? options clause.name clause.operand

namespace Expression

mutual
def clauses : List Condition → List Clause
  | [] => []
  | condition :: rest => conditionClauses condition ++ clauses rest

def conditionClauses : Condition → List Clause
  | .literal .. => []
  | .operator field name operand => [⟨field, name, operand⟩]
  | .logical _ filters => branchClauses filters

def branchClauses : List (List Condition) → List Clause
  | [] => []
  | conditions :: rest => clauses conditions ++ branchClauses rest
end

variable (node : Clause → Value)

mutual
/-- The entries that conditions contribute, given the node of every clause. -/
def assembled : List Condition → Fields
  | [] => []
  | condition :: rest => (assembled? condition).toList ++ assembled rest

def assembled? : Condition → Option (String × Value)
  | .literal field v => some (field, v)
  | .operator field name operand => some (field, node ⟨field, name, operand⟩)
  | .logical combinator filters =>
    if filters.isEmpty then none
    else some ("$" ++ combinator.name, .list (documents filters))

def documents : List (List Condition) → List Value
  | [] => []
  | conditions :: rest =>
    .ofFields (Assoc.assignAll [] (assembled conditions)) :: documents rest
end

end Expression

namespace Compiler

open Expression

/-- The clauses that a compiler refuses, and the node that it gives to every other one. -/
def Builds (compiler : Compiler) (refusal? : Clause → Option Fault) (node : Clause → Value) :
    Prop :=
  ∀ field name operand, (compiler.node field name operand).result =
    settle (refusal? ⟨field, name, operand⟩) (node ⟨field, name, operand⟩)

section
variable {compiler : Compiler} {refusal? : Clause → Option Fault} {node : Clause → Value}

mutual
/-- Compiling ends at the first clause that is refused, or in what is assembled. -/
theorem entries_result (hb : compiler.Builds refusal? node) : (conditions : List Condition) →
    (compiler.entries conditions).result =
      settle ((clauses conditions).findSome? refusal?) (assembled node conditions)
  | [] => rfl
  | condition :: rest => by
    simp only [entries, clauses, assembled, Traced.result_bind, Traced.result_pure,
      contribution_result hb condition, entries_result hb rest, settle_map, settle_bind,
      List.findSome?_append]

theorem contribution_result (hb : compiler.Builds refusal? node) : (condition : Condition) →
    (contribution compiler condition).result =
      settle ((conditionClauses condition).findSome? refusal?) (assembled? node condition)
  | .literal field v => rfl
  | .operator field name operand => by
    simp only [contribution, conditionClauses, assembled?, Traced.result_bind, Traced.result_pure,
      hb field name operand, settle_map, List.findSome?_singleton]
  | .logical combinator [] => rfl
  | .logical combinator (first :: rest) => by
    simp only [contribution, conditionClauses, branchClauses, assembled?, documents, Traced.result_bind,
      Traced.result_pure, entries_result hb first, selectors_result hb rest, settle_map,
      settle_bind, List.findSome?_append]
    rfl

theorem selectors_result (hb : compiler.Builds refusal? node) :
    (filters : List (List Condition)) →
    (compiler.selectors filters).result =
      settle ((branchClauses filters).findSome? refusal?) (documents node filters)
  | [] => rfl
  | conditions :: rest => by
    simp only [selectors, branchClauses, documents, Traced.result_bind, Traced.result_pure,
      entries_result hb conditions, selectors_result hb rest, settle_map, settle_bind,
      List.findSome?_append]
end

theorem selector_result (hb : compiler.Builds refusal? node) (expression : Expression) :
    (compiler.selector expression).result =
      settle ((clauses expression).findSome? refusal?)
        (Assoc.assignAll [] (assembled node expression)) := by
  simp only [selector, Traced.result_bind, Traced.result_pure, entries_result hb, settle_map]

theorem compile_result (hb : compiler.Builds refusal? node) (filter : Entries) :
    (compiler.compile (.map filter)).result =
      settle ((Filter.refusal? compiler.options (Filter.obstacles [] filter)).or
          ((clauses (Filter.conditions filter)).findSome? refusal?))
        (Assoc.assignAll [] (assembled node (Filter.conditions filter))) := by
  simp only [compile, Traced.result_bind, Filter.ofValue_result, selector_result hb, settle_bind]

theorem compile_expression (hb : compiler.Builds refusal? node) (expression : Expression) :
    (compiler.compile (.expression expression)).result =
      settle ((clauses expression).findSome? refusal?)
        (Assoc.assignAll [] (assembled node expression)) :=
  selector_result hb expression

end

/-- Every compiler refuses some clauses and gives a node to every other one. -/
theorem builds (compiler : Compiler) : ∃ refusal? node, compiler.Builds refusal? node := by
  let result (clause : Clause) := (compiler.node clause.field clause.name clause.operand).result
  refine ⟨fun clause => match result clause with
      | .ok _ => none
      | .error fault => some fault, fun clause => (result clause).toOption.getD .null, ?_⟩
  intro field name operand
  simp only [result]
  cases (compiler.node field name operand).result <;> rfl

theorem builds_standard (options : CompilerOptions) :
    (withOptions options).Builds (Clause.refusal? options) (Clause.node options) := by
  intro field name operand
  simp only [Compiler.node, withOptions, Traced.result_bind, OperatorTable.apply_standard,
    Traced.result_note, Traced.result_pure]
  exact settle_map ..

end Compiler

end DocQuery
