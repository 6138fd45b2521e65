import DocQuery.Expression
import DocQuery.Operator.Table

/-!
# Selectors

A selector is a document that tells a document store which documents to select.
A filter expression is compiled condition by condition: each contributes an entry
of the selector, except a combinator without sub-filters, which the store would
refuse and which contributes nothing.
-/

namespace DocQuery

structure Compiler where
  options : CompilerOptions
  table : OperatorTable

namespace Compiler

def withOptions (options : CompilerOptions) : Compiler := ⟨options, .standard⟩

def standard : Compiler := withOptions .standard

def node (compiler : Compiler) (field name : String) (operand : Value) : Traced Value := do
  let kind := operand.kind
  let node ← compiler.table.apply compiler.options name kind operand
  Traced.note .compiler .debug
    ("Compiled " ++ field ++ " " ++ name ++ " (" ++ kind.name ++ ") -> " ++ node.literal)
  pure node

mutual
def entries (compiler : Compiler) : List Condition → Traced (List (String × Value))
  | [] => pure []
  | condition :: rest => do
    let entry ← contribution compiler condition
    let more ← entries compiler rest
    pure (entry.toList ++ more)

def contribution (compiler : Compiler) : Condition → Traced (Option (String × Value))
  | .literal field v => pure (some (field, v))
  | .operator field name operand => do
    let node ← compiler.node field name operand
    pure (some (field, node))
  | .logical combinator [] => do
    Traced.note .compiler .debug ("Skipping '" ++ combinator.name ++ "' with no sub-filters")
    pure none
  | .logical combinator (first :: rest) => do
    let head ← entries compiler first
    let tail ← selectors compiler rest
    pure (some ("$" ++ combinator.name,
      .list (.ofFields (Assoc.assignAll [] head) :: tail)))

def selectors (compiler : Compiler) : List (List Condition) → Traced (List Value)
  | [] => pure []
  | conditions :: rest => do
    let head ← entries compiler conditions
    let tail ← selectors compiler rest
    pure (.ofFields (Assoc.assignAll [] head) :: tail)
end

/-- The fields of the selector of an expression. Of two entries of one name the
later one replaces the earlier. -/
def selector (compiler : Compiler) (expression : Expression) : Traced Fields := do
  let entries ← compiler.entries expression
  pure (Assoc.assignAll [] entries)

def compile (compiler : Compiler) (filter : Value) : Traced Fields := do
  let expression ← Expression.ofValue compiler.options filter
  compiler.selector expression

end Compiler

end DocQuery
