import DocQuery.Operator.Table

/-!
# Calls on operator tables

A table is filled and asked by calls, one after another. `OperatorTable.step` answers
a call and gives the table after it.
-/

namespace DocQuery

inductive TableCall where
  | register (op : Operator) (transform : Transform)
  | registerAll (more : List (Operator × Transform))
  | unregister (op : Operator)
  | resolve (name : String)
  | has (op : Operator)
  | get (op : Operator)
  | supported
  | apply (options : CompilerOptions) (name : String) (kind : Kind) (operand : Value)

inductive TableReply where
  | done
  | operator (op? : Option Operator)
  | bound (b : Bool)
  | transform (transform? : Option Transform)
  | names (names : List String)
  | node (node : Value)

namespace OperatorTable

def step (table : OperatorTable) : TableCall → Traced TableReply × OperatorTable
  | .register op transform => (pure .done, table.register op transform)
  | .registerAll more => (pure .done, table.registerAll more)
  | .unregister op => (pure .done, table.unregister op)
  | .resolve name => (do pure (.operator (← table.resolve name)), table)
  | .has op => (pure (.bound (table.has op)), table)
  | .get op => (pure (.transform (table.get? op)), table)
  | .supported => (pure (.names table.supported), table)
  | .apply options name kind operand =>
    (do pure (.node (← table.apply options name kind operand)), table)

end OperatorTable

end DocQuery
