import DocQuery.Operator.Transform
import DocQuery.Traced

/-!
# Operator tables

A table binds operators to transforms; registering an operator again replaces
its transform. `OperatorTable.apply` resolves the name of an operator and runs
the transform that is bound to it.
-/

namespace DocQuery

/-- Operators and the transforms bound to them, each operator once. -/
structure OperatorTable where
  bindings : List (Operator × Transform)
  nodup : (Assoc.keys bindings).Nodup

namespace OperatorTable

def empty : OperatorTable := ⟨[], List.nodup_nil⟩

def register (table : OperatorTable) (op : Operator) (transform : Transform) : OperatorTable :=
  ⟨Assoc.assign table.bindings op transform, Assoc.nodup_keys_assign table.nodup op transform⟩

def registerAll (table : OperatorTable) (more : List (Operator × Transform)) : OperatorTable :=
  more.foldl (fun table (op, transform) => table.register op transform) table

def unregister (table : OperatorTable) (op : Operator) : OperatorTable :=
  ⟨Assoc.remove table.bindings op, Assoc.nodup_keys_remove table.nodup op⟩

def get? (table : OperatorTable) (op : Operator) : Option Transform :=
  Assoc.lookup op table.bindings

def has (table : OperatorTable) (op : Operator) : Bool := (table.get? op).isSome

def names (table : OperatorTable) : List String := (Assoc.keys table.bindings).map Operator.name

def supported (table : OperatorTable) : List String := sortedWords table.names

def standardOperators : List Operator :=
  [.eq, .ne, .gt, .ge, .lt, .le, .oneOf, .between, .present, .contains, .notContains, .startsWith,
    .endsWith]

def standard : OperatorTable :=
  empty.registerAll (standardOperators.filterMap fun op => (Transform.standard? op).map (op, ·))

def deprecationMessage (name : String) (op : Operator) : String :=
  "Operator '" ++ name ++ "' is deprecated, use '" ++ op.name ++ "' instead"

/-- The bound operator that a name stands for. A deprecated name is warned
about, whether its operator is bound or not. -/
def resolve (table : OperatorTable) (name : String) : Traced (Option Operator) := do
  match Operator.ofDeprecated? name with
  | some op => Traced.note .registry .warning (deprecationMessage name op)
  | none => pure ()
  pure ((Operator.resolve? name).filter table.has)

/-- What a field is compared with, given the name of an operator and its
operand. An unknown operator passes the operand through, or is refused when the
options are strict. -/
def apply (table : OperatorTable) (options : CompilerOptions) (name : String) (kind : Kind)
    (v : Value) : Traced Value := do
  let op? ← table.resolve name
  match op?.bind table.get? with
  | some transform => Traced.ofExcept (transform.run options kind v)
  | none =>
    if options.strict then Traced.fail (.unknownOperator name table.names)
    else
      Traced.note .registry .debug ("Unknown operator '" ++ name ++ "', passing value through")
      pure v

end OperatorTable

end DocQuery
