import DocQuery.Expression
import DocQuery.Proofs.FirstFault

/-!
# What a filter stands for

`Filter.conditions` gives the conditions that a filter stands for, with every
malformed part made do with, and `Filter.obstacles` what stands in the way of reading
it, in the order in which it is written: the malformed parts and the keys that cannot be
written as texts. `ofEntries_result` ties both to the reader of filters: strict reading
ends at the first obstacle, lenient reading at the first such key (`refusal?_lenient`),
and otherwise the conditions are what is read.
-/

namespace DocQuery.Filter

/-- The condition that a map under a field stands for: its first key is the operator. -/
def clause (field : String) : Entries → Condition
  | [] => .literal field (.map [])
  | (name, operand) :: _ => .operator field name.text operand

mutual
def conditions : Entries → List Condition
  | [] => []
  | (key, v) :: rest => condition key.text v :: conditions rest

def condition (field : String) : Value → Condition
  | .list items => match Operator.combinator? field with
    | some combinator => .logical combinator (expressions items)
    | none => .literal field (.list items)
  | .tuple items => match Operator.combinator? field with
    | some combinator => .logical combinator (expressions items)
    | none => .literal field (.tuple items)
  | .map entries => clause field entries
  | v => .literal field v

def expressions : List Value → List (List Condition)
  | [] => []
  | .map entries :: rest => conditions entries :: expressions rest
  | _ :: rest => expressions rest
end

structure Violation where
  path : Path
  cause : Malformed

def Violation.fault (violation : Violation) : Fault :=
  .malformed violation.cause (some violation.path)

/-- What stands in the way of reading a filter. Lenient reading makes do with malformed parts. -/
inductive Obstacle where
  | malformed (violation : Violation)
  | unwritable (key : Value)

def Obstacle.violation? : Obstacle → Option Violation
  | malformed violation => some violation
  | unwritable _ => none

def Obstacle.fault? (options : CompilerOptions) : Obstacle → Option Fault
  | malformed violation => if options.strict then some violation.fault.worded else none
  | unwritable _ => some (.misuse .badValue)

def keyObstacles (key : Value) : List Obstacle := if key.isWritable then [] else [.unwritable key]

def listObstacles (path : Path) (field : String) : List Obstacle :=
  match Operator.combinator? field with
  | some combinator => [.malformed ⟨path, .notList combinator⟩]
  | none => []

/-- An operator clause without an operator, or with several. -/
def clauseObstacles (path : Path) : Entries → List Obstacle
  | [] => [.malformed ⟨path, .emptyClause⟩]
  | [(name, _)] => keyObstacles name
  | (name, operand) :: rest =>
    .malformed ⟨path, .manyOperators (((name, operand) :: rest).map (·.1))⟩ :: keyObstacles name

mutual
def obstacles (path : Path) : Entries → List Obstacle
  | [] => []
  | (key, v) :: rest =>
    keyObstacles key ++ (valueObstacles (path ++ [.field key.text]) key.text v ++
      obstacles path rest)

def valueObstacles (path : Path) (field : String) : Value → List Obstacle
  | .list items => match Operator.combinator? field with
    | some combinator =>
      if items.isEmpty then [.malformed ⟨path, .noBranches combinator⟩]
      else elementObstacles path 0 items
    | none => []
  | .tuple items => match Operator.combinator? field with
    | some combinator =>
      if items.isEmpty then [.malformed ⟨path, .noBranches combinator⟩]
      else elementObstacles path 0 items
    | none => []
  | .map entries => listObstacles path field ++ clauseObstacles path entries
  | _ => listObstacles path field

def elementObstacles (path : Path) (index : Nat) : List Value → List Obstacle
  | [] => []
  | .map entries :: rest =>
    obstacles (path ++ [.index index]) entries ++ elementObstacles path (index + 1) rest
  | v :: rest =>
    .malformed ⟨path ++ [.index index], .branchNotMap v.typeName⟩ ::
      elementObstacles path (index + 1) rest
end

def violations (path : Path) (filter : Entries) : List Violation :=
  (obstacles path filter).filterMap Obstacle.violation?

theorem malformed_mem_iff : .malformed violation ∈ obstacles path filter ↔
    violation ∈ violations path filter := by
  refine ⟨fun h => List.mem_filterMap.mpr ⟨_, h, rfl⟩, fun h => ?_⟩
  obtain ⟨obstacle, hm, ho⟩ := List.mem_filterMap.mp h
  cases obstacle with
  | malformed found => exact Option.some.inj ho ▸ hm
  | unwritable => cases ho

def refusal? (options : CompilerOptions) (found : List Obstacle) : Option Fault :=
  found.findSome? (Obstacle.fault? options)

variable {options : CompilerOptions}

@[simp] theorem refusal?_nil : refusal? options [] = none := rfl

theorem refusal?_append (found more : List Obstacle) :
    refusal? options (found ++ more) = (refusal? options found).or (refusal? options more) :=
  List.findSome?_append

theorem refusal?_cons (obstacle : Obstacle) (more : List Obstacle) :
    refusal? options (obstacle :: more) =
      (refusal? options [obstacle]).or (refusal? options more) :=
  refusal?_append [obstacle] more

theorem refusal?_strict (hs : options.strict = true) (obstacle : Obstacle) (more : List Obstacle) :
    refusal? options (obstacle :: more) = obstacle.fault? options := by
  cases obstacle <;> simp [refusal?, List.findSome?_cons, Obstacle.fault?, hs]

theorem refusal?_strict_eq_none (hs : options.strict = true) :
    refusal? options found = none ↔ found = [] := by
  cases found with
  | nil => simp
  | cons obstacle more =>
    rw [refusal?_strict hs]
    cases obstacle <;> simp [Obstacle.fault?, hs]

-- ---------------------------------------------------------------------------
-- Single steps of the reader
-- ---------------------------------------------------------------------------

open Expression

theorem write_result (options : CompilerOptions) (key : Value) :
    orFault key.write = settle (refusal? options (keyObstacles key)) key.text := by
  unfold Value.write keyObstacles
  split <;> rfl

theorem refuse_result (path : Path) (cause : Malformed) (note : String) :
    (refuse options path cause note).result =
      settle (refusal? options [.malformed ⟨path, cause⟩]) () := by
  unfold refuse
  cases hs : options.strict <;> simp [refusal?, Obstacle.fault?, hs, Violation.fault]

theorem checkField_result (path : Path) (field : String) :
    (checkField options path field).result =
      settle (refusal? options (listObstacles path field)) () := by
  unfold checkField listObstacles
  cases Operator.combinator? field with
  | none => simp
  | some combinator => exact refuse_result ..

theorem ofClause_result (path : Path) (field : String) (entries : Entries) :
    (ofClause options path field entries).result =
      settle (refusal? options (clauseObstacles path entries)) (clause field entries) := by
  match entries with
  | [] =>
    cases hs : options.strict <;>
      simp [ofClause, clauseObstacles, clause, refusal?, Obstacle.fault?, hs, Violation.fault,
        Fault.worded, Fault.isWritable, Malformed.isWritable]
  | [(name, operand)] =>
    simp only [ofClause, clauseObstacles, clause, Traced.result_bind, Traced.result_ofOperand,
      Traced.result_pure, write_result options, settle_map]
  | (name, operand) :: second :: rest =>
    simp only [ofClause, clauseObstacles, clause, Traced.result_bind, Traced.result_ofOperand,
      Traced.result_pure, refuse_result, write_result options, settle_map,
      settle_bind]
    rw [refusal?_cons _ (keyObstacles name)]

theorem elementObstacles_malformed (path : Path) (index : Nat) (hi : items ≠ [])
    (he : expressions items = []) :
    ∃ violation more, elementObstacles path index items = .malformed violation :: more := by
  cases items with
  | nil => contradiction
  | cons v rest => cases v <;> simp_all [expressions, elementObstacles]

/-- A list without elements is refused after its elements are read, and one whose
elements are all dropped is refused before. -/
theorem ofBranches_result (path : Path) (combinator : Operator) (items : List Value) :
    (settle (refusal? options (elementObstacles path 0 items)) (expressions items) >>=
        fun filters => (ofBranches options path combinator filters).result) =
      settle (refusal? options
          (if items.isEmpty then [.malformed ⟨path, .noBranches combinator⟩]
            else elementObstacles path 0 items))
        (.logical combinator (expressions items)) := by
  have step (filters : List Expression) : (ofBranches options path combinator filters).result =
      settle (if filters = [] then refusal? options [.malformed ⟨path, .noBranches combinator⟩]
        else none) (.logical combinator filters) := by
    cases filters <;> cases hs : options.strict <;>
      simp [ofBranches, refusal?, Obstacle.fault?, hs, Violation.fault, Fault.worded,
        Fault.isWritable, Malformed.isWritable]
  simp only [step, settle_bind]
  congr 1
  cases items with
  | nil => simp [elementObstacles, expressions]
  | cons v rest =>
    simp only [List.isEmpty_cons, Bool.false_eq_true, if_false]
    split
    · rename_i he
      obtain ⟨violation, more, hv⟩ :=
        elementObstacles_malformed path 0 (List.cons_ne_nil v rest) he
      rw [hv]
      cases hs : options.strict <;> simp [refusal?, Obstacle.fault?, hs]
    · simp

-- ---------------------------------------------------------------------------
-- The reader
-- ---------------------------------------------------------------------------

mutual
/-- Reading ends at the first obstacle that it stops at; otherwise the conditions that the
filter stands for are read. -/
theorem ofEntries_result (path : Path) : (entries : Entries) →
    (ofEntries options path entries).result =
      settle (refusal? options (obstacles path entries)) (conditions entries)
  | [] => by simp [ofEntries, obstacles, conditions]
  | (key, v) :: rest => by
    simp only [ofEntries, obstacles, conditions, Traced.result_bind, Traced.result_pure,
      Traced.result_ofOperand, write_result options, ofEntry_result _ _ v,
      ofEntries_result path rest, settle_map, settle_bind, refusal?_append]

theorem ofEntry_result (path : Path) (field : String) (v : Value) :
    (ofEntry options path field v).result =
      settle (refusal? options (valueObstacles path field v)) (condition field v) := by
  cases v with
  | list items | tuple items =>
    simp only [ofEntry, valueObstacles, condition]
    cases Operator.combinator? field with
    | none => simp
    | some combinator =>
      simp only [Traced.result_bind, branches_result path 0 items, ofBranches_result]
  | map entries =>
    simp only [ofEntry, valueObstacles, condition, Traced.result_bind, checkField_result,
      ofClause_result, settle_bind, refusal?_append]
  | _ =>
    simp only [ofEntry, valueObstacles, condition, Traced.result_bind, checkField_result,
      Traced.result_pure, settle_map]

theorem branches_result (path : Path) (index : Nat) (items : List Value) :
    (branches options path index items).result =
      settle (refusal? options (elementObstacles path index items)) (expressions items) := by
  match items with
  | [] => simp [branches, elementObstacles, expressions]
  | v :: rest =>
    have hrest := branches_result path (index + 1) rest
    cases v with
    | map entries =>
      simp only [branches, elementObstacles, expressions, Traced.result_bind, Traced.result_pure,
        ofEntries_result _ entries, hrest, settle_map, settle_bind, refusal?_append]
    | _ =>
      simp only [branches, expressions, elementObstacles, Traced.result_bind, refuse_result,
        hrest, settle_bind]
      rw [refusal?_cons _ (elementObstacles path (index + 1) rest)]
end

theorem ofValue_result (filter : Entries) :
    (Expression.ofValue options (.map filter)).result =
      settle (refusal? options (obstacles [] filter)) (conditions filter) :=
  ofEntries_result [] filter

-- ---------------------------------------------------------------------------
-- Lenient reading
-- ---------------------------------------------------------------------------

mutual
/-- The keys that are written as texts when a filter is read: the fields, and the operators
of clauses. -/
def readKeys : Entries → List Value
  | [] => []
  | (key, v) :: rest => key :: (valueKeys key.text v ++ readKeys rest)

def valueKeys (field : String) : Value → List Value
  | .list items | .tuple items =>
    if (Operator.combinator? field).isSome then elementKeys items else []
  | .map ((name, _) :: _) => [name]
  | _ => []

def elementKeys : List Value → List Value
  | [] => []
  | .map entries :: rest => readKeys entries ++ elementKeys rest
  | _ :: rest => elementKeys rest
end

def keyFault? (keys : List Value) : Option Fault :=
  if keys.all Value.isWritable then none else some (.misuse .badValue)

@[simp] theorem keyFault?_nil : keyFault? [] = none := rfl

theorem keyFault?_eq_none : keyFault? keys = none ↔ ∀ key ∈ keys, key.isWritable := by
  simp [keyFault?]

theorem keyFault?_append (keys more : List Value) :
    keyFault? (keys ++ more) = (keyFault? keys).or (keyFault? more) := by
  unfold keyFault?
  rw [List.all_append]
  cases keys.all Value.isWritable <;> simp

theorem keyFault?_cons (key : Value) (more : List Value) :
    keyFault? (key :: more) = (keyFault? [key]).or (keyFault? more) :=
  keyFault?_append [key] more

theorem refusal?_keyObstacles (key : Value) :
    refusal? options (keyObstacles key) = keyFault? [key] := by
  unfold keyObstacles keyFault?
  cases hk : key.isWritable <;> simp [hk, refusal?, Obstacle.fault?]

theorem refusal?_malformed (hs : options.strict = false) (violation : Violation) :
    refusal? options [.malformed violation] = none := by
  simp [refusal?, Obstacle.fault?, hs]

theorem refusal?_listObstacles (hs : options.strict = false) (path : Path) (field : String) :
    refusal? options (listObstacles path field) = none := by
  unfold listObstacles
  split
  · exact refusal?_malformed hs _
  · rfl

theorem refusal?_clauseObstacles (hs : options.strict = false) (path : Path) (field : String)
    (entries : Entries) :
    refusal? options (clauseObstacles path entries) = keyFault? (valueKeys field (.map entries)) := by
  match entries with
  | [] => exact refusal?_malformed hs _
  | [(name, _)] => exact refusal?_keyObstacles name
  | (name, _) :: _ :: _ =>
    simp only [clauseObstacles, valueKeys]
    rw [refusal?_cons, refusal?_malformed hs, Option.none_or, refusal?_keyObstacles]

mutual
/-- Lenient reading is refused only by keys that cannot be written. -/
theorem refusal?_lenient (hs : options.strict = false) (path : Path) : (filter : Entries) →
    refusal? options (obstacles path filter) = keyFault? (readKeys filter)
  | [] => rfl
  | (key, v) :: rest => by
    rw [obstacles, readKeys, refusal?_append, refusal?_append, keyFault?_cons, keyFault?_append,
      refusal?_keyObstacles, refusal?_value hs _ _ v, refusal?_lenient hs path rest]

theorem refusal?_value (hs : options.strict = false) (path : Path) (field : String) (v : Value) :
    refusal? options (valueObstacles path field v) = keyFault? (valueKeys field v) := by
  cases v with
  | list items | tuple items =>
    rw [valueObstacles, valueKeys]
    cases Operator.combinator? field with
    | none => rfl
    | some combinator =>
      rw [Option.isSome_some, if_pos rfl, ← refusal?_elements hs path 0 items]
      cases items with
      | nil => exact refusal?_malformed hs _
      | cons => rfl
  | map entries =>
    rw [valueObstacles, refusal?_append, refusal?_listObstacles hs, Option.none_or]
    exact refusal?_clauseObstacles hs path field entries
  | _ => exact refusal?_listObstacles hs path field

theorem refusal?_elements (hs : options.strict = false) (path : Path) (index : Nat)
    (items : List Value) :
    refusal? options (elementObstacles path index items) = keyFault? (elementKeys items) := by
  match items with
  | [] => rfl
  | v :: rest =>
    have hrest := refusal?_elements hs path (index + 1) rest
    cases v with
    | map entries =>
      rw [elementObstacles, elementKeys, refusal?_append, keyFault?_append, hrest,
        refusal?_lenient hs _ entries]
    | _ =>
      simp only [elementObstacles, elementKeys]
      rw [refusal?_cons, refusal?_malformed hs, Option.none_or, hrest]
end

end DocQuery.Filter
