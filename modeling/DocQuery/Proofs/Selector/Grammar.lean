import DocQuery.Text.Case
import DocQuery.Proofs.Selector.Assembly

/-!
# The grammar of selectors

A value is plain if no name in it begins with a dollar sign, at any depth, and
`Selector.Formed` is the grammar of what plain filters are compiled to: fields with
plain values or operator nodes, and combinators of one or more selectors. That
is `compile_formed`.
-/

namespace DocQuery

def isPlainName (name : String) : Bool := !beginsWith '$' name

namespace Value

def isPlainKey : Value → Bool
  | .str name => isPlainName name
  | _ => false

mutual
/-- Whether every name in a value is plain, at any depth. -/
def isPlain : Value → Bool
  | .list items | .tuple items => plainItems items
  | .map entries => plainEntries entries
  | .model _ fields => plainFields fields
  | .expression conditions => plainConditions conditions
  | _ => true

def plainItems : List Value → Bool
  | [] => true
  | v :: rest => isPlain v && plainItems rest

def plainEntries : List (Value × Value) → Bool
  | [] => true
  | (key, v) :: rest => isPlainKey key && isPlain v && plainEntries rest

def plainFields : List (String × Value) → Bool
  | [] => true
  | (name, v) :: rest => isPlainName name && isPlain v && plainFields rest

def plainConditions : List Condition → Bool
  | [] => true
  | condition :: rest => plainCondition condition && plainConditions rest

def plainCondition : Condition → Bool
  | .literal field v => isPlainName field && isPlain v
  | .operator field name operand => isPlainName field && isPlainName name && isPlain operand
  | .logical _ filters => plainBranches filters

def plainBranches : List (List Condition) → Bool
  | [] => true
  | conditions :: rest => plainConditions conditions && plainBranches rest
end

theorem isPlainName_text {key : Value} (h : key.isPlainKey) : isPlainName key.text := by
  cases key with
  | str name => exact h
  | _ => cases h

theorem plainItems_iff (items : List Value) :
    plainItems items = true ↔ ∀ v ∈ items, v.isPlain := by
  induction items with
  | nil => simp [plainItems]
  | cons v rest ih => simp [plainItems, ih]

end Value

-- ---------------------------------------------------------------------------
-- Grammar
-- ---------------------------------------------------------------------------

namespace Selector

/-- What a field is compared with other than by its value. -/
inductive Node : Value → Prop
  | differs (hv : v.isPlain) : Node (.single "$ne" v)
  | compares (hk : key ∈ ["$lt", "$lte", "$gt", "$gte"]) (hv : v.isPlain) : Node (.single key v)
  | within (hl : low.isPlain) (hh : high.isPlain) :
    Node (.ofFields [("$gte", low), ("$lte", high)])
  | oneOf (hi : ∀ v ∈ items, v.isPlain) : Node (.single "$in" (.list items))
  | present (flag : Int) : Node (.single "$exists" (.int flag))
  | matching (pattern flags : String) :
    Node (.ofFields [("$regex", .str pattern), ("$options", .str flags)])
  | notMatching (pattern flags : String) :
    Node (.single "$not" (.ofFields [("$regex", .str pattern), ("$options", .str flags)]))

mutual
inductive Formed : Value → Prop
  | ofFields (h : ∀ entry ∈ fields, EntryFormed entry.1 entry.2) : Formed (.ofFields fields)

inductive EntryFormed : String → Value → Prop
  | combinator (hk : key = "$and" ∨ key = "$or") (hn : selectors ≠ [])
    (hs : ∀ selector ∈ selectors, Formed selector) : EntryFormed key (.list selectors)
  | value (hk : isPlainName key) (hv : v.isPlain) : EntryFormed key v
  | node (hk : isPlainName key) (hn : Node v) : EntryFormed key v
end

end Selector

/-- Every row of the table of operators is the operand or a node. -/
theorem Operator.node_formed (options : CompilerOptions) (name : String) (hv : v.isPlain) :
    (Operator.node options name v).isPlain ∨ Selector.Node (Operator.node options name v) := by
  unfold Operator.node
  split
  case h_1 => exact .inr (.differs hv)
  case h_2 | h_3 | h_4 | h_5 => exact .inr (.compares (by decide) hv)
  case h_6 | h_7 => exact .inr (.oneOf ((Value.plainItems_iff _).mp hv))
  case h_8 | h_9 =>
    have hb := (Value.plainItems_iff _).mp hv
    exact .inr (.within (hb _ List.mem_cons_self) (hb _ (.tail _ List.mem_cons_self)))
  case h_10 => exact .inr (.present _)
  case h_12 => exact .inr (.notMatching ..)
  case h_11 | h_13 | h_14 | h_15 => exact .inr (.matching ..)
  case h_16 => exact .inl hv

-- ---------------------------------------------------------------------------
-- What is assembled is well formed
-- ---------------------------------------------------------------------------

section
variable {options : CompilerOptions}

open Expression Selector

theorem Selector.formed_assignAll (h : ∀ entry ∈ entries, EntryFormed entry.1 entry.2) :
    Formed (.ofFields (Assoc.assignAll [] entries)) := by
  refine .ofFields fun entry he => ?_
  rcases Assoc.mem_of_mem_assignAll he with he | he
  · cases he
  · exact h entry he

theorem logical_formed (hl : combinator.isLogical)
    (hd : ∀ v ∈ documents node filters, Formed v) :
    ∀ entry ∈ assembled? node (.logical combinator filters), EntryFormed entry.1 entry.2 := by
  cases filters with
  | nil => simp [assembled?]
  | cons first rest =>
    intro entry he
    obtain rfl := Option.some.inj he
    refine .combinator ?_ (List.cons_ne_nil _ _) hd
    cases combinator with
    | and => exact .inl rfl
    | or => exact .inr rfl
    | _ => cases hl

mutual
theorem entries_formed : (filter : Entries) → Value.plainEntries filter →
    ∀ entry ∈ assembled (Clause.node options) (Filter.conditions filter),
      EntryFormed entry.1 entry.2
  | [], _, _, he => nomatch he
  | (key, v) :: rest, hp, entry, he => by
    simp only [Value.plainEntries, Bool.and_eq_true] at hp
    rcases List.mem_append.mp he with he | he
    · have hf := Value.isPlainName_text hp.1.1
      exact entry_formed key.text v hf hp.1.2 entry (Option.mem_toList.mp he)
    · exact entries_formed rest hp.2 entry he

theorem entry_formed (field : String) (v : Value) (hf : isPlainName field) (hp : v.isPlain) :
    ∀ entry ∈ assembled? (Clause.node options) (Filter.condition field v),
      EntryFormed entry.1 entry.2 := by
  have literal : ∀ entry ∈ assembled? (Clause.node options) (.literal field v),
      EntryFormed entry.1 entry.2 := by
    rintro _ ⟨⟩
    exact .value hf hp
  cases v with
  | list items | tuple items =>
    rw [Filter.condition]
    cases hc : Operator.combinator? field with
    | none => exact literal
    | some combinator =>
      exact logical_formed (Operator.combinator?_some hc).1 (documents_formed items hp)
  | map entries =>
    match entries with
    | [] => exact literal
    | (name, operand) :: rest =>
      rintro _ ⟨⟩
      simp only [Value.isPlain, Value.plainEntries, Bool.and_eq_true] at hp
      rcases Operator.node_formed options name.text hp.1.2 with hv | hn
      · exact .value hf hv
      · exact .node hf hn
  | _ => exact literal

theorem documents_formed (items : List Value) (hp : Value.plainItems items) :
    ∀ v ∈ documents (Clause.node options) (Filter.expressions items), Formed v := by
  match items with
  | [] => simp [Filter.expressions, documents]
  | item :: rest =>
    simp only [Value.plainItems, Bool.and_eq_true] at hp
    have hrest := documents_formed rest hp.2
    cases item with
    | map entries =>
      refine List.forall_mem_cons.mpr ⟨?_, hrest⟩
      exact formed_assignAll (entries_formed entries hp.1)
    | _ => exact hrest
end

end

/-- A plain filter is compiled to a well-formed selector. -/
theorem compile_formed (options : CompilerOptions) (filter : Entries)
    (hp : (Value.map filter).isPlain)
    (hc : ((Compiler.withOptions options).compile (.map filter)).result = .ok fields) :
    Selector.Formed (.ofFields fields) := by
  rw [Compiler.compile_result (Compiler.builds_standard options), settle_ok] at hc
  obtain ⟨-, rfl⟩ := hc
  exact Selector.formed_assignAll (entries_formed filter hp)

theorem compile_formed_pattern :
    Selector.Formed (.ofFields
      [("$or", .list [.single "a" (.ofFields [("$regex", .str "x"), ("$options", .str "i")])]),
        ("b", .single "$in" (.list [.int 1, .int 2]))]) :=
  compile_formed .standard
    [(.str "or", .list [.single "a" (.single "contains" (.str "x")), .int 3]),
      (.str "and", .list []), (.str "b", .single "in" (.tuple [.int 1, .int 2]))]
    (by decide) rfl

end DocQuery
