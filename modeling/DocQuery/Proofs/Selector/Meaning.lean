import DocQuery.Proofs.Selector.Keys

/-!
# What selectors and filters mean

Both are read as conditions on a document, given what it means that the document
satisfies a single field: `Selects` reads a selector and `Filter.Holds` a filter as
it is sent. `compile_selects_iff` says that compiling keeps the meaning, of every
filter without a field that is named like the key of a combinator.
-/

namespace DocQuery

variable {Doc : Type} (satisfies : String → Value → Doc → Prop) (doc : Doc)

-- ---------------------------------------------------------------------------
-- Selectors
-- ---------------------------------------------------------------------------

mutual
def Selects : Value → Prop
  | .map entries => EntriesSelect entries
  | _ => False

def EntriesSelect : Entries → Prop
  | [] => True
  | (key, v) :: rest => EntrySelects key.text v ∧ EntriesSelect rest

def EntrySelects (key : String) : Value → Prop
  | .list items =>
    if key = "$and" then AllSelect items
    else if key = "$or" then SomeSelect items
    else satisfies key (.list items) doc
  | v => satisfies key v doc

def AllSelect : List Value → Prop
  | [] => True
  | v :: rest => Selects v ∧ AllSelect rest

def SomeSelect : List Value → Prop
  | [] => False
  | v :: rest => Selects v ∨ SomeSelect rest
end

-- ---------------------------------------------------------------------------
-- Filters
-- ---------------------------------------------------------------------------

namespace Filter

variable (node : Clause → Value)

mutual
def Holds : Entries → Prop
  | [] => True
  | (key, v) :: rest => EntryHolds key.text v ∧ Holds rest

/-- A combinator holds if all or some of its sub-filters do, and it holds if it has
none. Of a map under a field the first key is the operator. -/
def EntryHolds (field : String) : Value → Prop
  | .list items =>
    if field = "and" then AllHold items
    else if field = "or" then items.any Value.isMap → SomeHold items
    else satisfies field (.list items) doc
  | .tuple items =>
    if field = "and" then AllHold items
    else if field = "or" then items.any Value.isMap → SomeHold items
    else satisfies field (.tuple items) doc
  | .map ((name, operand) :: _) => satisfies field (node ⟨field, name.text, operand⟩) doc
  | v => satisfies field v doc

def AllHold : List Value → Prop
  | [] => True
  | .map entries :: rest => Holds entries ∧ AllHold rest
  | _ :: rest => AllHold rest

def SomeHold : List Value → Prop
  | [] => False
  | .map entries :: rest => Holds entries ∨ SomeHold rest
  | _ :: rest => SomeHold rest
end

/-- The keys of a regular filter are texts, and none of them is the key of a combinator. -/
structure Regular (filter : Entries) : Prop extends TextKeyed filter where
  noAnd : "$and" ∉ names filter
  noOr : "$or" ∉ names filter

theorem Regular.not_clashes (hr : Regular filter) : ¬ Clashes filter := by
  rintro ⟨combinator, hl, hd, -⟩
  cases combinator with
  | and => exact hr.noAnd hd
  | or => exact hr.noOr hd
  | _ => cases hl

theorem Regular.intact (hr : Regular filter) : Intact filter :=
  (nodup_keys_conditions hr.nodup_names).mpr hr.not_clashes

end Filter

-- ---------------------------------------------------------------------------
-- Compiling keeps the meaning
-- ---------------------------------------------------------------------------

section
variable {satisfies : String → Value → Doc → Prop} {doc : Doc} {node : Clause → Value}

theorem selects_ofFields (fields : Fields) :
    Selects satisfies doc (.ofFields fields) ↔
      ∀ entry ∈ fields, EntrySelects satisfies doc entry.1 entry.2 := by
  unfold Value.ofFields
  rw [Selects]
  induction fields with
  | nil => simp [EntriesSelect]
  | cons entry rest ih =>
    rw [List.map_cons, EntriesSelect, ih, List.forall_mem_cons]
    rfl

theorem Filter.Regular.selects_iff (hr : Filter.Regular filter) :
    Selects satisfies doc
        (.ofFields (Assoc.assignAll [] (Expression.assembled node (Filter.conditions filter)))) ↔
      ∀ entry ∈ Expression.assembled node (Filter.conditions filter),
        EntrySelects satisfies doc entry.1 entry.2 := by
  rw [selects_ofFields, hr.intact.assignAll_assembled]

theorem entrySelects_field (ha : key ≠ "$and") (ho : key ≠ "$or") :
    EntrySelects satisfies doc key v ↔ satisfies key v doc := by
  cases v with
  | list items => rw [EntrySelects, if_neg ha, if_neg ho]
  | _ => rfl

open Expression

theorem logical_selects (combinator : Operator) (filters : List Expression) :
    (∀ entry ∈ (assembled? node (.logical combinator filters)).toList,
        EntrySelects satisfies doc entry.1 entry.2) ↔
      (filters ≠ [] →
        EntrySelects satisfies doc ("$" ++ combinator.name) (.list (documents node filters))) := by
  cases filters <;> simp [assembled?]

theorem and_selects (filters : List Expression) :
    (∀ entry ∈ (assembled? node (.logical .and filters)).toList,
        EntrySelects satisfies doc entry.1 entry.2) ↔
      AllSelect satisfies doc (documents node filters) := by
  rw [logical_selects]
  change (_ → EntrySelects satisfies doc "$and" _) ↔ _
  rw [EntrySelects, if_pos rfl]
  refine ⟨fun h => ?_, fun h _ => h⟩
  -- Without sub-filters the entry is left out, and all of none select.
  cases filters with
  | nil => trivial
  | cons first rest => exact h (List.cons_ne_nil _ _)

theorem or_selects (filters : List Expression) :
    (∀ entry ∈ (assembled? node (.logical .or filters)).toList,
        EntrySelects satisfies doc entry.1 entry.2) ↔
      (filters ≠ [] → SomeSelect satisfies doc (documents node filters)) := by
  rw [logical_selects]
  change (_ → EntrySelects satisfies doc "$or" _) ↔ _
  rw [EntrySelects, if_neg (by decide), if_pos rfl]

theorem field_selects (ha : key ≠ "$and") (ho : key ≠ "$or") (v : Value) :
    (∀ entry ∈ (some (key, v)).toList, EntrySelects satisfies doc entry.1 entry.2) ↔
      satisfies key v doc := by
  rw [Option.toList_some, List.forall_mem_singleton]
  exact entrySelects_field ha ho

theorem expressions_ne_nil (items : List Value) :
    Filter.expressions items ≠ [] ↔ items.any Value.isMap := by
  rw [← List.isEmpty_eq_false_iff, Filter.expressions_isEmpty, Bool.not_eq_false']

mutual
theorem entries_select : (filter : Entries) → "$and" ∉ Filter.names filter →
    "$or" ∉ Filter.names filter → (∀ sub ∈ Filter.below filter, Filter.Regular sub) →
    ((∀ entry ∈ assembled node (Filter.conditions filter),
        EntrySelects satisfies doc entry.1 entry.2) ↔ Filter.Holds satisfies doc node filter)
  | [], _, _, _ => by simp [Filter.conditions, assembled, Filter.Holds]
  | (key, v) :: rest, ha, ho, hb => by
    simp only [Filter.names, List.map_cons, List.mem_cons, not_or] at ha ho
    simp only [Filter.below, List.forall_mem_append] at hb
    rw [Filter.conditions, assembled, Filter.Holds, List.forall_mem_append,
      entry_selects key.text v (Ne.symm ha.1) (Ne.symm ho.1) hb.1,
      entries_select rest ha.2 ho.2 hb.2]

theorem entry_selects (field : String) (v : Value) (ha : field ≠ "$and") (ho : field ≠ "$or")
    (hb : ∀ sub ∈ Filter.belowValue field v, Filter.Regular sub) :
    (∀ entry ∈ (assembled? node (Filter.condition field v)).toList,
        EntrySelects satisfies doc entry.1 entry.2) ↔
      Filter.EntryHolds satisfies doc node field v := by
  cases v with
  | list items | tuple items =>
    rw [Filter.EntryHolds]
    rcases Operator.combinator?_cases field with rfl | rfl | ⟨hc, hna, hno⟩
    · rw [if_pos rfl, ← all_select items hb]
      exact and_selects _
    · rw [if_neg (by decide), if_pos rfl, ← some_select items hb, ← expressions_ne_nil]
      exact or_selects _
    · rw [if_neg hna, if_neg hno, Filter.condition, hc]
      exact field_selects ha ho _
  | map entries => cases entries <;> exact field_selects ha ho _
  | _ => exact field_selects ha ho _

theorem all_select (items : List Value)
    (hb : ∀ sub ∈ Filter.belowElements items, Filter.Regular sub) :
    AllSelect satisfies doc (documents node (Filter.expressions items)) ↔
      Filter.AllHold satisfies doc node items := by
  match items with
  | [] => exact Iff.rfl
  | v :: rest =>
    cases v with
    | map entries =>
      simp only [Filter.belowElements, List.forall_mem_cons, List.forall_mem_append] at hb
      obtain ⟨hr, hbelow, hrest⟩ := hb
      rw [Filter.expressions, documents, AllSelect, hr.selects_iff,
        entries_select entries hr.noAnd hr.noOr hbelow, all_select rest hrest, Filter.AllHold]
    | _ => exact all_select rest hb

theorem some_select (items : List Value)
    (hb : ∀ sub ∈ Filter.belowElements items, Filter.Regular sub) :
    SomeSelect satisfies doc (documents node (Filter.expressions items)) ↔
      Filter.SomeHold satisfies doc node items := by
  match items with
  | [] => exact Iff.rfl
  | v :: rest =>
    cases v with
    | map entries =>
      simp only [Filter.belowElements, List.forall_mem_cons, List.forall_mem_append] at hb
      obtain ⟨hr, hbelow, hrest⟩ := hb
      rw [Filter.expressions, documents, SomeSelect, hr.selects_iff,
        entries_select entries hr.noAnd hr.noOr hbelow, some_select rest hrest, Filter.SomeHold]
    | _ => exact some_select rest hb
end

end

/-- A compiled filter selects the documents that the filter holds of. -/
theorem compile_selects_iff (options : CompilerOptions) (filter : Entries)
    (hr : ∀ sub ∈ Filter.subfilters filter, Filter.Regular sub)
    (hc : ((Compiler.withOptions options).compile (.map filter)).result = .ok fields) :
    Selects satisfies doc (.ofFields fields) ↔
      Filter.Holds satisfies doc (Clause.node options) filter := by
  rw [Compiler.compile_result (Compiler.builds_standard options), settle_ok] at hc
  obtain ⟨-, rfl⟩ := hc
  obtain ⟨hroot, hbelow⟩ := List.forall_mem_cons.mp hr
  rw [hroot.selects_iff]
  exact entries_select filter hroot.noAnd hroot.noOr hbelow

def comparesNumber (field : String) : Value → (String → Int) → Prop
  | .map [(.str "$gt", .int n)], doc => n < doc field
  | .int n, doc => doc field = n
  | _, _ => False

theorem compile_selects_numbers :
    Selects comparesNumber (fun _ => 5)
      (.ofFields [("$or", .list [.single "a" (.int 4), .single "b" (.single "$gt" (.int 3))]),
        ("c", .int 5)]) := by
  let filter : Entries :=
    [(.str "or", .list [.single "a" (.int 4), .null, .single "b" (.single "gt" (.int 3))]),
      (.str "c", .int 5)]
  have hr : ∀ sub ∈ Filter.subfilters filter, Filter.Regular sub := by
    rintro sub (_ | ⟨_, _ | ⟨_, _ | ⟨_, ⟨⟩⟩⟩⟩)
    all_goals exact ⟨Filter.textKeyed_of_names rfl (by decide), by decide, by decide⟩
  refine (compile_selects_iff comparesNumber _ .standard filter hr rfl).mpr ?_
  simp [filter, Filter.Holds, Filter.EntryHolds, Filter.SomeHold, Clause.node, Operator.node,
    comparesNumber, Value.single, Value.text]

end DocQuery
