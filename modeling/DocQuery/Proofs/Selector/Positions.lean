import DocQuery.Proofs.Selector.Branches

/-!
# Where clauses stand in selectors

Every sub-filter of a filter has its place in the selector of the filter, as long as none of them
clashes: `Placed` follows the combinators from the one to the other. `clause_placed` finds there
what the clauses of a sub-filter are compiled to.
-/

namespace DocQuery

namespace Filter

open Expression

/-- In a selector of a filter, a selector of one of its sub-filters. The way to it leads through
lists of combinators, which have one element for each branch. -/
inductive Placed : Entries → Fields → Entries → Fields → Prop
  | self : Placed filter fields filter fields
  | within (he : entry ∈ filter) (hc : (Operator.combinator? entry.1.text).isSome)
      (hi : entry.2.elements? = some items)
      (hs : ("$" ++ entry.1.text, .list selectors) ∈ fields)
      (hb : (branch, .ofFields own) ∈ (branches items).zip selectors)
      (h : Placed branch own sub part) : Placed filter fields sub part

variable (node : Clause → Value)

theorem mem_assembled (he : entry ∈ filter)
    (h : assembled? node (condition entry.1.text entry.2) = some field) :
    field ∈ assembled node (conditions filter) := by
  induction filter with
  | nil => cases he
  | cons head rest ih =>
    rcases List.mem_cons.mp he with rfl | he
    · exact List.mem_append_left _ (Option.mem_toList.mpr h)
    · exact List.mem_append_right _ (ih he)

theorem assembled?_combinator {field : String} (hc : (Operator.combinator? field).isSome)
    (hi : v.elements? = some items) (hb : branches items ≠ []) :
    assembled? node (condition field v) =
      some ("$" ++ field, .list (documents node (expressions items))) := by
  obtain ⟨combinator, hcombinator⟩ := Option.isSome_iff_exists.mp hc
  obtain ⟨-, rfl⟩ := Operator.combinator?_some hcombinator
  have hempty : (expressions items).isEmpty = false := by
    rw [expressions_eq, List.isEmpty_map, List.isEmpty_eq_false_iff]
    exact hb
  cases v <;> cases hi <;> simp [condition, hcombinator, assembled?, hempty]

def PlacedBelow (filter sub : Entries) : Prop :=
  ∃ entry ∈ filter, (Operator.combinator? entry.1.text).isSome ∧
    ∃ items, entry.2.elements? = some items ∧ ∃ branch,
      (branch, .ofFields (assembled node (conditions branch))) ∈
        (branches items).zip (documents node (expressions items)) ∧
      Placed branch (assembled node (conditions branch)) sub (assembled node (conditions sub))

theorem PlacedBelow.placed (h : PlacedBelow node filter sub) :
    Placed filter (assembled node (conditions filter)) sub (assembled node (conditions sub)) := by
  obtain ⟨entry, he, hc, items, hi, branch, hb, hplaced⟩ := h
  have hne : branches items ≠ [] := List.ne_nil_of_mem (List.of_mem_zip hb).1
  exact .within he hc hi (mem_assembled node he (assembled?_combinator node hc hi hne)) hb hplaced

mutual
theorem placed_below : (filter : Entries) → (∀ other ∈ below filter, Intact other) →
    sub ∈ below filter → PlacedBelow node filter sub
  | (key, v) :: rest, hk, hsub => by
    rw [below, List.forall_mem_append] at hk
    rcases List.mem_append.mp hsub with hsub | hsub
    · obtain ⟨hc, items, hi, hplaced⟩ := placed_value key.text v hk.1 hsub
      exact ⟨_, List.mem_cons_self, hc, items, hi, hplaced⟩
    · obtain ⟨entry, he, hplaced⟩ := placed_below rest hk.2 hsub
      exact ⟨entry, List.mem_cons_of_mem _ he, hplaced⟩

theorem placed_value (field : String) (v : Value) (hk : ∀ other ∈ belowValue field v, Intact other)
    (hsub : sub ∈ belowValue field v) :
    (Operator.combinator? field).isSome ∧ ∃ items, v.elements? = some items ∧ ∃ branch,
      (branch, .ofFields (assembled node (conditions branch))) ∈
        (branches items).zip (documents node (expressions items)) ∧
      Placed branch (assembled node (conditions branch)) sub (assembled node (conditions sub)) := by
  cases v with
  | list items | tuple items =>
    rw [belowValue] at hk hsub
    split at hsub
    · rename_i hc
      rw [if_pos hc] at hk
      exact ⟨hc, items, rfl, placed_elements items hk hsub⟩
    · cases hsub
  | _ => cases hsub

theorem placed_elements (items : List Value) (hk : ∀ other ∈ belowElements items, Intact other)
    (hsub : sub ∈ belowElements items) : ∃ branch,
      (branch, .ofFields (assembled node (conditions branch))) ∈
        (branches items).zip (documents node (expressions items)) ∧
      Placed branch (assembled node (conditions branch)) sub (assembled node (conditions sub)) := by
  match items with
  | v :: rest =>
    cases v with
    | map entries =>
      rw [belowElements, List.forall_mem_cons, List.forall_mem_append] at hk
      obtain ⟨hentries, hbelow, hrest⟩ := hk
      simp only [branches, expressions, documents, List.zip_cons_cons,
        hentries.assignAll_assembled node]
      rcases List.mem_cons.mp hsub with rfl | hsub
      · exact ⟨_, List.mem_cons_self, .self⟩
      rcases List.mem_append.mp hsub with hsub | hsub
      · exact ⟨_, List.mem_cons_self, (placed_below entries hbelow hsub).placed⟩
      · obtain ⟨branch, hb, hplaced⟩ := placed_elements rest hrest hsub
        exact ⟨branch, List.mem_cons_of_mem _ hb, hplaced⟩
    | _ => exact placed_elements rest hk hsub
end

theorem placed_subfilter (hk : ∀ other ∈ subfilters filter, Intact other)
    (hsub : sub ∈ subfilters filter) :
    Placed filter (assembled node (conditions filter)) sub (assembled node (conditions sub)) := by
  rcases List.mem_cons.mp hsub with rfl | hsub
  · exact .self
  · exact (placed_below node filter (List.forall_mem_cons.mp hk).2 hsub).placed

theorem assembled_conditions_append (before after : Entries) :
    assembled node (conditions (before ++ after)) =
      assembled node (conditions before) ++ assembled node (conditions after) := by
  induction before with
  | nil => rfl
  | cons entry before ih =>
    simp only [List.cons_append, conditions, assembled, ih, List.append_assoc]

end Filter

namespace Compiler

open DocQuery.Filter Expression

variable {options : CompilerOptions} {filter before after : Entries}

theorem clause_contributed (hc : ((withOptions options).compile (.map filter)).result = .ok fields)
    (hsub : before ++ (key, .single name operand) :: after ∈ subfilters filter) :
    ∃ front back, ((withOptions options).entries
        (conditions (before ++ (key, .single name operand) :: after))).result =
      .ok (front ++ (key.text, Operator.node options name operand) :: back) := by
  have hb := builds_standard options
  rw [compile_result hb, settle_ok, Option.or_eq_none_iff, List.findSome?_eq_none_iff] at hc
  have hpart := parts_conditions filter ▸ List.mem_map_of_mem hsub
  have hnone := List.findSome?_eq_none_iff.mpr fun clause h =>
    hc.1.2 clause (clauses_part hpart h)
  rw [entries_result hb, hnone, settle_none, assembled_conditions_append]
  exact ⟨_, _, rfl⟩

/-- If no sub-filter clashes, the clause has the place in the selector that it has in the filter. -/
theorem clause_placed (hc : ((withOptions options).compile (.map filter)).result = .ok fields)
    (hk : ∀ sub ∈ subfilters filter, TextKeyed sub ∧ ¬ Clashes sub)
    (hsub : before ++ (key, .single name operand) :: after ∈ subfilters filter) :
    ∃ front back, Placed filter fields (before ++ (key, .single name operand) :: after)
      (front ++ (key.text, Operator.node options name operand) :: back) := by
  rw [compile_result (builds_standard options), settle_ok] at hc
  have hintact : ∀ sub ∈ subfilters filter, Intact sub := fun sub h =>
    (nodup_keys_conditions (hk sub h).1.nodup_names).mpr (hk sub h).2
  have hfilter := (hintact filter List.mem_cons_self).assignAll_assembled (Clause.node options)
  have hplaced := placed_subfilter (Clause.node options) hintact hsub
  rw [assembled_conditions_append, ← hfilter, hc.2] at hplaced
  exact ⟨_, _, hplaced⟩

end Compiler

end DocQuery
