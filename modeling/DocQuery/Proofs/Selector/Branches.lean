import DocQuery.Proofs.Selector.Keys

/-!
# Branches that select everything

The empty selector selects every document, so that a list of alternatives which holds
it is no restriction. `or_branches` says where the lists of alternatives of a selector
come from, and which of their elements are empty: those of branches in which every
entry is a combinator without sub-filters. So a branch that is written with entries
can widen its alternatives, which `or_widened` shows.
-/

namespace DocQuery

/-- The lists that a selector combines by a key, at any depth. -/
inductive Selector.Combines (key : String) (selectors : List Value) : Value → Prop
  | own (h : (.str key, .list selectors) ∈ entries) : Combines key selectors (.map entries)
  | nested (hk : outer = "$and" ∨ outer = "$or") (h : (.str outer, .list items) ∈ entries)
    (hv : v ∈ items) (hc : Combines key selectors v) : Combines key selectors (.map entries)

theorem Assoc.assignAll_eq_nil [DecidableEq κ] {entries : List (κ × β)} :
    assignAll [] entries = [] ↔ entries = [] := by
  constructor
  · intro h
    rw [List.eq_nil_iff_forall_not_mem]
    intro entry he
    have hk : entry.1 ∈ keys (assignAll [] entries) :=
      (mem_keys_assignAll [] entries _).mpr (.inr (List.mem_map_of_mem he))
    rw [h] at hk
    cases hk
  · rintro rfl
    rfl

theorem Value.ofFields_inj {fields others : Fields} (h : ofFields fields = ofFields others) :
    fields = others := by
  refine List.map_injective_iff.mpr ?_ (Value.map.inj h)
  rintro ⟨name, v⟩ ⟨other, w⟩ he
  cases he
  rfl

theorem Value.mem_ofFields {fields : Fields}
    (h : (.str key, v) ∈ fields.map fun (name, v) => (Value.str name, v)) : (key, v) ∈ fields := by
  obtain ⟨entry, he, heq⟩ := List.mem_map.mp h
  cases heq
  exact he

theorem Operator.list_of_node {options : CompilerOptions} {name : String}
    (h : node options name v = .list items) : v = .list items := by
  unfold node at h
  split at h
  all_goals first | exact h | cases h

namespace Filter

open Expression

def branches : List Value → List Entries
  | [] => []
  | .map entries :: rest => entries :: branches rest
  | _ :: rest => branches rest

theorem expressions_eq (items : List Value) : expressions items = (branches items).map conditions := by
  induction items with
  | nil => rfl
  | cons v rest ih => cases v <;> simp [expressions, branches, ih]

theorem documents_eq (node : Clause → Value) (filters : List Expression) :
    documents node filters =
      filters.map fun filter => .ofFields (Assoc.assignAll [] (assembled node filter)) := by
  induction filters with
  | nil => rfl
  | cons filter rest ih => rw [documents, ih, List.map_cons]

def built (node : Clause → Value) (filter : Entries) : Value :=
  .ofFields (Assoc.assignAll [] (assembled node (conditions filter)))

-- ---------------------------------------------------------------------------
-- Filters without conditions
-- ---------------------------------------------------------------------------

/-- A filter is vacuous if each of its entries is a combinator without sub-filters. -/
def Vacuous (filter : Entries) : Prop :=
  ∀ entry ∈ filter, (entry.1.text = "and" ∨ entry.1.text = "or") ∧
    ∃ items, entry.2.elements? = some items ∧ branches items = []

theorem branches_eq_nil {items : List Value} : branches items = [] ↔ items.any Value.isMap = false := by
  have h := expressions_isEmpty items
  rw [expressions_eq, List.isEmpty_map] at h
  rw [← List.isEmpty_iff, h, Bool.not_eq_true']

theorem key?_eq_none {field : String} {v : Value} :
    key? field v = none ↔
      (field = "and" ∨ field = "or") ∧ ∃ items, v.elements? = some items ∧ branches items = [] := by
  simp only [branches_eq_nil]
  rcases Operator.combinator?_cases field with rfl | rfl | ⟨hc, ha, ho⟩
  · have hc : Operator.combinator? "and" = some .and := rfl
    cases hv : v.elements? <;> simp [key?, hc, hv]
  · have hc : Operator.combinator? "or" = some .or := rfl
    cases hv : v.elements? <;> simp [key?, hc, hv]
  · simp [key?, hc, ha, ho]

/-- The selector of a filter is empty exactly if the filter is vacuous. -/
theorem built_eq_empty {node : Clause → Value} : built node filter = .map [] ↔ Vacuous filter := by
  have hkeys : (keys (conditions filter) = []) ↔ Vacuous filter := by
    rw [keys_conditions, List.filterMap_eq_nil_iff]
    exact forall₂_congr fun _ _ => key?_eq_none
  rw [← hkeys, ← keys_assembled node, Assoc.keys, List.map_eq_nil_iff]
  constructor
  · intro h
    have h : Value.ofFields _ = Value.ofFields [] := h
    exact Assoc.assignAll_eq_nil.mp (Value.ofFields_inj h)
  · intro h
    rw [built, h]
    rfl

-- ---------------------------------------------------------------------------
-- Where lists of selectors come from
-- ---------------------------------------------------------------------------

/-- What an entry of a filter passes on if it is not read as a combinator: the operand
of a clause, and otherwise the value itself. -/
def passed : Value → Value
  | .map ((_, operand) :: _) => operand
  | v => v

/-- A list is written in a filter as it is, within a field that is itself named like
the key of a combinator. -/
def Writes (filter : Entries) (key : String) (selectors : List Value) : Prop :=
  ∃ sub ∈ subfilters filter, ∃ entry ∈ sub, (entry.1.text = "$and" ∨ entry.1.text = "$or") ∧
    Selector.Combines key selectors (.single entry.1.text (passed entry.2))

theorem subfilters_branch {filter : Entries} (he : entry ∈ filter)
    (hc : (Operator.combinator? entry.1.text).isSome) (hi : entry.2.elements? = some items)
    (hb : branch ∈ branches items) : subfilters branch ⊆ subfilters filter := by
  have helements : subfilters branch ⊆ belowElements items := by
    clear hi
    induction items with
    | nil => cases hb
    | cons v rest ih =>
      cases v with
      | map entries =>
        rcases List.mem_cons.mp hb with rfl | hb
        · exact List.cons_subset_cons _ (List.subset_append_left _ _)
        · exact fun x hx => .tail _ (List.mem_append_right _ (ih hb hx))
      | _ => exact ih hb
  have hvalue : belowElements items ⊆ belowValue entry.1.text entry.2 := by
    cases hv : entry.2 with
    | list own | tuple own =>
      rw [hv] at hi
      obtain rfl := Option.some.inj hi
      rw [belowValue, if_pos hc]
      exact List.Subset.refl _
    | _ =>
      rw [hv] at hi
      cases hi
  refine List.Subset.trans helements (List.Subset.trans hvalue (List.subset_cons_of_subset _ ?_))
  induction filter with
  | nil => cases he
  | cons head rest ih =>
    rcases List.mem_cons.mp he with rfl | he
    · exact List.subset_append_left _ _
    · exact List.subset_append_of_subset_right _ (ih he)

theorem contributor {node : Clause → Value} {filter : Entries}
    (hb : built node filter = .map entries) (he : (.str key, v) ∈ entries) :
    ∃ entry ∈ filter, assembled? node (condition entry.1.text entry.2) = some (key, v) := by
  cases hb
  have hm : (key, v) ∈ assembled node (conditions filter) :=
    (Assoc.mem_of_mem_assignAll (Value.mem_ofFields he)).resolve_left List.not_mem_nil
  clear he
  induction filter with
  | nil => cases hm
  | cons head rest ih =>
    rcases List.mem_append.mp hm with hm | hm
    · exact ⟨head, List.mem_cons_self, Option.mem_toList.mp hm⟩
    · obtain ⟨entry, he, hc⟩ := ih hm
      exact ⟨entry, List.mem_cons_of_mem _ he, hc⟩

theorem contributes_list {field : String} {v : Value} {options : CompilerOptions}
    (h : assembled? (Clause.node options) (condition field v) = some (key, .list selectors)) :
    (key = "$" ++ field ∧ (Operator.combinator? field).isSome ∧
      ∃ items, v.elements? = some items ∧
        selectors = (branches items).map (built (Clause.node options))) ∨
      key = field ∧ passed v = .list selectors := by
  have literal (h : assembled? (Clause.node options) (.literal field v) =
      some (key, .list selectors)) : key = field ∧ v = .list selectors := by
    cases h
    exact ⟨rfl, rfl⟩
  cases v with
  | list items | tuple items =>
    rw [condition] at h
    cases hc : Operator.combinator? field with
    | none =>
      rw [hc] at h
      exact .inr (literal h)
    | some combinator =>
      rw [hc, assembled?] at h
      split at h
      · cases h
      · obtain ⟨-, hn⟩ := Operator.combinator?_some hc
        cases h
        refine .inl ⟨congrArg _ hn, rfl, items, rfl, ?_⟩
        rw [documents_eq, expressions_eq, List.map_map]
        rfl
  | map entries =>
    match entries with
    | [] => exact .inr (literal h)
    | (name, operand) :: rest =>
      obtain ⟨hkey, hnode⟩ := Prod.mk.inj (Option.some.inj h)
      exact .inr ⟨hkey.symm, Operator.list_of_node hnode⟩
  | _ => exact .inr (literal h)

end Filter

-- ---------------------------------------------------------------------------
-- Alternatives of compiled filters
-- ---------------------------------------------------------------------------

namespace Compiler

open DocQuery.Filter Expression

variable {options : CompilerOptions}

theorem compile_lenient_result (hs : options.strict = false) (filter : Entries) :
    ((withOptions options).compile (.map filter)).result =
      settle ((keyFault? (readKeys filter)).or
          ((clauses (conditions filter)).findSome? (Clause.refusal? options)))
        (Assoc.assignAll [] (assembled (Clause.node options) (conditions filter))) := by
  have hr : refusal? (withOptions options).options (obstacles [] filter) =
      keyFault? (readKeys filter) := refusal?_lenient hs [] filter
  rw [compile_result (builds_standard options), hr]

/-- Where a filter is compiled leniently, so is every sub-filter of it. -/
theorem compile_subfilter (hs : options.strict = false)
    (hc : ((withOptions options).compile (.map filter)).result = .ok fields)
    (hsub : sub ∈ subfilters filter) :
    ∃ own, ((withOptions options).compile (.map sub)).result = .ok own ∧
      built (Clause.node options) sub = .ofFields own := by
  rw [compile_lenient_result hs, settle_ok, Option.or_eq_none_iff, keyFault?_eq_none,
    List.findSome?_eq_none_iff] at hc
  obtain ⟨⟨hkeys, haccepted⟩, -⟩ := hc
  refine ⟨_, ?_, rfl⟩
  rw [compile_lenient_result hs, settle_ok, Option.or_eq_none_iff, keyFault?_eq_none,
    List.findSome?_eq_none_iff]
  refine ⟨⟨fun key hk => hkeys key (readKeys_subfilter hsub hk), fun clause hclause =>
    haccepted clause ?_⟩, rfl⟩
  have hpart : conditions sub ∈ parts (conditions filter) := by
    rw [parts_conditions]
    exact List.mem_map_of_mem hsub
  exact clauses_part hpart hclause

/-- The elements of a list are what the branches of an `or` somewhere in a filter are
compiled to, one for one, and an element is empty exactly if its branch is vacuous. -/
def Alternates (options : CompilerOptions) (filter : Entries) (alternatives : List Value) : Prop :=
  ∃ sub ∈ subfilters filter, ∃ entry ∈ sub, entry.1.text = "or" ∧
    ∃ items, entry.2.elements? = some items ∧
      List.Forall₂ (fun branch selector =>
        (∃ own, ((withOptions options).compile (.map branch)).result = .ok own ∧
          selector = .ofFields own) ∧ (selector = .map [] ↔ Vacuous branch))
        (branches items) alternatives

theorem alternates_own (hs : options.strict = false)
    (hc : ((withOptions options).compile (.map filter)).result = .ok fields)
    (he : entry ∈ filter) (hname : entry.1.text = "or") (hi : entry.2.elements? = some items) :
    Alternates options filter ((branches items).map (built (Clause.node options))) := by
  refine ⟨filter, List.mem_cons_self, entry, he, hname, items, hi, ?_⟩
  rw [List.forall₂_map_right_iff, List.forall₂_same]
  intro branch hb
  have hcomb : (Operator.combinator? entry.1.text).isSome := by
    rw [hname]
    rfl
  have hsub : branch ∈ subfilters filter := subfilters_branch he hcomb hi hb List.mem_cons_self
  exact ⟨compile_subfilter hs hc hsub, built_eq_empty⟩

/-- Every list of alternatives in a selector is that of an `or` with one element for
each of its branches, or it is written in the filter as it is. An element for a branch
is empty exactly if the branch is vacuous. -/
theorem or_branches (hs : options.strict = false)
    (hc : ((withOptions options).compile (.map filter)).result = .ok fields)
    (h : Selector.Combines "$or" alternatives (.ofFields fields)) :
    Alternates options filter alternatives ∨ Writes filter "$or" alternatives := by
  obtain ⟨own, hown, hb⟩ := compile_subfilter hs hc List.mem_cons_self
  cases hc.symm.trans hown
  generalize Value.ofFields fields = selector at h hb
  -- The induction follows the list into the selector, and the filter along with it.
  induction h generalizing filter fields with
  | own h =>
    obtain ⟨entry, he, ha⟩ := contributor hb h
    rcases contributes_list ha with ⟨hk, -, items, hi, rfl⟩ | ⟨hk, hp⟩
    · have hk : "$" ++ "or" = "$" ++ entry.1.text := hk
      exact .inl (alternates_own hs hc he ((String.append_right_inj "$").mp hk).symm hi)
    · refine .inr ⟨filter, List.mem_cons_self, entry, he, .inr hk.symm, .own ?_⟩
      rw [← hk, hp]
      exact List.mem_cons_self
  | nested hk h hv _ ih =>
    obtain ⟨entry, he, ha⟩ := contributor hb h
    rcases contributes_list ha with ⟨-, hcomb, items, hi, rfl⟩ | ⟨hkey, hp⟩
    · obtain ⟨branch, hbranch, hbuilt⟩ := List.mem_map.mp hv
      have hsub := subfilters_branch he hcomb hi hbranch
      obtain ⟨own, hown, -⟩ := compile_subfilter hs hc (hsub List.mem_cons_self)
      rcases ih hown hown hbuilt with ⟨sub, hin, h⟩ | ⟨sub, hin, h⟩
      · exact .inl ⟨sub, hsub hin, h⟩
      · exact .inr ⟨sub, hsub hin, h⟩
    · refine .inr ⟨filter, List.mem_cons_self, entry, he, hkey ▸ hk, .nested hk ?_ hv ‹_›⟩
      rw [← hkey, hp]
      exact List.mem_cons_self

def nestedAlternatives : Entries :=
  [(.str "and", .list [.single "or" (.tuple
    [.single "a" (.int 1), .single "or" (.list [.int 3]), .null, .map []])])]

theorem or_branches_nested :
    let alternatives := [Value.single "a" (.int 1), .map [], .map []]
    (standard.compile (.map nestedAlternatives)).result =
        .ok [("$and", .list [.single "$or" (.list alternatives)])] ∧
      (Alternates .standard nestedAlternatives alternatives ∨
        Writes nestedAlternatives "$or" alternatives) :=
  ⟨rfl, or_branches rfl rfl
    (.nested (.inl rfl) (.head _) (.head _) (.own (.head _)))⟩

def widenedFilter : Entries :=
  [(.str "or", .list [.single "a" (.int 1), .single "and" (.list [.null])])]

/-- No sub-filter is written without entries, and an alternative is empty. -/
theorem or_widened :
    (standard.compile (.map widenedFilter)).result =
        .ok [("$or", .list [.single "a" (.int 1), .map []])] ∧
      Selector.Combines "$or" [.single "a" (.int 1), .map []]
        (.ofFields [("$or", .list [.single "a" (.int 1), .map []])]) ∧
      ∀ sub ∈ subfilters widenedFilter, sub ≠ [] := by
  refine ⟨rfl, .own List.mem_cons_self, ?_⟩
  rintro sub (_ | ⟨_, _ | ⟨_, _ | ⟨_, ⟨⟩⟩⟩⟩)
  all_goals exact List.cons_ne_nil _ _

end Compiler

end DocQuery
