import DocQuery.Proofs.Filter.Subfilters
import DocQuery.Proofs.Selector.Assembly
import Mathlib.Data.List.Pairwise

/-!
# Which conditions a selector keeps

Every condition but an empty combinator contributes one entry, under its field or
under the key of its combinator, and of two entries of one key the later one
replaces the earlier. `selector_keeps_iff` says when nothing is replaced: when the
conditions of an expression have different keys; in what a filter stands for, when
no sub-filter names a combinator both by its own name and by its key.
-/

namespace DocQuery

def Condition.contributes : Condition → Bool
  | .logical _ [] => false
  | _ => true

def Condition.key : Condition → String
  | .literal field _ | .operator field .. => field
  | .logical combinator _ => "$" ++ combinator.name

namespace Expression

/-- The keys of the conditions that contribute, in order. -/
def keys (expression : Expression) : List String :=
  (expression.filter Condition.contributes).map Condition.key

theorem keys_cons (condition : Condition) (rest : Expression) :
    keys (condition :: rest) =
      (if condition.contributes then [condition.key] else []) ++ keys rest := by
  unfold keys
  rw [List.filter_cons]
  split <;> simp

theorem keys_assembled (node : Clause → Value) (expression : Expression) :
    Assoc.keys (assembled node expression) = keys expression := by
  induction expression with
  | nil => rfl
  | cons condition rest ih =>
    rw [keys_cons, ← ih, assembled, Assoc.keys, List.map_append]
    congr 1
    cases condition with
    | logical combinator filters => cases filters <;> rfl
    | _ => rfl

mutual
theorem clauses_below : (expression : Expression) → part ∈ below expression →
    clauses part ⊆ clauses expression
  | condition :: rest, hp => by
    simp only [below, List.mem_append] at hp
    rw [clauses]
    rcases hp with hp | hp
    · exact List.subset_append_of_subset_left _ (clauses_belowCondition condition hp)
    · exact List.subset_append_of_subset_right _ (clauses_below rest hp)

theorem clauses_belowCondition : (condition : Condition) → part ∈ belowCondition condition →
    clauses part ⊆ conditionClauses condition
  | .logical _ filters, hp => clauses_belowBranches filters hp

theorem clauses_belowBranches : (filters : List (List Condition)) →
    part ∈ belowBranches filters → clauses part ⊆ branchClauses filters
  | conditions :: rest, hp => by
    simp only [belowBranches, List.mem_cons, List.mem_append] at hp
    rw [branchClauses]
    rcases hp with rfl | hp | hp
    · exact List.subset_append_left _ _
    · exact List.subset_append_of_subset_left _ (clauses_below conditions hp)
    · exact List.subset_append_of_subset_right _ (clauses_belowBranches rest hp)
end

theorem clauses_part (hp : part ∈ parts expression) : clauses part ⊆ clauses expression := by
  rcases List.mem_cons.mp hp with rfl | hp
  · exact List.Subset.refl _
  · exact clauses_below expression hp

end Expression

-- ---------------------------------------------------------------------------
-- Keys of filters
-- ---------------------------------------------------------------------------

namespace Filter

/-- A filter clashes if it has a combinator with a sub-filter and a field that is
named like the key of that combinator. -/
def Clashes (filter : Entries) : Prop :=
  ∃ combinator : Operator, combinator.isLogical ∧ "$" ++ combinator.name ∈ names filter ∧
    ∃ entry ∈ filter, entry.1.text = combinator.name ∧ entry.2.hasMap

def key? (field : String) (v : Value) : Option String :=
  match Operator.combinator? field, v.elements? with
  | some combinator, some items =>
    if items.any Value.isMap then some ("$" ++ combinator.name) else none
  | _, _ => some field

theorem expressions_isEmpty (items : List Value) :
    (expressions items).isEmpty = !items.any Value.isMap := by
  induction items with
  | nil => rfl
  | cons v rest ih => cases v <;> simp_all [expressions, Value.isMap]

theorem key?_field (field : String) (hi : v.elements? = none) : key? field v = some field := by
  unfold key?
  rw [hi]
  cases Operator.combinator? field <;> rfl

theorem key?_condition (field : String) (v : Value) :
    key? field v =
      if (condition field v).contributes then some (condition field v).key else none := by
  cases v with
  | list items | tuple items =>
    have he := expressions_isEmpty items
    cases hc : Operator.combinator? field with
    | none => simp [key?, condition, hc, Condition.contributes, Condition.key]
    | some combinator =>
      cases hx : expressions items <;>
        simp_all [key?, condition, Value.elements?, Condition.contributes, Condition.key]
  | map entries =>
    rw [key?_field field rfl]
    cases entries <;> rfl
  | _ => exact key?_field field rfl

theorem keys_conditions (filter : Entries) :
    Expression.keys (conditions filter) =
      filter.filterMap fun entry => key? entry.1.text entry.2 := by
  induction filter with
  | nil => rfl
  | cons entry rest ih =>
    obtain ⟨key, v⟩ := entry
    rw [conditions, Expression.keys_cons, ih, List.filterMap_cons, key?_condition]
    split <;> simp_all

theorem key?_cases {field : String} (h : key? field v = some key) :
    key = field ∨ ∃ combinator : Operator, combinator.isLogical ∧ field = combinator.name ∧
      key = "$" ++ combinator.name ∧ v.hasMap := by
  unfold key? at h
  split at h
  · rename_i combinator items hc hi
    obtain ⟨hl, hn⟩ := Operator.combinator?_some hc
    split at h
    · rename_i hm
      exact .inr ⟨combinator, hl, hn.symm, (Option.some.inj h).symm, by simpa [Value.hasMap, hi] using hm⟩
    · cases h
  · exact .inl (Option.some.inj h).symm

theorem key?_combinator {combinator : Operator} (hl : combinator.isLogical) (hm : v.hasMap) :
    key? combinator.name v = some ("$" ++ combinator.name) := by
  have hc := Operator.combinator?_name hl
  cases hi : v.elements? with
  | none => simp [Value.hasMap, hi] at hm
  | some items => simp_all [key?, Value.hasMap]

theorem key?_dollar (op : Operator) (v : Value) :
    key? ("$" ++ op.name) v = some ("$" ++ op.name) := by
  have hc : Operator.combinator? ("$" ++ op.name) = none := by cases op <;> rfl
  simp [key?, hc]

theorem dollar_ne (op : Operator) : "$" ++ op.name ≠ op.name := by cases op <;> decide

theorem clashes_of_key?_eq {filter : Entries} (ha : a ∈ filter) (hb : b ∈ filter)
    (hne : a.1.text ≠ b.1.text) (hka : key? a.1.text a.2 = some key)
    (hkb : key? b.1.text b.2 = some key) : Clashes filter := by
  rcases key?_cases hka with rfl | ⟨op, hl, hn, rfl, hm⟩
  · rcases key?_cases hkb with h | ⟨op, hl, hn, h, hm⟩
    · contradiction
    · exact ⟨op, hl, List.mem_map.mpr ⟨a, ha, h⟩, b, hb, hn, hm⟩
  · rcases key?_cases hkb with h | ⟨op', hl', hn', h, hm'⟩
    · exact ⟨op, hl, List.mem_map.mpr ⟨b, hb, h.symm⟩, a, ha, hn, hm⟩
    · exact absurd (hn.trans ((String.append_right_inj "$").mp h |>.trans hn'.symm)) hne

/-- What a filter stands for has different keys exactly if the filter does not clash. -/
theorem nodup_keys_conditions {filter : Entries} (hn : (names filter).Nodup) :
    (Expression.keys (conditions filter)).Nodup ↔ ¬ Clashes filter := by
  rw [keys_conditions]
  unfold names List.Nodup at *
  rw [List.pairwise_map] at hn
  rw [List.pairwise_filterMap]
  constructor
  · rintro hp ⟨combinator, hl, hd, a, ha, hna, hm⟩
    obtain ⟨b, hb, hnb⟩ := List.mem_map.mp hd
    have hka : key? a.1.text a.2 = some ("$" ++ combinator.name) := by
      rw [hna]
      exact key?_combinator hl hm
    have hkb : key? b.1.text b.2 = some ("$" ++ combinator.name) := by
      rw [hnb]
      exact key?_dollar combinator b.2
    have hab : a ≠ b := by
      rintro rfl
      exact dollar_ne combinator (hnb.symm.trans hna)
    -- The field may stand before the combinator or after it.
    have symm : Std.Symm fun a b : Value × Value =>
        ∀ key, key? a.1.text a.2 = some key → ∀ key', key? b.1.text b.2 = some key' →
          key ≠ key' :=
      ⟨fun a b h key hk key' hk' he => h key' hk' key hk he.symm⟩
    exact hp.forall ha hb hab _ hka _ hkb rfl
  · intro hc
    refine hn.imp_of_mem fun {a b} ha hb hne key hka key' hkb he => hc ?_
    subst he
    exact clashes_of_key?_eq ha hb hne hka hkb

/-- Nothing that a filter contributes is replaced. -/
def Intact (filter : Entries) : Prop := (Expression.keys (conditions filter)).Nodup

theorem Intact.assignAll_assembled (node : Clause → Value) (h : Intact filter) :
    Assoc.assignAll [] (Expression.assembled node (conditions filter)) =
      Expression.assembled node (conditions filter) :=
  Assoc.assignAll_of_nodup (by rwa [List.nil_append, Expression.keys_assembled])

end Filter

-- ---------------------------------------------------------------------------
-- Kept and replaced conditions
-- ---------------------------------------------------------------------------

namespace Compiler

open Expression

/-- The parts of an expression are compiled where the whole is, and each selector
holds every key of its conditions with the entry of the last one. -/
theorem selector_part (compiler : Compiler) (hp : part ∈ parts expression)
    (hs : (compiler.selector expression).result = .ok fields) :
    ∃ entries own, (compiler.entries part).result = .ok entries ∧
      Assoc.keys entries = keys part ∧ (compiler.selector part).result = .ok own ∧
      own = Assoc.assignAll [] entries := by
  obtain ⟨refusal?, node, hb⟩ := compiler.builds
  rw [selector_result hb, settle_ok, List.findSome?_eq_none_iff] at hs
  have hnone : (clauses part).findSome? refusal? = none :=
    List.findSome?_eq_none_iff.mpr fun clause hc => hs.1 clause (clauses_part hp hc)
  refine ⟨assembled node part, _, ?_, keys_assembled node part, ?_, rfl⟩
  · rw [entries_result hb, hnone, settle_none]
  · rw [selector_result hb, hnone, settle_none]

/-- A selector has an entry for every contributing condition of its expression
exactly if their keys differ. Of conditions with one key the last one stays. In what
a filter stands for, the keys differ unless the filter names a combinator with
sub-filters by its own name and has a field that is named like its key. -/
theorem selector_keeps_iff (compiler : Compiler) :
    (∀ expression fields, (compiler.selector expression).result = .ok fields →
      ∀ part ∈ parts expression, ∃ entries own,
        (compiler.entries part).result = .ok entries ∧ Assoc.keys entries = keys part ∧
        (compiler.selector part).result = .ok own ∧
        (∀ key, Assoc.lookup key own = Assoc.lookup key entries.reverse) ∧
        own.length = (keys part).dedup.length ∧
        (own.length = (part.filter Condition.contributes).length ↔ (keys part).Nodup)) ∧
    (∀ filter expression, (∀ sub ∈ Filter.subfilters filter, Filter.TextKeyed sub) →
      (Expression.ofValue compiler.options (.map filter)).result = .ok expression →
      parts expression = (Filter.subfilters filter).map Filter.conditions ∧
      ∀ sub ∈ Filter.subfilters filter,
        (keys (Filter.conditions sub)).Nodup ↔ ¬ Filter.Clashes sub) := by
  constructor
  · intro expression fields hs part hp
    obtain ⟨entries, own, he, hk, ho, rfl⟩ := compiler.selector_part hp hs
    have hlen : (part.filter Condition.contributes).length = entries.length := by
      have := congrArg List.length hk
      simpa [Assoc.keys, keys] using this.symm
    refine ⟨entries, _, he, hk, ho, fun key => ?_, ?_, ?_⟩
    · rw [Assoc.lookup_assignAll]
      exact Option.or_none
    · rw [Assoc.length_assignAll, hk]
    · rw [hlen, ← hk]
      exact Assoc.length_assignAll_eq_iff entries
  · intro filter expression ht hr
    rw [Filter.ofValue_result, settle_ok] at hr
    obtain ⟨-, rfl⟩ := hr
    exact ⟨parts_conditions filter, fun sub hsub =>
      Filter.nodup_keys_conditions (ht sub hsub).nodup_names⟩

def nestedFilter : Entries :=
  [(.str "or", .list [.map [(.str "a", .int 1), (.str "and", .list [.map [(.str "b", .int 2)], .null])],
    .map [(.str "$or", .int 3)]])]

theorem selector_keeps_nested :
    ∃ part ∈ parts (Filter.conditions nestedFilter), ∃ own,
      (standard.selector part).result = .ok own ∧ own.length = 2 := by
  have hsubs : ∀ sub ∈ Filter.subfilters nestedFilter,
      Filter.TextKeyed sub ∧ ¬ Filter.Clashes sub := by
    rintro sub (_ | ⟨_, _ | ⟨_, _ | ⟨_, _ | ⟨_, ⟨⟩⟩⟩⟩⟩)
    all_goals
      refine ⟨Filter.textKeyed_of_names rfl (by decide), ?_⟩
      rintro ⟨combinator, hl, hd, entry, he, hn, -⟩
      cases combinator <;> cases hl <;>
        simp_all [nestedFilter, Filter.names, Operator.name, Value.text]
  obtain ⟨hparts, hkeys⟩ := (selector_keeps_iff standard).2 nestedFilter
    (Filter.conditions nestedFilter) (fun sub hsub => (hsubs sub hsub).1) rfl
  have hinner : [(.str "a", .int 1), (.str "and", .list [.map [(.str "b", .int 2)], .null])] ∈
      Filter.subfilters nestedFilter := .tail _ (.head _)
  have hp := hparts ▸ List.mem_map_of_mem hinner
  obtain ⟨_, own, -, -, ho, -, -, hiff⟩ := (selector_keeps_iff standard).1 _ _ rfl _ hp
  exact ⟨_, hp, own, ho, hiff.mpr ((hkeys _ hinner).mpr (hsubs _ hinner).2)⟩

/-- A field that is named like the key of a combinator replaces the combinator. -/
theorem selector_replaces :
    ∃ expression fields,
      (Expression.ofValue .standard (.map
        [(.str "or", .list [.map [(.str "a", .int 1)]]), (.str "$or", .int 2)])).result =
          .ok expression ∧
      (standard.selector expression).result = .ok fields ∧ fields = [("$or", .int 2)] ∧
      fields.length ≠ (expression.filter Condition.contributes).length :=
  ⟨_, _, rfl, rfl, rfl, by decide⟩

end Compiler

end DocQuery
