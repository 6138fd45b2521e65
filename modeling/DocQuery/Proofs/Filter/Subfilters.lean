import DocQuery.Proofs.Filter.Reading

/-!
# The sub-filters of a filter

A filter holds sub-filters at any depth, as the maps in the lists of its
combinators. `Filter.subfilters` lists them, the filter itself first, and
`Expression.parts` does the same for what they stand for.
-/

namespace DocQuery

def Value.elements? : Value → Option (List Value)
  | .list items | .tuple items => some items
  | _ => none

def Value.isMap : Value → Bool
  | .map _ => true
  | _ => false

def Value.hasMap (v : Value) : Bool := (v.elements?.getD []).any Value.isMap

namespace Filter

def names (filter : Entries) : List String := filter.map (·.1.text)

/-- The keys of a filter are texts and, as in every map, no key comes twice. -/
structure TextKeyed (filter : Entries) : Prop where
  text : ∀ entry ∈ filter, ∃ name, entry.1 = .str name
  nodup : (filter.map (·.1)).Nodup

theorem TextKeyed.nodup_names (hk : TextKeyed filter) : (names filter).Nodup := by
  have hn := hk.nodup
  unfold names List.Nodup at *
  rw [List.pairwise_map] at *
  refine hn.imp_of_mem fun {a b} ha hb hne he => hne ?_
  obtain ⟨s, hs⟩ := hk.text a ha
  obtain ⟨t, ht⟩ := hk.text b hb
  rw [hs, ht] at he ⊢
  exact congrArg Value.str he

theorem textKeyed_of_names {filter : Entries}
    (hk : filter.map (·.1) = (names filter).map .str) (hn : (names filter).Nodup) :
    TextKeyed filter := by
  refine ⟨fun entry he => ?_, ?_⟩
  · have hm : entry.1 ∈ (names filter).map Value.str := hk ▸ List.mem_map_of_mem he
    obtain ⟨name, -, h⟩ := List.mem_map.mp hm
    exact ⟨name, h.symm⟩
  · rw [hk]
    exact List.pairwise_map.mpr (hn.imp fun hne h => hne (Value.str.inj h))

mutual
def below : Entries → List Entries
  | [] => []
  | (key, v) :: rest => belowValue key.text v ++ below rest

def belowValue (field : String) : Value → List Entries
  | .list items | .tuple items =>
    if (Operator.combinator? field).isSome then belowElements items else []
  | _ => []

def belowElements : List Value → List Entries
  | [] => []
  | .map entries :: rest => entries :: (below entries ++ belowElements rest)
  | _ :: rest => belowElements rest
end

/-- A filter and its sub-filters at every depth. -/
def subfilters (filter : Entries) : List Entries := filter :: below filter

mutual
theorem readKeys_below : (filter : Entries) → sub ∈ below filter →
    readKeys sub ⊆ readKeys filter
  | (key, v) :: rest, h => by
    rw [below, List.mem_append] at h
    rw [readKeys]
    rcases h with h | h
    · exact fun k hk => List.mem_cons_of_mem _ (List.mem_append_left _ (readKeys_value v h hk))
    · exact fun k hk => List.mem_cons_of_mem _ (List.mem_append_right _ (readKeys_below rest h hk))

theorem readKeys_value (v : Value) (h : sub ∈ belowValue field v) :
    readKeys sub ⊆ valueKeys field v := by
  cases v with
  | list items | tuple items =>
    rw [belowValue] at h
    rw [valueKeys]
    split at h
    · rename_i hc
      rw [if_pos hc]
      exact readKeys_elements items h
    · cases h
  | _ => cases h

theorem readKeys_elements (items : List Value) (h : sub ∈ belowElements items) :
    readKeys sub ⊆ elementKeys items := by
  match items with
  | [] => cases h
  | v :: rest =>
    cases v with
    | map entries =>
      rw [belowElements, List.mem_cons, List.mem_append] at h
      rw [elementKeys]
      rcases h with rfl | h | h
      · exact List.subset_append_left _ _
      · exact fun k hk => List.mem_append_left _ (readKeys_below entries h hk)
      · exact fun k hk => List.mem_append_right _ (readKeys_elements rest h hk)
    | _ => exact readKeys_elements rest h
end

theorem readKeys_subfilter (h : sub ∈ subfilters filter) : readKeys sub ⊆ readKeys filter := by
  rcases List.mem_cons.mp h with rfl | h
  · exact fun _ hk => hk
  · exact readKeys_below filter h

end Filter

namespace Expression

mutual
def below : List Condition → List Expression
  | [] => []
  | condition :: rest => belowCondition condition ++ below rest

def belowCondition : Condition → List Expression
  | .logical _ filters => belowBranches filters
  | _ => []

def belowBranches : List (List Condition) → List Expression
  | [] => []
  | conditions :: rest => conditions :: (below conditions ++ belowBranches rest)
end

def parts (expression : Expression) : List Expression := expression :: below expression

mutual
theorem below_conditions : (filter : Entries) →
    below (Filter.conditions filter) = (Filter.below filter).map Filter.conditions
  | [] => rfl
  | (key, v) :: rest => by
    simp only [Filter.conditions, below, Filter.below, List.map_append, below_conditions rest,
      belowCondition_condition key.text v]

theorem belowCondition_condition (field : String) (v : Value) :
    belowCondition (Filter.condition field v) =
      (Filter.belowValue field v).map Filter.conditions := by
  cases v with
  | list items | tuple items =>
    simp only [Filter.condition, Filter.belowValue]
    cases Operator.combinator? field with
    | none => rfl
    | some combinator => simpa [belowCondition] using belowBranches_expressions items
  | map entries => cases entries <;> rfl
  | _ => rfl

theorem belowBranches_expressions (items : List Value) :
    belowBranches (Filter.expressions items) =
      (Filter.belowElements items).map Filter.conditions := by
  match items with
  | [] => rfl
  | v :: rest =>
    cases v with
    | map entries =>
      simp only [Filter.expressions, belowBranches, Filter.belowElements, List.map_cons,
        List.map_append, below_conditions entries, belowBranches_expressions rest]
    | _ => simpa only [Filter.expressions, Filter.belowElements] using belowBranches_expressions rest
end

theorem parts_conditions (filter : Entries) :
    parts (Filter.conditions filter) = (Filter.subfilters filter).map Filter.conditions := by
  simp [parts, Filter.subfilters, below_conditions]

end Expression

end DocQuery
