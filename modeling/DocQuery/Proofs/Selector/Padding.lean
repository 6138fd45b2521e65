import DocQuery.Proofs.Selector.Refusal

/-!
# Elements that are not maps

A list of a combinator may hold anything, but only its maps are sub-filters. `Padded` relates
a filter to those that have more elements than it in such lists, none of them a map, and
`compile_padded` says that a lenient compiler makes the same of all of them.
-/

namespace DocQuery

namespace Filter

-- ---------------------------------------------------------------------------
-- Padding
-- ---------------------------------------------------------------------------

mutual
/-- The entries of a filter with more elements that are no maps in the lists of its
combinators, at any depth. A list may also be a tuple then, and a tuple a list. -/
inductive Padded : Entries → Entries → Prop
  | nil : Padded [] []
  | cons (hv : PaddedValue key.text v w) (hrest : Padded rest more) :
    Padded ((key, v) :: rest) ((key, w) :: more)

inductive PaddedValue : String → Value → Value → Prop
  | same : PaddedValue field v v
  | elements (hf : (Operator.combinator? field).isSome) (hv : v.elements? = some items)
    (hw : w.elements? = some padded) (h : PaddedElements items padded) : PaddedValue field v w

inductive PaddedElements : List Value → List Value → Prop
  | nil : PaddedElements [] []
  | same (h : PaddedElements items padded) : PaddedElements (v :: items) (v :: padded)
  | map (hfilter : Padded entries filter) (h : PaddedElements items padded) :
    PaddedElements (.map entries :: items) (.map filter :: padded)
  | insert (hv : v.isMap = false) (h : PaddedElements items padded) :
    PaddedElements items (v :: padded)
end

-- ---------------------------------------------------------------------------
-- The conditions of a padded filter
-- ---------------------------------------------------------------------------

theorem expressions_insert {v : Value} (hv : v.isMap = false) (items : List Value) :
    expressions (v :: items) = expressions items := by
  cases v with
  | map => cases hv
  | _ => rfl

theorem expressions_cons (v : Value) (h : expressions items = expressions padded) :
    expressions (v :: items) = expressions (v :: padded) := by
  cases v with
  | map entries => rw [expressions, expressions, h]
  | _ => exact h

theorem condition_elements (hf : Operator.combinator? field = some combinator)
    (hv : v.elements? = some items) :
    condition field v = .logical combinator (expressions items) := by
  cases v with
  | list | tuple =>
    cases hv
    simp only [condition, hf]
  | _ => cases hv

mutual
theorem conditions_padded : Padded entries filter → conditions filter = conditions entries
  | .nil => rfl
  | .cons hv hrest => by
    rw [conditions, conditions, condition_padded hv, conditions_padded hrest]

theorem condition_padded : PaddedValue field v w → condition field w = condition field v
  | .same => rfl
  | .elements hf hv hw h => by
    obtain ⟨combinator, hf⟩ := Option.isSome_iff_exists.mp hf
    rw [condition_elements hf hv, condition_elements hf hw, expressions_padded h]

theorem expressions_padded : PaddedElements items padded → expressions padded = expressions items
  | .nil => rfl
  | .same h => expressions_cons _ (expressions_padded h)
  | .map hfilter h => by
    rw [expressions, expressions, conditions_padded hfilter, expressions_padded h]
  | .insert hv h => (expressions_insert hv _).trans (expressions_padded h)
end

-- ---------------------------------------------------------------------------
-- The keys of a padded filter
-- ---------------------------------------------------------------------------

theorem elementKeys_insert {v : Value} (hv : v.isMap = false) (items : List Value) :
    elementKeys (v :: items) = elementKeys items := by
  cases v with
  | map => cases hv
  | _ => rfl

theorem elementKeys_cons (v : Value) (h : elementKeys items = elementKeys padded) :
    elementKeys (v :: items) = elementKeys (v :: padded) := by
  cases v with
  | map entries => rw [elementKeys, elementKeys, h]
  | _ => exact h

theorem valueKeys_elements (hf : (Operator.combinator? field).isSome)
    (hv : v.elements? = some items) : valueKeys field v = elementKeys items := by
  cases v with
  | list | tuple =>
    cases hv
    exact if_pos hf
  | _ => cases hv

mutual
theorem readKeys_padded : Padded entries filter → readKeys filter = readKeys entries
  | .nil => rfl
  | .cons hv hrest => by
    rw [readKeys, readKeys, valueKeys_padded hv, readKeys_padded hrest]

theorem valueKeys_padded : PaddedValue field v w → valueKeys field w = valueKeys field v
  | .same => rfl
  | .elements hf hv hw h => by
    rw [valueKeys_elements hf hv, valueKeys_elements hf hw, elementKeys_padded h]

theorem elementKeys_padded : PaddedElements items padded →
    elementKeys padded = elementKeys items
  | .nil => rfl
  | .same h => elementKeys_cons _ (elementKeys_padded h)
  | .map hfilter h => by
    rw [elementKeys, elementKeys, readKeys_padded hfilter, elementKeys_padded h]
  | .insert hv h => (elementKeys_insert hv _).trans (elementKeys_padded h)
end

end Filter

namespace Compiler

variable {entries filter : Entries}

/-- A lenient compiler, whatever its table, makes the same selector of a filter however it is
padded, or refuses it for the same reason. -/
theorem compile_padded (compiler : Compiler) (hs : compiler.options.strict = false)
    (h : Filter.Padded entries filter) :
    (compiler.compile (.map filter)).result = (compiler.compile (.map entries)).result := by
  simp only [compile, Traced.result_bind, Expression.ofValue_lenient hs, Value.expression?,
    Value.readKeys, Filter.conditions_padded h, Filter.readKeys_padded h]

theorem compile_padded_nested :
    let leaf := Value.single "age" (.int 3)
    let entries := [(.str "or", .list [leaf, .single "and" (.list [])])]
    let filter := [(.str "or", .tuple [.null, leaf, .expression [.literal "name" .null],
      .single "and" (.tuple [.int 1, .list [leaf]])])]
    (standard.compile (.map filter)).result = (standard.compile (.map entries)).result := by
  intro leaf entries filter
  have hinner : Filter.Padded [(.str "and", .list [])]
      [(.str "and", .tuple [.int 1, .list [leaf]])] :=
    .cons (.elements rfl rfl rfl (.insert rfl (.insert rfl .nil))) .nil
  have houter : Filter.Padded entries filter :=
    .cons (.elements rfl rfl rfl (.insert rfl (.same (.insert rfl (.map hinner .nil))))) .nil
  exact compile_padded standard rfl houter

end Compiler

end DocQuery
