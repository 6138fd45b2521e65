import DocQuery.Query.SortOrder
import DocQuery.Proofs.FirstFault
import DocQuery.Proofs.Number.Same
import Mathlib.Data.List.Forall2

/-!
# Spellings of a sort order

A key is asked for by a pair or by a name, and its direction by a number or a word.
`ofValue_of_spells` says that the order does not depend on the spelling. The list of
its keys is a spelling of every order, so normalizing an order twice is normalizing
it once.
-/

namespace DocQuery

def InAnyCase (word text : String) : Prop :=
  List.Forall₂ (fun letter c => c = letter ∨ c = letter.toUpper) word.toList text.toList

theorem lowerText_of_inAnyCase (h : InAnyCase word text)
    (hlower : ∀ letter ∈ word.toList, letter.toLower = letter ∧ letter.toUpper.toLower = letter) :
    lowerText text = word := by
  have hchars : List.Forall₂ (fun letter c => letter = c.toLower) word.toList text.toList := by
    refine ((List.forall₂_and_left _ _).mpr ⟨hlower, h⟩).imp ?_
    rintro letter c ⟨⟨hsame, hupper⟩, rfl | rfl⟩
    · exact hsame.symm
    · exact hupper.symm
  have hmap : word.toList = text.toList.map Char.toLower := by
    rwa [← List.forall₂_eq_eq_eq, List.forall₂_map_right_iff]
  rw [lowerText, ← hmap, String.ofList_toList]

-- ---------------------------------------------------------------------------
-- Spellings
-- ---------------------------------------------------------------------------

namespace SortKey

def word (key : SortKey) : String := if key.descending then "desc" else "asc"

inductive Directs (key : SortKey) : Value → Prop
  /-- A number of any type. -/
  | number (hv : v.number? = some n) (hn : n.same (.int key.direction) = true) : Directs key v
  | word (h : InAnyCase key.word text) : Directs key (.str text)

inductive Spells : SortKey → Value → Prop
  | pair (h : Directs key v) : Spells key (.tuple [key.field, v])
  | ascending (h : beginsWith '-' name = false) : Spells ⟨.str name, false⟩ (.str name)
  | descending : Spells ⟨.str name, true⟩ (.str ("-" ++ name))

def Enters (key : SortKey) (entry : Value × Value) : Prop :=
  entry.1 = key.field ∧ key.Directs entry.2

end SortKey

inductive SortOrder.Spells (order : SortOrder) : Value → Prop
  | map (h : List.Forall₂ SortKey.Enters order entries) : Spells order (.map entries)
  | list (h : List.Forall₂ SortKey.Spells order items) : Spells order (.list items)

-- ---------------------------------------------------------------------------
-- Keys
-- ---------------------------------------------------------------------------

theorem SortKey.lowerText_word {key : SortKey} (h : InAnyCase key.word text) :
    lowerText text = key.word := by
  refine lowerText_of_inAnyCase h ?_
  unfold word
  cases key.descending <;> simp

theorem SortKey.spells_toValue (key : SortKey) : key.Spells key.toValue :=
  .pair (.number rfl (Number.same_int.mpr rfl))

namespace SortOrder

theorem isDescending_number {v : Value} (h : v.number? = some n) :
    isDescending v = n.equalsInt (-1) := by
  cases v <;> cases h <;> rfl

theorem isDescending_of_directs {key : SortKey} (h : key.Directs v) :
    isDescending v = .ok key.descending := by
  cases h with
  | number hv hn =>
    rw [isDescending_number hv, Number.equalsInt_of_same hn]
    unfold SortKey.direction
    cases key.descending <;> rfl
  | word h =>
    rw [isDescending, key.lowerText_word h]
    unfold SortKey.word
    cases key.descending <;> rfl

theorem keyOf_of_directs {key : SortKey} (h : key.Directs v) : keyOf key.field v = .ok key := by
  rw [keyOf, isDescending_of_directs h]
  rfl

theorem keyOfName_ascending (h : beginsWith '-' name = false) :
    keyOfName name = ⟨.str name, false⟩ := by
  unfold keyOfName
  split
  · rename_i hname
    rw [beginsWith, hname] at h
    cases h
  · rfl

/-- The minus sign is taken off once, so that a field may begin with another one. -/
theorem keyOfName_descending (name : String) : keyOfName ("-" ++ name) = ⟨.str name, true⟩ := by
  have hname : ("-" ++ name).toList = '-' :: name.toList := by
    rw [String.toList_append]
    rfl
  rw [keyOfName, hname]
  change SortKey.mk (.str (String.ofList name.toList)) true = _
  rw [String.ofList_toList]

theorem keyOfItem_of_spells {key : SortKey} (h : key.Spells item) :
    keyOfItem item = .ok (some key) := by
  cases h with
  | pair h =>
    rw [keyOfItem, keyOf_of_directs h]
    rfl
  | ascending h => rw [keyOfItem, keyOfName_ascending h]
  | descending => rw [keyOfItem, keyOfName_descending]

end SortOrder

-- ---------------------------------------------------------------------------
-- Orders
-- ---------------------------------------------------------------------------

theorem mapM_of_forall₂ {f : α → Except ε β} (h : List.Forall₂ (fun y x => f x = .ok y) ys xs) :
    xs.mapM f = .ok ys := by
  induction h with
  | nil => rfl
  | cons hf _ ih =>
    rw [List.mapM_cons, hf, ih]
    rfl

namespace SortOrder

theorem ofValue_map (entries : Entries) :
    ofValue (.map entries) = entries.mapM fun (field, direction) => keyOf field direction := by
  cases entries <;> rfl

theorem ofValue_list (items : List Value) :
    ofValue (.list items) = (items.mapM keyOfItem).map (·.filterMap id) := by
  cases items with
  | nil => rfl
  | cons item rest =>
    change (item :: rest).mapM keyOfItem >>= _ = _
    cases (item :: rest).mapM keyOfItem <;> rfl

theorem ofValue_of_spells {order : SortOrder} (h : order.Spells v) : ofValue v = .ok order := by
  cases h with
  | map h =>
    rw [ofValue_map]
    refine mapM_of_forall₂ (h.imp ?_)
    rintro key ⟨_, direction⟩ ⟨rfl, hd⟩
    exact keyOf_of_directs hd
  | @list items h =>
    have hkeys : items.mapM keyOfItem = .ok (order.map some) :=
      mapM_of_forall₂ (List.forall₂_map_left_iff.mpr (h.imp fun _ _ => keyOfItem_of_spells))
    rw [ofValue_list, hkeys]
    -- Every item asks for a key, so that none is left out.
    change Except.ok ((order.map some).filterMap id) = _
    rw [List.filterMap_map]
    exact congrArg _ List.filterMap_some

theorem spells_toValue (order : SortOrder) : order.Spells order.toValue :=
  .list (List.forall₂_map_right_iff.mpr (List.forall₂_same.mpr fun key _ => key.spells_toValue))

theorem normalize_ok : normalize v = .ok result ↔
    ∃ order : SortOrder, ofValue v = .ok order ∧ order.toValue = result := by
  unfold normalize
  rw [bind_ok_iff]
  exact exists_congr fun _ => and_congr_right fun _ => ⟨Except.ok.inj, congrArg _⟩

theorem normalize_of_spells {order : SortOrder} (h : order.Spells v) :
    normalize v = .ok order.toValue := normalize_ok.mpr ⟨order, ofValue_of_spells h, rfl⟩

def IsDirected (item : Value) : Prop :=
  ∃ field direction, item = .tuple [field, .int direction] ∧ (direction = 1 ∨ direction = -1)

theorem isDirected_toValue (key : SortKey) : IsDirected key.toValue := by
  refine ⟨key.field, key.direction, rfl, ?_⟩
  unfold SortKey.direction
  cases key.descending
  · exact .inl rfl
  · exact .inr rfl

/-- Every spelling of an order comes to the list of its keys; and whatever is asked for
comes to pairs with directions 1 and -1, which come to themselves. -/
theorem spellings_agree :
    (∀ (order : SortOrder) (v : Value), order.Spells v → normalize v = .ok order.toValue) ∧
    ∀ v result : Value, normalize v = .ok result →
      (∃ items, result = .list items ∧ ∀ item ∈ items, IsDirected item) ∧
        normalize result = .ok result := by
  refine ⟨fun order v => normalize_of_spells, fun v result h => ?_⟩
  obtain ⟨order, -, rfl⟩ := normalize_ok.mp h
  refine ⟨⟨order.map SortKey.toValue, rfl, ?_⟩, normalize_of_spells order.spells_toValue⟩
  intro item hitem
  obtain ⟨key, -, rfl⟩ := List.mem_map.mp hitem
  exact isDirected_toValue key

theorem spellings_agree_minus :
    let result := Value.list [.tuple [.str "-n", .int (-1)], .tuple [.str "m", .int 1]]
    normalize (.map [(.str "-n", .decimal (.finite true 10 (-1))), (.str "m", .str "aSC")]) =
        .ok result ∧
      normalize (.list [.str "--n", .tuple [.str "m", .str "aSC"]]) = .ok result ∧
      normalize (.list [.str "--n", .str "m"]) = .ok result ∧ normalize result = .ok result := by
  let order : SortOrder := [⟨.str "-n", true⟩, ⟨.str "m", false⟩]
  have hn : SortKey.Directs ⟨.str "-n", true⟩ (.decimal (.finite true 10 (-1))) :=
    .number rfl (by decide)
  have hm : SortKey.Directs ⟨.str "m", false⟩ (.str "aSC") := by
    refine .word ?_
    simp [InAnyCase, SortKey.word]
  have hnames : normalize (.list [.str "--n", .str "m"]) = .ok order.toValue :=
    spellings_agree.1 order _ (.list (.cons .descending (.cons (.ascending rfl) .nil)))
  refine ⟨spellings_agree.1 order _ (.map ?_), spellings_agree.1 order _ (.list ?_), hnames,
    (spellings_agree.2 _ _ hnames).2⟩
  · exact .cons ⟨rfl, hn⟩ (.cons ⟨rfl, hm⟩ .nil)
  · exact .cons .descending (.cons (.pair hm) .nil)

end SortOrder

end DocQuery
