import DocQuery.Proofs.Document.RoundTrip
import DocQuery.Proofs.FirstFault
import DocQuery.Proofs.Value.Keys

/-!
# What is stored of a model

A document is the plain form of a model with every value in a type of the store, in lists
and in maps at any depth: `document_stored`. Tuples are kept as they are, so that a decimal
or a unique id is left exactly where one stands within a tuple.
-/

namespace DocQuery

namespace Value

-- ---------------------------------------------------------------------------
-- Values at any depth
-- ---------------------------------------------------------------------------

/-- Values that are made of others only by lists, tuples and maps: one condition holds of
every value without parts that stands outside tuples, and another one of those within. -/
inductive Each : (Value → Prop) → (Value → Prop) → Value → Prop
  | atom (ha : v.isPlainAtom) (h : p v) : Each p q v
  | list {items : List Value} (h : ∀ v ∈ items, Each p q v) : Each p q (.list items)
  | tuple {items : List Value} (h : ∀ v ∈ items, Each q q v) : Each p q (.tuple items)
  | map {entries : Entries} (h : ∀ entry ∈ entries, Each p q entry.2) : Each p q (.map entries)

variable {p q : Value → Prop}

theorem each_atom (ha : v.isPlainAtom) : v.Each p q ↔ p v := by
  refine ⟨fun h => ?_, .atom ha⟩
  cases h with
  | atom _ h => exact h
  | _ => cases ha

@[simp] theorem each_list {items : List Value} :
    (list items).Each p q ↔ ∀ v ∈ items, v.Each p q := by
  refine ⟨fun h => ?_, .list⟩
  cases h with
  | atom ha => cases ha
  | list h => exact h

@[simp] theorem each_tuple {items : List Value} :
    (tuple items).Each p q ↔ ∀ v ∈ items, v.Each q q := by
  refine ⟨fun h => ?_, .tuple⟩
  cases h with
  | atom ha => cases ha
  | tuple h => exact h

@[simp] theorem each_map {entries : Entries} :
    (map entries).Each p q ↔ ∀ entry ∈ entries, entry.2.Each p q := by
  refine ⟨fun h => ?_, .map⟩
  cases h with
  | atom ha => cases ha
  | map h => exact h

/-- A value of a type that the store has; its decimals are of another type, and it has no
unique ids. -/
def InStore : Value → Prop
  | decimal _ | uuid _ => False
  | _ => True

def OfAnyType (_ : Value) : Prop := True

-- ---------------------------------------------------------------------------
-- How values are stored
-- ---------------------------------------------------------------------------

def isStoredSame : Value → Bool
  | decimal _ | uuid _ | list _ | map _ => false
  | _ => true

/-- How a value is stored: a decimal as the store's decimal of the same value, a unique id as
its text, the values in lists and maps likewise, and everything else as it is. -/
inductive StoredAs : Value → Value → Prop
  | decimal (h : d.SameValue e.value) : StoredAs (.decimal d) (.decimal128 e)
  | uuid (id : Uuid) : StoredAs (.uuid id) (.str id.text)
  | list {items stored : List Value} (h : List.Forall₂ StoredAs items stored) :
    StoredAs (.list items) (.list stored)
  | map {entries stored : Entries} (hkeys : entries.map (·.1) = stored.map (·.1))
    (h : List.Forall₂ StoredAs (entries.map (·.2)) (stored.map (·.2))) :
    StoredAs (.map entries) (.map stored)
  | same (h : v.isStoredSame) : StoredAs v v

def EntryStoredAs (entry stored : Value × Value) : Prop :=
  entry.1 = stored.1 ∧ entry.2.StoredAs stored.2

theorem storedAs_map {entries stored : Entries} :
    (map entries).StoredAs (.map stored) ↔ List.Forall₂ EntryStoredAs entries stored := by
  constructor
  · intro h
    cases h with
    | same h => cases h
    | map hkeys h =>
      induction entries generalizing stored with
      | nil =>
        cases stored with
        | nil => exact .nil
        | cons => cases hkeys
      | cons entry rest ih =>
        cases stored with
        | nil => cases hkeys
        | cons kept stored =>
          rw [List.map_cons, List.map_cons] at hkeys h
          obtain ⟨hkey, hkeys⟩ := List.cons.inj hkeys
          cases h with
          | cons hv h => exact .cons ⟨hkey, hv⟩ (ih hkeys h)
  · intro h
    induction h with
    | nil => exact .map rfl .nil
    | cons hentry _ ih =>
      cases ih with
      | same h => cases h
      | map hkeys h =>
        refine .map ?_ (.cons hentry.2 h)
        rw [List.map_cons, List.map_cons, hentry.1, hkeys]

theorem forall_mem_iff_of_forall₂ {r : α → β → Prop} {xs : List α} {ys : List β} {P : α → Prop}
    {Q : β → Prop} (h : List.Forall₂ r xs ys) (hiff : ∀ x ∈ xs, ∀ y, r x y → (Q y ↔ P x)) :
    (∀ y ∈ ys, Q y) ↔ ∀ x ∈ xs, P x := by
  induction h with
  | nil => simp
  | cons hhead _ ih =>
    rw [List.forall_mem_cons] at hiff
    rw [List.forall_mem_cons, List.forall_mem_cons, hiff.1 _ hhead, ih hiff.2]

theorem sizeOf_lt_map {entries : Entries} {v : Value} (h : v ∈ entries.map (·.2)) :
    sizeOf v < sizeOf (Value.map entries) := by
  obtain ⟨⟨key, v⟩, he, rfl⟩ := List.mem_map.mp h
  have hlt := List.sizeOf_lt_of_mem he
  rw [Prod.mk.sizeOf_spec] at hlt
  rw [map.sizeOf_spec]
  dsimp only
  omega

/-- What is stored is in the types of the store, but for what stands within tuples. -/
theorem StoredAs.each_iff {v w : Value} (h : v.StoredAs w) :
    w.Each InStore q ↔ v.Each OfAnyType q := by
  cases h with
  | decimal h => exact iff_of_true (.atom rfl trivial) (.atom rfl trivial)
  | uuid id => exact iff_of_true (.atom rfl trivial) (.atom rfl trivial)
  | list h =>
    rw [each_list, each_list]
    exact forall_mem_iff_of_forall₂ h fun v hv w hw => hw.each_iff
  | @map entries stored hkeys h =>
    have hvalues := forall_mem_iff_of_forall₂ h fun v hv w hw => hw.each_iff
    rw [each_map, each_map]
    rwa [List.forall_mem_map, List.forall_mem_map] at hvalues
  | same h =>
    cases v with
    | tuple items => rw [each_tuple, each_tuple]
    | decimal | uuid | list | map => cases h
    | fraction | model | expression => exact ⟨fun h => (nomatch h), fun h => (nomatch h)⟩
    | _ => exact iff_of_true (.atom rfl trivial) (.atom rfl trivial)
termination_by sizeOf v
decreasing_by all_goals first | exact sizeOf_lt_map hv | decreasing_tactic

end Value

-- ---------------------------------------------------------------------------
-- Plain form
-- ---------------------------------------------------------------------------

namespace Entries

variable {P : Value → Prop} {entries more merged : Entries} {key v : Value}

theorem forall_put (h : ∀ entry ∈ entries, P entry.2) (hv : P v) :
    ∀ entry ∈ put entries key v, P entry.2 := by
  induction entries with
  | nil => exact List.forall_mem_singleton.mpr hv
  | cons entry rest ih =>
    rw [List.forall_mem_cons] at h
    rw [put]
    split
    · exact List.forall_mem_cons.mpr ⟨hv, h.2⟩
    · exact List.forall_mem_cons.mpr ⟨h.1, ih h.2⟩

theorem forall_putAll (h : ∀ entry ∈ entries, P entry.2) (hmore : ∀ entry ∈ more, P entry.2)
    (hput : entries.putAll more = .ok merged) : ∀ entry ∈ merged, P entry.2 := by
  induction more generalizing entries with
  | nil =>
    cases hput
    exact h
  | cons entry more ih =>
    rw [List.forall_mem_cons] at hmore
    rw [putAll] at hput
    split at hput
    · exact ih (forall_put h hmore.1) hmore.2 hput
    · cases hput

theorem forall_get? (h : ∀ entry ∈ entries, P entry.2) (hget : entries.get? key = some v) :
    P v := by
  obtain ⟨entry, hentry, rfl⟩ := Option.map_eq_some_iff.mp hget
  exact h entry (List.mem_of_find?_eq_some hentry)

end Entries

/-- A value that is made of others only by lists, tuples and maps, and holds no fraction. -/
def Value.InPlainForm (v : Value) : Prop := v.Each OfAnyType OfAnyType

namespace Model

mutual
theorem plainValue_inPlainForm {v w : Value} (h : plainValue v = .ok w) : w.InPlainForm := by
  cases v with
  | fraction q =>
    obtain ⟨text, -, h⟩ := bind_ok_iff.mp h
    cases h
    exact .atom rfl trivial
  | list items =>
    obtain ⟨plain, hplain, h⟩ := bind_ok_iff.mp h
    cases h
    exact .list (plainValues_inPlainForm hplain)
  | tuple items =>
    obtain ⟨plain, hplain, h⟩ := bind_ok_iff.mp h
    cases h
    exact .tuple (plainValues_inPlainForm hplain)
  | map entries =>
    obtain ⟨plain, hplain, h⟩ := bind_ok_iff.mp h
    obtain ⟨merged, hmerged, h⟩ := bind_ok_iff.mp h
    cases h
    have hentries := plainEntries_inPlainForm hplain
    exact .map (Entries.forall_putAll (List.forall_mem_nil _) hentries hmerged)
  | model schema fields =>
    obtain ⟨plain, hplain, h⟩ := bind_ok_iff.mp h
    cases h
    exact .map (plainFields_inPlainForm hplain)
  | expression conditions =>
    obtain ⟨plain, hplain, h⟩ := bind_ok_iff.mp h
    cases h
    exact .map (List.forall_mem_singleton.mpr (.tuple (plainConditions_inPlainForm hplain)))
  | _ =>
    cases h
    exact .atom rfl trivial
termination_by structural v

theorem plainValues_inPlainForm {items plain : List Value} (h : plainValues items = .ok plain) :
    ∀ v ∈ plain, v.InPlainForm := by
  cases items with
  | nil =>
    cases h
    exact List.forall_mem_nil _
  | cons v rest =>
    obtain ⟨w, hw, h⟩ := bind_ok_iff.mp h
    obtain ⟨more, hmore, h⟩ := bind_ok_iff.mp h
    cases h
    exact List.forall_mem_cons.mpr ⟨plainValue_inPlainForm hw, plainValues_inPlainForm hmore⟩
termination_by structural items

theorem plainEntries_inPlainForm {entries plain : List (Value × Value)}
    (h : plainEntries entries = .ok plain) : ∀ entry ∈ plain, entry.2.InPlainForm := by
  cases entries with
  | nil =>
    cases h
    exact List.forall_mem_nil _
  | cons entry rest =>
    obtain ⟨key, v⟩ := entry
    obtain ⟨plainKey, _, h⟩ := bind_ok_iff.mp h
    obtain ⟨w, hw, h⟩ := bind_ok_iff.mp h
    obtain ⟨more, hmore, h⟩ := bind_ok_iff.mp h
    cases h
    exact List.forall_mem_cons.mpr ⟨plainValue_inPlainForm hw, plainEntries_inPlainForm hmore⟩
termination_by structural entries

theorem plainFields_inPlainForm {fields : List (String × Value)} {plain : Entries}
    (h : plainFields fields = .ok plain) : ∀ entry ∈ plain, entry.2.InPlainForm := by
  cases fields with
  | nil =>
    cases h
    exact List.forall_mem_nil _
  | cons field rest =>
    obtain ⟨name, v⟩ := field
    obtain ⟨w, hw, h⟩ := bind_ok_iff.mp h
    obtain ⟨more, hmore, h⟩ := bind_ok_iff.mp h
    cases h
    exact List.forall_mem_cons.mpr ⟨plainValue_inPlainForm hw, plainFields_inPlainForm hmore⟩
termination_by structural fields

theorem plainConditions_inPlainForm {conditions : List Condition} {plain : List Value}
    (h : plainConditions conditions = .ok plain) : ∀ v ∈ plain, v.InPlainForm := by
  cases conditions with
  | nil =>
    cases h
    exact List.forall_mem_nil _
  | cons condition rest =>
    obtain ⟨w, hw, h⟩ := bind_ok_iff.mp h
    obtain ⟨more, hmore, h⟩ := bind_ok_iff.mp h
    cases h
    exact List.forall_mem_cons.mpr
      ⟨plainCondition_inPlainForm hw, plainConditions_inPlainForm hmore⟩
termination_by structural conditions

theorem plainCondition_inPlainForm {condition : Condition} {w : Value}
    (h : plainCondition condition = .ok w) : w.InPlainForm := by
  have hname (s : String) : (Value.str s).InPlainForm := .atom rfl trivial
  cases condition with
  | literal field v =>
    obtain ⟨plain, hplain, h⟩ := bind_ok_iff.mp h
    cases h
    exact .map (List.forall_mem_cons.mpr ⟨hname field,
      List.forall_mem_singleton.mpr (plainValue_inPlainForm hplain)⟩)
  | operator field name operand =>
    obtain ⟨plain, hplain, h⟩ := bind_ok_iff.mp h
    cases h
    exact .map (List.forall_mem_cons.mpr ⟨hname field, List.forall_mem_cons.mpr ⟨hname name,
      List.forall_mem_singleton.mpr (plainValue_inPlainForm hplain)⟩⟩)
  | logical combinator branches =>
    obtain ⟨plain, hplain, h⟩ := bind_ok_iff.mp h
    cases h
    exact .map (List.forall_mem_cons.mpr ⟨hname combinator.name,
      List.forall_mem_singleton.mpr (.tuple (plainBranches_inPlainForm hplain))⟩)
termination_by structural condition

theorem plainBranches_inPlainForm {branches : List (List Condition)} {plain : List Value}
    (h : plainBranches branches = .ok plain) : ∀ v ∈ plain, v.InPlainForm := by
  cases branches with
  | nil =>
    cases h
    exact List.forall_mem_nil _
  | cons conditions rest =>
    obtain ⟨items, hitems, h⟩ := bind_ok_iff.mp h
    obtain ⟨more, hmore, h⟩ := bind_ok_iff.mp h
    cases h
    exact List.forall_mem_cons.mpr
      ⟨.map (List.forall_mem_singleton.mpr (.tuple (plainConditions_inPlainForm hitems))),
        plainBranches_inPlainForm hmore⟩
termination_by structural branches
end

-- ---------------------------------------------------------------------------
-- Types of the store
-- ---------------------------------------------------------------------------

mutual
theorem storedValue_storedAs {v w : Value} (h : storedValue v = .ok w) : v.StoredAs w := by
  cases v with
  | uuid id =>
    cases h
    exact .uuid id
  | decimal d =>
    obtain ⟨e, he, h⟩ := bind_ok_iff.mp h
    cases h
    exact .decimal (Decimal.toInterchange_sameValue he)
  | list items =>
    obtain ⟨stored, hstored, h⟩ := bind_ok_iff.mp h
    cases h
    exact .list (storedValues_storedAs hstored)
  | map entries =>
    obtain ⟨stored, hstored, h⟩ := bind_ok_iff.mp h
    cases h
    exact Value.storedAs_map.mpr (storedEntries_storedAs hstored)
  | _ =>
    cases h
    exact .same rfl
termination_by structural v

theorem storedValues_storedAs {items stored : List Value} (h : storedValues items = .ok stored) :
    List.Forall₂ Value.StoredAs items stored := by
  cases items with
  | nil =>
    cases h
    exact .nil
  | cons v rest =>
    obtain ⟨w, hw, h⟩ := bind_ok_iff.mp h
    obtain ⟨more, hmore, h⟩ := bind_ok_iff.mp h
    cases h
    exact .cons (storedValue_storedAs hw) (storedValues_storedAs hmore)
termination_by structural items

theorem storedEntries_storedAs {entries stored : List (Value × Value)}
    (h : storedEntries entries = .ok stored) :
    List.Forall₂ Value.EntryStoredAs entries stored := by
  cases entries with
  | nil =>
    cases h
    exact .nil
  | cons entry rest =>
    obtain ⟨key, v⟩ := entry
    obtain ⟨w, hw, h⟩ := bind_ok_iff.mp h
    obtain ⟨more, hmore, h⟩ := bind_ok_iff.mp h
    cases h
    exact .cons ⟨rfl, storedValue_storedAs hw⟩ (storedEntries_storedAs hmore)
termination_by structural entries
end

-- ---------------------------------------------------------------------------
-- The id
-- ---------------------------------------------------------------------------

theorem not_isHexId_uuid (id : Uuid) : ¬ IsHexId id.text := by
  intro h
  have hmem : '-' ∈ id.text.toList := by
    rw [Uuid.text, String.toList_ofList, Uuid.group]
    simp
  exact absurd (h.2 _ hmem) (by decide)

theorem storedAs_id {v w : Value} (h : v.StoredAs w) :
    (v.objectId?.elim v .objectId).StoredAs (w.objectId?.elim w .objectId) := by
  cases h with
  | uuid id =>
    have hnone : (Value.str id.text).objectId? = none := by
      rw [Value.objectId?, ofText?_eq_none]
      exact not_isHexId_uuid id
    rw [hnone]
    exact .uuid id
  | same h =>
    cases hid : v.objectId? with
    | none => exact .same h
    | some oid => exact .same rfl
  | decimal h => exact .decimal h
  | list h => exact .list h
  | map hkeys h => exact .map hkeys h

theorem none_of_rel {r : α → β → Prop} (h : Option.Rel r none b?) : b? = none := by
  cases h
  rfl

theorem some_of_rel {r : α → β → Prop} (h : Option.Rel r (some a) b?) :
    ∃ b, b? = some b ∧ r a b := by
  cases h with
  | some hb => exact ⟨_, rfl, hb⟩

theorem isNull_storedAs {v w : Value} (h : v.StoredAs w) : v.isNull = w.isNull := by
  cases h <;> rfl

section

variable {entries stored : Entries} (h : List.Forall₂ Value.EntryStoredAs entries stored)

include h

theorem get?_storedAs (key : Value) :
    Option.Rel Value.StoredAs (entries.get? key) (stored.get? key) := by
  induction h with
  | nil => exact .none
  | @cons entry kept entries stored hentry _ ih =>
    obtain ⟨k, v⟩ := entry
    obtain ⟨k', w⟩ := kept
    obtain ⟨rfl, hv⟩ := hentry
    rw [Entries.get?_cons, Entries.get?_cons]
    split
    · exact .some hv
    · exact ih

theorem erase_storedAs (key : Value) :
    List.Forall₂ Value.EntryStoredAs (entries.erase key) (stored.erase key) := by
  induction h with
  | nil => exact .nil
  | @cons entry kept entries stored hentry _ ih =>
    obtain ⟨k, v⟩ := entry
    obtain ⟨k', w⟩ := kept
    obtain ⟨rfl, hvalue⟩ := hentry
    rw [Entries.erase, Entries.erase, List.filter_cons, List.filter_cons]
    dsimp only
    split
    · exact .cons ⟨rfl, hvalue⟩ ih
    · exact ih

theorem put_storedAs (key : Value) (hv : v.StoredAs w) :
    List.Forall₂ Value.EntryStoredAs (entries.put key v) (stored.put key w) := by
  induction h with
  | nil => exact .cons ⟨rfl, hv⟩ .nil
  | @cons entry kept entries stored hentry hrest ih =>
    obtain ⟨k, v⟩ := entry
    obtain ⟨k', w⟩ := kept
    obtain ⟨rfl, hvalue⟩ := hentry
    rw [Entries.put, Entries.put]
    split
    · exact .cons ⟨rfl, hv⟩ hrest
    · exact .cons ⟨rfl, hvalue⟩ ih

/-- It does not matter whether the id is moved before or after its value is stored. -/
theorem nameId_storedAs (idField : String) :
    List.Forall₂ Value.EntryStoredAs (nameId idField entries) (nameId idField stored) := by
  have hget := get?_storedAs h (.str idField)
  rw [nameId, nameId]
  cases hv : entries.get? (.str idField) with
  | none =>
    rw [hv] at hget
    rw [none_of_rel hget]
    exact h
  | some v =>
    rw [hv] at hget
    obtain ⟨w, hw, hstored⟩ := some_of_rel hget
    have hrest := erase_storedAs h (.str idField)
    rw [hw]
    dsimp only
    rw [isNull_storedAs hstored]
    split
    · exact hrest
    · exact put_storedAs hrest idKey (storedAs_id hstored)

end

theorem nameId_inPlainForm {entries : Entries} (h : ∀ entry ∈ entries, entry.2.InPlainForm)
    (idField : String) : ∀ entry ∈ nameId idField entries, entry.2.InPlainForm := by
  rw [nameId]
  cases hv : entries.get? (.str idField) with
  | none => exact h
  | some v =>
    have hrest : ∀ entry ∈ entries.erase (.str idField), entry.2.InPlainForm :=
      fun entry he => h entry (List.mem_filter.mp he).1
    dsimp only
    split
    · exact hrest
    · refine Entries.forall_put hrest ?_
      cases v.objectId? with
      | none => exact Entries.forall_get? h hv
      | some oid => exact .atom rfl trivial

-- ---------------------------------------------------------------------------
-- Documents
-- ---------------------------------------------------------------------------

/-- A document is the plain form of a model, with its id named, and with every value in a
type of the store. No decimal and no unique id is left outside tuples, and none at all
exactly if the plain form has none within tuples. -/
theorem document_stored (idField : String) (fields : Fields) (document : Entries)
    (h : toDocument idField fields = .ok document) :
    ∃ plain, plainFields fields = .ok plain ∧
      (Value.map (nameId idField plain)).StoredAs (.map document) ∧
      (Value.map document).Each Value.InStore Value.OfAnyType ∧
      ((Value.map document).Each Value.InStore Value.InStore ↔
        (Value.map (nameId idField plain)).Each Value.OfAnyType Value.InStore) := by
  obtain ⟨plain, hplain, h⟩ := bind_ok_iff.mp h
  obtain ⟨stored, hstored, h⟩ := bind_ok_iff.mp h
  cases h
  have hkept : (Value.map (nameId idField plain)).StoredAs (.map (nameId idField stored)) :=
    Value.storedAs_map.mpr (nameId_storedAs (storedEntries_storedAs hstored) idField)
  have hform : (Value.map (nameId idField plain)).InPlainForm :=
    .map (nameId_inPlainForm (plainFields_inPlainForm hplain) idField)
  exact ⟨plain, hplain, hkept, hkept.each_iff.mpr hform, hkept.each_iff⟩

theorem document_stored_nested :
    let fields : Fields := [("t", .tuple [.str "a"]),
      ("m", .model .record [("x", .list [.decimal (.finite true 1 6112), .uuid ⟨5⟩])])]
    let document : Entries := [(.str "t", .tuple [.str "a"]),
      (.str "m", .map [(.str "x", .list [.decimal128 ⟨.finite true 10 6111, by decide, by decide, by decide⟩,
        .str "00000000-0000-0000-0000-000000000005"])])]
    toDocument "id" fields = .ok document ∧
      (Value.map document).Each Value.InStore Value.InStore := by
  intro fields document
  have hdecimal : (Decimal.finite true 1 6112).toInterchange =
      .ok ⟨.finite true 10 6111, by decide, by decide, by decide⟩ :=
    Decimal.toInterchange_finite.mpr (by decide +kernel)
  have huuid : Uuid.text ⟨5⟩ = "00000000-0000-0000-0000-000000000005" := by decide +kernel
  have hplain : plainFields fields = .ok (Entries.ofFields [("t", .tuple [.str "a"]),
      ("m", .map [(.str "x", .list [.decimal (.finite true 1 6112), .uuid ⟨5⟩])])]) := rfl
  have h : toDocument "id" fields = .ok (nameId "id" document) := by
    simp only [toDocument, hplain, bind, Except.bind, Entries.ofFields, List.map_cons, List.map_nil,
      storedEntries, storedValue, storedValues, hdecimal, huuid]
    rfl
  have hname : nameId "id" document = document := nameId_ofFields "id" [("t", _), ("m", _)]
  rw [hname] at h
  obtain ⟨plain, hplain', -, -, hsafe⟩ := document_stored "id" fields document h
  cases hplain.symm.trans hplain'
  rw [nameId_ofFields] at hsafe
  refine ⟨h, hsafe.mpr ?_⟩
  change (Value.map [(.str "t", _), (.str "m", _)]).Each _ _
  simp only [Value.each_map, Value.each_list, Value.each_tuple, List.forall_mem_cons,
    List.not_mem_nil, false_implies, implies_true, and_true]
  exact ⟨.atom rfl trivial, .atom rfl trivial, .atom rfl trivial⟩

/-- A decimal and a unique id within a tuple are left as they are. -/
theorem tuple_left :
    let t : Value := .tuple [.decimal (.finite false 15 (-1)), .uuid ⟨5⟩]
    toDocument "id" [("x", t)] = .ok [(.str "x", t)] ∧
      ¬ (Value.map [(.str "x", t)]).Each Value.InStore Value.InStore := by
  intro t
  have hstored : toDocument "id" [("x", t)] = .ok (nameId "id" (Entries.ofFields [("x", t)])) := rfl
  refine ⟨?_, fun h => ?_⟩
  · rw [hstored, nameId_ofFields]
    rfl
  have ht : t.Each Value.InStore Value.InStore :=
    Value.each_map.mp h (.str "x", t) List.mem_cons_self
  have hd := Value.each_tuple.mp ht (.decimal (.finite false 15 (-1))) List.mem_cons_self
  exact (Value.each_atom rfl).mp hd

end Model

end DocQuery
