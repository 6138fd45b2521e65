import DocQuery.Proofs.Document.RoundTrip

/-!
# From documents to records and back

A record that was read from a document becomes that document again, value by value at any
depth, as long as the document has only types of the store and the plain form of the record
loses nothing: `document_restored`. The id moves to the end.
-/

namespace DocQuery

/-- Values of types that a store has and a model has not, or has for others of its own,
outside tuples. -/
inductive Value.IsLoadable : Value → Prop
  | same (h : v.isStoredAsIs) : IsLoadable v
  | decimal128 (d : Decimal128) : IsLoadable (.decimal128 d)
  | list {items : List Value} (h : ∀ v ∈ items, IsLoadable v) : IsLoadable (.list items)
  | map {entries : Entries} (h : ∀ entry ∈ entries, IsLoadable entry.2) : IsLoadable (.map entries)

namespace Model

-- ---------------------------------------------------------------------------
-- Loaded values
-- ---------------------------------------------------------------------------

theorem loadedValues_eq_map (items : List Value) : loadedValues items = items.map loadedValue := by
  induction items with
  | nil => rfl
  | cons v rest ih => rw [loadedValues, ih, List.map_cons]

theorem loadedEntries_eq_map (entries : Entries) :
    loadedEntries entries = entries.map fun (key, v) => (key, loadedValue v) := by
  induction entries with
  | nil => rfl
  | cons entry rest ih => rw [loadedEntries, ih, List.map_cons]

theorem isData_loadedValue (h : v.IsData) : (loadedValue v).IsData := by
  induction h with
  | @atom v h => cases v <;> first | exact .atom rfl | cases h
  | list _ ih =>
    rw [loadedValue, loadedValues_eq_map]
    exact .list (List.forall_mem_map.mpr ih)
  | tuple h => exact .tuple h
  | map hkeys hdistinct hk _ _ ihv =>
    rw [loadedValue, loadedEntries_eq_map]
    exact .map (List.forall_mem_map.mpr hkeys) (List.pairwise_map.mpr hdistinct)
      (List.forall_mem_map.mpr hk) (List.forall_mem_map.mpr ihv)

theorem storedValues_loadedValues {items : List Value}
    (h : ∀ v ∈ items, storedValue (loadedValue v) = .ok v) :
    storedValues (loadedValues items) = .ok items := by
  induction items with
  | nil => rfl
  | cons v rest ih =>
    rw [List.forall_mem_cons] at h
    simp only [loadedValues, storedValues, h.1, ih h.2]
    rfl

theorem storedEntries_loadedEntries {entries stored : Entries}
    (h : List.Forall₂ (fun entry kept => entry.1 = kept.1 ∧
      storedValue (loadedValue entry.2) = .ok kept.2) entries stored) :
    storedEntries (loadedEntries entries) = .ok stored := by
  induction h with
  | nil => rfl
  | cons hentry _ ih =>
    simp only [loadedEntries, storedEntries, hentry.2, ih, hentry.1]
    rfl

theorem storedEntries_self {entries : Entries}
    (h : ∀ entry ∈ entries, storedValue (loadedValue entry.2) = .ok entry.2) :
    storedEntries (loadedEntries entries) = .ok entries :=
  storedEntries_loadedEntries (List.forall₂_same.mpr fun entry he => ⟨rfl, h entry he⟩)

theorem storedValue_loadedValue (h : v.IsLoadable) : storedValue (loadedValue v) = .ok v := by
  induction h with
  | @same v h => cases v <;> first | rfl | cases h
  | decimal128 d =>
    simp only [loadedValue, storedValue, d.isInterchange.kept]
    rfl
  | list _ ih =>
    simp only [loadedValue, storedValue, storedValues_loadedValues ih]
    rfl
  | map _ ih =>
    simp only [loadedValue, storedValue, storedEntries_self ih]
    rfl

-- ---------------------------------------------------------------------------
-- The id
-- ---------------------------------------------------------------------------

/-- The fields of a document with its id, if there is one, as the last of them. -/
def idLast (fields : Fields) : Fields :=
  match Assoc.lookup "_id" fields with
  | none => fields
  | some v => Assoc.remove fields "_id" ++ [("_id", v)]

theorem objectId?_of_not_isHexId {v : Value} (hoid : ∀ oid, v ≠ .objectId oid)
    (hhex : ∀ s, v = .str s → ¬ IsHexId s) : v.objectId? = none := by
  rw [Value.objectId?_eq_none]
  rintro (⟨oid, rfl⟩ | ⟨s, rfl, hs⟩)
  · exact hoid oid rfl
  · exact hhex s rfl hs

/-- An id that is neither null nor the digits of an object id is loaded as one that is
stored, and named, as itself. -/
theorem storedValue_id {v : Value} (hv : v.IsLoadable ∨ ∃ oid, v = .objectId oid)
    (hnull : v ≠ .null) (hhex : ∀ s, v = .str s → ¬ IsHexId s) :
    ∃ w, storedValue (loadedValue v) = .ok w ∧ w.isNull = false ∧
      w.objectId?.elim w .objectId = v := by
  rcases hv with hv | ⟨oid, rfl⟩
  · have hnone : v.objectId? = none := by
      refine objectId?_of_not_isHexId (fun oid ho => ?_) hhex
      subst ho
      cases hv with
      | same h => cases h
    refine ⟨v, storedValue_loadedValue hv, ?_, by rw [hnone]; rfl⟩
    cases v <;> first | rfl | exact absurd rfl hnull
  · refine ⟨.str oid.text, rfl, rfl, ?_⟩
    have hread : (Value.str oid.text).objectId? = some oid :=
      Value.objectId?_eq_some.mpr (Value.names_text oid)
    rw [hread]
    rfl

theorem namedFields_fresh (hfresh : idField ∉ Assoc.keys fields) :
    namedFields idField fields = fields := by
  rw [namedFields, Assoc.lookup_fresh hfresh]

theorem namedFields_id (hkey : "_id" ∉ Assoc.keys fields) (hfresh : idField ∉ Assoc.keys fields)
    (hnull : w.isNull = false) : namedFields idField (fields ++ [(idField, w)]) =
      fields ++ [("_id", w.objectId?.elim w .objectId)] := by
  have hlookup : Assoc.lookup idField (fields ++ [(idField, w)]) = some w := by
    rw [Assoc.lookup_append, Assoc.lookup_fresh hfresh, Option.none_or, Assoc.lookup, if_pos rfl]
  have hremove : Assoc.remove (fields ++ [(idField, w)]) idField = fields := by
    rw [Assoc.remove, List.filter_append, ← Assoc.remove, Assoc.remove_fresh hfresh]
    simp
  rw [namedFields, hlookup]
  dsimp only
  rw [hremove, hnull, if_neg Bool.false_ne_true, Assoc.assign_fresh hkey]

theorem unnamedFields_of_lookup (hfresh : idField ∉ Assoc.keys fields)
    (hlookup : Assoc.lookup "_id" fields = some v) :
    unnamedFields idField fields = Assoc.remove fields "_id" ++ [(idField, v)] := by
  rw [unnamedFields, hlookup, ← Assoc.assign_fresh (Assoc.fresh_remove_of_fresh hfresh "_id")]

-- ---------------------------------------------------------------------------
-- Round trip
-- ---------------------------------------------------------------------------

theorem toDocument_loadedFields (hdata : ∀ field ∈ fields, field.2.IsData)
    (hstored : storedEntries (loadedEntries (Entries.ofFields fields)) =
      .ok (Entries.ofFields stored)) :
    toDocument idField (loadedFields fields) =
      .ok (Entries.ofFields (namedFields idField stored)) := by
  have hloaded : ∀ field ∈ loadedFields fields, field.2.IsData :=
    List.forall_mem_map.mpr fun field hf => isData_loadedValue (hdata field hf)
  rw [loadedEntries_ofFields] at hstored
  simp only [toDocument, plainFields_self hloaded, bind, Except.bind, hstored, nameId_ofFields]
  rfl

theorem storedEntries_append (name : String)
    (hself : ∀ field ∈ fields, storedValue (loadedValue field.2) = .ok field.2)
    (hw : storedValue (loadedValue v) = .ok w) :
    storedEntries (loadedEntries (Entries.ofFields (fields ++ [(name, v)]))) =
      .ok (Entries.ofFields (fields ++ [(name, w)])) := by
  refine storedEntries_loadedEntries ?_
  rw [Entries.ofFields, Entries.ofFields, List.map_append, List.map_append]
  refine List.rel_append (List.forall₂_same.mpr ?_) (.cons ⟨rfl, hw⟩ .nil)
  exact List.forall_mem_map.mpr fun field hf => ⟨rfl, hself field hf⟩

/-- A document whose values survive is read into a record, and the record becomes the
document again, with its id at the end. -/
theorem document_restored (idField : String) (document : Fields)
    (hfresh : idField ∉ Assoc.keys document) (hdata : ∀ field ∈ document, field.2.IsData)
    (hloadable : ∀ field ∈ document,
      field.2.IsLoadable ∨ field.1 = "_id" ∧ ∃ oid, field.2 = .objectId oid)
    (hid : ∀ v, Assoc.lookup "_id" document = some v →
      v ≠ .null ∧ ∀ s, v = .str s → ¬ IsHexId s) :
    ∃ fields, ofDocument .record idField (.map (Entries.ofFields document)) =
        .ok (.model .record fields) ∧
      toDocument idField fields = .ok (Entries.ofFields (idLast document)) := by
  refine ⟨_, ofDocument_ofFields idField document, ?_⟩
  have hself : ∀ field ∈ document, field.1 ≠ "_id" →
      storedValue (loadedValue field.2) = .ok field.2 := fun field hf hne =>
    storedValue_loadedValue ((hloadable field hf).resolve_right fun h => hne h.1)
  cases hlookup : Assoc.lookup "_id" document with
  | none =>
    have hkey := Assoc.fresh_of_lookup hlookup
    have hstored : storedEntries (loadedEntries (Entries.ofFields document)) =
        .ok (Entries.ofFields document) := by
      refine storedEntries_self (List.forall_mem_map.mpr fun field hf => hself field hf fun h => ?_)
      exact hkey (h ▸ List.mem_map_of_mem hf)
    rw [unnamedFields_fresh hkey, toDocument_loadedFields hdata hstored,
      namedFields_fresh hfresh, idLast, hlookup]
  | some v =>
    have hmem : ("_id", v) ∈ document := Assoc.mem_of_lookup hlookup
    obtain ⟨hnull, hhex⟩ := hid v hlookup
    obtain ⟨w, hw, hwnull, hwid⟩ := storedValue_id ((hloadable _ hmem).imp_right (·.2)) hnull hhex
    have hrest : ∀ field ∈ Assoc.remove document "_id", field ∈ document ∧ field.1 ≠ "_id" :=
      fun field hf => (List.mem_filter.mp hf).imp_right of_decide_eq_true
    have hstored := storedEntries_append idField
      (fun field hf => hself field (hrest field hf).1 (hrest field hf).2) hw
    have hdata' : ∀ field ∈ Assoc.remove document "_id" ++ [(idField, v)], field.2.IsData :=
      List.forall_mem_append.mpr ⟨fun field hf => hdata field (hrest field hf).1,
        List.forall_mem_singleton.mpr (hdata ("_id", v) hmem)⟩
    rw [unnamedFields_of_lookup hfresh hlookup, toDocument_loadedFields hdata' hstored,
      namedFields_id (Assoc.fresh_remove document "_id")
        (Assoc.fresh_remove_of_fresh hfresh "_id") hwnull, hwid, idLast, hlookup]

theorem document_restored_nested :
    let oid : ObjectId := ⟨"65a1b2c3d4e5f60718293a4b", by decide +kernel⟩
    let nested : Value := .map [(.int 1, .list [.decimal128 ⟨.finite true 150 (-2), by decide, by decide, by decide⟩,
      .tuple [.uuid ⟨5⟩]])]
    let document : Fields := [("_id", .objectId oid), ("x", .null), ("m", nested)]
    "key" ∉ Assoc.keys document ∧ (∀ field ∈ document, field.2.IsData) ∧
      (∀ field ∈ document,
        field.2.IsLoadable ∨ field.1 = "_id" ∧ ∃ oid, field.2 = .objectId oid) ∧
      ∃ fields, ofDocument .record "key" (.map (Entries.ofFields document)) =
          .ok (.model .record fields) ∧
        toDocument "key" fields =
          .ok [(.str "x", .null), (.str "m", nested), (.str "_id", .objectId oid)] := by
  intro oid nested document
  have hfresh : "key" ∉ Assoc.keys document := by
    change "key" ∉ ["_id", "x", "m"]
    decide
  have hnested : nested.IsData :=
    .map (List.forall_mem_singleton.mpr rfl) (List.pairwise_singleton ..)
      (List.forall_mem_singleton.mpr (.atom rfl)) (List.forall_mem_singleton.mpr
        (.list (List.forall_mem_cons.mpr ⟨.atom rfl, List.forall_mem_singleton.mpr
          (.tuple (List.forall_mem_singleton.mpr (.atom rfl)))⟩)))
  have hdata : ∀ field ∈ document, field.2.IsData :=
    List.forall_mem_cons.mpr ⟨.atom rfl, List.forall_mem_cons.mpr
      ⟨.atom rfl, List.forall_mem_singleton.mpr hnested⟩⟩
  have hkept : nested.IsLoadable :=
    .map (List.forall_mem_singleton.mpr (.list (List.forall_mem_cons.mpr
      ⟨.decimal128 _, List.forall_mem_singleton.mpr (.same rfl)⟩)))
  have hloadable : ∀ field ∈ document,
      field.2.IsLoadable ∨ field.1 = "_id" ∧ ∃ oid, field.2 = .objectId oid :=
    List.forall_mem_cons.mpr ⟨.inr ⟨rfl, oid, rfl⟩, List.forall_mem_cons.mpr
      ⟨.inl (.same rfl), List.forall_mem_singleton.mpr (.inl hkept)⟩⟩
  have hid : ∀ v, Assoc.lookup "_id" document = some v →
      v ≠ .null ∧ ∀ s, v = .str s → ¬ IsHexId s := by
    intro v hv
    cases hv
    exact ⟨fun h => (nomatch h), fun s h => (nomatch h)⟩
  exact ⟨hfresh, hdata, hloadable, document_restored "key" document hfresh hdata hloadable hid⟩

/-- A fraction of a document comes back as its text. -/
theorem fraction_not_reloaded :
    (Value.fraction (1 / 2)).IsLoadable ∧
      ofDocument .record "id" (.map [(.str "x", .fraction (1 / 2))]) =
        .ok (.model .record [("x", .fraction (1 / 2))]) ∧
      toDocument "id" [("x", .fraction (1 / 2))] ≠ .ok [(.str "x", .fraction (1 / 2))] := by
  refine ⟨.same rfl, ofDocument_ofFields "id" [("x", .fraction (1 / 2))], fun h => ?_⟩
  cases toDocument_half.symm.trans h

end Model

end DocQuery
