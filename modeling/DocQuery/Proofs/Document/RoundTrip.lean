import DocQuery.Proofs.Number.Interchange
import DocQuery.Proofs.Value.NamedEntries
import DocQuery.Proofs.Value.ObjectId

/-!
# From records to documents and back

A document is read back into the record that it was made of, value by value at any depth,
as long as the plain form of the record loses nothing and the store has the types:
`record_restored`. Only the id may change: it goes to the end, and the digits of an object
id come back in lower case.
-/

namespace DocQuery

-- ---------------------------------------------------------------------------
-- What survives
-- ---------------------------------------------------------------------------

/-- Whether a value without parts is the same in plain form. -/
def Value.isPlainAtom : Value → Bool
  | fraction _ | list _ | tuple _ | map _ | model .. | expression _ => false
  | _ => true

/-- Values that are made of others only by lists, tuples and maps, and hold no fraction;
the keys of maps are such values too, and no two of them are one. -/
inductive Value.IsData : Value → Prop
  | atom (h : v.isPlainAtom) : IsData v
  | list {items : List Value} (h : ∀ v ∈ items, IsData v) : IsData (.list items)
  | tuple {items : List Value} (h : ∀ v ∈ items, IsData v) : IsData (.tuple items)
  | map {entries : Entries} (hkeys : ∀ entry ∈ entries, entry.1.isKey)
    (hdistinct : entries.Pairwise fun entry later => entry.1.sameKey later.1 = false)
    (hk : ∀ entry ∈ entries, IsData entry.1) (hv : ∀ entry ∈ entries, IsData entry.2) :
    IsData (.map entries)

def Value.isStoredAsIs : Value → Bool
  | decimal _ | decimal128 _ | objectId _ | uuid _ | list _ | map _ => false
  | _ => true

/-- Values of types that a document has, or has for their decimals, outside tuples. -/
inductive Value.IsStorable : Value → Prop
  | same (h : v.isStoredAsIs) : IsStorable v
  | decimal (h : d.IsInterchange) : IsStorable (.decimal d)
  | list {items : List Value} (h : ∀ v ∈ items, IsStorable v) : IsStorable (.list items)
  | map {entries : Entries} (h : ∀ entry ∈ entries, IsStorable entry.2) : IsStorable (.map entries)

-- ---------------------------------------------------------------------------
-- Plain form
-- ---------------------------------------------------------------------------

namespace Entries

theorem put_fresh {entries : Entries}
    (h : ∀ entry ∈ entries, entry.1.sameKey key = false) (v : Value) :
    put entries key v = entries ++ [(key, v)] := by
  induction entries with
  | nil => rfl
  | cons entry rest ih =>
    rw [List.forall_mem_cons] at h
    simp [put, h.1, ih h.2]

theorem putAll_of_distinct {entries more : Entries} (hkeys : ∀ entry ∈ more, entry.1.isKey)
    (hdistinct : (entries ++ more).Pairwise fun entry later =>
      entry.1.sameKey later.1 = false) :
    entries.putAll more = .ok (entries ++ more) := by
  induction more generalizing entries with
  | nil => rw [putAll, List.append_nil]
  | cons entry more ih =>
    rw [List.forall_mem_cons] at hkeys
    have hfresh : ∀ earlier ∈ entries, earlier.1.sameKey entry.1 = false :=
      fun earlier he => (List.pairwise_append.mp hdistinct).2.2 earlier he entry List.mem_cons_self
    rw [putAll, if_pos hkeys.1, put_fresh hfresh]
    rw [List.append_cons] at hdistinct
    rw [ih hkeys.2 hdistinct, ← List.append_cons]

end Entries

namespace Model

theorem plainValues_self (h : ∀ v ∈ items, plainValue v = .ok v) :
    plainValues items = .ok items := by
  induction items with
  | nil => rfl
  | cons v rest ih =>
    rw [List.forall_mem_cons] at h
    simp only [plainValues, h.1, ih h.2]
    rfl

theorem plainEntries_self (hk : ∀ entry ∈ entries, plainValue entry.1 = .ok entry.1)
    (hv : ∀ entry ∈ entries, plainValue entry.2 = .ok entry.2) :
    plainEntries entries = .ok entries := by
  induction entries with
  | nil => rfl
  | cons entry rest ih =>
    rw [List.forall_mem_cons] at hk hv
    simp only [plainEntries, hk.1, hv.1, ih hk.2 hv.2]
    rfl

theorem plainValue_self (h : v.IsData) : plainValue v = .ok v := by
  induction h with
  | @atom v h => cases v <;> first | rfl | cases h
  | list _ ih => simp only [plainValue, plainValues_self ih]; rfl
  | tuple _ ih => simp only [plainValue, plainValues_self ih]; rfl
  | map hkeys hdistinct _ _ ihk ihv =>
    -- The keys are put together anew, after each of them was made plain.
    have hput : Entries.putAll [] _ = .ok ([] ++ _) := Entries.putAll_of_distinct hkeys hdistinct
    simp only [plainValue, plainEntries_self ihk ihv, bind, Except.bind, hput]
    rfl

theorem plainFields_self {fields : Fields} (h : ∀ field ∈ fields, field.2.IsData) :
    plainFields fields = .ok (Entries.ofFields fields) := by
  induction fields with
  | nil => rfl
  | cons field rest ih =>
    rw [List.forall_mem_cons] at h
    simp only [plainFields, plainValue_self h.1, ih h.2]
    rfl

-- ---------------------------------------------------------------------------
-- Types of the store
-- ---------------------------------------------------------------------------

/-- A value is stored as one that is loaded as itself. -/
def Restores (v : Value) : Prop := ∃ w, storedValue v = .ok w ∧ loadedValue w = v

theorem storedValues_restored (h : ∀ v ∈ items, Restores v) :
    ∃ stored, storedValues items = .ok stored ∧ loadedValues stored = items := by
  induction items with
  | nil => exact ⟨[], rfl, rfl⟩
  | cons v rest ih =>
    rw [List.forall_mem_cons] at h
    obtain ⟨w, hw, hv⟩ := h.1
    obtain ⟨stored, hs, hrest⟩ := ih h.2
    refine ⟨w :: stored, ?_, ?_⟩
    · simp only [storedValues, hw, hs]
      rfl
    · rw [loadedValues, hv, hrest]

theorem storedEntries_restored (h : ∀ entry ∈ entries, Restores entry.2) :
    ∃ stored, storedEntries entries = .ok stored ∧ loadedEntries stored = entries := by
  induction entries with
  | nil => exact ⟨[], rfl, rfl⟩
  | cons entry rest ih =>
    rw [List.forall_mem_cons] at h
    obtain ⟨w, hw, hv⟩ := h.1
    obtain ⟨stored, hs, hrest⟩ := ih h.2
    refine ⟨(entry.1, w) :: stored, ?_, ?_⟩
    · simp only [storedEntries, hw, hs]
      rfl
    · rw [loadedEntries, hv, hrest]

theorem storedValue_restored (h : v.IsStorable) : Restores v := by
  induction h with
  | @same v h => cases v <;> first | exact ⟨_, rfl, rfl⟩ | cases h
  | decimal h =>
    refine ⟨.decimal128 ⟨_, h⟩, ?_, rfl⟩
    simp only [storedValue, h.kept]
    rfl
  | list _ ih =>
    obtain ⟨stored, hs, hitems⟩ := storedValues_restored ih
    refine ⟨.list stored, ?_, by rw [loadedValue, hitems]⟩
    simp only [storedValue, hs]
    rfl
  | map _ ih =>
    obtain ⟨stored, hs, hentries⟩ := storedEntries_restored ih
    refine ⟨.map stored, ?_, by rw [loadedValue, hentries]⟩
    simp only [storedValue, hs]
    rfl

-- ---------------------------------------------------------------------------
-- The id
-- ---------------------------------------------------------------------------

/-- An id after it was stored and loaded: the digits of an object id are in lower case. -/
def restoredId : Value → Value
  | .str s => if IsHexId s then .str (lowerText s) else .str s
  | v => v

theorem loadedValue_id (v : Value) :
    loadedValue (v.objectId?.elim v .objectId) = restoredId (loadedValue v) := by
  cases v with
  | str s =>
    show loadedValue ((ObjectId.ofText? s).elim (.str s) .objectId) =
      if IsHexId s then .str (lowerText s) else .str s
    cases h : ObjectId.ofText? s with
    | none =>
      rw [if_neg (ofText?_eq_none.mp h)]
      rfl
    | some oid =>
      obtain ⟨hs, htext⟩ := ofText?_eq_some.mp h
      rw [if_pos hs, ← htext]
      rfl
  | objectId oid =>
    show Value.str oid.text = restoredId (.str oid.text)
    rw [restoredId, lowerText_of_isText oid.valid, ite_self]
  | _ => rfl

theorem isNull_loadedValue (v : Value) : (loadedValue v).isNull = v.isNull := by
  cases v <;> rfl

-- ---------------------------------------------------------------------------
-- Fields
-- ---------------------------------------------------------------------------

def loadedFields (fields : Fields) : Fields := fields.map fun (name, v) => (name, loadedValue v)

theorem keys_loadedFields (fields : Fields) :
    Assoc.keys (loadedFields fields) = Assoc.keys fields := by
  simp [Assoc.keys, loadedFields]

theorem loadedEntries_ofFields (fields : Fields) :
    loadedEntries (Entries.ofFields fields) = Entries.ofFields (loadedFields fields) := by
  induction fields with
  | nil => rfl
  | cons field rest ih => exact congrArg _ ih

theorem fieldsOf?_ofFields (fields : Fields) : fieldsOf? (Entries.ofFields fields) = some fields := by
  induction fields with
  | nil => rfl
  | cons field rest ih => exact congrArg _ ih

theorem fields_of_loadedEntries {stored : Entries}
    (h : loadedEntries stored = Entries.ofFields fields) :
    ∃ named, stored = Entries.ofFields named ∧ loadedFields named = fields := by
  induction stored generalizing fields with
  | nil =>
    cases fields with
    | nil => exact ⟨[], rfl, rfl⟩
    | cons => cases h
  | cons entry stored ih =>
    cases fields with
    | nil => cases h
    | cons field fields =>
      obtain ⟨key, w⟩ := entry
      obtain ⟨name, v⟩ := field
      obtain ⟨hhead, hrest⟩ := List.cons.inj h
      obtain ⟨rfl, rfl⟩ := Prod.mk.inj hhead
      obtain ⟨named, rfl, rfl⟩ := ih hrest
      exact ⟨(name, w) :: named, rfl, rfl⟩

def namedFields (idField : String) (fields : Fields) : Fields :=
  match Assoc.lookup idField fields with
  | none => fields
  | some v =>
    let rest := Assoc.remove fields idField
    if v.isNull then rest else Assoc.assign rest "_id" (v.objectId?.elim v .objectId)

theorem nameId_ofFields (idField : String) (fields : Fields) :
    nameId idField (Entries.ofFields fields) = Entries.ofFields (namedFields idField fields) := by
  rw [nameId, Entries.get?_ofFields, namedFields]
  cases Assoc.lookup idField fields with
  | none => rfl
  | some v =>
    dsimp only
    rw [Entries.erase_ofFields, idKey, Entries.put_ofFields]
    split <;> rfl

def unnamedFields (idField : String) (fields : Fields) : Fields :=
  match Assoc.lookup "_id" fields with
  | none => fields
  | some v => Assoc.assign (Assoc.remove fields "_id") idField v

theorem unnameId_ofFields (idField : String) (fields : Fields) :
    unnameId idField (Entries.ofFields fields) =
      Entries.ofFields (unnamedFields idField fields) := by
  rw [unnameId, idKey, Entries.get?_ofFields, unnamedFields]
  cases Assoc.lookup "_id" fields with
  | none => rfl
  | some v =>
    dsimp only
    rw [Entries.erase_ofFields, Entries.put_ofFields]

/-- The fields of a record after it was stored and loaded: an id that is null is left out,
and another one is the last field. -/
def restoredFields (idField : String) (fields : Fields) : Fields :=
  match Assoc.lookup idField fields with
  | none => fields
  | some v =>
    let rest := Assoc.remove fields idField
    if v.isNull then rest else rest ++ [(idField, restoredId v)]

theorem unnamedFields_fresh (hkey : "_id" ∉ Assoc.keys fields) :
    unnamedFields idField fields = fields := by
  rw [unnamedFields, Assoc.lookup_fresh hkey]

theorem unnamedFields_id (hkey : "_id" ∉ Assoc.keys fields) (hid : idField ∉ Assoc.keys fields)
    (v : Value) : unnamedFields idField (Assoc.assign fields "_id" v) = fields ++ [(idField, v)] := by
  have hlookup : Assoc.lookup "_id" (Assoc.assign fields "_id" v) = some v := by
    rw [Assoc.lookup_assign, if_pos rfl]
  have hremove : Assoc.remove (Assoc.assign fields "_id" v) "_id" = fields := by
    rw [Assoc.assign_fresh hkey, Assoc.remove, List.filter_append, ← Assoc.remove,
      Assoc.remove_fresh hkey]
    exact List.append_nil _
  rw [unnamedFields, hlookup]
  dsimp only
  rw [hremove, Assoc.assign_fresh hid]

theorem loadedFields_unnamedFields (hkey : "_id" ∉ Assoc.keys fields) :
    loadedFields (unnamedFields idField (namedFields idField fields)) =
      restoredFields idField (loadedFields fields) := by
  have hlookup : Assoc.lookup idField (loadedFields fields) =
      (Assoc.lookup idField fields).map loadedValue := Assoc.lookup_map loadedValue fields idField
  have hremove : Assoc.remove (loadedFields fields) idField =
      loadedFields (Assoc.remove fields idField) := Assoc.remove_map loadedValue fields idField
  have hrest : "_id" ∉ Assoc.keys (Assoc.remove fields idField) :=
    Assoc.fresh_remove_of_fresh hkey idField
  have hid : idField ∉ Assoc.keys (Assoc.remove fields idField) :=
    Assoc.fresh_remove fields idField
  rw [namedFields, restoredFields, hlookup, hremove]
  cases Assoc.lookup idField fields with
  | none => exact congrArg _ (unnamedFields_fresh hkey)
  | some v =>
    -- Whether the id is null was asked of its stored form.
    simp only [Option.map_some, isNull_loadedValue]
    split
    · exact congrArg _ (unnamedFields_fresh hrest)
    · rw [unnamedFields_id hrest hid, ← loadedValue_id]
      exact List.map_append

theorem ofDocument_ofFields (idField : String) (fields : Fields) :
    ofDocument .record idField (.map (Entries.ofFields fields)) =
      .ok (.model .record (loadedFields (unnamedFields idField fields))) := by
  rw [ofDocument, unnameId_ofFields, loadedEntries_ofFields, validate]
  simp only [fieldsOf?_ofFields]

-- ---------------------------------------------------------------------------
-- Round trip
-- ---------------------------------------------------------------------------

/-- A record whose values survive becomes a document, and the document becomes the record
again, but for the id. -/
theorem record_restored (idField : String) (fields : Fields)
    (hkey : "_id" ∉ Assoc.keys fields) (hdata : ∀ field ∈ fields, field.2.IsData)
    (hstorable : ∀ field ∈ fields, field.2.IsStorable) :
    ∃ document, toDocument idField fields = .ok document ∧
      ofDocument .record idField (.map document) =
        .ok (.model .record (restoredFields idField fields)) := by
  have hrestores : ∀ entry ∈ Entries.ofFields fields, Restores entry.2 := by
    intro entry he
    obtain ⟨field, hf, rfl⟩ := List.mem_map.mp he
    exact storedValue_restored (hstorable field hf)
  obtain ⟨stored, hstored, hloaded⟩ := storedEntries_restored hrestores
  obtain ⟨named, rfl, rfl⟩ := fields_of_loadedEntries hloaded
  rw [keys_loadedFields] at hkey
  refine ⟨Entries.ofFields (namedFields idField named), ?_, ?_⟩
  · simp only [toDocument, plainFields_self hdata, bind, Except.bind, hstored, nameId_ofFields]
    rfl
  · rw [ofDocument_ofFields, loadedFields_unnamedFields hkey]

theorem record_restored_nested :
    let uuid : Uuid := ⟨5⟩
    let nested : Value := .map [(.int 1, .list [.decimal (.finite true 150 (-2)),
      .tuple [.uuid uuid, .decimal (.infinity true)]])]
    let fields : Fields := [("x", .null), ("key", .str "507F1F77BCF86CD799439011"), ("m", nested)]
    "_id" ∉ Assoc.keys fields ∧ (∀ field ∈ fields, field.2.IsData) ∧
      (∀ field ∈ fields, field.2.IsStorable) ∧
      ∃ document, toDocument "key" fields = .ok document ∧
        ofDocument .record "key" (.map document) = .ok (.model .record
          [("x", .null), ("m", nested), ("key", .str "507f1f77bcf86cd799439011")]) := by
  intro uuid nested fields
  have hkey : "_id" ∉ Assoc.keys fields := by decide
  have htuple : (Value.tuple [.uuid uuid, .decimal (.infinity true)]).IsData :=
    .tuple (List.forall_mem_cons.mpr ⟨.atom rfl, List.forall_mem_singleton.mpr (.atom rfl)⟩)
  have hnested : nested.IsData :=
    .map (List.forall_mem_singleton.mpr rfl) (List.pairwise_singleton ..)
      (List.forall_mem_singleton.mpr (.atom rfl)) (List.forall_mem_singleton.mpr
        (.list (List.forall_mem_cons.mpr ⟨.atom rfl, List.forall_mem_singleton.mpr htuple⟩)))
  have hdata : ∀ field ∈ fields, field.2.IsData :=
    List.forall_mem_cons.mpr ⟨.atom rfl, List.forall_mem_cons.mpr
      ⟨.atom rfl, List.forall_mem_singleton.mpr hnested⟩⟩
  have hstored : nested.IsStorable :=
    .map (List.forall_mem_singleton.mpr (.list (List.forall_mem_cons.mpr
      ⟨.decimal ⟨by decide, by decide, by decide⟩, List.forall_mem_singleton.mpr (.same rfl)⟩)))
  have hstorable : ∀ field ∈ fields, field.2.IsStorable :=
    List.forall_mem_cons.mpr ⟨.same rfl, List.forall_mem_cons.mpr
      ⟨.same rfl, List.forall_mem_singleton.mpr hstored⟩⟩
  exact ⟨hkey, hdata, hstorable, record_restored "key" fields hkey hdata hstorable⟩

theorem toDocument_half :
    toDocument "id" [("x", .fraction (1 / 2))] = .ok [(.str "x", .str "1/2")] := by
  have hwrite : (Value.fraction (1 / 2)).write = .ok "1/2" := by
    have htext : (Value.fraction (1 / 2)).text = "1/2" := by decide +kernel
    rw [Value.write, if_pos (by decide +kernel), htext]
  simp only [toDocument, plainFields, plainValue, hwrite]
  exact congrArg Except.ok (nameId_ofFields "id" [("x", .str "1/2")])

/-- A fraction comes back as its text. -/
theorem fraction_not_restored :
    (Value.fraction (1 / 2)).IsStorable ∧
      toDocument "id" [("x", .fraction (1 / 2))] = .ok [(.str "x", .str "1/2")] ∧
      ofDocument .record "id" (.map [(.str "x", .str "1/2")]) ≠
        .ok (.model .record [("x", .fraction (1 / 2))]) := by
  refine ⟨.same rfl, toDocument_half, fun h => ?_⟩
  cases (ofDocument_ofFields "id" [("x", .str "1/2")]).symm.trans h

end Model

end DocQuery
