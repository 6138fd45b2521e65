import DocQuery.Document.Model

/-!
# Which values are ids

An id is an object id or a text of exactly 24 hexadecimal digits, in either letter
case. `objectId?_eq_some` and `objectId?_eq_none` say so of the reader of ids.
-/

namespace DocQuery

-- ---------------------------------------------------------------------------
-- Hexadecimal digits
-- ---------------------------------------------------------------------------

def IsHexDigit (c : Char) : Prop :=
  ('0' ≤ c ∧ c ≤ '9') ∨ ('a' ≤ c ∧ c ≤ 'f') ∨ ('A' ≤ c ∧ c ≤ 'F')

instance : DecidablePred IsHexDigit := fun _ => inferInstanceAs (Decidable (_ ∨ _ ∨ _))

theorem char_le_iff {c d : Char} : c ≤ d ↔ c.toNat ≤ d.toNat := Iff.rfl

theorem toNat_toLower (c : Char) :
    c.toLower.toNat = if 65 ≤ c.toNat ∧ c.toNat ≤ 90 then c.toNat + 32 else c.toNat := by
  have hu : c.val ≥ 'A'.val ∧ c.val ≤ 'Z'.val ↔ 65 ≤ c.toNat ∧ c.toNat ≤ 90 := Iff.rfl
  unfold Char.toLower
  split
  · rename_i h
    rw [if_pos (hu.mp h)]
    have hle : c.val.toNat ≤ 90 := (hu.mp h).2
    change (c.val + 32).toNat = c.val.toNat + 32
    rw [UInt32.toNat_add]
    exact Nat.mod_eq_of_lt (show c.val.toNat + 32 < 2 ^ 32 by omega)
  · rename_i h
    rw [if_neg fun hn => h (hu.mpr hn)]

theorem mem_hexDigits {c : Char} :
    c ∈ hexDigits ↔ (48 ≤ c.toNat ∧ c.toNat ≤ 57) ∨ (97 ≤ c.toNat ∧ c.toNat ≤ 102) := by
  constructor
  · intro h
    have hall : hexDigits.all (fun c => (48 ≤ c.toNat ∧ c.toNat ≤ 57) ∨
        (97 ≤ c.toNat ∧ c.toNat ≤ 102)) = true := by decide
    simpa using List.all_eq_true.mp hall c h
  · intro h
    have hall : ∀ n ∈ List.range 103, (48 ≤ n ∧ n ≤ 57) ∨ (97 ≤ n ∧ n ≤ 102) →
        Char.ofNat n ∈ hexDigits := by decide
    have hc := hall c.toNat (List.mem_range.mpr (by omega)) h
    rwa [Char.ofNat_toNat] at hc

theorem toLower_mem_hexDigits {c : Char} : c.toLower ∈ hexDigits ↔ IsHexDigit c := by
  have h0 : '0'.toNat = 48 := rfl
  have h9 : '9'.toNat = 57 := rfl
  have ha : 'a'.toNat = 97 := rfl
  have hf : 'f'.toNat = 102 := rfl
  have hA : 'A'.toNat = 65 := rfl
  have hF : 'F'.toNat = 70 := rfl
  simp only [mem_hexDigits, toNat_toLower, IsHexDigit, char_le_iff]
  split <;> omega

-- ---------------------------------------------------------------------------
-- Ids
-- ---------------------------------------------------------------------------

/-- A text of exactly 24 hexadecimal digits. -/
def IsHexId (s : String) : Prop := s.toList.length = 24 ∧ ∀ c ∈ s.toList, IsHexDigit c

instance : DecidablePred IsHexId := fun s =>
  decidable_of_iff (s.toList.length = 24 ∧ s.toList.all (decide <| IsHexDigit ·) = true)
    (by simp [IsHexId])

theorem isText_lowerText {s : String} : ObjectId.isText (lowerText s) ↔ IsHexId s := by
  simp [ObjectId.isText, lowerText, IsHexId, toLower_mem_hexDigits]

theorem lowerText_of_isText {s : String} (h : ObjectId.isText s) : lowerText s = s := by
  have hall : hexDigits.all (fun c => c.toLower = c) = true := by decide
  simp only [List.all_eq_true, decide_eq_true_eq] at hall
  simp only [ObjectId.isText, Bool.and_eq_true, List.all_eq_true, List.contains_iff_mem] at h
  rw [lowerText, List.map_congr_left fun c hc => hall c (h.2 c hc), List.map_id',
    String.ofList_toList]

theorem ofText?_eq_some {oid : ObjectId} :
    ObjectId.ofText? s = some oid ↔ IsHexId s ∧ oid.text = lowerText s := by
  unfold ObjectId.ofText?
  dsimp only
  split
  · rename_i h
    obtain ⟨text, valid⟩ := oid
    simp [isText_lowerText.mp h, eq_comm]
  · rename_i h
    simp [mt isText_lowerText.mpr h]

theorem ofText?_eq_none : ObjectId.ofText? s = none ↔ ¬ IsHexId s := by
  unfold ObjectId.ofText?
  rw [← isText_lowerText]
  simp

namespace Value

/-- The id that a value names: the object id that it is, or the one that it spells,
whose text has the letters in lower case. -/
def Names (v : Value) (oid : ObjectId) : Prop :=
  v = .objectId oid ∨ ∃ s, v = .str s ∧ IsHexId s ∧ oid.text = lowerText s

def IsId (v : Value) : Prop := (∃ oid, v = .objectId oid) ∨ ∃ s, v = .str s ∧ IsHexId s

theorem objectId?_eq_some {v : Value} : v.objectId? = some oid ↔ v.Names oid := by
  cases v with
  | str s => simp [objectId?, Names, ofText?_eq_some]
  | objectId other => simp [objectId?, Names]
  | _ => simp [objectId?, Names]

theorem objectId?_eq_none {v : Value} : v.objectId? = none ↔ ¬ v.IsId := by
  cases v with
  | str s => simp [objectId?, IsId, ofText?_eq_none]
  | objectId other => simp [objectId?, IsId]
  | _ => simp [objectId?, IsId]

theorem IsId.names {v : Value} (h : v.IsId) : ∃ oid, v.Names oid := by
  cases hv : v.objectId? with
  | some oid => exact ⟨oid, objectId?_eq_some.mp hv⟩
  | none => exact absurd h (objectId?_eq_none.mp hv)

theorem names_text (oid : ObjectId) : (str oid.text).Names oid := by
  have hlower : lowerText oid.text = oid.text := lowerText_of_isText oid.valid
  exact .inr ⟨_, rfl, isText_lowerText.mp (hlower.symm ▸ oid.valid), hlower.symm⟩

end Value

end DocQuery
