import DocQuery.Value.Key
import DocQuery.Proofs.Assignment

/-!
# Entries with names as keys

Entries whose keys are all texts are looked up, assigned and removed as fields are,
by name.
-/

namespace DocQuery

namespace Assoc

variable {κ β γ : Type} [DecidableEq κ]

theorem keys_remove (entries : List (κ × β)) (key : κ) :
    keys (remove entries key) = (keys entries).filter (· ≠ key) := by
  rw [keys, keys, List.filter_map]
  rfl

theorem remove_fresh {entries : List (κ × β)} {key : κ} (fresh : key ∉ keys entries) :
    remove entries key = entries := by
  rw [remove, List.filter_eq_self]
  intro entry he
  exact decide_eq_true fun h => fresh (h ▸ List.mem_map_of_mem he)

theorem lookup_fresh {entries : List (κ × β)} {key : κ} (fresh : key ∉ keys entries) :
    lookup key entries = none := by
  induction entries with
  | nil => rfl
  | cons entry rest ih =>
    simp only [keys, List.map_cons, List.mem_cons, not_or] at fresh
    rw [lookup, if_neg (Ne.symm fresh.1), ih fresh.2]

theorem mem_of_lookup {entries : List (κ × β)} {key : κ} {v : β}
    (h : lookup key entries = some v) : (key, v) ∈ entries := by
  induction entries with
  | nil => cases h
  | cons entry rest ih =>
    obtain ⟨k, w⟩ := entry
    rw [lookup] at h
    split at h
    · rename_i hk
      cases h
      exact hk ▸ List.mem_cons_self
    · exact List.mem_cons_of_mem _ (ih h)

theorem fresh_of_lookup {entries : List (κ × β)} {key : κ} (h : lookup key entries = none) :
    key ∉ keys entries := by
  induction entries with
  | nil => exact List.not_mem_nil
  | cons entry rest ih =>
    rw [lookup] at h
    split at h
    · cases h
    · rename_i hk
      simp only [keys, List.map_cons, List.mem_cons, not_or]
      exact ⟨Ne.symm hk, ih h⟩

theorem fresh_remove (entries : List (κ × β)) (key : κ) : key ∉ keys (remove entries key) := by
  rw [keys_remove]
  exact fun h => of_decide_eq_true (List.mem_filter.mp h).2 rfl

theorem fresh_remove_of_fresh {entries : List (κ × β)} {key : κ} (fresh : key ∉ keys entries)
    (other : κ) : key ∉ keys (remove entries other) := by
  rw [keys_remove]
  exact fun h => fresh (List.mem_filter.mp h).1

theorem lookup_map (f : β → γ) (entries : List (κ × β)) (key : κ) :
    lookup key (entries.map fun (k, v) => (k, f v)) = (lookup key entries).map f := by
  induction entries with
  | nil => rfl
  | cons entry rest ih =>
    obtain ⟨k, v⟩ := entry
    by_cases hk : k = key <;> simp [lookup, hk, ih]

theorem remove_map (f : β → γ) (entries : List (κ × β)) (key : κ) :
    remove (entries.map fun (k, v) => (k, f v)) key =
      (remove entries key).map fun (k, v) => (k, f v) := by
  rw [remove, List.filter_map]
  rfl

end Assoc

namespace Entries

def ofFields (fields : Fields) : Entries := fields.map fun (name, v) => (.str name, v)

variable {fields : Fields} {name : String} {v : Value}

theorem get?_ofFields : get? (ofFields fields) (.str name) = Assoc.lookup name fields := by
  induction fields with
  | nil => rfl
  | cons field rest ih =>
    obtain ⟨other, w⟩ := field
    rw [Assoc.lookup, ← ih]
    by_cases h : other = name <;> simp [ofFields, get?, h]

theorem put_ofFields : put (ofFields fields) (.str name) v = ofFields (Assoc.assign fields name v) := by
  induction fields with
  | nil => rfl
  | cons field rest ih =>
    obtain ⟨other, w⟩ := field
    rw [Assoc.assign]
    by_cases h : other = name
    · simp [ofFields, put, h]
    · simpa [ofFields, put, h] using ih

theorem erase_ofFields : erase (ofFields fields) (.str name) = ofFields (Assoc.remove fields name) := by
  rw [erase, ofFields, List.filter_map]
  refine congrArg _ (List.filter_congr fun field _ => ?_)
  obtain ⟨other, w⟩ := field
  by_cases h : other = name <;> simp [h]

end Entries

end DocQuery
