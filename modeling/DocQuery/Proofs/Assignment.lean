import DocQuery.Assoc
import Mathlib.Data.List.Dedup
import Mathlib.Data.List.Induction

/-!
# Assigning entries one after another

What is left of entries that are assigned one after another: every key once, with
the value it was assigned last. Nothing is lost exactly if no key comes twice. Entries that
are assigned in two parts are `merge`d.
-/

namespace DocQuery.Assoc

variable {κ β : Type} [DecidableEq κ]

theorem assignAll_cons (entries more : List (κ × β)) (key : κ) (value : β) :
    assignAll entries ((key, value) :: more) = assignAll (assign entries key value) more := rfl

theorem mem_keys_assignAll (entries more : List (κ × β)) (key : κ) :
    key ∈ keys (assignAll entries more) ↔ key ∈ keys entries ∨ key ∈ keys more := by
  induction more generalizing entries with
  | nil => simp [assignAll, keys]
  | cons entry more ih =>
    obtain ⟨k, v⟩ := entry
    rw [assignAll_cons, ih, mem_keys_assign]
    simp only [keys, List.map_cons, List.mem_cons]
    tauto

theorem nodup_keys_assignAll {entries : List (κ × β)} (nodup : (keys entries).Nodup)
    (more : List (κ × β)) : (keys (assignAll entries more)).Nodup := by
  induction more generalizing entries with
  | nil => exact nodup
  | cons entry more ih => exact ih (nodup_keys_assign nodup entry.1 entry.2)

theorem lookup_append (entries more : List (κ × β)) (key : κ) :
    lookup key (entries ++ more) = (lookup key entries).or (lookup key more) := by
  induction entries with
  | nil => rfl
  | cons entry entries ih =>
    obtain ⟨k, v⟩ := entry
    by_cases hk : k = key <;> simp [lookup, hk, ih]

theorem lookup_assignAll (entries more : List (κ × β)) (key : κ) :
    lookup key (assignAll entries more) = (lookup key more.reverse).or (lookup key entries) := by
  induction more generalizing entries with
  | nil => rfl
  | cons entry more ih =>
    obtain ⟨k, v⟩ := entry
    rw [assignAll_cons, ih, lookup_assign, List.reverse_cons, lookup_append, Option.or_assoc]
    by_cases hk : k = key <;> simp [lookup, hk]

theorem mem_of_mem_assign {entries : List (κ × β)} {key : κ} {value : β}
    (h : entry ∈ assign entries key value) : entry = (key, value) ∨ entry ∈ entries := by
  induction entries with
  | nil => simpa [assign] using h
  | cons head rest ih =>
    obtain ⟨k, v⟩ := head
    by_cases hk : k = key
    · subst hk
      simp only [assign, if_true, List.mem_cons] at h
      exact h.imp_right (List.mem_cons_of_mem _)
    · simp only [assign, hk, if_false, List.mem_cons] at h
      rcases h with rfl | h
      · exact .inr List.mem_cons_self
      · exact (ih h).imp_right (List.mem_cons_of_mem _)

theorem mem_of_mem_assignAll {entries more : List (κ × β)}
    (h : entry ∈ assignAll entries more) : entry ∈ entries ∨ entry ∈ more := by
  induction more generalizing entries with
  | nil => exact .inl h
  | cons head more ih =>
    rcases ih h with h | h
    · exact (mem_of_mem_assign h).elim (fun h => .inr (h ▸ List.mem_cons_self)) .inl
    · exact .inr (List.mem_cons_of_mem _ h)

theorem assign_fresh {entries : List (κ × β)} {key : κ} (fresh : key ∉ keys entries)
    (value : β) : assign entries key value = entries ++ [(key, value)] := by
  induction entries with
  | nil => rfl
  | cons head rest ih =>
    obtain ⟨k, v⟩ := head
    simp only [keys, List.map_cons, List.mem_cons, not_or] at fresh
    simp [assign, Ne.symm fresh.1, ih fresh.2]

theorem assignAll_of_nodup {entries more : List (κ × β)}
    (nodup : (keys (entries ++ more)).Nodup) : assignAll entries more = entries ++ more := by
  induction more generalizing entries with
  | nil => simp [assignAll]
  | cons head more ih =>
    obtain ⟨k, v⟩ := head
    have fresh : k ∉ keys entries := by
      simp only [keys, List.map_append, List.map_cons, List.nodup_append] at nodup
      exact fun h => nodup.2.2 k h k List.mem_cons_self rfl
    rw [assignAll_cons, assign_fresh fresh, ih (by simpa using nodup)]
    simp

theorem length_assignAll (more : List (κ × β)) :
    (assignAll [] more).length = (keys more).dedup.length := by
  have perm : (keys (assignAll [] more)).Perm (keys more).dedup := by
    rw [List.perm_ext_iff_of_nodup (nodup_keys_assignAll (by simp [keys]) more)
      (List.nodup_dedup _)]
    intro key
    rw [mem_keys_assignAll, List.mem_dedup]
    simp [keys]
  simpa [keys] using perm.length_eq

theorem length_assignAll_eq_iff (more : List (κ × β)) :
    (assignAll [] more).length = more.length ↔ (keys more).Nodup := by
  rw [length_assignAll, ← List.dedup_eq_self]
  constructor
  · intro h
    exact (List.dedup_sublist _).eq_of_length (by simpa [keys] using h)
  · intro h
    rw [h]
    simp [keys]

-- ---------------------------------------------------------------------------
-- Merging
-- ---------------------------------------------------------------------------

def replaced (others : List (κ × β)) (entry : κ × β) : κ × β :=
  (entry.1, (lookup entry.1 others).getD entry.2)

/-- Two lists of entries as one. The keys of the first one stay in their places, with the values
that the second one has for them, if it has any; the other keys of the second one follow. -/
def merge (first second : List (κ × β)) : List (κ × β) :=
  first.map (replaced second) ++ second.filter (·.1 ∉ keys first)

theorem assignAll_append (entries more others : List (κ × β)) :
    assignAll entries (more ++ others) = assignAll (assignAll entries more) others :=
  List.foldl_append

theorem assign_append_of_mem {entries : List (κ × β)} (h : key ∈ keys entries)
    (more : List (κ × β)) (value : β) :
    assign (entries ++ more) key value = assign entries key value ++ more := by
  induction entries with
  | nil => cases h
  | cons head rest ih =>
    obtain ⟨k, v⟩ := head
    by_cases hk : k = key
    · simp [assign, hk]
    · have hrest : key ∈ keys rest := (List.mem_cons.mp h).resolve_left (Ne.symm hk)
      simp [assign, hk, ih hrest]

theorem assign_append_of_not_mem {entries : List (κ × β)} (h : key ∉ keys entries)
    (more : List (κ × β)) (value : β) :
    assign (entries ++ more) key value = entries ++ assign more key value := by
  induction entries with
  | nil => rfl
  | cons head rest ih =>
    obtain ⟨k, v⟩ := head
    simp only [keys, List.map_cons, List.mem_cons, not_or] at h
    simp [assign, Ne.symm h.1, ih h.2]

theorem filter_assign_of_neg {p : κ → Bool} (h : p key = false) (entries : List (κ × β))
    (value : β) :
    (assign entries key value).filter (p ·.1) = entries.filter (p ·.1) := by
  induction entries with
  | nil => simp [assign, h]
  | cons head rest ih =>
    obtain ⟨k, v⟩ := head
    by_cases hk : k = key
    · subst hk
      simp [assign, h]
    · simp [assign, hk, List.filter_cons, ih]

theorem filter_assign_of_pos {p : κ → Bool} (h : p key = true) (entries : List (κ × β))
    (value : β) :
    (assign entries key value).filter (p ·.1) = assign (entries.filter (p ·.1)) key value := by
  induction entries with
  | nil => simp [assign, h]
  | cons head rest ih =>
    obtain ⟨k, v⟩ := head
    by_cases hk : k = key
    · subst hk
      simp [assign, h]
    · cases hp : p k <;> simp [assign, hk, hp, ih]

theorem map_replaced_of_not_mem {first : List (κ × β)} (h : key ∉ keys first)
    (second : List (κ × β)) (value : β) :
    first.map (replaced (assign second key value)) = first.map (replaced second) := by
  refine List.map_congr_left fun entry he => ?_
  have hne : key ≠ entry.1 := fun hk => h (hk ▸ List.mem_map_of_mem he)
  simp only [replaced, lookup_assign, hne, if_false]

theorem map_replaced_of_mem {first : List (κ × β)} (nodup : (keys first).Nodup)
    (h : key ∈ keys first) (second : List (κ × β)) (value : β) :
    first.map (replaced (assign second key value)) =
      assign (first.map (replaced second)) key value := by
  induction first with
  | nil => cases h
  | cons head rest ih =>
    obtain ⟨k, v⟩ := head
    obtain ⟨hfresh, hrest⟩ := List.nodup_cons.mp nodup
    rw [List.map_cons, List.map_cons]
    by_cases hk : k = key
    · subst hk
      rw [map_replaced_of_not_mem hfresh]
      simp [replaced, assign, lookup_assign]
    · have hmem : key ∈ keys rest := (List.mem_cons.mp h).resolve_left (Ne.symm hk)
      rw [ih hrest hmem]
      simp [replaced, assign, lookup_assign, hk, Ne.symm hk]

theorem merge_assign {first : List (κ × β)} (nodup : (keys first).Nodup)
    (second : List (κ × β)) (key : κ) (value : β) :
    merge first (assign second key value) = assign (merge first second) key value := by
  have hkeys : keys (first.map (replaced second)) = keys first := by
    simp [keys, replaced]
  unfold merge
  by_cases h : key ∈ keys first
  · rw [assign_append_of_mem (hkeys ▸ h), map_replaced_of_mem nodup h,
      filter_assign_of_neg (p := (· ∉ keys first)) (by simpa using h)]
  · rw [assign_append_of_not_mem (hkeys ▸ h), map_replaced_of_not_mem h,
      filter_assign_of_pos (p := (· ∉ keys first)) (by simpa using h)]

theorem assignAll_eq_merge {first : List (κ × β)} (nodup : (keys first).Nodup)
    (more : List (κ × β)) : assignAll first more = merge first (assignAll [] more) := by
  induction more using List.reverseRecOn with
  | nil =>
    have hid : replaced ([] : List (κ × β)) = id := rfl
    simp [assignAll, merge, hid]
  | append_singleton more entry ih =>
    rw [assignAll_append, assignAll_append, ih]
    exact (merge_assign nodup _ entry.1 entry.2).symm

example : merge [("a", 1), ("b", 2)] [("c", 3), ("a", 4)] = [("a", 4), ("b", 2), ("c", 3)] := by
  decide

end DocQuery.Assoc
