/-!
# Ordered association lists

Keys with their values, in the order in which the keys were first assigned.
Assigning to a present key keeps its place and replaces its value.
-/

namespace DocQuery.Assoc

variable {κ β : Type} [DecidableEq κ]

def lookup (key : κ) : List (κ × β) → Option β
  | [] => none
  | (k, v) :: rest => if k = key then some v else lookup key rest

def assign (entries : List (κ × β)) (key : κ) (value : β) : List (κ × β) :=
  match entries with
  | [] => [(key, value)]
  | (k, v) :: rest => if k = key then (k, value) :: rest else (k, v) :: assign rest key value

def assignAll (entries more : List (κ × β)) : List (κ × β) :=
  more.foldl (fun entries (k, v) => assign entries k v) entries

def remove (entries : List (κ × β)) (key : κ) : List (κ × β) :=
  entries.filter fun (k, _) => k ≠ key

def keys (entries : List (κ × β)) : List κ := entries.map (·.1)

theorem lookup_assign (entries : List (κ × β)) (key other : κ) (value : β) :
    lookup other (assign entries key value) =
      if key = other then some value else lookup other entries := by
  induction entries with
  | nil => simp [assign, lookup]
  | cons entry rest ih =>
    obtain ⟨k, v⟩ := entry
    by_cases hk : k = key
    · subst hk; simp only [assign, if_true, lookup]; split <;> simp_all
    · simp only [assign, hk, if_false, lookup, ih]
      by_cases ho : k = other
      · subst ho; simp [Ne.symm hk]
      · simp [ho]

theorem mem_keys_assign (entries : List (κ × β)) (key other : κ) (value : β) :
    other ∈ keys (assign entries key value) ↔ other = key ∨ other ∈ keys entries := by
  induction entries with
  | nil => simp [assign, keys]
  | cons entry rest ih =>
    obtain ⟨k, v⟩ := entry
    simp only [keys] at ih
    by_cases hk : k = key
    · subst hk; simp [assign, keys]
    · simp only [assign, hk, if_false, keys, List.map_cons, List.mem_cons, ih]
      exact ⟨fun h => h.elim (.inr ∘ .inl) (·.imp id .inr),
        fun h => h.elim (.inr ∘ .inl) (·.elim .inl (.inr ∘ .inr))⟩

theorem nodup_keys_assign {entries : List (κ × β)} (nodup : (keys entries).Nodup) (key : κ)
    (value : β) : (keys (assign entries key value)).Nodup := by
  induction entries with
  | nil => simp [assign, keys]
  | cons entry rest ih =>
    obtain ⟨k, v⟩ := entry
    simp only [keys, List.map_cons, List.nodup_cons] at nodup
    by_cases hk : k = key
    · subst hk; simpa [assign, keys] using nodup
    · have fresh : k ∉ keys (assign rest key value) := by
        rw [mem_keys_assign]; exact fun h => h.elim hk nodup.1
      simpa [assign, hk, keys] using ⟨by simpa [keys] using fresh, ih nodup.2⟩

theorem nodup_keys_remove {entries : List (κ × β)} (nodup : (keys entries).Nodup) (key : κ) :
    (keys (remove entries key)).Nodup :=
  nodup.sublist (List.filter_sublist.map _)

theorem lookup_remove (entries : List (κ × β)) (key other : κ) :
    lookup other (remove entries key) = if key = other then none else lookup other entries := by
  induction entries with
  | nil => simp [remove, lookup]
  | cons entry rest ih =>
    obtain ⟨k, v⟩ := entry
    simp only [remove] at ih
    by_cases hk : k = key
    · subst hk
      simp only [remove, List.filter_cons, ne_eq, not_true, decide_false, Bool.false_eq_true,
        if_false, ih, lookup]
      split <;> rfl
    · simp only [remove, List.filter_cons, ne_eq, hk, not_false_eq_true, decide_true, if_true,
        lookup, ih]
      by_cases ho : k = other
      · subst ho; simp [Ne.symm hk]
      · simp [ho]

end DocQuery.Assoc
