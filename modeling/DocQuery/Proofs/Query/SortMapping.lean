import DocQuery.Query.SortOrder
import DocQuery.Proofs.Value.Keys

/-!
# Sort orders as maps

A pipeline takes a sort order as a map. `entries_toValue` says which map an order
becomes: its fields stand where they come first, each with the direction that it is
given last.
-/

namespace DocQuery

namespace SortOrder

structure Maps (order : SortOrder) (entries : Entries) : Prop where
  /-- Every field once, where it comes first. -/
  fields : entries.map (·.1) =
    (order.map SortKey.field).eraseDupsBy fun field earlier => earlier.sameKey field
  /-- A field has its last direction. -/
  direction : ∀ field, entries.get? field =
    (order.reverse.find? (·.field.sameKey field)).map fun key => .int key.direction

def assigned (entries : Entries) (order : SortOrder) : Entries :=
  order.foldl (fun entries key => entries.put key.field (.int key.direction)) entries

theorem keys_assigned (entries : Entries) (order : SortOrder) :
    (assigned entries order).map (·.1) =
      List.eraseDupsBy.loop (fun field earlier => earlier.sameKey field)
        (order.map SortKey.field) (entries.map (·.1)).reverse := by
  induction order generalizing entries with
  | nil => rw [List.map_nil, List.eraseDupsBy.loop, List.reverse_reverse]; rfl
  | cons key rest ih =>
    have hany : (entries.map (·.1)).reverse.any (·.sameKey key.field) =
        entries.any (·.1.sameKey key.field) := by
      rw [List.any_reverse, List.any_map]
      rfl
    rw [List.map_cons, List.eraseDupsBy.loop, hany]
    change (assigned (entries.put key.field _) rest).map (·.1) = _
    rw [ih, Entries.keys_put]
    cases entries.any (·.1.sameKey key.field) with
    | true => rfl
    | false => simp

theorem get?_assigned (entries : Entries) (order : SortOrder) (field : Value) :
    (assigned entries order).get? field =
      ((order.reverse.find? (·.field.sameKey field)).map fun key => .int key.direction).or
        (entries.get? field) := by
  induction order generalizing entries with
  | nil => rfl
  | cons key rest ih =>
    change (assigned (entries.put key.field _) rest).get? field = _
    rw [ih, Entries.get?_put, List.reverse_cons, List.find?_append, Option.map_or, Option.or_assoc,
      List.find?_singleton]
    cases key.field.sameKey field <;> rfl

theorem maps_assigned (order : SortOrder) : order.Maps (assigned [] order) := by
  refine ⟨keys_assigned [] order, fun field => ?_⟩
  rw [get?_assigned]
  exact Option.or_none

theorem putPairs_toValue (entries : Entries) {order : SortOrder}
    (h : ∀ key ∈ order, key.field.isKey = true) :
    Value.putPairs entries (order.map SortKey.toValue) = .ok (assigned entries order) := by
  induction order generalizing entries with
  | nil => rfl
  | cons key rest ih =>
    rw [List.forall_mem_cons] at h
    have hput : entries.putAll [(key.field, .int key.direction)] =
        .ok (entries.put key.field (.int key.direction)) := by
      simp only [Entries.putAll, h.1, if_true]
    rw [List.map_cons, Value.putPairs]
    change entries.putAll [(key.field, .int key.direction)] >>= _ = _
    rw [hput]
    exact ih _ h.2

theorem entries_toValue {order : SortOrder} (h : ∀ key ∈ order, key.field.isKey = true) :
    ∃ entries, order.toValue.entries = .ok entries ∧ order.Maps entries :=
  ⟨_, putPairs_toValue [] h, maps_assigned order⟩

end SortOrder

end DocQuery
