import DocQuery.Value.Key

/-!
# Projections

Which fields of the selected documents are wanted: a map as the store takes it,
or a list of the wanted fields.
-/

namespace DocQuery

/-- The projection that a value asks for; null if it asks for all fields. -/
def projection (fields : Value) : Except Misuse Value :=
  if !fields.truthy then .ok .null
  else match fields with
    | .map entries => .ok (.map entries)
    | fields => do
      pure (.map (← Entries.putAll [] ((← fields.items).map fun name => (name, .int 1))))

end DocQuery
