import DocQuery.Value.Key

/-!
# Cleaning update documents

Two ways to drop what a caller did not mean to send, so that an update of many
documents never clears a field.
-/

namespace DocQuery

def keepEntries (keep : Value → Bool) : Value → Except Misuse Entries
  | .map entries => .ok (entries.filter fun (_, v) => keep v)
  | v => .error (v.lacks "items")

/-- Drops every entry whose value counts as false. -/
def cleanUpdate (update : Value) : Except Misuse Entries := keepEntries Value.truthy update

def Value.isEmpty : Value → Bool
  | .null => true
  | .str s => s = ""
  | .list items | .tuple items => items.isEmpty
  | .map entries => entries.isEmpty
  | _ => false

/-- Drops every entry whose value is empty; false and zero stay. -/
def removeEmpty (document : Value) : Except Misuse Entries :=
  keepEntries (!·.isEmpty) document

end DocQuery
