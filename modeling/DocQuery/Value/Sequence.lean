import DocQuery.Text.Similarity
import DocQuery.Value.Key

/-!
# Values as sequences

A value with a size can be compared with candidates item by item, as a text is by
its characters. Its items must be keys. A map is gone through by its keys, and
what stands at a position of it is what it holds under that number.
-/

namespace DocQuery

namespace Value

def asKey (v : Value) : Except Misuse Value := if v.isKey then .ok v else .error .wrongType

def cells : Value → List (Except Misuse Value)
  | map entries => (List.range entries.length).map fun (i : Nat) =>
    (Entries.get? entries (.int i)).elim (.error .noSuchKey) asKey
  | v => (v.items?.getD []).map asKey

def sequence (v : Value) : Except Misuse (Sequence (Except Misuse) Value) :=
  match v.size? with
  | some size => .ok ⟨size, do (← v.items).mapM asKey, v.cells⟩
  | none => .error .wrongType

def asText : Value → Except Misuse String
  | str s => .ok s
  | _ => .error .wrongType

/-- The three candidates most similar to a value, the best first. All candidates
are compared before one that is no text is refused. -/
def closeMatches (word : Value) (candidates : List Value) : Except Misuse (List String) := do
  let word ← word.sequence
  let items ← word.items
  let ratios ← candidates.mapM fun candidate => do
    closeRatio? sameKey (items.zip word.cells) (← candidate.sequence)
  let texts ← candidates.mapM asText
  pure (mostSimilar ((ratios.zip texts).filterMap fun (ratio?, candidate) =>
    ratio?.map fun ratio => (ratio, candidate)))

end Value

end DocQuery
