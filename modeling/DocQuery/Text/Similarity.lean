/-!
# Similar words

How much of a misspelt word a candidate contains. The matched items are counted
by taking the longest common run, then doing the same to its right and to its
left; the ratio of two sequences is twice that count over their sizes together.
`closeMatches` keeps the candidates with a ratio of at least 3/5. The items of a
word are its characters; other sequences compare in the same way, but may refuse
to be gone through or to be read at a position.
-/

namespace DocQuery

/-- A sequence to compare with others: the items met when going through it, and
what stands at each position. -/
structure Sequence (m : Type → Type) (α : Type) where
  size : Nat
  items : m (List α)
  cells : List (m α)

/-- A run of `size` items common to two sequences, at the given offsets. -/
structure CommonRun where
  left : Nat
  right : Nat
  size : Nat
  deriving DecidableEq, Repr

/-- Whether the ratio is at least 3/5; two empty sequences are equal. -/
def isClose : Nat × Nat → Bool
  | (twice, total) => total = 0 || 3 * total ≤ 5 * twice

section

variable {m : Type → Type} [Monad m] {α : Type}

/-- Lengths of the common runs that end at each position of `b`, `c` being the
next item of the other sequence and `before` the lengths at the previous one,
shifted by one. Items of `b` that may not start a run count as different. -/
def extendRuns (same : α → α → Bool) (starts : α → Bool) (c : α) :
    List α → List Nat → List Nat
  | [], _ => []
  | d :: b, before =>
    (if same c d && starts d then before.headD 0 + 1 else 0) ::
      extendRuns same starts c b before.tail

/-- The longest common run whose items may all start one; of two equally long
ones the earlier in `a`, then the earlier in `b`. -/
def longestStart (same : α → α → Bool) (starts : α → Bool) (b : List α) :
    Nat → List (m α) → List Nat → CommonRun → m CommonRun
  | _, [], _, best => pure best
  | i, cell :: a, before, best => do
    let c ← cell
    let runs := extendRuns same starts c b (0 :: before)
    let longer (best : CommonRun) : Nat × Nat → CommonRun
      | (size, j) => if best.size < size then ⟨i + 1 - size, j + 1 - size, size⟩ else best
    longestStart same starts b (i + 1) a runs (runs.zipIdx.foldl longer best)

def commonPrefixLength (same : α → α → Bool) : List (m α) → List (m α) → m Nat
  | left :: a, right :: b => do
    let d ← right
    let c ← left
    if same c d then do
      let length ← commonPrefixLength same a b
      pure (length + 1)
    else pure 0
  | _, _ => pure 0

def longestRun (same : α → α → Bool) (starts : α → Bool) (a : List (m α))
    (b : List (α × m α)) : m CommonRun := do
  let run ← longestStart same starts (b.map (·.1)) 0 a [] ⟨0, 0, 0⟩
  let cells := b.map (·.2)
  let back ← commonPrefixLength same (a.take run.left).reverse (cells.take run.right).reverse
  let ahead ← commonPrefixLength same (a.drop (run.left + run.size))
    (cells.drop (run.right + run.size))
  pure ⟨run.left - back, run.right - back, run.size + back + ahead⟩

/-- The number of matched items; `fuel` bounds the number of runs. -/
def matchedCount (same : α → α → Bool) (starts : α → Bool) :
    Nat → List (m α) → List (α × m α) → m Nat
  | 0, _, _ => pure 0
  | fuel + 1, a, b =>
    if a.isEmpty || b.isEmpty then pure 0
    else do
      let run ← longestRun same starts a b
      if run.size = 0 then pure 0
      else do
        let ahead ← matchedCount same starts fuel (a.drop (run.left + run.size))
          (b.drop (run.right + run.size))
        let back ← matchedCount same starts fuel (a.take run.left) (b.take run.right)
        pure (back + run.size + ahead)

def sharedCount (same : α → α → Bool) : List α → List α → Nat
  | [], _ => 0
  | c :: a, b =>
    if b.any (same c) then sharedCount same a (b.eraseP (same c)) + 1 else sharedCount same a b

/-- The very frequent items of a long sequence; they start no run. -/
def frequentItems (same : α → α → Bool) (items : List α) : List α :=
  if items.length < 200 then []
  else (items.eraseDupsBy same).filter fun c => items.length / 100 + 1 < items.countP (same c)

/-- Twice the matched items of a candidate and the two sizes together, if that
ratio is close. Sizes and shared items that rule a close ratio out are looked at
first. -/
def closeRatio? (same : α → α → Bool) (word : List (α × m α)) (candidate : Sequence m α) :
    m (Option (Nat × Nat)) :=
  let total := candidate.size + word.length
  if !isClose (2 * min candidate.size word.length, total) then pure none
  else do
    let items ← candidate.items
    let wordItems := word.map (·.1)
    if !isClose (2 * sharedCount same items wordItems, total) then pure none
    else do
      let frequent := frequentItems same wordItems
      let matched ← matchedCount same (fun c => !frequent.any (same c)) (candidate.size + 1)
        candidate.cells word
      pure (if isClose (2 * matched, total) then some (2 * matched, total) else none)

end

def isPreferred (x y : (Nat × Nat) × String) : Bool :=
  let score : Nat × Nat → Nat × Nat
    | (_, 0) => (1, 1)
    | ratio => ratio
  let (m, s) := score x.1
  let (n, t) := score y.1
  n * s < m * t || (n * s = m * t && !decide (x.2 < y.2))

def mostSimilar (scored : List ((Nat × Nat) × String)) : List String :=
  ((scored.mergeSort isPreferred).take 3).map (·.2)

def Sequence.ofText (s : String) : Sequence Id Char := ⟨s.length, s.toList, s.toList⟩

def similarity? (word candidate : String) : Option (Nat × Nat) :=
  (closeRatio? (· == ·) (word.toList.map fun c => (c, pure c)) (Sequence.ofText candidate)).run

def closeMatches (word : String) (candidates : List String) : List String :=
  mostSimilar (candidates.filterMap fun candidate =>
    (similarity? word candidate).map fun ratio => (ratio, candidate))

end DocQuery
