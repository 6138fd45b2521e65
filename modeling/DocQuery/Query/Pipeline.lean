import DocQuery.Traced
import DocQuery.Value.Key

/-!
# Aggregation pipelines

The stages that a listing sends to the document store: the documents that match,
then the caller's stages, then sorting, skipping and limiting.
-/

namespace DocQuery

structure Pipeline where
  selector : Value
  stages : Value
  sort : Value
  skip : Value
  limit : Value

namespace Pipeline

def stageIf (wanted : Bool) (name : String) (v : Value) : List Value :=
  if wanted then [.single name v] else []

def callerStages (stages : Value) : Except Misuse (List Value) :=
  if stages.truthy then stages.items else .ok []

/-- The sorting stage: a later direction of a field replaces an earlier one. -/
def sortStages (sort : Value) : Except Misuse (List Value) :=
  if sort.truthy then do pure [.single "$sort" (.map (← sort.entries))] else .ok []

/-- The stages in order, each only if there is something for it to do. -/
def stageList (pipeline : Pipeline) : Except Misuse (List Value) := do
  let caller ← callerStages pipeline.stages
  let sorting ← sortStages pipeline.sort
  pure (stageIf pipeline.selector.truthy "$match" pipeline.selector ++ caller ++ sorting ++
    stageIf (!pipeline.skip.isNull) "$skip" pipeline.skip ++
    stageIf (!pipeline.limit.isNull) "$limit" pipeline.limit)

def build (pipeline : Pipeline) : Traced (List Value) := do
  let stages ← Traced.ofExcept (orFault pipeline.stageList)
  Traced.note .queryBuilder .debug
    ("Built aggregation pipeline with " ++ toString stages.length ++ " stages")
  pure stages

end Pipeline

end DocQuery
