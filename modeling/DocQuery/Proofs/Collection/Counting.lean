import DocQuery.Proofs.Collection.Listings
import DocQuery.Proofs.Selector.Branches

/-!
# Counts of what is fetched

A listing counts the documents of which it fetches a page. The store's estimate counts
everything, so it is right only where everything is fetched. `counted_as_fetched` says when that
is: a listing that fetches has asked for the estimate exactly if the selector that it fetches by
is empty, and a selector is empty only if its filter is vacuous.
-/

namespace DocQuery

def Call.isCount : Call → Bool
  | .estimateCount _ | .countDocuments .. => true
  | _ => false

def Call.isFetch : Call → Bool
  | .find .. | .aggregate .. => true
  | _ => false

def Call.isReading (c : Call) : Bool := c.isCount || c.isFetch

/-- If calls fetch anything, they count once and fetch once after it, by the selector to which
the filter was compiled. The count is an estimate exactly if the selector is empty. -/
def CountsAsFetched (compiled : Except Fault Fields) (fetches : Namespace → Fields → Call → Prop)
    (made : List Call) : Prop :=
  (∃ c ∈ made, c.isFetch) → ∃ ns fields fetch, compiled = .ok fields ∧ fetches ns fields fetch ∧
    made.filter Call.isReading =
      [if fields = [] then .estimateCount ns else .countDocuments ns (.ofFields fields), fetch]

def SearchesBy (ns : Namespace) (fields : Fields) (fetch : Call) : Prop :=
  fetch = .find ns (.ofFields fields) none

/-- An aggregation by a selector: it is matched before the stages of the caller, unless it is
empty, and nothing is matched after them. -/
def AggregatesBy (stages : Value) (ns : Namespace) (fields : Fields) (fetch : Call) : Prop :=
  ∃ caller after, Pipeline.callerStages stages = .ok caller ∧
    (∀ v, Value.single "$match" v ∉ after) ∧
    fetch = .aggregate ns
      ((if fields = [] then [] else [.single "$match" (.ofFields fields)]) ++ caller ++ after)

theorem Value.truthy_ofFields (fields : Fields) : (ofFields fields).truthy = !fields.isEmpty := by
  cases fields <;> rfl

theorem eq_pair_of_prefix {α : Type} {first second v : α} {items : List α}
    (h : items <+: [first, second]) (hv : v ∈ items) (hne : v ≠ first) :
    items = [first, second] := by
  rcases List.prefix_cons_iff.mp h with rfl | ⟨rest, rfl, hrest⟩
  · cases hv
  · rcases List.prefix_cons_iff.mp hrest with rfl | ⟨none, rfl, hnone⟩
    · exact absurd (List.mem_singleton.mp hv) hne
    · rw [List.prefix_nil.mp hnone]

/-- Whatever the table of operators, a filter is compiled to nothing only if it is vacuous. -/
theorem Compiler.compile_eq_nil {compiler : Compiler}
    (h : (compiler.compile (.map filter)).result = .ok fields) :
    fields = [] ↔ Filter.Vacuous filter := by
  obtain ⟨refusal?, node, hbuilds⟩ := compiler.builds
  rw [compile_result hbuilds, settle_ok] at h
  have hempty : Filter.built node filter = .map [] ↔ Filter.Vacuous filter := Filter.built_eq_empty
  rw [← hempty, Filter.built, h.2]
  exact ⟨fun h => h ▸ rfl, fun h => Value.ofFields_inj h⟩

-- ---------------------------------------------------------------------------
-- Pipelines
-- ---------------------------------------------------------------------------

namespace Pipeline

theorem sortStages_ok {list : List Value} (h : sortStages order = .ok list) (v : Value) :
    Value.single "$match" v ∉ list := by
  unfold sortStages at h
  split at h
  · obtain ⟨entries, -, h⟩ := bind_ok_iff.mp h
    cases h
    simp [Value.single]
  · cases h
    exact List.not_mem_nil

theorem not_mem_stageIf {name other : String} (h : other ≠ name) (wanted : Bool) (v w : Value) :
    Value.single other w ∉ stageIf wanted name v := by
  cases wanted <;> simp [stageIf, Value.single, h]

theorem stageList_aggregatesBy {pipeline : Pipeline} (hf : pipeline.selector = .ofFields fields)
    (h : pipeline.stageList = .ok list) (ns : Namespace) :
    AggregatesBy pipeline.stages ns fields (.aggregate ns list) := by
  obtain ⟨caller, hcaller, h⟩ := bind_ok_iff.mp h
  obtain ⟨sorting, hsorting, h⟩ := bind_ok_iff.mp h
  cases h
  refine ⟨caller, sorting ++ stageIf (!pipeline.skip.isNull) "$skip" pipeline.skip ++
    stageIf (!pipeline.limit.isNull) "$limit" pipeline.limit, hcaller, fun v => ?_, ?_⟩
  · have hskip : "$match" ≠ "$skip" := by decide
    have hlimit : "$match" ≠ "$limit" := by decide
    simp only [List.mem_append, not_or]
    exact ⟨⟨sortStages_ok hsorting v, not_mem_stageIf hskip _ _ v⟩,
      not_mem_stageIf hlimit _ _ v⟩
  · have hmatch : stageIf (Value.ofFields fields).truthy "$match" (.ofFields fields) =
        if fields = [] then [] else [.single "$match" (.ofFields fields)] := by
      cases fields <;> rfl
    rw [hf, hmatch]
    simp only [List.append_assoc]

end Pipeline

-- ---------------------------------------------------------------------------
-- Calls up to the fetch
-- ---------------------------------------------------------------------------

namespace Action

def Leaves (post : List Call → Prop) (x : Action α) : Prop :=
  ∀ client? journal, ∃ made, (x client? journal).2.calls = journal.calls ++ made ∧ post made

theorem Leaves.after_runs {x : Action α} {f : α → Action β} {post : List Call → Prop}
    (hx : ∀ client?, x.Runs client? [] e) (hnone : post [])
    (hf : ∀ a, e = .ok a → (f a).Leaves post) : (x >>= f).Leaves post := by
  intro client? journal
  have hcalls := (hx client?).makes journal
  have hresult := (hx client?).result_eq journal
  rw [bind_run]
  cases hrun : x client? journal with
  | mk result after =>
    rw [hrun] at hcalls hresult
    cases result with
    | error fault => exact ⟨[], hcalls, hnone⟩
    | ok a =>
      obtain ⟨made, hmade, hpost⟩ := hf a hresult.symm client? after
      exact ⟨made, by rw [hmade, hcalls, List.append_nil], hpost⟩

end Action

theorem CountsAsFetched.of_none {fetches : Namespace → Fields → Call → Prop} :
    CountsAsFetched compiled fetches [] :=
  fun ⟨_, hc, _⟩ => (nomatch hc)

namespace DataSource

open DocQuery.Action

variable {source : DataSource} {listing : Listing} {client? : Option Client}

def OpensAs (source : DataSource) (client? : Option Client) (database : Value) : Prop :=
  ∃ client, client? = some client ∧
    databaseName client.defaultDatabase source.options.database = .ok database

theorem OpensAs.unique (h : source.OpensAs client? database) (h' : source.OpensAs client? other) :
    database = other := by
  obtain ⟨client, rfl, hdatabase⟩ := h
  obtain ⟨_, ⟨⟩, hother⟩ := h'
  exact Except.ok.inj (hdatabase.symm.trans hother)

variable (source) (client?) in
theorem openCollection_follows :
    ∃ ns, source.openCollection.Follows Call.isReading client? [] (· = ns) := by
  have hopen : (openDatabase source.options.database).Follows Call.isReading client? []
      (source.OpensAs client?) := by
    refine Follows.mapFault (Follows.silent_bind (.call _) fun client hclient => ?_)
    exact (Follows.of_runs (.ofExcept _)).weaken fun database h => ⟨client, hclient, h⟩
  have hcollection : source.openCollection.Follows Call.isReading client? []
      fun ns => ∃ database, source.OpensAs client? database ∧ ns = source.namespaceIn database := by
    refine hopen.bind_silent fun database hdatabase => ?_
    refine Follows.silent_bind (.call _) fun client _ => ?_
    refine (Follows.of_runs (.pure _)).weaken fun ns h => ?_
    exact ⟨database, hdatabase, (Except.ok.inj h).symm⟩
  by_cases h : ∃ database, source.OpensAs client? database
  · obtain ⟨database, hdatabase⟩ := h
    refine ⟨source.namespaceIn database, hcollection.weaken ?_⟩
    rintro _ ⟨other, hother, rfl⟩
    rw [hother.unique hdatabase]
  · -- Nothing is opened, so that any name will do.
    refine ⟨source.namespaceIn .null, hcollection.weaken ?_⟩
    rintro _ ⟨database, hdatabase, rfl⟩
    exact absurd ⟨database, hdatabase⟩ h

section

variable (hopen : source.openCollection.Follows Call.isReading client? [] (· = ns))

include hopen

theorem count_follows (selector : Value) :
    (source.count selector).Follows Call.isReading client? [countCall ns selector]
      fun _ => True := by
  refine hopen.silent_bind ?_
  rintro _ rfl
  unfold countCall
  split
  · refine Follows.bind_silent (.call _) fun client _ => ?_
    exact (Follows.of_runs (.pure _)).weaken fun _ _ => trivial
  · refine Follows.silent_bind (.of_runs (.ofTraced _)) fun _ _ => ?_
    refine Follows.bind_silent (.call _) fun client _ => ?_
    exact (Follows.of_runs (.pure _)).weaken fun _ _ => trivial

theorem request_follows (selector : Value) (fetch : Namespace → Call)
    (hfetch : (fetch ns).isFetch = true) {rest : Value → Client → Action α}
    (hrest : ∀ total client, (rest total client).Only (·.isReading = false)) :
    (guarded do
      let total ← source.count selector
      let ns ← source.openCollection
      let client ← call (fetch ns)
      rest total client).Follows Call.isReading client? [countCall ns selector, fetch ns]
        fun _ => True := by
  have hreading : [fetch ns].filter Call.isReading = [fetch ns] := by
    simp [Call.isReading, hfetch]
  refine ((count_follows hopen selector).bind fun total _ => ?_).mapFault
  refine hopen.silent_bind ?_
  rintro _ rfl
  refine Follows.bind_silent (hreading ▸ Follows.call (fetch _)) fun client _ => ?_
  exact .of_only (hrest total client)

end

theorem requested_countsAsFetched {plan : ListingPlan} {fetches : Namespace → Fields → Call → Prop}
    (hplan : source.planFor listing = .ok plan) (fetch : Namespace → Call)
    (hfetch : ∀ ns, (fetch ns).isFetch = true)
    (hfetches : ∀ ns fields, plan.selector = .ofFields fields → fetches ns fields (fetch ns))
    {rest : Value → Client → Action (Value × List Value)}
    (hrest : ∀ total client, (rest total client).Only (·.isReading = false)) :
    (do
      let (total, items) ← guarded do
        let total ← source.count plan.selector
        let ns ← source.openCollection
        let client ← call (fetch ns)
        rest total client
      let info ← ofOperand (PageInfo.of total (.int plan.page) plan.limit)
      pure (Page.mk info items) : Action Page).Leaves
        (CountsAsFetched (source.compiler.compile listing.filter).result fetches) := by
  intro client? journal
  obtain ⟨-, -, ⟨fields, hcompiled, hselector⟩, -⟩ := planFor_ok hplan
  obtain ⟨ns, hopen⟩ := openCollection_follows source client?
  have hpage := (request_follows hopen plan.selector fetch (hfetch ns) hrest).bind_silent
    (f := fun (total, items) => do
      let info ← ofOperand (PageInfo.of total (.int plan.page) plan.limit)
      pure (Page.mk info items)) fun (total, items) _ => Follows.of_only
        ((Only.of_makes fun _ => (Runs.ofOperand _).makes).bind fun info =>
          .of_makes fun _ => (Runs.pure _).makes)
  obtain ⟨made, hcalls, hprefix, -⟩ := hpage journal
  refine ⟨made, hcalls, ?_⟩
  rintro ⟨c, hc, hcfetch⟩
  have hcount : countCall ns plan.selector =
      if fields = [] then .estimateCount ns else .countDocuments ns (.ofFields fields) := by
    rw [countCall, hselector, Value.truthy_ofFields]
    cases fields <;> rfl
  refine ⟨ns, fields, fetch ns, hcompiled, hfetches ns fields hselector, ?_⟩
  rw [← hcount]
  refine eq_pair_of_prefix hprefix (List.mem_filter.mpr ⟨hc, ?_⟩) ?_
  · rw [Call.isReading, hcfetch, Bool.or_true]
  · rintro rfl
    unfold countCall at hcfetch
    split at hcfetch <;> cases hcfetch

theorem planned_leaves {next : Int → Value → Value → SortOrder → Action α} {post : List Call → Prop}
    (hnone : post []) (h : ∀ plan, source.planFor listing = .ok plan →
      (next plan.page plan.limit plan.selector plan.order).Leaves post) :
    (source.planned listing next).Leaves post := by
  rw [planned_eq]
  exact Leaves.after_runs (fun _ => planned_runs source listing) hnone h

theorem listPage_countsAsFetched (source : DataSource) (listing : Listing) :
    (source.listPage listing).Leaves
      (CountsAsFetched (source.compiler.compile listing.filter).result SearchesBy) := by
  change Leaves _ (source.planned listing _)
  refine planned_leaves .of_none fun plan hplan => ?_
  refine requested_countsAsFetched hplan (.find · plan.selector none) (fun _ => rfl) ?_ ?_
  · rintro ns fields hselector
    rw [hselector]
    rfl
  · intro total client
    refine (sortCursor_only (fun _ => rfl) _).bind fun _ => ?_
    refine (Only.of_makes fun _ => (Runs.ofOperand _).makes).bind fun skip => ?_
    refine Only.bind (.call rfl) fun _ => Only.bind (.call rfl) fun _ => ?_
    exact Only.bind (fetch_only (by rfl) client) fun items => .of_makes fun _ => (Runs.pure _).makes

theorem listAggregation_countsAsFetched (source : DataSource) (stages : Value) (listing : Listing) :
    (source.listAggregation stages listing).Leaves
      (CountsAsFetched (source.compiler.compile listing.filter).result (AggregatesBy stages)) := by
  change Leaves _ (source.planned listing _)
  refine planned_leaves .of_none fun plan hplan => ?_
  refine Leaves.after_runs (fun _ => Runs.ofOperand _) .of_none fun skip _ => ?_
  refine Leaves.after_runs (fun _ => Runs.ofTraced _) .of_none fun list hlist => ?_
  rw [Pipeline.build_result, orFault_ok] at hlist
  refine requested_countsAsFetched hplan (.aggregate · list) (fun _ => rfl) ?_ ?_
  · intro ns fields hselector
    exact Pipeline.stageList_aggregatesBy hselector hlist ns
  · intro total client
    exact Only.bind (fetch_only (by rfl) client) fun items => .of_makes fun _ => (Runs.pure _).makes

/-- A filter with content is never run unfiltered: only a vacuous one is compiled to an empty
selector, and a listing that comes to fetch fetches by the selector, for which it asked an exact
count unless it is empty. -/
theorem counted_as_fetched (source : DataSource) (listing : Listing) (stages : Value) :
    let compiled := fun filter => (source.compiler.compile filter).result
    (∀ filter fields, compiled (.map filter) = .ok fields →
      (fields = [] ↔ Filter.Vacuous filter)) ∧
    (source.listPage listing).Leaves (CountsAsFetched (compiled listing.filter) SearchesBy) ∧
    (source.listAggregation stages listing).Leaves
      (CountsAsFetched (compiled listing.filter) (AggregatesBy stages)) :=
  ⟨fun _ _ => Compiler.compile_eq_nil, listPage_countsAsFetched source listing,
    listAggregation_countsAsFetched source stages listing⟩

theorem counted_as_fetched_alternatives :
    let filter : Entries := [(.str "or", .list [.int 1])]
    let client := Client.idle (.str "db")
    let run := (plain "people").listPage ⟨.int 1, .null, .null, .map filter⟩ (some client) .empty
    Filter.Vacuous filter ∧ ∃ ns, run.2.calls.filter Call.isReading =
      [.estimateCount ns, .find ns (.map []) none] := by
  intro filter client run
  obtain ⟨hempty, hpage, -⟩ :=
    counted_as_fetched (plain "people") ⟨.int 1, .null, .null, .map filter⟩ .null
  refine ⟨(hempty filter [] rfl).mp rfl, ?_⟩
  obtain ⟨made, hcalls, hcounts⟩ := hpage (some client) .empty
  obtain rfl : run.2.calls = made := hcalls
  obtain ⟨ns, fields, fetch, hfields, rfl, hreads⟩ :=
    hcounts ⟨_, .tail _ (.tail _ (.tail _ (.tail _ (.tail _ (.head _))))), rfl⟩
  cases hfields
  exact ⟨ns, hreads⟩

end DataSource

end DocQuery
