import DocQuery.Collection.Reading
import DocQuery.Proofs.Collection.Opening
import DocQuery.Proofs.FirstFault
import DocQuery.Proofs.Page.Limits
import DocQuery.Proofs.Query.SortMapping

/-!
# Listings

What a listing does once it is known what to list: `ListingPlan` has what is computed
from the arguments before the first call, and the runs of both listings follow from it.
`listings_agree` compares the two: on clients with the same replies they end in the
same page, or in the same fault.
-/

namespace DocQuery

/-- What a listing lists, as it is known before the first call. -/
structure ListingPlan where
  page : Int
  limit : Value
  selector : Value
  order : SortOrder

def Client.counted (client : Client) (selector : Value) : Value :=
  if selector.truthy then client.exactCount else client.estimatedCount

theorem Pipeline.build_result (pipeline : Pipeline) :
    pipeline.build.result = orFault pipeline.stageList := by
  unfold Pipeline.build
  rw [Traced.result_bind]
  cases pipeline.stageList <;> rfl

namespace DataSource

open DocQuery.Action

variable {source : DataSource} {listing : Listing} {client : Client}

-- ---------------------------------------------------------------------------
-- The arguments of a listing
-- ---------------------------------------------------------------------------

def planFor (source : DataSource) (listing : Listing) : Except Fault ListingPlan := do
  let page ← orFault (pageNumber listing.page)
  let limit ← orFault (source.pageLimit listing.limit)
  let fields ← (source.compiler.compile listing.filter).result
  let order ← orFault (SortOrder.ofValue listing.order)
  pure ⟨page, limit, .ofFields fields, order⟩

theorem planFor_ok (h : source.planFor listing = .ok plan) :
    pageNumber listing.page = .ok plan.page ∧
      source.pageLimit listing.limit = .ok plan.limit ∧
      (∃ fields, (source.compiler.compile listing.filter).result = .ok fields ∧
        plan.selector = .ofFields fields) ∧
      SortOrder.ofValue listing.order = .ok plan.order := by
  obtain ⟨page, hpage, h⟩ := bind_ok_iff.mp h
  obtain ⟨limit, hlimit, h⟩ := bind_ok_iff.mp h
  obtain ⟨fields, hfields, h⟩ := bind_ok_iff.mp h
  obtain ⟨order, horder, h⟩ := bind_ok_iff.mp h
  cases h
  exact ⟨orFault_ok.mp hpage, orFault_ok.mp hlimit, ⟨fields, hfields, rfl⟩, orFault_ok.mp horder⟩

def planned (source : DataSource) (listing : Listing)
    (next : Int → Value → Value → SortOrder → Action α) : Action α := do
  let page ← ofOperand (pageNumber listing.page)
  let limit ← ofOperand (source.pageLimit listing.limit)
  let selector ← source.selectorOf listing.filter
  let order ← ofOperand (SortOrder.ofValue listing.order)
  next page limit selector order

theorem planned_runs (source : DataSource) (listing : Listing) :
    (source.planned listing fun page limit selector order =>
      pure (ListingPlan.mk page limit selector order)).Runs client? []
        (source.planFor listing) := by
  refine (Runs.ofOperand _).bind_result fun page => (Runs.ofOperand _).bind_result fun limit => ?_
  unfold selectorOf
  rw [bind_assoc]
  refine (Runs.ofTraced _).bind_result fun fields => ?_
  exact (Runs.ofOperand _).bind_result fun order => .pure _

variable {next : Int → Value → Value → SortOrder → Action α}

theorem planned_eq : source.planned listing next =
    (source.planned listing fun page limit selector order =>
      pure (ListingPlan.mk page limit selector order)) >>= fun plan =>
        next plan.page plan.limit plan.selector plan.order := by
  simp only [planned, bind_assoc]
  rfl

theorem planned_ok (h : source.planFor listing = .ok plan)
    (hnext : (next plan.page plan.limit plan.selector plan.order).Runs client? made result) :
    (source.planned listing next).Runs client? made result := by
  rw [planned_eq]
  exact (planned_runs source listing).bind_of_eq h hnext

theorem planned_error (h : source.planFor listing = .error fault) :
    (source.planned listing next).Runs client? [] (.error fault) := by
  rw [planned_eq]
  exact (planned_runs source listing).bind_error_of_eq h

-- ---------------------------------------------------------------------------
-- The calls of a listing
-- ---------------------------------------------------------------------------

def countCall (ns : Namespace) (selector : Value) : Call :=
  if selector.truthy then .countDocuments ns selector else .estimateCount ns

def sortCalls (order : SortOrder) : List Call := if order.isEmpty then [] else [.sort order]

def read (source : DataSource) (client : Client) : Except Fault (List Value) :=
  client.documents.mapM source.decode

/-- A cursor is read past its last document, unless a document before cannot be decoded. -/
def readCalls : Except Fault (List Value) → List Call
  | .ok _ => [.exhaust]
  | .error _ => []

theorem count_runs (h : client.Serves source database) (selector : Value) :
    (source.count selector).Runs (some client)
      (source.opening ++ [countCall (source.namespaceIn database) selector])
      (.ok (client.counted selector)) := by
  refine h.opens.openCollection.bind ?_
  unfold countCall Client.counted
  split
  · exact (Runs.call (h.never · _)).bind_silent (.pure _)
  · exact (Runs.ofTraced _).bind_of_eq rfl ((Runs.call (h.never · _)).bind_silent (.pure _))

theorem sortCursor_runs (h : client.Serves source database) (order : SortOrder) :
    (sortCursor order).Runs (some client) (sortCalls order) (.ok ()) := by
  unfold sortCursor sortCalls
  split
  · exact .pure _
  · exact (Runs.call (h.never · _)).bind_silent (.pure _)

theorem fetch_runs (h : client.Serves source database) :
    (source.fetch client).Runs (some client) (readCalls (source.read client))
      (source.read client) := by
  unfold fetch
  cases hread : source.read client with
  | ok items =>
    refine (Runs.ofExcept _).bind_of_eq hread ?_
    exact (Runs.call (h.never · _)).bind_silent (.pure _)
  | error fault => exact (Runs.ofExcept _).bind_error_of_eq hread

theorem sortCursor_only {allowed : Call → Prop} (h : ∀ order, allowed (.sort order))
    (order : SortOrder) : (sortCursor order).Only allowed := by
  unfold sortCursor
  split
  · exact .of_makes fun _ => (Runs.pure _).makes
  · exact (Only.call (h order)).bind fun client => .of_makes fun _ => (Runs.pure _).makes

theorem fetch_only {allowed : Call → Prop} (h : allowed .exhaust) (client : Client) :
    (source.fetch client).Only allowed := by
  refine (Only.of_makes fun _ => (Runs.ofExcept _).makes).bind fun items => ?_
  exact (Only.call h).bind fun client => .of_makes fun _ => (Runs.pure _).makes

def pageOf (plan : ListingPlan) (total : Value) (items : Except Fault (List Value)) :
    Except Fault Page := do
  let items ← items.mapError requestFault
  let info ← orFault (PageInfo.of total (.int plan.page) plan.limit)
  pure ⟨info, items⟩

theorem pageOf_runs {found : Action (Value × List Value)} {plan : ListingPlan}
    (h : found.Runs client? made (items >>= fun items => .ok (total, items))) :
    (do
      let (total, items) ← guarded found
      let info ← ofOperand (PageInfo.of total (.int plan.page) plan.limit)
      pure (Page.mk info items) : Action Page).Runs client? made (pageOf plan total items) := by
  have hfound : (guarded found).Runs client? made
      ((items >>= fun items => .ok (total, items)).mapError requestFault) := h.mapFault
  have hpage := hfound.bind_result
    (f := fun (total, items) => do
      let info ← ofOperand (PageInfo.of total (.int plan.page) plan.limit)
      pure (Page.mk info items))
    (r := fun (total, items) => do
      let info ← orFault (PageInfo.of total (.int plan.page) plan.limit)
      pure (Page.mk info items))
    fun (total, items) => (Runs.ofOperand _).bind_result fun info => .pure _
  cases items with
  | ok items => exact hpage
  | error fault => exact hpage

theorem listPage_runs (h : client.Serves source database)
    (hp : source.planFor listing = .ok plan)
    (hs : skipFor (.int plan.page) plan.limit = .ok skip) :
    (source.listPage listing).Runs (some client)
      (source.opening ++ [countCall (source.namespaceIn database) plan.selector] ++
        (source.opening ++ ([.find (source.namespaceIn database) plan.selector none] ++
          (sortCalls plan.order ++ ([.skip skip] ++ ([.limit plan.limit] ++
            readCalls (source.read client)))))))
      (pageOf plan (client.counted plan.selector) (source.read client)) := by
  refine planned_ok hp (pageOf_runs ?_)
  refine (count_runs h plan.selector).bind (h.opens.openCollection.bind ?_)
  refine (Runs.call (h.never · _)).bind ((sortCursor_runs h plan.order).bind ?_)
  refine (Runs.ofOperand _).bind_of_eq (congrArg orFault hs) ?_
  refine (Runs.call (h.never · _)).bind ((Runs.call (h.never · _)).bind ?_)
  exact (fetch_runs h).bind_result fun items => .pure _

theorem listAggregation_runs (h : client.Serves source database)
    (hp : source.planFor listing = .ok plan)
    (hs : skipFor (.int plan.page) plan.limit = .ok skip)
    (hstages : Pipeline.stageList ⟨plan.selector, stages, plan.order.toValue, skip, plan.limit⟩ =
      .ok stageList) :
    (source.listAggregation stages listing).Runs (some client)
      (source.opening ++ [countCall (source.namespaceIn database) plan.selector] ++
        (source.opening ++ ([.aggregate (source.namespaceIn database) stageList] ++
          readCalls (source.read client))))
      (pageOf plan (client.counted plan.selector) (source.read client)) := by
  have hpipeline : (Pipeline.build ⟨plan.selector, stages, plan.order.toValue, skip,
      plan.limit⟩).result = .ok stageList := by
    rw [Pipeline.build_result, hstages]
    rfl
  refine planned_ok hp ((Runs.ofOperand _).bind_of_eq (congrArg orFault hs) ?_)
  refine (Runs.ofTraced _).bind_of_eq hpipeline (pageOf_runs ?_)
  refine (count_runs h plan.selector).bind (h.opens.openCollection.bind ?_)
  refine (Runs.call (h.never · _)).bind ?_
  exact (fetch_runs h).bind_result fun items => .pure _

-- ---------------------------------------------------------------------------
-- Limits and stages
-- ---------------------------------------------------------------------------

theorem pageLimit_integer {p : Int → Prop} (hp : ∀ n, 1 ≤ n → p n)
    (h : (∃ n, limit.IsInteger n) ∨ limit = .null ∧ ∃ n, p n ∧ source.options.limit.IsInteger n)
    (hl : source.pageLimit limit = .ok bound) : ∃ n, p n ∧ bound.IsInteger n := by
  unfold pageLimit at hl
  rcases h with ⟨n, hn⟩ | ⟨rfl, n, hown, hn⟩
  · obtain ⟨w, hw, hwn⟩ := hn.atLeast 1
    rw [hn.isNull] at hl
    cases hw.symm.trans hl
    exact ⟨_, hp _ (Int.le_max_left ..), hwn⟩
  · cases hl
    exact ⟨n, hown, hn⟩

/-- The stages of a pipeline with an integer limit: the caller's stand between matching
and sorting. -/
theorem stageList_eq (selector : Value) {order : SortOrder} (skip : Int)
    (hs : stages = .null ∧ items = [] ∨ stages = .list items)
    (hf : ∀ key ∈ order, key.field.isKey = true) (hl : limit.IsInteger n) :
    ∃ entries, order.Maps entries ∧
      Pipeline.stageList ⟨selector, stages, order.toValue, .int skip, limit⟩ =
        .ok ((if selector.truthy then [.single "$match" selector] else []) ++ items ++
          (if order.isEmpty then [] else [.single "$sort" (.map entries)]) ++
          [.single "$skip" (.int skip), .single "$limit" limit]) := by
  obtain ⟨entries, hentries, hmaps⟩ := SortOrder.entries_toValue hf
  refine ⟨entries, hmaps, ?_⟩
  have hcaller : Pipeline.callerStages stages = .ok items := by
    rcases hs with ⟨rfl, rfl⟩ | rfl
    · rfl
    · cases items <;> rfl
  have hsort : Pipeline.sortStages order.toValue =
      .ok (if order.isEmpty then [] else [.single "$sort" (.map entries)]) := by
    unfold Pipeline.sortStages
    rw [hentries]
    cases order <;> rfl
  simp only [Pipeline.stageList, hcaller, hsort, hl.isNull, Pipeline.stageIf]
  exact congrArg Except.ok (List.append_assoc ..)

/-- The two listings agree. Where the arguments ask for no plan, both end in the fault
that says why and make no call. Otherwise both count with the same call and end in the
same page or fault; one finds, sorts, skips and limits, the other aggregates, by the same
selector, order, numbers of documents to skip and to take, and around the stages of the
caller. -/
theorem listings_agree (source : DataSource) (listing : Listing) (stages : Value)
    (items : List Value) (client other : Client) (database otherDatabase : Value)
    (hlimit : (∃ n, listing.limit.IsInteger n) ∨
      listing.limit = .null ∧ ∃ n, 1 ≤ n ∧ source.options.limit.IsInteger n)
    (hfields : ∀ order, SortOrder.ofValue listing.order = .ok order →
      ∀ key ∈ order, key.field.isKey = true)
    (hstages : stages = .null ∧ items = [] ∨ stages = .list items)
    (hclient : client.Serves source database) (hother : other.Serves source otherDatabase)
    (hdocuments : client.documents = other.documents)
    (hexact : client.exactCount = other.exactCount)
    (hestimated : client.estimatedCount = other.estimatedCount) :
    ∃ made aggregated result, (source.listPage listing).Runs (some client) made result ∧
      (source.listAggregation stages listing).Runs (some other) aggregated result ∧
      match source.planFor listing with
      | .error fault => result = .error fault ∧ made = [] ∧ aggregated = []
      | .ok plan => ∃ n skip entries reads, plan.limit.IsInteger n ∧
          skip = .int ((plan.page - 1) * n) ∧ plan.order.Maps entries ∧
          (reads = [] ∨ reads = [.exhaust]) ∧
          made = source.opening ++ [countCall (source.namespaceIn database) plan.selector] ++
            source.opening ++ [.find (source.namespaceIn database) plan.selector none] ++
            (if plan.order.isEmpty then [] else [.sort plan.order]) ++
            [.skip skip, .limit plan.limit] ++ reads ∧
          aggregated =
            source.opening ++ [countCall (source.namespaceIn otherDatabase) plan.selector] ++
            source.opening ++ [.aggregate (source.namespaceIn otherDatabase)
              ((if plan.selector.truthy then [.single "$match" plan.selector] else []) ++ items ++
                (if plan.order.isEmpty then [] else [.single "$sort" (.map entries)]) ++
                [.single "$skip" skip, .single "$limit" plan.limit])] ++ reads := by
  cases hplan : source.planFor listing with
  | error fault => exact ⟨[], [], _, planned_error hplan, planned_error hplan, rfl, rfl, rfl⟩
  | ok plan =>
    obtain ⟨hpage, hbound, -, horder⟩ := planFor_ok hplan
    obtain ⟨n, hn, hinteger⟩ := pageLimit_integer (fun _ h => h) hlimit hbound
    have hskip : skipFor (.int plan.page) plan.limit = .ok (.int ((plan.page - 1) * n)) :=
      skipFor_int (pageNumber_pos hpage) hinteger (by omega)
    obtain ⟨entries, hmaps, hlist⟩ := stageList_eq plan.selector ((plan.page - 1) * n) hstages
      (hfields _ horder) hinteger
    have hread : source.read client = source.read other := by
      rw [DataSource.read, hdocuments]
      rfl
    have hcounted : client.counted plan.selector = other.counted plan.selector := by
      rw [Client.counted, hexact, hestimated]
      rfl
    have hruns := listPage_runs hclient hplan hskip
    rw [hread, hcounted] at hruns
    refine ⟨_, _, _, hruns, listAggregation_runs hother hplan hskip hlist, n, _, entries,
      readCalls (source.read other), hinteger, rfl, hmaps, ?_, ?_, ?_⟩
    · cases source.read other with
      | ok items => exact .inr rfl
      | error fault => exact .inl rfl
    · simp only [sortCalls, List.append_assoc, List.cons_append, List.nil_append]
    · simp only [List.append_assoc]

theorem listings_agree_second_page :
    let listing : Listing :=
      ⟨.int 2, .int 10, .map [(.str "age", .null)], .map [(.str "name", .str "x")]⟩
    let source := plain "people"
    let client := Client.idle (.str "db")
    let ns := source.namespaceIn (.str "db")
    let selector := Value.single "name" (.str "x")
    let unwind := Value.single "$unwind" (.str "tags")
    ∃ made aggregated result entries reads,
      (source.listPage listing).Runs (some client) made result ∧
      (source.listAggregation (.list [unwind]) listing).Runs (some client) aggregated result ∧
      made = source.opening ++ [.countDocuments ns selector] ++ source.opening ++
        [.find ns selector none, .sort [⟨.str "age", false⟩], .skip (.int 10), .limit (.int 10)] ++
        reads ∧
      aggregated = source.opening ++ [.countDocuments ns selector] ++ source.opening ++
        [.aggregate ns [.single "$match" selector, unwind, .single "$sort" (.map entries),
          .single "$skip" (.int 10), .single "$limit" (.int 10)]] ++ reads := by
  intro listing source client ns selector unwind
  have horder : SortOrder.ofValue listing.order = .ok [⟨.str "age", false⟩] := rfl
  have hfields : ∀ order, SortOrder.ofValue listing.order = .ok order →
      ∀ key ∈ order, key.field.isKey = true := by
    intro order h key hkey
    cases horder.symm.trans h
    rw [List.mem_singleton.mp hkey]
    rfl
  have hserves : client.Serves source (.str "db") := ⟨rfl, fun _ _ => rfl⟩
  obtain ⟨made, aggregated, result, hpage, haggregation, hcalls⟩ :=
    listings_agree source listing (.list [unwind]) [unwind] client client (.str "db") (.str "db")
      (.inl ⟨10, rfl⟩) hfields (.inr rfl) hserves hserves rfl rfl rfl
  obtain ⟨n, skip, entries, reads, hn, rfl, -, -, rfl, rfl⟩ := hcalls
  obtain rfl : n = 10 := by
    cases hn
    rfl
  exact ⟨_, _, result, entries, reads, hpage, haggregation, rfl, rfl⟩

end DataSource

end DocQuery
