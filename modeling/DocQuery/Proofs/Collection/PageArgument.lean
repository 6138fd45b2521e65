import DocQuery.Proofs.Collection.Arguments
import DocQuery.Proofs.Page.Numbers

/-!
# The page of a listing

A listing depends on the page that it is asked for through the page number alone, and with a
limit that is an integer it fails at one page as at another. `listings_page` says so of
both listings, and that an infinite page is refused.
-/

namespace DocQuery

namespace DataSource

open DocQuery.Action

variable {source : DataSource} {listing : Listing} {client : Client}

-- ---------------------------------------------------------------------------
-- Pages of one number
-- ---------------------------------------------------------------------------

def Listing.onPage (listing : Listing) (page : Int) : Listing := { listing with page := .int page }

theorem pageNumber_onPage (hp : 1 ≤ page) : pageNumber (listing.onPage page).page = .ok page := by
  rw [Listing.onPage, pageNumber_int, max_eq_right hp]

theorem listPage_numbered (hp : 1 ≤ page) (h : pageNumber listing.page = .ok page) :
    source.listPage listing = source.listPage (listing.onPage page) := by
  unfold listPage
  rw [h, pageNumber_onPage hp]
  rfl

theorem listAggregation_numbered (hp : 1 ≤ page) (h : pageNumber listing.page = .ok page)
    (stages : Value) : source.listAggregation stages listing =
      source.listAggregation stages (listing.onPage page) := by
  unfold listAggregation
  rw [h, pageNumber_onPage hp]
  rfl

-- ---------------------------------------------------------------------------
-- What a listing ends in
-- ---------------------------------------------------------------------------

theorem planFor_onPage (hp : 1 ≤ page) :
    source.planFor (listing.onPage page) =
      (source.planFor (listing.onPage 1)).map ({ · with page }) := by
  unfold planFor
  rw [pageNumber_onPage hp, pageNumber_onPage le_rfl]
  simp only [Listing.onPage, orFault, bind, Except.bind, Except.mapError]
  cases source.pageLimit listing.limit with
  | error cause => rfl
  | ok limit =>
    dsimp only
    cases (source.compiler.compile listing.filter).result with
    | error fault => rfl
    | ok fields =>
      dsimp only
      cases SortOrder.ofValue listing.order <;> rfl

theorem pageOf_eq_error (page : Int) (plan : ListingPlan) (total : Value)
    (items : Except Fault (List Value)) :
    pageOf { plan with page } total items = .error fault ↔
      pageOf plan total items = .error fault := by
  unfold pageOf PageInfo.of
  cases items with
  | error cause => rfl
  | ok items =>
    simp only [pageNumber_int]
    cases pageCount total plan.limit with
    | error cause => rfl
    | ok pages => exact ⟨fun h => (nomatch h), fun h => (nomatch h)⟩

/-- What comes after the plan fails at one page as at another. -/
theorem planFor_eq_error {next : ListingPlan → Except Fault Page} (hp : 1 ≤ page)
    (hnext : ∀ plan, next { plan with page } = .error fault ↔ next plan = .error fault) :
    (source.planFor (listing.onPage page) >>= next) = .error fault ↔
      (source.planFor (listing.onPage 1) >>= next) = .error fault := by
  rw [planFor_onPage hp]
  cases source.planFor (listing.onPage 1) with
  | error cause => rfl
  | ok plan => exact hnext plan

theorem listPage_ends_in (h : client.Serves source database) (hl : source.IntegerLimit listing) :
    ∃ made, (source.listPage listing).Runs (some client) made
      (source.planFor listing >>= fun plan =>
        pageOf plan (client.counted plan.selector) (source.read client)) := by
  cases hp : source.planFor listing with
  | error fault => exact ⟨[], planned_error hp⟩
  | ok plan =>
    obtain ⟨skip, hskip⟩ := skipFor_plan hl hp
    exact ⟨_, listPage_runs h hp hskip⟩

theorem stageList_checks (pipeline : Pipeline) (x : Except Fault α) :
    (orFault pipeline.stageList >>= fun _ => x) =
      (orFault (Pipeline.callerStages pipeline.stages) >>= fun _ =>
        orFault (Pipeline.sortStages pipeline.sort) >>= fun _ => x) := by
  unfold Pipeline.stageList
  cases Pipeline.callerStages pipeline.stages with
  | error cause => rfl
  | ok caller => cases Pipeline.sortStages pipeline.sort <;> rfl

theorem listAggregation_ends_in (h : client.Serves source database)
    (hl : source.IntegerLimit listing) (stages : Value) :
    ∃ made, (source.listAggregation stages listing).Runs (some client) made
      (source.planFor listing >>= fun plan =>
        orFault (Pipeline.callerStages stages) >>= fun _ =>
          orFault (Pipeline.sortStages plan.order.toValue) >>= fun _ =>
            pageOf plan (client.counted plan.selector) (source.read client)) := by
  cases hp : source.planFor listing with
  | error fault => exact ⟨[], planned_error hp⟩
  | ok plan =>
    obtain ⟨skip, hskip⟩ := skipFor_plan hl hp
    let pipeline : Pipeline := ⟨plan.selector, stages, plan.order.toValue, skip, plan.limit⟩
    have hresult : ∃ made, (source.listAggregation stages listing).Runs (some client) made
        (orFault pipeline.stageList >>= fun _ =>
          pageOf plan (client.counted plan.selector) (source.read client)) := by
      cases hlist : pipeline.stageList with
      | ok list => exact ⟨_, listAggregation_runs h hp hskip hlist⟩
      | error cause =>
        have hbuild : pipeline.build.result = .error (.misuse cause) := by
          rw [Pipeline.build_result, hlist]
          rfl
        refine ⟨[], planned_ok hp ((Runs.ofOperand _).bind_of_eq (congrArg orFault hskip) ?_)⟩
        exact (Runs.ofTraced _).bind_error_of_eq hbuild
    rw [stageList_checks] at hresult
    exact hresult

/-- An infinite page is refused before anything else is done. Every other page stands for a
page number, which is what it is read as, or 1, and the listings are those of that number; they
fail if and as the listings of the first page do. -/
theorem listings_page (source : DataSource) (listing : Listing) (stages : Value) :
    (listing.page.isInfinite → pageNumber listing.page = .error .tooLarge ∧ ∀ client? journal,
      source.listPage listing client? journal = (.error (.misuse .tooLarge), journal) ∧
      source.listAggregation stages listing client? journal =
        (.error (.misuse .tooLarge), journal)) ∧
    (listing.page.isInfinite = false → ∃ page, pageNumber listing.page = .ok page ∧ 1 ≤ page ∧
      (∀ n, listing.page.Reads n → page = max 1 n) ∧
      ((∀ n, ¬ listing.page.Reads n) → page = 1) ∧
      source.listPage listing = source.listPage (listing.onPage page) ∧
      source.listAggregation stages listing =
        source.listAggregation stages (listing.onPage page) ∧
      (source.IntegerLimit listing → ∀ client database journal fault,
        client.Serves source database →
          ((source.listPage listing (some client) journal).1 = .error fault ↔
            (source.listPage (listing.onPage 1) (some client) journal).1 = .error fault) ∧
          ((source.listAggregation stages listing (some client) journal).1 = .error fault ↔
            (source.listAggregation stages (listing.onPage 1) (some client) journal).1 =
              .error fault))) := by
  constructor
  · intro hinfinite
    have hpage := pageNumber_of_infinite hinfinite
    refine ⟨hpage, fun client? journal => ⟨?_, ?_⟩⟩
    · unfold listPage
      rw [hpage]
      rfl
    · unfold listAggregation
      rw [hpage]
      rfl
  · intro hfinite
    obtain ⟨page, hpage, hpos, hreads, hnone⟩ := pageNumber_of_reads hfinite
    have hlist : source.listPage listing = _ := listPage_numbered hpos hpage
    have haggregate : source.listAggregation stages listing = _ :=
      listAggregation_numbered hpos hpage stages
    refine ⟨page, hpage, hpos, hreads, hnone, hlist, haggregate, ?_⟩
    intro hl client database journal fault hserves
    -- The calls differ in what is skipped, so that the two runs are compared by their results.
    have hl' (page : Int) : source.IntegerLimit (listing.onPage page) := hl
    constructor
    · obtain ⟨_, hruns⟩ := listPage_ends_in hserves (hl' page)
      obtain ⟨_, hfirst⟩ := listPage_ends_in hserves (hl' 1)
      rw [hlist, hruns.result_eq, hfirst.result_eq]
      exact planFor_eq_error hpos fun plan => pageOf_eq_error page plan _ _
    · obtain ⟨_, hruns⟩ := listAggregation_ends_in hserves (hl' page) stages
      obtain ⟨_, hfirst⟩ := listAggregation_ends_in hserves (hl' 1) stages
      rw [haggregate, hruns.result_eq, hfirst.result_eq]
      refine planFor_eq_error hpos fun plan => ?_
      dsimp only
      cases orFault (Pipeline.callerStages stages) with
      | error cause => rfl
      | ok caller =>
        cases orFault (Pipeline.sortStages plan.order.toValue) with
        | error cause => rfl
        | ok sorting => exact pageOf_eq_error page plan _ _

end DataSource

end DocQuery
