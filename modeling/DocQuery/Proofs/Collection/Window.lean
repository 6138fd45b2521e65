import DocQuery.Proofs.Collection.Arguments

/-!
# The window of a listing

A listing fetches a window of the selected documents and reports it as a page. `windows_match`
says of both listings, with any client, that they skip and take the documents of the page
that they report, and that the pages are counted by the limit that is sent. The limit is
positive if the caller gives one; the source's own is taken as it is, and `unlimited_window`
shows a listing of everything without a page.
-/

namespace DocQuery

-- ---------------------------------------------------------------------------
-- Windows
-- ---------------------------------------------------------------------------

def windowStages (skip limit : Value) : List Value :=
  [.single "$skip" skip, .single "$limit" limit]

/-- A call that, if it says which documents to skip or to take, asks for a window. -/
def Call.InWindow (skip limit : Value) : Call → Prop
  | .skip count => count = skip
  | .limit count => count = limit
  | .aggregate _ stages => ∃ before, stages = before ++ windowStages skip limit
  | _ => True

def AsksWindow (skip limit : Value) (made : List Call) : Prop :=
  (.skip skip ∈ made ∧ .limit limit ∈ made) ∨
    ∃ ns before, .aggregate ns (before ++ windowStages skip limit) ∈ made

theorem Call.inWindow_of_isRequest {c : Call} {skip limit : Value} (h : c.isRequest = false) :
    c.InWindow skip limit := by
  cases c <;> first | exact trivial | cases h

/-- The window is the last thing that a pipeline asks for. -/
theorem Pipeline.stageList_window {pipeline : Pipeline} {stages : List Value}
    (hs : pipeline.skip.isNull = false) (hl : pipeline.limit.isNull = false)
    (h : pipeline.stageList = .ok stages) :
    ∃ before, stages = before ++ windowStages pipeline.skip pipeline.limit := by
  obtain ⟨caller, -, h⟩ := bind_ok_iff.mp h
  obtain ⟨sorting, -, h⟩ := bind_ok_iff.mp h
  cases h
  rw [hs, hl]
  exact ⟨_, List.append_assoc ..⟩

theorem pageInfo_ok {total : Value} (h : PageInfo.of total page limit = .ok info) :
    pageNumber page = .ok info.current ∧ pageCount info.total limit = .ok info.pages := by
  obtain ⟨current, hcurrent, h⟩ := bind_ok_iff.mp h
  obtain ⟨pages, hpages, h⟩ := bind_ok_iff.mp h
  cases h
  exact ⟨hcurrent, hpages⟩

theorem pageCount_nonpositive {total : Value} (hl : limit.IsInteger size) (hs : size ≤ 0) :
    pageCount total limit = .ok 0 := by
  simp only [pageCount, hl.number, bind, Except.bind, Number.exceeds_int,
    decide_eq_false (not_lt.mpr hs)]
  rfl

/-- A listing that fetches the window of a page: with any client, all that it skips and takes
are the documents of the window, and a page that it gives was fetched so, has the number of
that page, and counts the pages by the same limit. -/
def Action.ListsWindow (current : Int) (skip limit : Value) (x : Action Page) : Prop :=
  x.Ensures (Call.InWindow skip limit) fun made page =>
    AsksWindow skip limit made ∧ page.info.current = current ∧
      pageCount page.info.total limit = .ok page.info.pages

def Action.FetchesWindow (client : Client) (skip limit : Value) (x : Action Page) : Prop :=
  ∃ made, x.Makes (some client) made ∧ AsksWindow skip limit made

namespace DataSource

open DocQuery.Action

variable {source : DataSource} {listing : Listing} {allowed : Call → Prop} {skip limit : Value}

-- ---------------------------------------------------------------------------
-- Parts of listings
-- ---------------------------------------------------------------------------

theorem openCollection_inWindow : source.openCollection.Only (Call.InWindow skip limit) :=
  openCollection_only (fun _ => Call.inWindow_of_isRequest) source

theorem count_inWindow (selector : Value) :
    (source.count selector).Only (Call.InWindow skip limit) := by
  refine openCollection_inWindow.bind fun ns => ?_
  split
  · exact (Only.call trivial).bind fun client => .of_makes fun _ => (Runs.pure _).makes
  · refine (Only.of_makes fun _ => (Runs.ofTraced _).makes).bind fun _ => ?_
    exact (Only.call trivial).bind fun client => .of_makes fun _ => (Runs.pure _).makes

theorem sortCursor_inWindow (order : SortOrder) :
    (sortCursor order).Only (Call.InWindow skip limit) := sortCursor_only (fun _ => trivial) order

theorem fetch_inWindow (client : Client) :
    (source.fetch client).Only (Call.InWindow skip limit) := fetch_only trivial client

theorem planned_ensures {next : Int → Value → Value → SortOrder → Action α}
    {post : List Call → α → Prop}
    (h : ∀ plan, source.planFor listing = .ok plan →
      (next plan.page plan.limit plan.selector plan.order).Ensures allowed post) :
    (source.planned listing next).Ensures allowed post := by
  rw [planned_eq]
  refine (Ensures.of_runs fun _ => planned_runs source listing).bind ?_
  rintro _ plan ⟨rfl, hplan⟩
  exact h plan hplan

theorem page_ensures {found : Action (Value × List Value)} {plan : ListingPlan}
    {post : List Call → Prop} (hp : 1 ≤ plan.page) (h : found.Ensures allowed fun made _ => post made) :
    (do
      let (total, items) ← guarded found
      let info ← ofOperand (PageInfo.of total (.int plan.page) plan.limit)
      pure (Page.mk info items) : Action Page).Ensures allowed fun made page =>
        post made ∧ page.info.current = plan.page ∧
          pageCount page.info.total plan.limit = .ok page.info.pages := by
  refine h.mapFault.bind ?_
  rintro made ⟨total, items⟩ hmade
  refine (Ensures.of_runs fun _ => Runs.ofOperand _).bind ?_
  rintro _ info ⟨rfl, hinfo⟩
  obtain ⟨hcurrent, hpages⟩ := pageInfo_ok (orFault_ok.mp hinfo)
  rw [pageNumber_int, max_eq_right hp] at hcurrent
  refine .pure ⟨?_, (Except.ok.inj hcurrent).symm, hpages⟩
  rwa [List.append_nil, List.append_nil]

-- ---------------------------------------------------------------------------
-- Both listings
-- ---------------------------------------------------------------------------

section

variable (hpage : pageNumber listing.page = .ok current)
  (hlimit : source.pageLimit listing.limit = .ok limit)
  (hskip : skipFor (.int current) limit = .ok skip)

include hpage hlimit hskip

theorem listPage_window : (source.listPage listing).ListsWindow current skip limit := by
  change Ensures _ _ (source.planned listing _)
  refine planned_ensures fun plan hplan => ?_
  obtain ⟨hp, hl, -, -⟩ := planFor_ok hplan
  cases hpage.symm.trans hp
  cases hlimit.symm.trans hl
  refine page_ensures (pageNumber_pos hp) ?_
  refine (Ensures.of_only (count_inWindow _)).bind fun _ total _ => ?_
  refine (Ensures.of_only openCollection_inWindow).bind fun _ ns _ => ?_
  refine (Ensures.call trivial).bind fun _ client _ => ?_
  refine (Ensures.of_only (sortCursor_inWindow _)).bind fun _ _ _ => ?_
  refine (Ensures.of_runs fun _ => Runs.ofOperand _).bind ?_
  rintro _ count ⟨rfl, hcount⟩
  cases hskip.symm.trans (orFault_ok.mp hcount)
  refine Ensures.bind (.call rfl) ?_
  rintro _ _ rfl
  refine Ensures.bind (.call rfl) ?_
  rintro _ _ rfl
  refine (Ensures.of_only (fetch_inWindow _)).bind fun _ items _ => .pure (.inl ?_)
  simp

theorem listAggregation_window (hs : skip.isNull = false) (hl : limit.isNull = false)
    (stages : Value) : (source.listAggregation stages listing).ListsWindow current skip limit := by
  change Ensures _ _ (source.planned listing _)
  refine planned_ensures fun plan hplan => ?_
  obtain ⟨hp, hbound, -, -⟩ := planFor_ok hplan
  cases hpage.symm.trans hp
  cases hlimit.symm.trans hbound
  refine (Ensures.of_runs fun _ => Runs.ofOperand _).bind ?_
  rintro _ count ⟨rfl, hcount⟩
  cases hskip.symm.trans (orFault_ok.mp hcount)
  refine (Ensures.of_runs fun _ => Runs.ofTraced _).bind ?_
  rintro _ list ⟨rfl, hlist⟩
  rw [Pipeline.build_result, orFault_ok] at hlist
  obtain ⟨before, rfl⟩ := Pipeline.stageList_window hs hl hlist
  refine page_ensures (pageNumber_pos hp) ?_
  refine (Ensures.of_only (count_inWindow _)).bind fun _ total _ => ?_
  refine (Ensures.of_only openCollection_inWindow).bind fun _ ns _ => ?_
  refine Ensures.bind (.call ⟨before, rfl⟩) ?_
  rintro _ client rfl
  refine (Ensures.of_only (fetch_inWindow _)).bind fun _ items _ => .pure (.inr ⟨ns, before, ?_⟩)
  simp

variable {client : Client} {plan : ListingPlan} (hserves : client.Serves source database)
  (hplan : source.planFor listing = .ok plan)

include hserves hplan

theorem listPage_fetches : (source.listPage listing).FetchesWindow client skip limit := by
  obtain ⟨hp, hl, -, -⟩ := planFor_ok hplan
  cases hpage.symm.trans hp
  cases hlimit.symm.trans hl
  refine ⟨_, (listPage_runs hserves hplan hskip).makes, .inl ?_⟩
  simp

theorem listAggregation_fetches {stages : Value} (hs : skip.isNull = false)
    (hl : limit.isNull = false)
    (hstages : Pipeline.stageList ⟨plan.selector, stages, plan.order.toValue, skip, limit⟩ =
      .ok stageList) :
    (source.listAggregation stages listing).FetchesWindow client skip limit := by
  obtain ⟨hp, hbound, -, -⟩ := planFor_ok hplan
  cases hpage.symm.trans hp
  cases hlimit.symm.trans hbound
  refine ⟨_, (listAggregation_runs hserves hplan hskip hstages).makes, .inr ?_⟩
  obtain ⟨before, rfl⟩ := Pipeline.stageList_window hs hl hstages
  exact ⟨source.namespaceIn database, before, by simp⟩

end

/-- Both listings show one window of documents as the page that they report. They do ask for it
on a client that answers, where the arguments and the stages have a meaning. -/
structure ShowsWindow (source : DataSource) (listing : Listing) (stages : Value) (current : Int)
    (skip limit : Value) : Prop where
  page : (source.listPage listing).ListsWindow current skip limit
  aggregation : (source.listAggregation stages listing).ListsWindow current skip limit
  page_fetches : ∀ client database plan, client.Serves source database →
    source.planFor listing = .ok plan → (source.listPage listing).FetchesWindow client skip limit
  aggregation_fetches : ∀ client database plan list, client.Serves source database →
    source.planFor listing = .ok plan →
    Pipeline.stageList ⟨plan.selector, stages, plan.order.toValue, skip, limit⟩ = .ok list →
    (source.listAggregation stages listing).FetchesWindow client skip limit

theorem pageLimit_size (h : source.IntegerLimit listing) :
    ∃ limit size, source.pageLimit listing.limit = .ok limit ∧ limit.IsInteger size ∧
      (∀ n, listing.limit.IsInteger n → size = max 1 n) ∧
      (listing.limit = .null → limit = source.options.limit) ∧
      (1 ≤ size ↔
        listing.limit ≠ .null ∨ ∃ n, 1 ≤ n ∧ source.options.limit.IsInteger n) := by
  unfold pageLimit
  rcases h with ⟨n, hn⟩ | ⟨hnull, n, hn⟩
  · obtain ⟨limit, hlimit, hsize⟩ := hn.atLeast 1
    have hne : listing.limit ≠ .null := by
      intro h
      rw [h] at hn
      cases hn
    rw [hn.isNull]
    refine ⟨limit, _, hlimit, hsize, fun m hm => ?_, fun h => absurd h hne,
      fun _ => .inl hne, fun _ => le_max_left ..⟩
    cases hn.symm.trans hm
    rfl
  · rw [hnull]
    refine ⟨_, n, rfl, hn, fun m hm => (nomatch hm), fun _ => rfl, fun h => .inr ⟨n, h, hn⟩, ?_⟩
    rintro (h | ⟨m, hm, h⟩)
    · exact absurd rfl h
    · cases hn.symm.trans h
      exact hm

theorem showsWindow (hpage : pageNumber listing.page = .ok current)
    (hlimit : source.pageLimit listing.limit = .ok limit) (hn : limit.IsInteger size)
    (stages : Value) :
    source.ShowsWindow listing stages current (.int ((current - 1) * max 0 size)) limit := by
  have hskip := skipFor_integer (pageNumber_pos hpage) hn
  constructor
  · exact listPage_window hpage hlimit hskip
  · exact listAggregation_window hpage hlimit hskip rfl hn.isNull stages
  · intro client database plan hserves hplan
    exact listPage_fetches hpage hlimit hskip hserves hplan
  · intro client database plan list hserves hplan hlist
    exact listAggregation_fetches hpage hlimit hskip hserves hplan rfl hn.isNull hlist

/-- Both listings skip and take the documents of the page that they report, and count the
pages by the limit that they send. The limit is the caller's, raised to 1, or the source's own as
it is; so it is positive unless the caller leaves it to a source with another one, which then
skips nothing and reports no pages. -/
theorem windows_match (source : DataSource) (listing : Listing) (stages : Value) (current : Int)
    (hlimit : source.IntegerLimit listing) (hpage : pageNumber listing.page = .ok current) :
    ∃ limit size, source.pageLimit listing.limit = .ok limit ∧ limit.IsInteger size ∧
      (∀ n, listing.limit.IsInteger n → size = max 1 n) ∧
      (listing.limit = .null → limit = source.options.limit) ∧
      (1 ≤ size ↔
        listing.limit ≠ .null ∨ ∃ n, 1 ≤ n ∧ source.options.limit.IsInteger n) ∧
      ∃ skip, source.ShowsWindow listing stages current skip limit ∧
        (1 ≤ size → skip = .int ((current - 1) * size)) ∧
        (size ≤ 0 → skip = .int 0 ∧ ∀ total, pageCount total limit = .ok 0) := by
  obtain ⟨limit, size, hl, hn, hgiven, hown, hpositive⟩ := pageLimit_size hlimit
  refine ⟨limit, size, hl, hn, hgiven, hown, hpositive, _, showsWindow hpage hl hn stages,
    fun hs => ?_, fun hs => ⟨?_, fun total => pageCount_nonpositive hn hs⟩⟩
  · rw [max_eq_right (by omega)]
  · rw [max_eq_left hs, mul_zero]

theorem windows_match_raised :
    let listing : Listing := ⟨.str " 3 ", .int (-5), .null, .null⟩
    let client := { Client.idle (.str "db") with estimatedCount := .int 7 }
    let run := (plain "people").listPage listing (some client) .empty
    ∃ page, run.1 = .ok page ∧ AsksWindow (.int 2) (.int 1) run.2.calls ∧
      page.info.current = 3 ∧ pageCount page.info.total (.int 1) = .ok page.info.pages := by
  intro listing client run
  obtain ⟨limit, size, hl, hn, -, -, -, skip, hshows, hskip, -⟩ :=
    windows_match (plain "people") listing .null 3 (.inl ⟨-5, rfl⟩) rfl
  cases hl
  cases hn
  obtain rfl := hskip le_rfl
  have hrun : ∃ page, run.1 = .ok page := ⟨_, rfl⟩
  obtain ⟨page, hpage⟩ := hrun
  obtain ⟨made, hcalls, -, hreported⟩ := hshows.page (some client) .empty
  rw [show run.2.calls = made from hcalls]
  exact ⟨page, hpage, hreported page hpage⟩

/-- A source of limit 0 takes as many documents as there are, and calls them no page. -/
theorem unlimited_window :
    let source := { plain "people" with options := ⟨.int 0, .null⟩ }
    let documents := [Value.single "age" (.int 1), .single "age" (.int 2)]
    let client := { Client.idle (.str "db") with documents, estimatedCount := .int 2 }
    let run := source.listPage ⟨.int 1, .null, .null, .null⟩ (some client) .empty
    .limit (.int 0) ∈ run.2.calls ∧
      ∃ page, run.1 = .ok page ∧ page.items = documents ∧ page.info.pages = 0 := by
  intro source documents client run
  have hcalls : run.2.calls = source.opening ++ [.estimateCount ⟨.str "db", "people"⟩] ++
    source.opening ++ [.find ⟨.str "db", "people"⟩ (.map []) none, .skip (.int 0),
      .limit (.int 0), .exhaust] := rfl
  refine ⟨?_, _, rfl, rfl, rfl⟩
  rw [hcalls]
  simp

end DataSource

end DocQuery
