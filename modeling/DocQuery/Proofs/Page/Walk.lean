import DocQuery.Proofs.Page.Count
import Mathlib.Data.Int.ConditionallyCompleteOrder
import Mathlib.Data.Int.Interval
import Mathlib.Data.Set.Lattice
import Mathlib.Order.CompletePartialOrder
import Mathlib.Tactic.Linarith

/-!
# Walking through the pages of a listing

`Visits` follows the links from a page to the next one. `pages_walked` says that the
walk from the first page ends after all pages, in order, that the windows of the
visited pages cut the listing into parts without gaps or overlaps, and that the links
back lead the same way.
-/

namespace DocQuery

-- ---------------------------------------------------------------------------
-- The number of pages
-- ---------------------------------------------------------------------------

/-- A listing of `n` documents, which a double counts exactly, in pages of `size`, a
positive 64-bit integer. -/
structure Paged (total limit : Value) (n size : Int) : Prop where
  total_integer : total.IsInteger n
  limit_integer : limit.IsInteger size
  total_nonneg : 0 ≤ n
  total_le : n ≤ 2 ^ 53
  limit_pos : 1 ≤ size
  limit_lt : size < 2 ^ 63

theorem pageCount_ceil (h : Paged total limit n size) :
    pageCount total limit = .ok (n / size : ℚ).ceil := by
  have hpos := h.limit_pos
  obtain ⟨m, rfl⟩ := Int.eq_ofNat_of_zero_le h.total_nonneg
  obtain ⟨l, rfl⟩ := Int.eq_ofNat_of_zero_le (a := size) (by omega)
  rw [pageCount_quotient h.total_integer h.limit_integer (by omega)]
  have hm : m ≤ 2 ^ 53 := by exact_mod_cast h.total_le
  have hl : l < 2 ^ 63 := by exact_mod_cast h.limit_lt
  exact Binary64.ceil_quotient hm (by omega) hl

theorem pageCount_spec (h : Paged total limit n size) :
    ∃ count, pageCount total limit = .ok count ∧ n ≤ count * size ∧ (count - 1) * size < n := by
  have hsize : (0 : ℚ) < size := by exact_mod_cast h.limit_pos
  refine ⟨_, pageCount_ceil h, ?_, ?_⟩
  · have hle := Rat.le_ceil (x := (n / size : ℚ))
    rw [div_le_iff₀ hsize] at hle
    exact_mod_cast hle
  · have hlt := Rat.ceil_lt (x := (n / size : ℚ))
    rw [← sub_lt_iff_lt_add, lt_div_iff₀ hsize] at hlt
    exact_mod_cast hlt

theorem pageInfo_int (hc : pageCount total limit = .ok count) (hp : 1 ≤ page) :
    PageInfo.of total (.int page) limit = .ok
      { total, current := page, hasPrevious := decide (1 < page), hasNext := decide (page < count),
        pages := count, previous := if 1 < page then page - 1 else 0,
        next := if page < count then page + 1 else 0 } :=
  pageInfo_of hc (by rw [pageNumber_int, max_eq_right hp])

-- ---------------------------------------------------------------------------
-- Links
-- ---------------------------------------------------------------------------

/-- The pages that are met by going from a page to the next one until there is none. -/
inductive Visits (total limit : Value) : Int → List Int → Prop
  | last (h : PageInfo.of total (.int page) limit = .ok info) (hn : info.next = 0) :
    Visits total limit page [page]
  | next (h : PageInfo.of total (.int page) limit = .ok info) (hn : info.next ≠ 0)
    (hv : Visits total limit info.next rest) : Visits total limit page (page :: rest)

def pagesFrom (page count : Nat) : List Int := (List.range' page count).map Nat.cast

theorem pagesFrom_succ (page count : Nat) :
    pagesFrom page (count + 1) = (page : Int) :: pagesFrom (page + 1) count := rfl

theorem mem_pagesFrom {page count : Nat} :
    p ∈ pagesFrom page count ↔ (page : Int) ≤ p ∧ p < page + count := by
  simp only [pagesFrom, List.mem_map, List.mem_range'_1]
  constructor
  · rintro ⟨k, hk, rfl⟩
    omega
  · intro h
    exact ⟨p.toNat, by omega, by omega⟩

theorem nodup_pagesFrom (page count : Nat) : (pagesFrom page count).Nodup :=
  (List.nodup_range' (h := Nat.one_pos)).map Nat.cast_injective

theorem visits_next (hc : pageCount total limit = .ok count) (hp : 1 ≤ page) (hlt : page < count) :
    Visits total limit page pages ↔
      ∃ rest, pages = page :: rest ∧ Visits total limit (page + 1) rest := by
  have hinfo := pageInfo_int hc hp
  simp only [if_pos hlt] at hinfo
  constructor
  · intro hv
    cases hv with
    | last h hn =>
      cases hinfo.symm.trans h
      simp only at hn
      omega
    | next h _ hv =>
      cases hinfo.symm.trans h
      exact ⟨_, rfl, hv⟩
  · rintro ⟨rest, rfl, hv⟩
    refine .next hinfo ?_ hv
    simp only
    omega

theorem visits_last (hc : pageCount total limit = .ok count) (hp : 1 ≤ page) (hle : count ≤ page) :
    Visits total limit page pages ↔ pages = [page] := by
  have hinfo := pageInfo_int hc hp
  simp only [if_neg (not_lt.mpr hle)] at hinfo
  constructor
  · intro hv
    cases hv with
    | last => rfl
    | next h hn =>
      cases hinfo.symm.trans h
      exact absurd rfl hn
  · rintro rfl
    exact .last hinfo rfl

/-- From a page on, all pages up to the last one are visited, or the page alone if it is
not before the last one. -/
theorem visits_iff {page : Nat} (hc : pageCount total limit = .ok count) (hp : 1 ≤ page) :
    Visits total limit page pages ↔ pages = pagesFrom page ((count - page).toNat + 1) := by
  induction hk : (count - page).toNat generalizing page pages with
  | zero => exact visits_last hc (by omega) (by omega)
  | succ k ih =>
    rw [visits_next hc (by omega) (by omega), pagesFrom_succ]
    have ih := fun rest => @ih rest (page + 1) (by omega) (by omega)
    push_cast at ih
    simp only [ih, exists_eq_right]

theorem previous_chain {page : Nat} (hc : pageCount total limit = .ok count) (hp : 1 ≤ page)
    (k : Nat) : (pagesFrom page k).IsChain fun before after =>
      ∃ info, PageInfo.of total (.int after) limit = .ok info ∧ info.previous = before := by
  induction k generalizing page with
  | zero => exact .nil
  | succ k ih =>
    rw [pagesFrom_succ]
    have hrest := @ih (page + 1) (by omega)
    refine hrest.cons fun after hafter => ?_
    cases k with
    | zero => cases hafter
    | succ k =>
      cases hafter
      refine ⟨_, pageInfo_int hc (by omega), ?_⟩
      simp only
      split <;> omega

-- ---------------------------------------------------------------------------
-- Windows
-- ---------------------------------------------------------------------------

def window (size page : Int) : Set Int := Set.Ico ((page - 1) * size) ((page - 1) * size + size)

theorem mem_window (hs : 1 ≤ size) : d ∈ window size page ↔ d / size + 1 = page := by
  rw [window, Set.mem_Ico]
  constructor
  · rintro ⟨hle, hlt⟩
    have h1 : page - 1 ≤ d / size := (Int.le_ediv_iff_mul_le (by omega)).mpr hle
    have h2 : d / size < page := Int.ediv_lt_of_lt_mul (by omega) (by linarith)
    omega
  · rintro rfl
    rw [add_sub_cancel_right]
    have hlt := Int.lt_ediv_add_one_mul_self d (show 0 < size by omega)
    exact ⟨Int.ediv_mul_le d (by omega), by linarith⟩

theorem windows_disjoint (hs : 1 ≤ size) (hne : p ≠ q) :
    Disjoint (window size p) (window size q) := by
  rw [Set.disjoint_left]
  intro d hp hq
  exact hne (((mem_window hs).mp hp).symm.trans ((mem_window hs).mp hq))

theorem windows_cover (hs : 1 ≤ size) (hn : n ≤ count * size) :
    (⋃ page ∈ pagesFrom 1 (max 1 count).toNat, window size page) ∩ Set.Iio n = Set.Ico 0 n := by
  ext d
  simp only [Set.mem_inter_iff, Set.mem_iUnion, mem_window hs, mem_pagesFrom, exists_prop,
    exists_eq_right', Set.mem_Iio, Set.mem_Ico]
  refine and_congr_left fun hd => ?_
  have hlt : d / size < count := Int.ediv_lt_of_lt_mul (by omega) (hd.trans_le hn)
  have hnonneg : 0 ≤ d / size ↔ 0 ≤ d := Int.ediv_nonneg_iff_of_pos (by omega)
  omega

theorem window_nonempty (hs : 1 ≤ size) (hn : n ≤ count * size) (hlast : (count - 1) * size < n)
    (hpos : 0 < n) (hp : page ∈ pagesFrom 1 (max 1 count).toNat) :
    (window size page ∩ Set.Iio n).Nonempty := by
  have hcount : 0 < count := pos_of_mul_pos_left (hpos.trans_le hn) (by omega)
  have hle : page - 1 ≤ count - 1 := by
    have := mem_pagesFrom.mp hp
    omega
  refine ⟨(page - 1) * size, ⟨le_refl _, by omega⟩, ?_⟩
  exact (mul_le_mul_of_nonneg_right hle (by omega)).trans_lt hlast

-- ---------------------------------------------------------------------------
-- The walk
-- ---------------------------------------------------------------------------

/-- From the first page, the links to the next page lead through all pages, each once and
in order, and then end. Cut off at the end of the listing, the windows of these pages are
disjoint, none of them empty in a listing that is not, and together they are the listing.
The links to the previous page lead back. -/
theorem pages_walked (h : Paged total limit n size) :
    ∃ first pages, ∃ windows : Int → Set Int,
      PageInfo.of total (.int 1) limit = .ok first ∧
      pages = pagesFrom 1 (max 1 first.pages).toNat ∧
      (∀ visited, Visits total limit 1 visited ↔ visited = pages) ∧
      (∀ page ∈ pages, ∃ start, skipFor (.int page) limit = .ok (.int start) ∧
        windows page = Set.Ico start (start + size)) ∧
      pages.Pairwise (fun p q => Disjoint (windows p) (windows q)) ∧
      (⋃ page ∈ pages, windows page) ∩ Set.Iio n = Set.Ico 0 n ∧
      (0 < n → ∀ page ∈ pages, (windows page ∩ Set.Iio n).Nonempty) ∧
      pages.IsChain (fun before after =>
        ∃ info, PageInfo.of total (.int after) limit = .ok info ∧ info.previous = before) := by
  have hs := h.limit_pos
  obtain ⟨count, hc, hn, hlast⟩ := pageCount_spec h
  refine ⟨_, _, window size, pageInfo_int hc le_rfl, rfl, ?_, ?_, ?_, windows_cover hs hn,
    fun hpos _ hp => window_nonempty hs hn hlast hpos hp, previous_chain hc le_rfl _⟩
  · intro visited
    have hlength : (count - (1 : Nat)).toNat + 1 = (max 1 count).toNat := by omega
    rw [← hlength]
    exact visits_iff hc le_rfl
  · intro page hp
    have hpos : 1 ≤ page := (mem_pagesFrom.mp hp).1
    exact ⟨_, skipFor_int hpos h.limit_integer (by omega), rfl⟩
  · exact (nodup_pagesFrom ..).imp fun hne => windows_disjoint hs hne

theorem pages_walked_rounded :
    Paged (.int (2 ^ 53)) (.int 3) (2 ^ 53) 3 ∧
    ∃ first pages, ∃ windows : Int → Set Int,
      PageInfo.of (.int (2 ^ 53)) (.int 1) (.int 3) = .ok first ∧
      pages = pagesFrom 1 (max 1 first.pages).toNat ∧
      (∀ visited, Visits (.int (2 ^ 53)) (.int 3) 1 visited ↔ visited = pages) ∧
      (∀ page ∈ pages, ∃ start, skipFor (.int page) (.int 3) = .ok (.int start) ∧
        windows page = Set.Ico start (start + 3)) ∧
      pages.Pairwise (fun p q => Disjoint (windows p) (windows q)) ∧
      (⋃ page ∈ pages, windows page) ∩ Set.Iio (2 ^ 53) = Set.Ico 0 (2 ^ 53) ∧
      (0 < (2 : Int) ^ 53 → ∀ page ∈ pages, (windows page ∩ Set.Iio (2 ^ 53)).Nonempty) ∧
      pages.IsChain (fun before after =>
        ∃ info, PageInfo.of (.int (2 ^ 53)) (.int after) (.int 3) = .ok info ∧
          info.previous = before) := by
  have h : Paged (.int (2 ^ 53)) (.int 3) (2 ^ 53) 3 :=
    { total_integer := rfl, limit_integer := rfl, total_nonneg := by decide,
      total_le := le_rfl, limit_pos := by decide, limit_lt := by decide }
  exact ⟨h, pages_walked h⟩

end DocQuery
