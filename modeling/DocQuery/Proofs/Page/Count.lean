import DocQuery.Proofs.Number.Ceiling
import DocQuery.Proofs.Page.Limits
import Mathlib.Order.Bounds.Defs

/-!
# How many pages there are

The number of pages is a quotient of integers that is rounded to a double before its
ceiling is taken. `pages_counted` says of which listings it is the number of pages that
are needed: those whose last page is seen in the quotient.
-/

namespace DocQuery

theorem pageCount_quotient (ht : total.IsInteger n) (hl : limit.IsInteger size) (hs : 0 < size) :
    pageCount total limit = (Binary64.quotient n size >>= Binary64.ceil) := by
  simp only [pageCount, ht.number, hl.number, Number.exceeds_int, bind, Except.bind,
    decide_eq_true hs, if_true]
  rfl

theorem pageInfo_of (hc : pageCount total limit = .ok count)
    (hp : pageNumber page = .ok current) : PageInfo.of total page limit = .ok
      { total, current, hasPrevious := decide (1 < current), hasNext := decide (current < count),
        pages := count, previous := if 1 < current then current - 1 else 0,
        next := if current < count then current + 1 else 0 } := by
  simp only [PageInfo.of, hp, hc, bind, Except.bind, decide_eq_true_eq]
  rfl

theorem isLeast_ceil {n size : Int} (hs : 0 < size) :
    IsLeast {count : Int | n ≤ count * size} (n / size : ℚ).ceil := by
  have hsize : (0 : ℚ) < size := by exact_mod_cast hs
  have hiff (count : Int) : (n / size : ℚ).ceil ≤ count ↔ n ≤ count * size := by
    rw [Rat.ceil_le_iff, div_le_iff₀ hsize]
    exact_mod_cast Iff.rfl
  exact ⟨(hiff _).mp le_rfl, fun count h => (hiff count).mpr h⟩

theorem lt_least_iff {n size count : Int} (hs : 0 < size)
    (h : IsLeast {count : Int | n ≤ count * size} count) (current : Int) :
    current < count ↔ current * size < n := by
  constructor
  · intro hlt
    by_contra hge
    exact absurd (h.2 (not_lt.mp hge)) (not_le.mpr hlt)
  · intro hlt
    by_contra hge
    have := mul_le_mul_of_nonneg_right (not_lt.mp hge) hs.le
    exact absurd (h.1.trans this) (not_le.mpr hlt)

/-- A listing has as many pages as it needs, the fewest that hold all documents, if and only
if its last page is seen in the rounded quotient; and then there is a next page exactly as
long as documents are left. It is seen in listings of up to `2 ^ 53` documents. -/
theorem pages_counted (total page limit : Value) (n size current : Int)
    (ht : total.IsInteger n) (hl : limit.IsInteger size) (hn : 0 ≤ n) (hn' : n < 2 ^ 63)
    (hs : 1 ≤ size) (hs' : size < 2 ^ 63) (hp : pageNumber page = .ok current) :
    ∃ info, PageInfo.of total page limit = .ok info ∧
      (IsLeast {count : Int | n ≤ count * size} info.pages ↔ LastSeen n.toNat size.toNat) ∧
      (info.hasNext = true ↔ current < info.pages) ∧
      (LastSeen n.toNat size.toNat → (info.hasNext = true ↔ current * size < n)) ∧
      (n ≤ 2 ^ 53 → LastSeen n.toNat size.toNat) := by
  obtain ⟨m, rfl⟩ := Int.eq_ofNat_of_zero_le hn
  obtain ⟨l, rfl⟩ := Int.eq_ofNat_of_zero_le (a := size) (by omega)
  rw [Int.toNat_natCast, Int.toNat_natCast]
  have hl' : 0 < l := by omega
  obtain ⟨count, hcount, hseen⟩ :=
    Binary64.ceil_quotient_iff (m := m) (n := l) (by omega) hl' (by omega)
  have hinfo := pageInfo_of ((pageCount_quotient ht hl (by omega)).trans hcount) hp
  have hleast : IsLeast {count : Int | m ≤ count * l} count ↔ LastSeen m l := by
    have hceil : IsLeast {count : Int | m ≤ count * l} (m / l : ℚ).ceil :=
      isLeast_ceil (by omega)
    rw [← hseen]
    exact ⟨fun h => h.unique hceil, fun h => h ▸ hceil⟩
  refine ⟨_, hinfo, hleast, decide_eq_true_iff, fun h => ?_, fun h => ?_⟩
  · exact decide_eq_true_iff.trans (lt_least_iff (by omega) (hleast.mpr h) current)
  · exact Binary64.lastSeen_of_le (by omega) hl'

theorem pages_counted_seen :
    ∃ info, PageInfo.of (.int (2 ^ 54 + 3)) (.str " 2 ") (.int 4) = .ok info ∧
      IsLeast {count : Int | 2 ^ 54 + 3 ≤ count * 4} info.pages ∧ info.hasNext = true := by
  have hseen : LastSeen (2 ^ 54 + 3) 4 := by decide +kernel
  obtain ⟨info, hinfo, hleast, -, hnext, -⟩ := pages_counted (.int (2 ^ 54 + 3)) (.str " 2 ")
    (.int 4) (2 ^ 54 + 3) 4 2 rfl rfl (by decide) (by decide) (by decide) (by decide) rfl
  exact ⟨info, hinfo, hleast.mpr hseen, (hnext hseen).mpr (by decide)⟩

/-- A last page of one document is lost after `2 ^ 53` others. -/
theorem last_page_lost :
    ∃ info, PageInfo.of (.int (2 ^ 53 + 1)) (.int (2 ^ 53)) (.int 1) = .ok info ∧
      info.pages = 2 ^ 53 ∧ info.hasNext = false ∧
      ¬ IsLeast {count : Int | 2 ^ 53 + 1 ≤ count * 1} info.pages := by
  have hcount : pageCount (.int (2 ^ 53 + 1)) (.int 1) = .ok (2 ^ 53) := by decide +kernel
  refine ⟨_, pageInfo_of hcount rfl, rfl, rfl, fun h => ?_⟩
  exact absurd h.1 (by decide)

end DocQuery
