import DocQuery.Page
import Mathlib.Data.Rat.Lemmas

/-!
# Limits that are integers

With a limit that is an integer, of whatever type, pages are cut by integer
arithmetic, which does not fail.
-/

namespace DocQuery

theorem ExactValue.exceeds_ofRat (n bound : Int) :
    (ExactValue.ofRat n).exceeds bound = decide (bound < n) := by
  have hpower : ∀ a b : Nat, max (-(a : Int)) (min 0 (b : Int)) = 0 := by omega
  simp only [ExactValue.ofRat, ExactValue.exceeds, Rat.num_intCast, Rat.den_intCast, hpower]
  simp [tenPow]

theorem Number.exceeds_int (n bound : Int) :
    (Number.int n).exceeds bound = .ok (decide (bound < n)) :=
  congrArg Except.ok (ExactValue.exceeds_ofRat n bound)

theorem pageNumber_int (n : Int) : pageNumber (.int n) = .ok (max 1 n) := rfl

theorem pageNumber_pos (h : pageNumber page = .ok n) : 1 ≤ n := by
  unfold pageNumber at h
  split at h
  · cases h
    exact Int.le_max_left ..
  · cases h
    exact Int.le_refl 1
  · cases h
    exact Int.le_refl 1
  · cases h

namespace Value

/-- A value is an integer: one itself, or a truth value. -/
def IsInteger (v : Value) (n : Int) : Prop := v.number? = some (.int n)

theorem IsInteger.isNull {v : Value} (h : v.IsInteger n) : v.isNull = false := by
  cases v <;> first | rfl | cases h

theorem IsInteger.number {v : Value} (h : v.IsInteger n) : v.number = .ok (.int n) := by
  unfold Value.number
  rw [h]

theorem IsInteger.atLeast {v : Value} (h : v.IsInteger n) (bound : Int) :
    ∃ w, v.atLeast bound = .ok w ∧ w.IsInteger (max bound n) := by
  have hrun : v.atLeast bound = .ok (if decide (bound < n) then v else .int bound) := by
    simp only [Value.atLeast, h.number, bind, Except.bind, Number.exceeds_int]
    rfl
  refine ⟨_, hrun, ?_⟩
  by_cases hlt : bound < n
  · rw [if_pos (decide_eq_true hlt), max_eq_right hlt.le]
    exact h
  · rw [if_neg (by simpa using hlt), max_eq_left (Int.not_lt.mp hlt)]
    rfl

end Value

theorem skipFor_integer (hp : 1 ≤ page) (hl : limit.IsInteger n) :
    skipFor (.int page) limit = .ok (.int ((page - 1) * max 0 n)) := by
  obtain ⟨w, hw, hwn⟩ := hl.atLeast 0
  simp only [skipFor, pageNumber_int, max_eq_right hp, hw, bind, Except.bind, hwn.number]
  rfl

theorem skipFor_int (hp : 1 ≤ page) (hl : limit.IsInteger n) (hn : 0 ≤ n) :
    skipFor (.int page) limit = .ok (.int ((page - 1) * n)) := by
  rw [skipFor_integer hp hl, max_eq_right hn]

end DocQuery
