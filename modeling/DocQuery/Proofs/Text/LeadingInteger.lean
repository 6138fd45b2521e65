import DocQuery.Text.Integer

/-!
# The digits at the beginning of a text

`leadingInteger` fails on no text but one whose leading number has more digits
than can be read.
-/

namespace DocQuery

/-- The digits of the number at the beginning of a text, in any script. -/
def digitRun (s : String) : List Char :=
  (leadingSign (s.toList.dropWhile isBlank)).2.takeWhile isDecimalDigit

theorem length_digitValues (cs : List Char) :
    ((cs.takeWhile isDecimalDigit).filterMap digitValue?).length =
      (cs.takeWhile isDecimalDigit).length := by
  induction cs with
  | nil => rfl
  | cons c rest ih =>
    cases hc : isDecimalDigit c with
    | false => simp [hc]
    | true =>
      obtain ⟨d, hd⟩ := Option.isSome_iff_exists.mp hc
      simp [hc, hd, ih]

theorem leadingInteger_error :
    leadingInteger s = .error cause ↔ cause = .badValue ∧ digitLimit < (digitRun s).length := by
  unfold leadingInteger digitRun
  rw [← length_digitValues]
  dsimp only
  generalize List.filterMap digitValue? _ = digits
  cases digits with
  | nil => simp
  | cons d rest =>
    unfold boundedDigits
    by_cases h : (d :: rest).length ≤ digitLimit
    · rw [if_pos h]
      exact ⟨fun hc => (nomatch hc), fun hc => absurd hc.2 (Nat.not_lt.mpr h)⟩
    · rw [if_neg h]
      constructor
      · rintro ⟨⟩
        exact ⟨rfl, Nat.lt_of_not_le h⟩
      · rintro ⟨rfl, -⟩
        rfl

theorem digitRun_zeros (n : Nat) :
    digitRun (String.ofList (List.replicate n '0')) = List.replicate n '0' := by
  unfold digitRun
  rw [String.toList_ofList]
  cases n with
  | zero => rfl
  | succ n =>
    rw [List.replicate_succ, List.dropWhile_cons_of_neg (by decide)]
    change ('0' :: List.replicate n '0').takeWhile isDecimalDigit = _
    rw [← List.replicate_succ, List.takeWhile_replicate, if_pos (by decide)]

end DocQuery
