import DocQuery.Proofs.Text.LeadingInteger
import DocQuery.Proofs.Text.WholeInteger

/-!
# Texts that begin with an integer

What `leadingInteger` reads, as a grammar: white space, a sign or none, digits of any script, and
a rest that does not go on with a digit. A text of this form is read as its integer, unless it has
too many digits, and every other text as zero.
-/

namespace DocQuery

inductive Signed (n : Nat) : List Char → Int → Prop
  | none : Signed n [] n
  | plus : Signed n ['+'] n
  | minus : Signed n ['-'] (-n)

/-- Characters that are digits, and what each of them is worth. -/
abbrev AreDigits : List Char → List Nat → Prop := List.Forall₂ fun c d => digitValue? c = some d

/-- A text begins with an integer that is written with digits: no further one comes after them. -/
inductive BeginsWithInteger : List Char → List Nat → Int → Prop
  | intro (hblanks : ∀ c ∈ blanks, isBlank c)
    (hsign : Signed (Nat.ofDigits 10 digits.reverse) sign n)
    (hrun : AreDigits run digits) (hne : run ≠ [])
    (hrest : ∀ c ∈ rest.head?, digitValue? c = none) :
    BeginsWithInteger (blanks ++ (sign ++ (run ++ rest))) digits n

-- ---------------------------------------------------------------------------
-- Runs of digits
-- ---------------------------------------------------------------------------

theorem filterMap_digits (h : AreDigits run digits) :
    run.filterMap digitValue? = digits := by
  induction h with
  | nil => rfl
  | cons hd _ ih => rw [List.filterMap_cons_some hd, ih]

theorem takeWhile_digits (h : AreDigits run digits)
    (hrest : ∀ c ∈ rest.head?, digitValue? c = none) :
    (run ++ rest).takeWhile isDecimalDigit = run := by
  induction h with
  | nil =>
    cases rest with
    | nil => rfl
    | cons c rest =>
      have hc : digitValue? c = none := hrest c rfl
      simp [isDecimalDigit, hc]
  | cons hd _ ih => simpa [isDecimalDigit, hd] using ih

theorem areDigits_filterMap (h : ∀ c ∈ run, isDecimalDigit c) :
    AreDigits run (run.filterMap digitValue?) := by
  induction run with
  | nil => exact .nil
  | cons c run ih =>
    obtain ⟨d, hd⟩ := Option.isSome_iff_exists.mp (h c List.mem_cons_self)
    rw [List.filterMap_cons_some hd]
    exact .cons hd (ih fun c hc => h c (List.mem_cons_of_mem _ hc))

theorem beginsWithInteger_zeros (n : Nat) :
    BeginsWithInteger (List.replicate (n + 1) '0') (List.replicate (n + 1) 0) 0 := by
  have hdigits (n : Nat) : AreDigits (List.replicate n '0') (List.replicate n 0) := by
    induction n with
    | zero => exact .nil
    | succ n ih => exact .cons rfl ih
  have hvalue : Signed (Nat.ofDigits 10 (List.replicate (n + 1) 0).reverse) [] 0 := by
    rw [List.reverse_replicate, Nat.ofDigits_replicate_zero]
    exact .none
  have hzeros : BeginsWithInteger ([] ++ ([] ++ (List.replicate (n + 1) '0' ++ [])))
      (List.replicate (n + 1) 0) 0 := .intro (by simp) hvalue (hdigits _) (by simp) (by simp)
  simpa using hzeros

-- ---------------------------------------------------------------------------
-- Signs
-- ---------------------------------------------------------------------------

theorem leadingSign_signed (cs : List Char) : ∃ sign, cs = sign ++ (leadingSign cs).2 ∧
    ∀ n : Nat, Signed n sign (if (leadingSign cs).1 then -(n : Int) else n) := by
  unfold leadingSign
  split
  · exact ⟨['-'], rfl, fun _ => .minus⟩
  · exact ⟨['+'], rfl, fun _ => .plus⟩
  · exact ⟨[], rfl, fun _ => .none⟩

theorem signed_digit (hs : Signed k sign n) (hd : digitValue? c = some d) (rest : List Char) :
    (sign ++ c :: rest).dropWhile isBlank = sign ++ c :: rest ∧
      ∃ negative, leadingSign (sign ++ c :: rest) = (negative, c :: rest) ∧
        n = if negative then -(k : Int) else k := by
  cases hs with
  | none =>
    refine ⟨List.dropWhile_cons_of_neg (by simp [isBlank_digit hd]), false, ?_, rfl⟩
    exact leadingSign_digit hd
  | plus => exact ⟨List.dropWhile_cons_of_neg (by decide), false, rfl, rfl⟩
  | minus => exact ⟨List.dropWhile_cons_of_neg (by decide), true, rfl, rfl⟩

-- ---------------------------------------------------------------------------
-- Reading
-- ---------------------------------------------------------------------------

theorem leadingInteger_eq (h : BeginsWithInteger s.toList digits n) :
    leadingInteger s = if digits.length ≤ digitLimit then .ok n else .error .badValue := by
  unfold leadingInteger
  generalize s.toList = cs at h
  cases h with
  | @intro blanks _ sign _ run rest hblanks hsign hrun hne hrest =>
    obtain ⟨c, more, rfl⟩ := List.exists_cons_of_ne_nil hne
    have hdigits := filterMap_digits hrun
    have htake := takeWhile_digits hrun hrest
    obtain ⟨d, hd⟩ : ∃ d, digitValue? c = some d := by
      cases hrun with
      | cons hd _ => exact ⟨_, hd⟩
    obtain ⟨hdrop, negative, hleading, rfl⟩ := signed_digit hsign hd (more ++ rest)
    have hempty : ¬ digits.isEmpty := by
      cases hrun
      exact Bool.false_ne_true
    rw [List.cons_append] at htake
    rw [List.dropWhile_append_of_pos hblanks, List.cons_append, hdrop, hleading]
    dsimp only
    rw [htake, hdigits, if_neg hempty, boundedDigits, ← digitsToNat_eq_ofDigits]
    by_cases hl : digits.length ≤ digitLimit
    · rw [if_pos hl, if_pos hl]
      rfl
    · rw [if_neg hl, if_neg hl]
      rfl

theorem beginsWithInteger_of_ne (h : leadingInteger s ≠ .ok 0) :
    ∃ digits n, BeginsWithInteger s.toList digits n := by
  obtain ⟨sign, hsign, hsigned⟩ := leadingSign_signed (s.toList.dropWhile isBlank)
  have hne : digitRun s ≠ [] := by
    intro hnil
    refine h ?_
    unfold digitRun at hnil
    simp [leadingInteger, hnil]
  have hrun : ∀ c ∈ digitRun s, isDecimalDigit c := fun _ => List.mem_takeWhile_imp
  have hs : s.toList = s.toList.takeWhile isBlank ++ (sign ++ (digitRun s ++
      (leadingSign (s.toList.dropWhile isBlank)).2.dropWhile isDecimalDigit)) := by
    rw [digitRun, List.takeWhile_append_dropWhile, ← hsign, List.takeWhile_append_dropWhile]
  rw [hs]
  have hdigits := areDigits_filterMap hrun
  refine ⟨_, _, .intro (fun _ => List.mem_takeWhile_imp) (hsigned _) hdigits hne ?_⟩
  intro c hc
  have hdigit := List.head?_dropWhile_not isDecimalDigit
    (leadingSign (s.toList.dropWhile isBlank)).2
  rw [hc] at hdigit
  simpa [isDecimalDigit] using hdigit

end DocQuery
