import DocQuery.Text.Integer
import Mathlib.Data.List.DropRight
import Mathlib.Data.Nat.Digits.Defs

/-!
# Texts that are integers

The texts that `Integer.ofChars?` reads are those of a grammar: digits of any script, in
groups that single underscores separate, after a sign, and between margins.
-/

namespace DocQuery

-- ---------------------------------------------------------------------------
-- Characters
-- ---------------------------------------------------------------------------

theorem digitValue?_bounds (h : digitValue? c = some d) :
    ∃ first ∈ digitZeros, first ≤ c.toNat ∧ c.toNat ≤ first + 9 := by
  obtain ⟨first, hfind, -⟩ := Option.map_eq_some_iff.mp h
  refine ⟨first, List.mem_of_find?_eq_some hfind, ?_⟩
  simpa using List.find?_some hfind

/-- The digits of no script stand among the white space. -/
theorem digitZeros_blankRanges :
    ∀ first ∈ digitZeros, ∀ range ∈ blankRanges, range.2 < first ∨ first + 9 < range.1 := by
  decide +kernel

theorem isBlank_digit (h : digitValue? c = some d) : isBlank c = false := by
  obtain ⟨first, hfirst, hle, hge⟩ := digitValue?_bounds h
  refine List.any_eq_false.mpr fun range hrange => ?_
  have haway := digitZeros_blankRanges first hfirst range hrange
  simp only [Bool.and_eq_true, decide_eq_true_eq]
  omega

theorem isMargin_digit (h : digitValue? c = some d) : isMargin c = false := by
  rw [isMargin, isBlank_digit h, Bool.false_and]

theorem ne_of_digit (h : digitValue? c = some d) : c ≠ '-' ∧ c ≠ '+' ∧ c ≠ '_' := by
  have hzeros : ∀ first ∈ digitZeros, first = '0'.toNat ∨ '_'.toNat < first := by decide +kernel
  obtain ⟨first, hfirst, hle, hge⟩ := digitValue?_bounds h
  have haway := hzeros first hfirst
  have hcodes : '0'.toNat = 48 ∧ '_'.toNat = 95 ∧ '-'.toNat = 45 ∧ '+'.toNat = 43 := by decide
  refine ⟨?_, ?_, ?_⟩ <;>
  · rintro rfl
    omega

-- ---------------------------------------------------------------------------
-- The grammar
-- ---------------------------------------------------------------------------

/-- Digits in groups, with what they are worth. -/
inductive Grouped : List Char → List Nat → Prop
  | last : digitValue? c = some d → Grouped [c] [d]
  | digit : digitValue? c = some d → Grouped cs digits → Grouped (c :: cs) (d :: digits)
  | separated : digitValue? c = some d → Grouped cs digits → Grouped (c :: '_' :: cs) (d :: digits)

/-- A text is a decimal integer with a sign, or none, and margins. -/
inductive Integer.Spells : List Char → Int → Prop
  | unsigned : Grouped cs digits → digits.length ≤ digitLimit →
      Spells cs (Nat.ofDigits 10 digits.reverse)
  | plus : Grouped cs digits → digits.length ≤ digitLimit →
      Spells ('+' :: cs) (Nat.ofDigits 10 digits.reverse)
  | minus : Grouped cs digits → digits.length ≤ digitLimit →
      Spells ('-' :: cs) (-Nat.ofDigits 10 digits.reverse)
  | before : isMargin c → Spells cs n → Spells (c :: cs) n
  | after : isMargin c → Spells cs n → Spells (cs ++ [c]) n

theorem digitsToNat_eq_ofDigits (digits : List Nat) :
    digitsToNat digits = Nat.ofDigits 10 digits.reverse := by
  rw [Nat.ofDigits_eq_foldr, List.foldr_reverse]
  simp only [digitsToNat, Nat.cast_id, Nat.add_comm]

theorem digitsToNat_eq (digits : List Nat) :
    (digitsToNat digits : Int) = Nat.ofDigits 10 digits.reverse := by
  rw [digitsToNat_eq_ofDigits, Nat.coe_ofDigits]
  rfl

theorem Grouped.head (h : Grouped cs digits) :
    ∃ c rest d, cs = c :: rest ∧ digitValue? c = some d := by
  cases h with
  | last hd => exact ⟨_, _, _, rfl, hd⟩
  | digit hd _ => exact ⟨_, _, _, rfl, hd⟩
  | separated hd _ => exact ⟨_, _, _, rfl, hd⟩

theorem Grouped.final (h : Grouped cs digits) :
    ∃ init c d, cs = init ++ [c] ∧ digitValue? c = some d := by
  induction h with
  | last hd => exact ⟨[], _, _, rfl, hd⟩
  | digit _ _ ih =>
    obtain ⟨init, c, d, rfl, hd⟩ := ih
    exact ⟨_ :: init, c, d, rfl, hd⟩
  | separated _ _ ih =>
    obtain ⟨init, c, d, rfl, hd⟩ := ih
    exact ⟨_ :: '_' :: init, c, d, rfl, hd⟩

theorem groupedDigits?_digit (h : next ≠ '_') :
    groupedDigits? (c :: next :: more) =
      (digitValue? c).bind fun d => (groupedDigits? (next :: more)).map (d :: ·) := by
  rw [groupedDigits?]
  split <;> rename_i heq <;> cases heq
  · exact absurd rfl h
  · rfl

theorem groupedDigits?_eq_some : groupedDigits? cs = some digits ↔ Grouped cs digits := by
  constructor
  · intro h
    induction cs using groupedDigits?.induct generalizing digits with
    | case1 => cases h
    | case2 c rest ih =>
      rw [groupedDigits?] at h
      obtain ⟨d, hd, h⟩ := Option.bind_eq_some_iff.mp h
      split at h
      · cases h
        exact .last hd
      · obtain ⟨more, hmore, rfl⟩ := Option.map_eq_some_iff.mp h
        exact .separated hd (ih hmore)
      · obtain ⟨more, hmore, rfl⟩ := Option.map_eq_some_iff.mp h
        split at ih <;> rename_i heq <;> cases heq
        · contradiction
        · exact .digit hd (ih hmore)
  · intro h
    induction h with
    | last hd => simp [groupedDigits?, hd]
    | digit hd hcs ih =>
      obtain ⟨next, rest, e, rfl, he⟩ := hcs.head
      rw [groupedDigits?_digit (ne_of_digit he).2.2, hd, ih]
      rfl
    | separated hd _ ih =>
      rw [groupedDigits?, hd]
      exact congrArg (Option.map _) ih

-- ---------------------------------------------------------------------------
-- Margins
-- ---------------------------------------------------------------------------

section

variable {drop : Char → Bool}

theorem trimWith_before (hc : drop c) (cs : List Char) :
    trimWith drop (c :: cs) = trimWith drop cs := by
  unfold trimWith
  rw [List.dropWhile_cons_of_pos hc]

theorem trimWith_after (hc : drop c) (cs : List Char) :
    trimWith drop (cs ++ [c]) = trimWith drop cs := by
  change ((cs ++ [c]).dropWhile drop).rdropWhile drop = (cs.dropWhile drop).rdropWhile drop
  rw [List.dropWhile_append]
  split
  · rename_i hnil
    rw [List.isEmpty_iff.mp hnil, List.dropWhile_cons_of_pos hc]
    rfl
  · exact List.rdropWhile_concat_pos drop _ _ hc

theorem trimWith_self (hc : drop c = false) (hlast : drop last = false)
    (h : c :: rest = init ++ [last]) : trimWith drop (c :: rest) = c :: rest := by
  change ((c :: rest).dropWhile drop).rdropWhile drop = c :: rest
  rw [List.dropWhile_cons_of_neg (by simp [hc]), h]
  exact List.rdropWhile_concat_neg drop _ _ (by simp [hlast])

theorem trimWith_spec (drop : Char → Bool) (cs : List Char) :
    ∃ front back, cs = front ++ (trimWith drop cs ++ back) ∧
      (∀ c ∈ front, drop c) ∧ ∀ c ∈ back, drop c := by
  refine ⟨cs.takeWhile drop, (cs.dropWhile drop).rtakeWhile drop, ?_,
    fun _ => List.mem_takeWhile_imp, fun _ => List.mem_rtakeWhile_imp⟩
  change cs = _ ++ ((cs.dropWhile drop).rdropWhile drop ++ _)
  rw [List.rdropWhile_append_rtakeWhile, List.takeWhile_append_dropWhile]

end

-- ---------------------------------------------------------------------------
-- Reading
-- ---------------------------------------------------------------------------

theorem Integer.Spells.margins (hfront : ∀ c ∈ front, isMargin c) (hback : ∀ c ∈ back, isMargin c)
    (h : Spells cs n) : Spells (front ++ (cs ++ back)) n := by
  induction front with
  | nil =>
    induction back using List.reverseRecOn with
    | nil => simpa using h
    | append_singleton back c ih =>
      rw [List.nil_append, ← List.append_assoc]
      exact .after (hback c (by simp)) (ih fun b hb => hback b (by simp [hb]))
  | cons c front ih =>
    have hrest : ∀ b ∈ front, isMargin b := fun b hb => hfront b (List.mem_cons_of_mem _ hb)
    exact .before (hfront c List.mem_cons_self) (ih hrest)

theorem leadingSign_spells (h : leadingSign cs = (negative, body)) (hg : Grouped body digits)
    (hl : digits.length ≤ digitLimit) :
    Integer.Spells cs (if negative then -digitsToNat digits else digitsToNat digits) := by
  rw [digitsToNat_eq]
  unfold leadingSign at h
  split at h
  · cases h
    exact .minus hg hl
  · cases h
    exact .plus hg hl
  · cases h
    exact .unsigned hg hl

theorem leadingSign_digit (h : digitValue? c = some d) :
    leadingSign (c :: cs) = (false, c :: cs) := by
  unfold leadingSign
  split
  · rename_i heq
    exact absurd (List.cons.inj heq).1 (ne_of_digit h).1
  · rename_i heq
    exact absurd (List.cons.inj heq).1 (ne_of_digit h).2.1
  · rfl

theorem trimWith_sign (hc : isMargin c = false) (hg : Grouped body digits) :
    trimWith isMargin (c :: body) = c :: body := by
  obtain ⟨init, last, d, rfl, hd⟩ := hg.final
  have hlast : c :: (init ++ [last]) = (c :: init) ++ [last] := rfl
  exact trimWith_self hc (isMargin_digit hd) hlast

theorem ofChars?_of_digits (ht : trimWith isMargin cs = cs)
    (hs : leadingSign cs = (negative, body)) (hg : Grouped body digits)
    (hl : digits.length ≤ digitLimit) :
    Integer.ofChars? cs =
      some (if negative then -Nat.ofDigits 10 digits.reverse
        else Nat.ofDigits 10 digits.reverse) := by
  unfold Integer.ofChars?
  rw [ht, hs, ← digitsToNat_eq]
  dsimp only
  rw [groupedDigits?_eq_some.mpr hg, Option.bind_some, boundedDigits, if_pos hl]
  rfl

/-- A text is read as an integer if and only if it spells it. -/
theorem Integer.ofChars?_eq_some : Integer.ofChars? cs = some n ↔ Integer.Spells cs n := by
  constructor
  · intro h
    unfold Integer.ofChars? at h
    cases hsign : leadingSign (trimWith isMargin cs) with
    | mk negative body =>
      rw [hsign] at h
      obtain ⟨digits, hdigits, h⟩ := Option.bind_eq_some_iff.mp h
      by_cases hl : digits.length ≤ digitLimit
      · rw [boundedDigits, if_pos hl] at h
        obtain rfl := Option.some.inj h
        obtain ⟨front, back, hcs, hfront, hback⟩ := trimWith_spec isMargin cs
        rw [hcs]
        exact (leadingSign_spells hsign (groupedDigits?_eq_some.mp hdigits) hl).margins hfront hback
      · rw [boundedDigits, if_neg hl] at h
        cases h
  · intro h
    induction h with
    | unsigned hg hl =>
      obtain ⟨first, rest, d, rfl, hd⟩ := hg.head
      obtain ⟨init, last, e, hlast, he⟩ := hg.final
      have htrim := trimWith_self (isMargin_digit hd) (isMargin_digit he) hlast
      exact ofChars?_of_digits htrim (leadingSign_digit hd) hg hl
    | plus hg hl => exact ofChars?_of_digits (trimWith_sign (by decide) hg) rfl hg hl
    | minus hg hl => exact ofChars?_of_digits (trimWith_sign (by decide) hg) rfl hg hl
    | before hc _ ih => rwa [Integer.ofChars?, trimWith_before hc]
    | after hc _ ih => rwa [Integer.ofChars?, trimWith_after hc]

theorem Integer.ofBytes?_eq_some : Integer.ofBytes? bs = some n ↔
    (∀ b ∈ bs, b < 128) ∧ Integer.Spells (bs.map fun b => Char.ofNat b.toNat) n := by
  rw [← Integer.ofChars?_eq_some]
  simp [Integer.ofBytes?]

end DocQuery
