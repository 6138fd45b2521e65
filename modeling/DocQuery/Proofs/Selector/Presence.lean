import DocQuery.Proofs.Number.IntegerPart
import DocQuery.Proofs.Selector.LiteralText
import DocQuery.Proofs.Selector.Positions
import DocQuery.Proofs.Text.LeadingNumber

/-!
# Numbers that ask for presence

Whether a field has to be present is asked for by a number. `presence_counts` says which one an
operand stands for, and that it is what every clause with this operand is compiled to, at any
place of a filter.
-/

namespace DocQuery

theorem existsFlag_float (x : Binary64) :
    existsFlag (.float x) = .ok (x.toRat?.elim 0 integerPart) := by
  cases hq : x.toRat? with
  | some q =>
    have htruncate : x.truncate = .ok (integerPart q) := Binary64.truncate_eq_ok.mpr ⟨q, hq, rfl⟩
    simp [existsFlag, htruncate, Except.toOption]
  | none => cases x <;> first | rfl | cases hq

namespace Compiler

open DocQuery.Filter

variable {options : CompilerOptions} {operand : Value}

/-- Wherever presence is asked for with an operand, a number is asked for: by a filter of one
clause, by what the clause contributes to a sub-filter, and in its place in the whole selector. -/
structure AsksPresence (options : CompilerOptions) (operand : Value) (n : Int) : Prop where
  alone : ∀ field, options.strict = false ∨ Operator.combinator? field = none →
    ((withOptions options).compile (.map [(.str field, .single "exists" operand)])).result =
      .ok [(field, .single "$exists" (.int n))]
  contributed : ∀ filter fields before key after,
    ((withOptions options).compile (.map filter)).result = .ok fields →
    before ++ (key, .single "exists" operand) :: after ∈ subfilters filter →
    ∃ front back, ((withOptions options).entries
        (conditions (before ++ (key, .single "exists" operand) :: after))).result =
      .ok (front ++ (key.text, .single "$exists" (.int n)) :: back)
  placed : ∀ filter fields before key after,
    ((withOptions options).compile (.map filter)).result = .ok fields →
    (∀ sub ∈ subfilters filter, TextKeyed sub ∧ ¬ Clashes sub) →
    before ++ (key, .single "exists" operand) :: after ∈ subfilters filter →
    ∃ front back, Placed filter fields (before ++ (key, .single "exists" operand) :: after)
      (front ++ (key.text, .single "$exists" (.int n)) :: back)

theorem asksPresence (h : existsFlag operand = .ok n) : AsksPresence options operand n := by
  have hnode : Operator.node options "exists" operand = .single "$exists" (.int n) := by
    change Value.single "$exists" (.int ((existsFlag operand).toOption.getD 0)) = _
    rw [h]
    rfl
  have hread : Operator.refusal? options "exists" operand = none := by
    have hlong : operand.isOverlong = false := by
      rw [← Bool.not_eq_true, Value.isOverlong_iff, h]
      simp
    change Operator.operandRefusal? options operand .present = none
    simp [Operator.operandRefusal?, hlong]
  constructor
  · intro field hf
    rw [compile_field hread hf, hnode]
  · intro filter fields before key after hc hsub
    rw [← hnode]
    exact clause_contributed hc hsub
  · intro filter fields before key after hc hk hsub
    rw [← hnode]
    exact clause_placed hc hk hsub

/-- A text that begins with an integer asks for presence by it, unless it is too long to be read,
and by 0 if it begins with none; a finite double does by its integer part, and any other by 0. The
number is the same in every place of a filter. -/
theorem presence_counts (options : CompilerOptions) :
    (∀ s digits n, BeginsWithInteger s.toList digits n →
      existsFlag (.str s) = if digits.length ≤ digitLimit then .ok n else .error .badValue) ∧
    (∀ s, (∀ digits n, ¬ BeginsWithInteger s.toList digits n) → existsFlag (.str s) = .ok 0) ∧
    (∀ x, existsFlag (.float x) = .ok (x.toRat?.elim 0 integerPart)) ∧
    ∀ operand n, existsFlag operand = .ok n → AsksPresence options operand n := by
  refine ⟨fun _ _ _ => leadingInteger_eq, fun s hs => ?_, existsFlag_float,
    fun _ _ => asksPresence⟩
  by_contra hne
  obtain ⟨digits, n, hbegins⟩ := beginsWithInteger_of_ne hne
  exact hs digits n hbegins

theorem presence_counts_arabic :
    let operand := Value.str (String.ofList [' ', '-', '٠', '١', '٢', 'p', 'x'])
    let asked := ("a", Value.single "$exists" (.int (-12)))
    let sub : Entries := [(.str "b", .int 1), (.str "a", .single "exists" operand)]
    let fields : Fields := [("$or", .list [.ofFields [("b", .int 1), asked]])]
    existsFlag operand = .ok (-12) ∧ existsFlag (.str "") = .ok 0 ∧
      ∃ front back, Placed [(.str "or", .list [.int 3, .map sub])] fields sub
        (front ++ asked :: back) := by
  intro operand asked sub fields
  obtain ⟨hbegins, hnone, -, hasks⟩ := presence_counts .standard
  have hoperand : existsFlag operand = .ok (-12) := by
    refine hbegins _ [0, 1, 2] _ ?_
    rw [String.toList_ofList]
    have hdigits : AreDigits ['٠', '١', '٢'] [0, 1, 2] :=
      .cons (by decide) (.cons (by decide) (.cons (by decide) .nil))
    have hrest : ∀ c ∈ ['p', 'x'].head?, digitValue? c = none := by
      rintro c ⟨⟩
      decide
    have htext : BeginsWithInteger ([' '] ++ (['-'] ++ (['٠', '١', '٢'] ++ ['p', 'x']))) [0, 1, 2]
        (-12) :=
      .intro (List.forall_mem_singleton.mpr (by decide)) .minus hdigits (by simp) hrest
    exact htext
  have hempty : ∀ digits n, ¬ BeginsWithInteger "".toList digits n := by
    intro digits n h
    generalize hcs : "".toList = cs at h
    cases h
    simp_all
  have hsubs : ∀ other ∈ subfilters [(.str "or", .list [.int 3, .map sub])],
      TextKeyed other ∧ ¬ Clashes other := by
    rintro other (_ | ⟨_, _ | ⟨_, ⟨⟩⟩⟩)
    all_goals
      refine ⟨textKeyed_of_names rfl (by decide), ?_⟩
      rintro ⟨combinator, hl, hd, -⟩
      cases combinator <;> cases hl <;> revert hd <;> decide
  refine ⟨hoperand, hnone _ hempty, ?_⟩
  refine (hasks operand (-12) hoperand).placed _ _ [(.str "b", .int 1)] (.str "a") [] ?_ hsubs ?_
  · rfl
  · exact .tail _ (.head _)

/-- A text of too many zeros begins with the integer 0, and is refused. -/
theorem presence_overlong :
    let zeros := List.replicate (digitLimit + 1) '0'
    BeginsWithInteger zeros (List.replicate (digitLimit + 1) 0) 0 ∧
      existsFlag (.str (String.ofList zeros)) = .error .badValue := by
  intro zeros
  have hzeros := beginsWithInteger_zeros digitLimit
  have htext : BeginsWithInteger (String.ofList zeros).toList (List.replicate (digitLimit + 1) 0)
      0 := String.toList_ofList.symm ▸ hzeros
  have hread := leadingInteger_eq htext
  rw [List.length_replicate, if_neg (Nat.not_succ_le_self digitLimit)] at hread
  exact ⟨hzeros, hread⟩

end Compiler

end DocQuery
