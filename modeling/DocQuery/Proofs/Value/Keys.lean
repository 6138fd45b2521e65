import DocQuery.Value.Key
import DocQuery.Proofs.Number.Same
import Mathlib.Data.List.Forall2

/-!
# Keys that are one

Being one key is symmetric and transitive, though not reflexive: `sameKey_equiv`
says so of every key, by the parts that it is made of. So assigning to a key changes
what it and those that are one with it find, and nothing else.
-/

namespace DocQuery

-- ---------------------------------------------------------------------------
-- Partial equivalence
-- ---------------------------------------------------------------------------

/-- A relation is symmetric and transitive at a point. -/
def PartialEquivAt (r : α → α → Prop) (x : α) : Prop :=
  ∀ y, r x y → r y x ∧ ∀ z, r y z → r x z

theorem PartialEquivAt.forall₂ {r : α → α → Prop} {xs : List α}
    (h : ∀ x ∈ xs, PartialEquivAt r x) : PartialEquivAt (List.Forall₂ r) xs := by
  intro ys hxy
  induction hxy with
  | nil => exact ⟨.nil, fun zs hz => hz⟩
  | cons hhead _ ih =>
    rw [List.forall_mem_cons] at h
    obtain ⟨hsymm, htrans⟩ := h.1 _ hhead
    obtain ⟨hrest, hmore⟩ := ih h.2
    refine ⟨.cons hsymm hrest, fun zs hz => ?_⟩
    cases hz with
    | cons hz hzs => exact .cons (htrans _ hz) (hmore _ hzs)

theorem PartialEquivAt.of_parts {r : α → α → Prop} {s : β → β → Prop} {make : α → β}
    (hs : ∀ a y, s (make a) y ↔ ∃ b, y = make b ∧ r a b) (h : PartialEquivAt r a) :
    PartialEquivAt s (make a) := by
  intro y hy
  obtain ⟨b, rfl, hab⟩ := (hs a y).mp hy
  obtain ⟨hba, htrans⟩ := h b hab
  refine ⟨(hs b _).mpr ⟨a, rfl, hba⟩, fun z hz => ?_⟩
  obtain ⟨c, rfl, hbc⟩ := (hs b z).mp hz
  exact (hs a _).mpr ⟨c, rfl, htrans c hbc⟩

-- ---------------------------------------------------------------------------
-- Sameness of keys
-- ---------------------------------------------------------------------------

def Value.SameKey (x y : Value) : Prop := x.sameKey y = true

def Condition.SameCondition (x y : Condition) : Prop := x.sameCondition y = true

theorem sameKeys_iff {xs ys : List Value} :
    sameKeys xs ys = true ↔ List.Forall₂ Value.SameKey xs ys := by
  induction xs generalizing ys with
  | nil => cases ys <;> simp [sameKeys]
  | cons x xs ih => cases ys <;> simp [sameKeys, ih, Value.SameKey]

theorem sameConditions_iff {xs ys : List Condition} :
    sameConditions xs ys = true ↔ List.Forall₂ Condition.SameCondition xs ys := by
  induction xs generalizing ys with
  | nil => cases ys <;> simp [sameConditions]
  | cons x xs ih => cases ys <;> simp [sameConditions, ih, Condition.SameCondition]

theorem sameBranches_iff {xs ys : List (List Condition)} :
    sameBranches xs ys = true ↔ List.Forall₂ (List.Forall₂ Condition.SameCondition) xs ys := by
  induction xs generalizing ys with
  | nil => cases ys <;> simp [sameBranches]
  | cons x xs ih => cases ys <;> simp [sameBranches, ih, sameConditions_iff]

namespace Value

theorem sameKey_tuple (a : List Value) (y : Value) :
    (tuple a).SameKey y ↔ ∃ b, y = tuple b ∧ List.Forall₂ SameKey a b := by
  cases y <;> simp [SameKey, sameKey, number?, sameKeys_iff]

theorem sameKey_expression (a : List Condition) (y : Value) :
    (expression a).SameKey y ↔
      ∃ b, y = expression b ∧ List.Forall₂ Condition.SameCondition a b := by
  cases y <;> simp [SameKey, sameKey, number?, sameConditions_iff]

theorem sameKey_number {x y : Value} (hx : x.number? = some m) (hy : y.number? = some n) :
    x.SameKey y ↔ m.same n = true := by
  cases x <;> cases hx <;> cases y <;> cases hy <;> simp only [SameKey, sameKey, number?]

def isCompound : Value → Bool
  | tuple _ | expression _ => true
  | _ => false

theorem sameKey_simple {x : Value} (hx : x.isCompound = false) (h : x.SameKey y) :
    x = y ∨ ∃ m n, x.number? = some m ∧ y.number? = some n ∧ m.same n = true := by
  unfold SameKey sameKey at h
  split at h
  · exact .inl rfl
  · exact .inl (congrArg _ (beq_iff_eq.mp h))
  · exact .inl (congrArg _ (beq_iff_eq.mp h))
  · exact .inl (congrArg _ (beq_iff_eq.mp h))
  · exact .inl (congrArg _ (beq_iff_eq.mp h))
  · exact .inl (congrArg _ (beq_iff_eq.mp h))
  · cases hx
  · cases hx
  · split at h
    · exact .inr ⟨_, _, ‹_›, ‹_›, h⟩
    · cases h

theorem isCompound_of_number? {x : Value} (h : x.number? = some n) : x.isCompound = false := by
  cases x <;> first | rfl | cases h

theorem sameKey_equiv_simple {x : Value} (hx : x.isCompound = false) :
    PartialEquivAt SameKey x := by
  intro y h
  rcases sameKey_simple hx h with rfl | ⟨m, n, hm, hn, hmn⟩
  · exact ⟨h, fun z hz => hz⟩
  · refine ⟨(sameKey_number hn hm).mpr (Number.same_symm hmn), fun z hz => ?_⟩
    rcases sameKey_simple (isCompound_of_number? hn) hz with rfl | ⟨_, l, hn', hl, hnl⟩
    · exact h
    · cases hn.symm.trans hn'
      exact (sameKey_number hm hl).mpr (Number.same_trans hmn hnl)

end Value

namespace Condition

theorem sameCondition_literal (field : String) (v : Value) (y : Condition) :
    (literal field v).SameCondition y ↔ ∃ w, y = literal field w ∧ v.SameKey w := by
  cases y with
  | literal other w =>
    simp only [SameCondition, sameCondition, Bool.and_eq_true, beq_iff_eq, literal.injEq]
    constructor
    · exact fun h => ⟨w, ⟨h.1.symm, rfl⟩, h.2⟩
    · rintro ⟨_, ⟨rfl, rfl⟩, h⟩
      exact ⟨rfl, h⟩
  | _ => simp [SameCondition, sameCondition]

theorem sameCondition_operator (field name : String) (v : Value) (y : Condition) :
    (operator field name v).SameCondition y ↔ ∃ w, y = operator field name w ∧ v.SameKey w := by
  cases y with
  | operator other otherName w =>
    simp only [SameCondition, sameCondition, Bool.and_eq_true, beq_iff_eq, operator.injEq]
    constructor
    · exact fun h => ⟨w, ⟨h.1.1.symm, h.1.2.symm, rfl⟩, h.2⟩
    · rintro ⟨_, ⟨rfl, rfl, rfl⟩, h⟩
      exact ⟨⟨rfl, rfl⟩, h⟩
  | _ => simp [SameCondition, sameCondition]

theorem sameCondition_logical (combinator : Operator) (a : List (List Condition))
    (y : Condition) : (logical combinator a).SameCondition y ↔
      ∃ b, y = logical combinator b ∧ List.Forall₂ (List.Forall₂ SameCondition) a b := by
  cases y with
  | logical other b =>
    simp only [SameCondition, sameCondition, Bool.and_eq_true, beq_iff_eq, sameBranches_iff,
      logical.injEq]
    constructor
    · exact fun h => ⟨b, ⟨h.1.symm, rfl⟩, h.2⟩
    · rintro ⟨_, ⟨rfl, rfl⟩, h⟩
      exact ⟨rfl, h⟩
  | _ => simp [SameCondition, sameCondition]

end Condition

theorem Condition.sizeOf_branch {combinator : Operator} {filters : List (List Condition)}
    (hs : conditions ∈ filters) (hx : x ∈ conditions) :
    sizeOf x < sizeOf (Condition.logical combinator filters) := by
  have hlt := List.sizeOf_lt_of_mem hx
  have hle := List.sizeOf_lt_of_mem hs
  rw [Condition.logical.sizeOf_spec]
  omega

mutual
theorem Value.sameKey_equiv (x : Value) : PartialEquivAt Value.SameKey x := by
  cases x with
  | tuple a => exact .of_parts Value.sameKey_tuple (.forall₂ fun x hx => x.sameKey_equiv)
  | expression a =>
    exact .of_parts Value.sameKey_expression (.forall₂ fun x hx => x.sameCondition_equiv)
  | _ => exact Value.sameKey_equiv_simple rfl
termination_by sizeOf x

theorem Condition.sameCondition_equiv (x : Condition) :
    PartialEquivAt Condition.SameCondition x := by
  cases x with
  | literal field v => exact .of_parts (Condition.sameCondition_literal field) v.sameKey_equiv
  | operator field name v =>
    exact .of_parts (Condition.sameCondition_operator field name) v.sameKey_equiv
  | logical combinator filters =>
    refine .of_parts (Condition.sameCondition_logical combinator) (.forall₂ fun conditions hs => ?_)
    exact .forall₂ fun x hx => x.sameCondition_equiv
termination_by sizeOf x
decreasing_by all_goals first | exact Condition.sizeOf_branch hs hx | decreasing_tactic
end

theorem Value.sameKey_symm {x y : Value} (h : x.sameKey y = true) : y.sameKey x = true :=
  (x.sameKey_equiv y h).1

theorem Value.sameKey_trans {x y z : Value} (hxy : x.sameKey y = true)
    (hyz : y.sameKey z = true) : x.sameKey z = true :=
  (x.sameKey_equiv y hxy).2 z hyz

-- ---------------------------------------------------------------------------
-- Entries
-- ---------------------------------------------------------------------------

namespace Entries

theorem get?_cons (k v key : Value) (rest : Entries) :
    get? ((k, v) :: rest) key = if k.sameKey key then some v else get? rest key := by
  unfold get?
  rw [List.find?_cons]
  cases h : k.sameKey key <;> simp [h]

theorem get?_put (entries : Entries) (key v other : Value) :
    get? (put entries key v) other =
      if key.sameKey other then some v else get? entries other := by
  induction entries with
  | nil => exact get?_cons key v other []
  | cons entry rest ih =>
    obtain ⟨k, w⟩ := entry
    rw [put, get?_cons]
    split
    · rename_i hk
      -- The entry that is replaced is found under exactly what finds the key.
      have hsame : k.sameKey other = key.sameKey other := by
        rw [Bool.eq_iff_iff]
        exact ⟨Value.sameKey_trans (Value.sameKey_symm hk), Value.sameKey_trans hk⟩
      rw [get?_cons, hsame]
      split <;> rfl
    · rename_i hk
      rw [get?_cons, ih]
      split
      · rename_i ho
        rw [if_neg]
        exact fun h => hk (Value.sameKey_trans ho (Value.sameKey_symm h))
      · rfl

theorem keys_put (entries : Entries) (key v : Value) :
    (put entries key v).map (·.1) =
      if entries.any (·.1.sameKey key) then entries.map (·.1) else entries.map (·.1) ++ [key] := by
  induction entries with
  | nil => rfl
  | cons entry rest ih =>
    obtain ⟨k, w⟩ := entry
    rw [put, List.any_cons]
    cases hk : k.sameKey key with
    | true => simp
    | false =>
      simp only [Bool.false_eq_true, if_false, List.map_cons, ih, Bool.false_or]
      split <;> rfl

theorem get?_eq_none {entries : Entries} {key : Value} :
    get? entries key = none ↔ ∀ entry ∈ entries, entry.1.sameKey key = false := by
  simp [get?]

theorem get?_erase_self (entries : Entries) (key : Value) : get? (erase entries key) key = none := by
  rw [get?_eq_none]
  intro entry he
  simpa using (List.mem_filter.mp he).2

theorem erase_eq_self {entries : Entries} {key : Value} :
    erase entries key = entries ↔ get? entries key = none := by
  rw [get?_eq_none, erase, List.filter_eq_self]
  simp

end Entries

end DocQuery
