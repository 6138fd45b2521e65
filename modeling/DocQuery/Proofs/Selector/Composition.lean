import DocQuery.Selector
import DocQuery.Proofs.Assignment
import DocQuery.Proofs.FirstFault

/-!
# Expressions in parts

An expression is compiled as its parts are, one after the other: `compile_append` says that
its selector is what the selectors of two parts merge to, and that it is refused as the first
part is that is refused. So a part can be compiled apart from the others.
-/

namespace DocQuery.Compiler

variable (compiler : Compiler) (first second : Expression)

theorem entries_append :
    (compiler.entries (first ++ second)).result =
      (compiler.entries first).result >>= fun front =>
        (compiler.entries second).result >>= fun back => .ok (front ++ back) := by
  induction first with
  | nil =>
    rw [List.nil_append, entries, Traced.result_pure]
    cases (compiler.entries second).result <;> rfl
  | cons condition rest ih =>
    simp only [List.cons_append, entries, Traced.result_bind, Traced.result_pure, ih, bind_assoc]
    cases (contribution compiler condition).result with
    | error fault => rfl
    | ok entry =>
      cases (compiler.entries rest).result with
      | error fault => rfl
      | ok front =>
        cases (compiler.entries second).result with
        | error fault => rfl
        | ok back => exact congrArg Except.ok (List.append_assoc ..).symm

theorem selector_append :
    (compiler.selector (first ++ second)).result =
      (compiler.selector first).result >>= fun front =>
        (compiler.selector second).result >>= fun back => .ok (Assoc.merge front back) := by
  simp only [selector, Traced.result_bind, Traced.result_pure, entries_append]
  cases (compiler.entries first).result with
  | error fault => rfl
  | ok front =>
    cases (compiler.entries second).result with
    | error fault => rfl
    | ok back =>
      have hnodup : (Assoc.keys (Assoc.assignAll [] front)).Nodup :=
        Assoc.nodup_keys_assignAll (by simp [Assoc.keys]) front
      have hmerge := Assoc.assignAll_eq_merge hnodup back
      rw [← Assoc.assignAll_append] at hmerge
      exact congrArg Except.ok hmerge

/-- Two parts of an expression are compiled together exactly if each is by itself, and their
selectors are merged: what the second part selects by takes the place of what the first part has
under the same key. -/
theorem compile_append :
    let compiled (expression : Expression) := (compiler.compile (.expression expression)).result
    (∀ fields, compiled (first ++ second) = .ok fields ↔
      ∃ front back, compiled first = .ok front ∧ compiled second = .ok back ∧
        fields = Assoc.merge front back) ∧
    ∀ fault, compiled (first ++ second) = .error fault ↔
      compiled first = .error fault ∨
        (∃ front, compiled first = .ok front) ∧ compiled second = .error fault := by
  intro compiled
  have happend : compiled (first ++ second) =
      compiled first >>= fun front => compiled second >>= fun back =>
        .ok (Assoc.merge front back) := selector_append compiler first second
  rw [happend]
  constructor
  · intro fields
    simp only [bind_ok_iff, Except.ok.injEq]
    constructor
    · rintro ⟨front, hfront, back, hback, rfl⟩
      exact ⟨front, back, hfront, hback, rfl⟩
    · rintro ⟨front, back, hfront, hback, rfl⟩
      exact ⟨front, hfront, back, hback, rfl⟩
  · intro fault
    simp only [bind_error_iff, reduceCtorEq, and_false, exists_false, or_false,
      exists_and_right]

end DocQuery.Compiler
