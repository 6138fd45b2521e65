import DocQuery.Traced

/-!
# The first fault

A traversal that stops at its first fault ends in a result or in that fault.
`settle` puts the two together; of two traversals, one after the other, the first
fault is the one of the first traversal if it has one.
-/

namespace DocQuery

def settle (fault? : Option Fault) (a : α) : Except Fault α :=
  match fault? with
  | none => .ok a
  | some fault => .error fault

@[simp] theorem settle_none (a : α) : settle none a = .ok a := rfl

@[simp] theorem settle_some (fault : Fault) (a : α) : settle (some fault) a = .error fault := rfl

theorem settle_ok : settle fault? a = .ok b ↔ fault? = none ∧ a = b := by
  cases fault? <;> simp

theorem settle_error : settle fault? a = .error fault ↔ fault? = some fault := by
  cases fault? <;> simp

theorem settle_bind (fault? : Option Fault) (a : α) (next? : α → Option Fault) (f : α → β) :
    (settle fault? a >>= fun x => settle (next? x) (f x)) =
      settle (fault?.or (next? a)) (f a) := by
  cases fault? <;> rfl

theorem settle_map (fault? : Option Fault) (a : α) (f : α → β) :
    (settle fault? a >>= fun x => .ok (f x)) = settle fault? (f a) := by
  cases fault? <;> rfl

-- ---------------------------------------------------------------------------
-- Steps that may fail
-- ---------------------------------------------------------------------------

theorem bind_ok_iff {x : Except ε α} {f : α → Except ε β} :
    x >>= f = .ok b ↔ ∃ a, x = .ok a ∧ f a = .ok b := by
  cases x with
  | ok a => exact ⟨fun h => ⟨a, rfl, h⟩, fun ⟨_, ha, h⟩ => Except.ok.inj ha ▸ h⟩
  | error e => exact ⟨fun h => (nomatch h), fun ⟨_, ha, _⟩ => (nomatch ha)⟩

theorem bind_error_iff {x : Except ε α} {f : α → Except ε β} :
    x >>= f = .error e ↔ x = .error e ∨ ∃ a, x = .ok a ∧ f a = .error e := by
  cases x with
  | ok a =>
    refine ⟨fun h => .inr ⟨a, rfl, h⟩, ?_⟩
    rintro (h | ⟨_, ha, h⟩)
    · cases h
    · exact Except.ok.inj ha ▸ h
  | error cause =>
    refine ⟨fun h => .inl (congrArg _ (Except.error.inj h)), ?_⟩
    rintro (h | ⟨_, ha, _⟩)
    · exact congrArg _ (Except.error.inj h)
    · cases ha

theorem mapM_error {f : α → Except ε β} {xs : List α} (h : xs.mapM f = .error e) :
    ∃ x ∈ xs, f x = .error e := by
  induction xs with
  | nil => cases h
  | cons x rest ih =>
    rw [List.mapM_cons] at h
    rcases bind_error_iff.mp h with h | ⟨b, -, h⟩
    · exact ⟨x, List.mem_cons_self, h⟩
    · rcases bind_error_iff.mp h with h | ⟨bs, -, h⟩
      · obtain ⟨y, hy, hf⟩ := ih h
        exact ⟨y, List.mem_cons_of_mem _ hy, hf⟩
      · cases h

theorem mapError_ok {e : Except ε α} {g : ε → ε'} : e.mapError g = .ok a ↔ e = .ok a := by
  constructor
  · intro h
    cases e <;> cases h
    rfl
  · rintro rfl
    rfl

theorem orFault_ok {e : Except Misuse α} : orFault e = .ok a ↔ e = .ok a := mapError_ok

theorem orFault_ne_driver (e : Except Misuse α) (fault : DriverFault) :
    orFault e ≠ .error (.driver fault) := by
  intro h
  cases e <;> cases h

end DocQuery
