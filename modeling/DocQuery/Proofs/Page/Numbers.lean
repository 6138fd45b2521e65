import DocQuery.Page
import DocQuery.Proofs.Number.IntegerPart
import DocQuery.Proofs.Text.WholeInteger

/-!
# What page numbers are read from

Which integer a value is read as is said by `Value.Reads`, from its exact value if it is a
number and from the grammar of integers if it is a text. `pageNumber_of_reads` says that a page
number is that integer, raised to 1, or 1 if there is none; only what is infinite is refused.
-/

namespace DocQuery

namespace Value

/-- The integer that a value is read as: numbers lose their fraction, and texts and bytes
are read as they are spelled. -/
def Reads : Value → Int → Prop
  | .bool b, n => n = if b then 1 else 0
  | .int m, n => n = m
  | .float x, n => ∃ q, x.toRat? = some q ∧ n = integerPart q
  | .decimal (.finite negative coefficient exponent), n =>
    n = integerPart (scaledDecimal negative coefficient exponent)
  | .fraction q, n => n = integerPart q
  | .str s, n => Integer.Spells s.toList n
  | .bytes bs, n => (∀ b ∈ bs, b < 128) ∧ Integer.Spells (bs.map fun b => Char.ofNat b.toNat) n
  | .uuid id, n => n = id.number.toNat
  | _, _ => False

def isInfinite : Value → Bool
  | .float (.infinity _) | .decimal (.infinity _) => true
  | _ => false

theorem read_eq_ok {number? : Option Int} :
    number?.elim (Except.error Misuse.badValue) Except.ok = .ok n ↔ number? = some n := by
  cases number? <;> simp

theorem read_eq_error {number? : Option Int}
    (h : number?.elim (Except.error Misuse.badValue) Except.ok = .error cause) :
    cause = .badValue := by
  cases number? <;> cases h
  rfl

theorem toInteger_eq_ok {v : Value} : v.toInteger = .ok n ↔ v.Reads n := by
  cases v with
  | bool | int | uuid => simp [toInteger, Reads, eq_comm]
  | float x => exact Binary64.truncate_eq_ok
  | decimal d =>
    cases d with
    | finite negative coefficient exponent =>
      simp [toInteger, Decimal.truncate_finite, Reads, eq_comm]
    | _ => simp [toInteger, Decimal.truncate, Reads]
  | fraction q => simp [toInteger, truncateRat_eq, Reads, eq_comm]
  | str s => exact read_eq_ok.trans Integer.ofChars?_eq_some
  | bytes bs => exact read_eq_ok.trans Integer.ofBytes?_eq_some
  | _ => simp [toInteger, Reads]

theorem toInteger_error {v : Value} (h : v.toInteger = .error cause) :
    if v.isInfinite then cause = .tooLarge else cause = .wrongType ∨ cause = .badValue := by
  cases v with
  | bool | int | uuid | fraction => cases h
  | float x =>
    cases x <;> cases h
    · exact .inr rfl
    · rfl
  | decimal d =>
    cases d <;> cases h
    · rfl
    · exact .inr rfl
  | str | bytes => exact .inr (read_eq_error h)
  | _ =>
    cases h
    exact .inl rfl

end Value

/-- A value that is not infinite asks for the page that it is read as, or for the first. -/
theorem pageNumber_of_reads {page : Value} (h : page.isInfinite = false) :
    ∃ n, pageNumber page = .ok n ∧ 1 ≤ n ∧ (∀ m, page.Reads m → n = max 1 m) ∧
      ((∀ m, ¬ page.Reads m) → n = 1) := by
  cases hread : page.toInteger with
  | ok m =>
    have hm := Value.toInteger_eq_ok.mp hread
    refine ⟨max 1 m, ?_, le_max_left .., fun k hk => ?_, fun hnone => absurd hm (hnone m)⟩
    · rw [pageNumber, hread]
    · cases hread.symm.trans (Value.toInteger_eq_ok.mpr hk)
      rfl
  | error cause =>
    have hcause := Value.toInteger_error hread
    rw [h] at hcause
    refine ⟨1, ?_, le_refl 1, fun k hk => ?_, fun _ => rfl⟩
    · rcases hcause with rfl | rfl <;> rw [pageNumber, hread]
    · cases hread.symm.trans (Value.toInteger_eq_ok.mpr hk)

theorem pageNumber_of_infinite {page : Value} (h : page.isInfinite) :
    pageNumber page = .error .tooLarge := by
  unfold Value.isInfinite at h
  split at h
  · rfl
  · rfl
  · cases h

/-- An infinite page is not the first one. -/
theorem pageNumber_infinity : pageNumber (.float (.infinity false)) = .error .tooLarge := rfl

end DocQuery
