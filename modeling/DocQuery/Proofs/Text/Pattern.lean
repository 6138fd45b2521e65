import DocQuery.Text.Pattern

/-!
# Reading patterns

Some characters of a pattern have a meaning of their own, unless a backslash stands before
them; all others stand for themselves. `Pattern.read?_escapeChars` says that a text that is
escaped is read as itself, wherever it stands.
-/

namespace DocQuery.Pattern

/-- What a pattern is read as: characters that stand for themselves, and those that do not. -/
inductive Token where
  | literal (c : Char)
  | metacharacter (c : Char)
  deriving DecidableEq, Repr

def metacharacters : List Char :=
  ['\\', '^', '$', '.', '[', ']', '|', '(', ')', '?', '*', '+', '{', '}']

def Token.unescaped (c : Char) : Token :=
  if metacharacters.contains c then .metacharacter c else .literal c

/-- Reads a pattern from left to right. A backslash makes the next character stand for itself;
before a letter or a digit it has no such meaning, and the pattern is not read. -/
def read? : List Char → Option (List Token)
  | [] => some []
  | '\\' :: c :: rest => if c.isAlphanum then none else (read? rest).map (.literal c :: ·)
  | c :: rest => (read? rest).map (.unescaped c :: ·)

def literals (s : String) : List Token := s.toList.map .literal

theorem literals_injective : Function.Injective literals := by
  intro s t h
  have hchars : s.toList = t.toList := (List.map_inj_right fun _ _ => Token.literal.inj).mp h
  exact String.toList_inj.mp hchars

theorem read?_escaped {c : Char} (hc : c.isAlphanum = false) (rest : List Char) :
    read? ('\\' :: c :: rest) = (read? rest).map (.literal c :: ·) := by
  simp [read?, hc]

theorem read?_unescaped {c : Char} (hc : c ≠ '\\') (rest : List Char) :
    read? (c :: rest) = (read? rest).map (.unescaped c :: ·) := by
  rw [read?]
  rintro d tail rfl -
  exact hc rfl

theorem isAlphanum_escapedChars : ∀ c ∈ escapedChars, c.isAlphanum = false := by
  simp [escapedChars]

theorem metacharacters_subset : metacharacters ⊆ escapedChars := by decide

theorem unescaped_of_not_mem {c : Char} (hc : c ∉ escapedChars) :
    Token.unescaped c = .literal c := by
  refine if_neg fun hm => hc (metacharacters_subset ?_)
  exact List.contains_iff_mem.mp hm

theorem escapeChars_cons (c : Char) (cs : List Char) :
    escapeChars (c :: cs) =
      if c ∈ escapedChars then '\\' :: c :: escapeChars cs else c :: escapeChars cs := by
  by_cases hc : c ∈ escapedChars <;> simp [escapeChars, hc]

/-- An escaped text is read as the text, and what follows it as if it stood alone. -/
theorem read?_escapeChars (cs rest : List Char) :
    read? (escapeChars cs ++ rest) = (read? rest).map (cs.map .literal ++ ·) := by
  induction cs with
  | nil => simp [escapeChars]
  | cons c cs ih =>
    rw [escapeChars_cons]
    split
    · rename_i hc
      simp [read?_escaped (isAlphanum_escapedChars c hc), ih, Function.comp_def]
    · rename_i hc
      have hbackslash : c ≠ '\\' := by
        rintro rfl
        exact hc (by decide)
      simp [read?_unescaped hbackslash, unescaped_of_not_mem hc, ih, Function.comp_def]

theorem read?_escapePattern (s after : String) :
    read? (escapePattern s ++ after).toList = (read? after.toList).map (literals s ++ ·) := by
  rw [String.toList_append, escapePattern, String.toList_ofList, read?_escapeChars]
  rfl

end DocQuery.Pattern
