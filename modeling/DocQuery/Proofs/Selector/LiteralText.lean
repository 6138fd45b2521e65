import DocQuery.Proofs.Selector.Assembly
import DocQuery.Proofs.Text.Pattern

/-!
# Text that is matched literally

The operators on text compare a field with a pattern that their operand makes. If operands
are escaped, the pattern is read as the operand itself, between the anchors of the operator:
`operands_quoted` says so of the four operators, for every text and every field.
-/

namespace DocQuery

open Pattern (Token literals)

/-- An operator compares every field with a pattern of its own for each text, under `wrap`,
and the pattern is read as the text between other tokens. -/
structure Operator.Quotes (options : CompilerOptions) (op : Operator) (wrap : Value → Value)
    (before after : List Token) (pattern : String → String) : Prop where
  compile_clause : ∀ field s,
    ((Compiler.withOptions options).compile
      (.expression [.operator field op.name (.str s)])).result =
      .ok [(field, wrap (matching options (pattern s)))]
  /-- Strict reading takes the name of a combinator for the combinator, not for a field. -/
  compile_field : ∀ field s, options.strict = false ∨ Operator.combinator? field = none →
    ((Compiler.withOptions options).compile
      (.map [(.str field, .single op.name (.str s))])).result =
        .ok [(field, wrap (matching options (pattern s)))]
  read : ∀ s, Pattern.read? (pattern s).toList = some (before ++ literals s ++ after)
  injective : Function.Injective pattern

namespace Compiler

open Expression

variable {options : CompilerOptions}

theorem compile_clause (field : String) (h : Operator.refusal? options name v = none) :
    ((withOptions options).compile (.expression [.operator field name v])).result =
      .ok [(field, Operator.node options name v)] := by
  rw [compile_expression (builds_standard options)]
  simp only [clauses, conditionClauses, List.append_nil, List.findSome?_singleton, Clause.refusal?,
    h, settle_none]
  rfl

/-- So is a map under a field, unless strict reading refuses the field. -/
theorem compile_field {field : String} (h : Operator.refusal? options name v = none)
    (hf : options.strict = false ∨ Operator.combinator? field = none) :
    ((withOptions options).compile (.map [(.str field, .single name v)])).result =
      .ok [(field, Operator.node options name v)] := by
  have hread : Filter.refusal? options (Filter.obstacles [] [(.str field, .single name v)]) =
      none := by
    rcases hf with hs | hc
    · exact Filter.refusal?_lenient hs ..
    · simp [Filter.obstacles, Filter.keyObstacles, Filter.valueObstacles, Filter.listObstacles,
        Filter.clauseObstacles, Value.isWritable, Value.single, Value.text, hc]
  have hclause := compile_clause field h
  rw [compile_expression (builds_standard options)] at hclause
  rw [compile_result (builds_standard options)]
  change settle ((Filter.refusal? options _).or _) _ = _
  rw [hread, Option.none_or]
  exact hclause

end Compiler

namespace Operator

variable {options : CompilerOptions}

theorem quotes_of_node {op : Operator} {wrap : Value → Value} {before after : String}
    {tokens more : List Token} (hr : ∀ s, refusal? options op.name (.str s) = none)
    (hn : ∀ s, node options op.name (.str s) =
      wrap (matching options (before ++ escapePattern s ++ after)))
    (hbefore : ∀ rest, Pattern.read? (before.toList ++ rest) =
      (Pattern.read? rest).map (tokens ++ ·))
    (hafter : Pattern.read? after.toList = some more) :
    op.Quotes options wrap tokens more fun s => before ++ escapePattern s ++ after := by
  have hread (s : String) : Pattern.read? (before ++ escapePattern s ++ after).toList =
      some (tokens ++ literals s ++ more) := by
    rw [String.append_assoc, String.toList_append, hbefore, Pattern.read?_escapePattern, hafter]
    simp
  refine ⟨fun field s => ?_, fun field s hf => ?_, hread, fun s t h => ?_⟩
  · rw [← hn]
    exact Compiler.compile_clause field (hr s)
  · rw [← hn]
    exact Compiler.compile_field (hr s) hf
  · have htokens : tokens ++ literals s ++ more = tokens ++ literals t ++ more := by
      rw [← Option.some_inj, ← hread, ← hread]
      exact congrArg _ (congrArg String.toList h)
    rw [List.append_left_inj, List.append_right_inj] at htokens
    exact Pattern.literals_injective htokens

/-- The operators on text, with operands that are escaped: the pattern of a text is read as the
text alone, as the text at the beginning or as the text at the end. -/
theorem operands_quoted (options : CompilerOptions) (he : options.escapeRegex = true) :
    (∃ pattern, contains.Quotes options id [] [] pattern) ∧
    (∃ pattern, notContains.Quotes options (.single "$not") [] [] pattern) ∧
    (∃ pattern, startsWith.Quotes options id [.metacharacter '^'] [] pattern) ∧
    ∃ pattern, endsWith.Quotes options id [] [.metacharacter '$'] pattern := by
  have hplain (rest : List Char) : Pattern.read? ("".toList ++ rest) =
      (Pattern.read? rest).map ([] ++ ·) := by simp
  have hcaret (rest : List Char) : Pattern.read? ("^".toList ++ rest) =
      (Pattern.read? rest).map ([.metacharacter '^'] ++ ·) :=
    Pattern.read?_unescaped (by decide) rest
  have htext (s : String) : patternText options s = escapePattern s := if_pos he
  have hcontains : contains.Quotes options id [] [] fun s => "" ++ escapePattern s ++ "" := by
    refine quotes_of_node (fun _ => rfl) (fun s => ?_) hplain rfl
    simp [node, name, htext]
  have hnotContains : notContains.Quotes options (.single "$not") [] []
      fun s => "" ++ escapePattern s ++ "" := by
    refine quotes_of_node (fun _ => rfl) (fun s => ?_) hplain rfl
    simp [node, name, htext]
  have hstartsWith : startsWith.Quotes options id [.metacharacter '^'] []
      fun s => "^" ++ escapePattern s ++ "" := by
    refine quotes_of_node (fun _ => rfl) (fun s => ?_) hcaret rfl
    simp [node, name, htext]
  have hendsWith : endsWith.Quotes options id [] [.metacharacter '$']
      fun s => "" ++ escapePattern s ++ "$" := by
    refine quotes_of_node (fun _ => rfl) (fun s => ?_) hplain rfl
    simp [node, name, htext]
  exact ⟨⟨_, hcontains⟩, ⟨_, hnotContains⟩, ⟨_, hstartsWith⟩, ⟨_, hendsWith⟩⟩

theorem operands_quoted_backslash :
    let escaped := { CompilerOptions.standard with escapeRegex := true }
    escaped.escapeRegex = true ∧ ∃ pattern,
      ((Compiler.withOptions escaped).compile
        (.map [(.str "path", .single "endsWith" (.str "a.\\"))])).result =
          .ok [("path", matching escaped pattern)] ∧
      Pattern.read? pattern.toList =
        some [.literal 'a', .literal '.', .literal '\\', .metacharacter '$'] := by
  intro escaped
  obtain ⟨-, -, -, pattern, hquotes⟩ := operands_quoted escaped rfl
  exact ⟨rfl, pattern "a.\\", hquotes.compile_field "path" "a.\\" (.inl rfl), hquotes.read "a.\\"⟩

end Operator

end DocQuery
