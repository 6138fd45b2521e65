import DocQuery.Operator.Call
import DocQuery.Report
import DocQuery.Proofs.Operator.Node
import DocQuery.Proofs.Value.NamedEntries

/-!
# What operators are bound to

An operator is bound to the transform that was registered for it last, unless it was
unregistered after that. `get?_run` says so after any calls on a table, and
`calls_answered` that every call is answered as these bindings ask for.
-/

namespace DocQuery

-- ---------------------------------------------------------------------------
-- Names and suggestions
-- ---------------------------------------------------------------------------

namespace Operator

/-- An operator has its own name, and one operator has a deprecated one besides. -/
def IsNamed (op : Operator) (name : String) : Prop :=
  name = op.name ∨ name = deprecatedName ∧ op = startsWith

instance (op : Operator) (name : String) : Decidable (op.IsNamed name) :=
  inferInstanceAs (Decidable (_ ∨ _ ∧ _))

theorem resolve?_eq_some {name : String} : resolve? name = some op ↔ op.IsNamed name := by
  refine ⟨resolve?_some, ?_⟩
  rintro (rfl | ⟨rfl, rfl⟩)
  · rw [resolve?, ofName?_name]
    rfl
  · decide

theorem resolve?_eq_none {name : String} :
    resolve? name = none ↔ ∀ op : Operator, ¬ op.IsNamed name := by
  simp only [← resolve?_eq_some, Option.eq_none_iff_forall_ne_some, ne_eq]

end Operator

theorem closeMatches_subset (word : String) (candidates : List String) :
    closeMatches word candidates ⊆ candidates := by
  intro close hc
  obtain ⟨scored, hs, rfl⟩ := List.mem_map.mp hc
  have hs := List.mem_mergeSort.mp (List.mem_of_mem_take hs)
  obtain ⟨candidate, hcandidate, hratio⟩ := List.mem_filterMap.mp hs
  obtain ⟨ratio, -, rfl⟩ := Option.map_eq_some_iff.mp hratio
  exact hcandidate

-- ---------------------------------------------------------------------------
-- Bindings
-- ---------------------------------------------------------------------------

abbrev Bindings := Operator → Option Transform

namespace TableCall

/-- The operators that a call binds, one after another, each to a transform or to nothing. -/
def writes : TableCall → List (Operator × Option Transform)
  | .register op transform => [(op, some transform)]
  | .registerAll more => more.map fun (op, transform) => (op, some transform)
  | .unregister op => [(op, none)]
  | .resolve _ | .has _ | .get _ | .supported | .apply .. => []

end TableCall

namespace Bindings

/-- The bindings after some writes. The last write to an operator counts, and without one it
is bound as before. -/
def after (bound : Bindings) (writes : List (Operator × Option Transform)) : Bindings := fun op =>
  (writes.reverse.find? (·.1 = op)).elim (bound op) (·.2)

theorem after_append (bound : Bindings) (writes more : List (Operator × Option Transform)) :
    bound.after (writes ++ more) = (bound.after writes).after more := by
  funext op
  simp only [after, List.reverse_append, List.find?_append]
  cases more.reverse.find? _ <;> rfl

theorem after_singleton (bound : Bindings) (op : Operator) (transform? : Option Transform) :
    bound.after [(op, transform?)] =
      fun other => if op = other then transform? else bound other := by
  funext other
  by_cases h : op = other <;> simp [after, h]

structure Lists (bound : Bindings) (names : List String) : Prop where
  nodup : names.Nodup
  mem_iff : ∀ name, name ∈ names ↔ ∃ op : Operator, (bound op).isSome ∧ op.name = name

inductive Answers (bound : Bindings) : TableCall → Except Fault TableReply → Prop
  | register : Answers bound (.register op transform) (.ok .done)
  | registerAll : Answers bound (.registerAll more) (.ok .done)
  | unregister : Answers bound (.unregister op) (.ok .done)
  | has : Answers bound (.has op) (.ok (.bound (bound op).isSome))
  | get : Answers bound (.get op) (.ok (.transform (bound op)))
  | supported (hn : bound.Lists names) : Answers bound .supported (.ok (.names names))
  | resolve (hn : op.IsNamed name) (hb : (bound op).isSome) :
    Answers bound (.resolve name) (.ok (.operator (some op)))
  | unresolved (hu : ∀ op : Operator, op.IsNamed name → bound op = none) :
    Answers bound (.resolve name) (.ok (.operator none))
  | apply (hn : op.IsNamed name) (hb : bound op = some transform) :
    Answers bound (.apply options name kind v) ((transform.run options kind v).map .node)
  | passThrough (hu : ∀ op : Operator, op.IsNamed name → bound op = none)
    (hs : options.strict = false) : Answers bound (.apply options name kind v) (.ok (.node v))
  /-- The fault tells which names are valid, and suggests some of them. -/
  | refuse (hu : ∀ op : Operator, op.IsNamed name → bound op = none) (hs : options.strict = true)
    (hn : bound.Lists valid) (hc : close ⊆ valid)
    (hr : (Fault.unknownOperator name valid).report? =
      some (.unknownOperator (.str name) valid close)) :
    Answers bound (.apply options name kind v) (.error (.unknownOperator name valid))

end Bindings

namespace OperatorTable

variable {table : OperatorTable}

-- ---------------------------------------------------------------------------
-- One call
-- ---------------------------------------------------------------------------

theorem get?_registerAll (table : OperatorTable) (more : List (Operator × Transform)) :
    (table.registerAll more).get? =
      Bindings.after table.get? (more.map fun (op, transform) => (op, some transform)) := by
  induction more generalizing table with
  | nil => rfl
  | cons entry rest ih =>
    obtain ⟨op, transform⟩ := entry
    have hregister : (table.register op transform).get? =
        Bindings.after table.get? [(op, some transform)] := by
      rw [Bindings.after_singleton]
      exact funext fun other => Assoc.lookup_assign ..
    have hrest := ih (table.register op transform)
    rwa [hregister, ← Bindings.after_append] at hrest

theorem step_get? (table : OperatorTable) (call : TableCall) :
    (table.step call).2.get? = Bindings.after table.get? call.writes := by
  cases call with
  | register op transform => exact get?_registerAll table [(op, transform)]
  | registerAll more => exact get?_registerAll table more
  | unregister op =>
    rw [TableCall.writes, Bindings.after_singleton]
    exact funext fun other => Assoc.lookup_remove ..
  | resolve | has | get | supported | apply => rfl

theorem names_listed (table : OperatorTable) : Bindings.Lists table.get? table.names := by
  refine ⟨table.nodup.map fun a b h => Operator.name_injective h, fun name => ?_⟩
  have hbound (op : Operator) : op ∈ Assoc.keys table.bindings ↔ (table.get? op).isSome := by
    constructor
    · intro hk
      rw [← Option.ne_none_iff_isSome]
      exact fun hn => Assoc.fresh_of_lookup hn hk
    · intro hs
      obtain ⟨transform, ht⟩ := Option.isSome_iff_exists.mp hs
      exact List.mem_map_of_mem (Assoc.mem_of_lookup ht)
  simp only [names, List.mem_map, hbound]

theorem supported_listed (table : OperatorTable) : Bindings.Lists table.get? table.supported := by
  have hperm : table.supported.Perm table.names := List.mergeSort_perm ..
  have hnames := table.names_listed
  exact ⟨hperm.nodup_iff.mpr hnames.nodup, fun name => hperm.mem_iff.trans (hnames.mem_iff name)⟩

theorem unbound_of_resolve? {name : String} (h : (Operator.resolve? name).bind table.get? = none) :
    ∀ op : Operator, op.IsNamed name → table.get? op = none := by
  intro op hn
  rwa [Operator.resolve?_eq_some.mpr hn] at h

theorem bound_of_resolve? {name : String} {transform : Transform}
    (h : (Operator.resolve? name).bind table.get? = some transform) :
    ∃ op : Operator, op.IsNamed name ∧ table.get? op = some transform := by
  obtain ⟨op, hn, hb⟩ := Option.bind_eq_some_iff.mp h
  exact ⟨op, Operator.resolve?_eq_some.mp hn, hb⟩

theorem resolve_answers (table : OperatorTable) (name : String) :
    Bindings.Answers table.get? (.resolve name) (table.step (.resolve name)).1.result := by
  have hresult : (table.step (.resolve name)).1.result =
      .ok (.operator ((Operator.resolve? name).filter table.has)) := by
    simp only [step, Traced.result_bind, resolve_result]
    rfl
  rw [hresult]
  cases hr : Operator.resolve? name with
  | none => exact .unresolved fun op hn => absurd hn (Operator.resolve?_eq_none.mp hr op)
  | some op =>
    have hn : op.IsNamed name := Operator.resolve?_eq_some.mp hr
    rw [Option.filter_some, has]
    cases hb : table.get? op with
    | some transform => exact .resolve hn (by simp [hb])
    | none => exact .unresolved (unbound_of_resolve? (by simp [hr, hb]))

theorem filter_has_bind (table : OperatorTable) (op? : Option Operator) :
    (op?.filter table.has).bind table.get? = op?.bind table.get? := by
  cases op? with
  | none => rfl
  | some op =>
    rw [Option.filter_some, has]
    cases hb : table.get? op <;> simp [hb]

theorem apply_answers (table : OperatorTable) (options : CompilerOptions) (name : String)
    (kind : Kind) (v : Value) :
    Bindings.Answers table.get? (.apply options name kind v)
      (table.step (.apply options name kind v)).1.result := by
  have hresult : (table.step (.apply options name kind v)).1.result =
      (table.apply options name kind v).result.map .node := by
    refine (Traced.result_bind ..).trans ?_
    cases (table.apply options name kind v).result <;> rfl
  rw [hresult, apply_result, filter_has_bind]
  cases hb : (Operator.resolve? name).bind table.get? with
  | some transform =>
    obtain ⟨op, hn, hb⟩ := bound_of_resolve? hb
    exact .apply hn hb
  | none =>
    have hu := unbound_of_resolve? hb
    dsimp only
    cases hs : options.strict with
    | false => exact .passThrough hu hs
    | true => exact .refuse hu hs table.names_listed (closeMatches_subset name _) rfl

theorem step_answers (table : OperatorTable) (call : TableCall) :
    Bindings.Answers table.get? call (table.step call).1.result := by
  cases call with
  | register => exact .register
  | registerAll => exact .registerAll
  | unregister => exact .unregister
  | resolve name => exact resolve_answers table name
  | has => exact .has
  | get => exact .get
  | supported => exact .supported table.supported_listed
  | apply options name kind v => exact apply_answers table options name kind v

-- ---------------------------------------------------------------------------
-- Any number of calls
-- ---------------------------------------------------------------------------

def run (table : OperatorTable) : List TableCall → List (Traced TableReply) × OperatorTable
  | [] => ([], table)
  | call :: rest =>
    let (reply, next) := table.step call
    let (replies, last) := next.run rest
    (reply :: replies, last)

/-- The induction is on the calls, from any table on. -/
theorem get?_run (table : OperatorTable) (calls : List TableCall) :
    (table.run calls).2.get? = Bindings.after table.get? (calls.flatMap TableCall.writes) := by
  induction calls generalizing table with
  | nil => rfl
  | cons call rest ih =>
    have hrest := ih (table.step call).2
    rwa [step_get?, ← Bindings.after_append] at hrest

theorem run_getElem? (table : OperatorTable) (earlier : List TableCall) (call : TableCall)
    (later : List TableCall) : (table.run (earlier ++ call :: later)).1[earlier.length]? =
      some ((table.run earlier).2.step call).1 := by
  induction earlier generalizing table with
  | nil => rfl
  | cons first rest ih => exact ih (table.step first).2

theorem step_of_no_writes {call : TableCall} (h : call.writes = []) :
    (table.step call).2 = table := by
  cases call with
  | register | unregister => cases h
  | registerAll more =>
    obtain rfl := List.map_eq_nil_iff.mp h
    rfl
  | resolve | has | get | supported | apply => rfl

/-- Among any calls on a table every single one is answered as what operators are bound to
at that time asks for: the transforms that the table had, unless the calls before have bound
an operator anew. Calls that bind nothing leave the table as it is, refused or not. -/
theorem calls_answered (table : OperatorTable) (earlier : List TableCall) (call : TableCall)
    (later : List TableCall) :
    let bound := Bindings.after table.get? (earlier.flatMap TableCall.writes)
    let current := (table.run earlier).2
    (∀ op, empty.get? op = none) ∧ (∀ op, standard.get? op = Transform.standard? op) ∧
    current.get? = bound ∧
    (∃ reply, (table.run (earlier ++ call :: later)).1[earlier.length]? = some reply ∧
      bound.Answers call reply.result) ∧
    (call.writes = [] → (current.step call).2 = current) := by
  intro bound current
  have hbound : current.get? = bound := get?_run table earlier
  refine ⟨fun _ => rfl, get?_standard, hbound, ?_, step_of_no_writes⟩
  exact ⟨_, run_getElem? table earlier call later, hbound ▸ step_answers current call⟩

theorem calls_answered_unregistered :
    let earlier : List TableCall := [.register .eq (.recording "first" "$eq"),
      .register .startsWith (.recording "second" "$regex"), .unregister .eq]
    let call : TableCall := .apply ⟨true, "i", false⟩ "eq" .int (.int 1)
    let bound := Bindings.after empty.get? (earlier.flatMap TableCall.writes)
    let current := (empty.run earlier).2
    bound .eq = none ∧ (bound .startsWith).isSome ∧
    (∃ reply, (empty.run (earlier ++ [call])).1[3]? = some reply ∧
      bound.Answers call reply.result) ∧ (current.step call).2 = current := by
  intro earlier call bound current
  obtain ⟨-, -, -, hanswer, hsame⟩ := calls_answered empty earlier call []
  exact ⟨rfl, rfl, hanswer, hsame rfl⟩

end OperatorTable

end DocQuery
