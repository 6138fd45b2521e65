import DocQuery.Client
import DocQuery.Proofs.FirstFault

/-!
# What an action does

`Makes` says which calls an action makes with a client, wherever its journal
stands, and `Runs` says in what it ends besides. Both follow an action step by
step. `Only` bounds the calls of an action for every client, and `Ensures` ties them to
what it gives. `Follows` says which calls of one kind it makes, also where it fails midway.
-/

namespace DocQuery.Action

variable {client? : Option Client} {x : Action α} {f : α → Action β}

theorem bind_ok (h : x client? journal = (.ok a, after)) :
    (x >>= f) client? journal = f a client? after := by
  rw [bind_run, h]

theorem bind_error (h : x client? journal = (.error fault, after)) :
    (x >>= f) client? journal = (.error fault, after) := by
  rw [bind_run, h]

theorem of_bind_ok (h : ((x >>= f) client? journal).1 = .ok b) :
    ∃ a after, x client? journal = (.ok a, after) ∧ (f a client? after).1 = .ok b := by
  rw [bind_run] at h
  cases hrun : x client? journal with
  | mk result after =>
    rw [hrun] at h
    cases result with
    | ok a => exact ⟨a, after, rfl, h⟩
    | error fault => cases h

theorem bind_assoc (x : Action α) (f : α → Action β) (g : β → Action γ) :
    x >>= f >>= g = x >>= fun a => f a >>= g := by
  funext client? journal
  simp only [bind_run]
  cases x client? journal with
  | mk result after => cases result <;> rfl

theorem mapFault_run (g : Fault → Fault) (x : Action α) (client? : Option Client)
    (journal : Journal) :
    x.mapFault g client? journal =
      ((x client? journal).1.mapError g, (x client? journal).2) := by
  unfold mapFault
  cases x client? journal with
  | mk result after => cases result <;> rfl

-- ---------------------------------------------------------------------------
-- The calls of an action
-- ---------------------------------------------------------------------------

/-- The calls that an action makes with a client, after those already made. -/
def Makes (x : Action α) (client? : Option Client) (made : List Call) : Prop :=
  ∀ journal, (x client? journal).2.calls = journal.calls ++ made

structure Runs (x : Action α) (client? : Option Client) (made : List Call)
    (result : Except Fault α) : Prop where
  result_eq : ∀ journal, (x client? journal).1 = result
  makes : x.Makes client? made

theorem Runs.pure (a : α) : (pure a : Action α).Runs client? [] (.ok a) :=
  ⟨fun _ => rfl, fun _ => (List.append_nil _).symm⟩

theorem Runs.ofExcept (e : Except Fault α) : (ofExcept e).Runs client? [] e :=
  ⟨fun _ => rfl, fun _ => (List.append_nil _).symm⟩

theorem Runs.ofOperand (e : Except Misuse α) : (ofOperand e).Runs client? [] (orFault e) :=
  .ofExcept _

theorem Runs.ofTraced (t : Traced α) : (ofTraced t).Runs client? [] t.result :=
  ⟨fun _ => rfl, fun _ => (List.append_nil _).symm⟩

theorem Runs.note_pure (source : LogSource) (level : LogLevel) (message : String) (a : α) :
    (note source level message >>= fun _ => Pure.pure a : Action α).Runs client? [] (.ok a) :=
  ⟨fun _ => rfl, fun _ => (List.append_nil _).symm⟩

theorem Makes.call (client : Client) (c : Call) : (call c).Makes (some client) [c] := by
  intro journal
  unfold Action.call
  dsimp only
  split <;> rfl

theorem Runs.call {client : Client} (h : ∀ n, client.failure n c = none) :
    (call c).Runs (some client) [c] (.ok client) := by
  refine ⟨fun journal => ?_, .call client c⟩
  simp only [Action.call, h]

theorem of_call_ok (h : (Action.call c client? journal).1 = .ok client) :
    client? = some client ∧ c ∈ (Action.call c client? journal).2.calls := by
  cases client? with
  | none => cases h
  | some other =>
    rw [Makes.call other c journal]
    refine ⟨?_, List.mem_append_right _ List.mem_cons_self⟩
    unfold Action.call at h
    dsimp only at h
    split at h
    · cases h
    · exact congrArg some (Except.ok.inj h)

theorem Makes.mapFault {g : Fault → Fault} (hx : x.Makes client? made) :
    (x.mapFault g).Makes client? made := by
  intro journal
  rw [mapFault_run]
  exact hx journal

theorem Runs.mapFault {g : Fault → Fault} (hx : x.Runs client? made result) :
    (x.mapFault g).Runs client? made (result.mapError g) := by
  refine ⟨fun journal => ?_, hx.makes.mapFault⟩
  rw [mapFault_run, hx.result_eq]

theorem Runs.mapFault_ok {g : Fault → Fault} (hx : x.Runs client? made (.ok a)) :
    (x.mapFault g).Runs client? made (.ok a) := hx.mapFault

theorem Runs.mapFault_error {g : Fault → Fault} (hx : x.Runs client? made (.error fault)) :
    (x.mapFault g).Runs client? made (.error (g fault)) := hx.mapFault

theorem Runs.then (hx : x.Runs client? made (.ok a)) (journal : Journal) :
    ∃ after, after.calls = journal.calls ++ made ∧
      (x >>= f) client? journal = f a client? after := by
  refine ⟨(x client? journal).2, hx.makes journal, bind_ok (Prod.ext ?_ rfl)⟩
  exact hx.result_eq journal

theorem Runs.bind_makes (hx : x.Runs client? made (.ok a)) (hf : (f a).Makes client? more) :
    (x >>= f).Makes client? (made ++ more) := by
  intro journal
  obtain ⟨after, hcalls, hrun⟩ := hx.then (f := f) journal
  rw [hrun, hf, hcalls, List.append_assoc]

theorem Runs.bind (hx : x.Runs client? made (.ok a)) (hf : (f a).Runs client? more result) :
    (x >>= f).Runs client? (made ++ more) result := by
  refine ⟨fun journal => ?_, hx.bind_makes hf.makes⟩
  obtain ⟨after, -, hrun⟩ := hx.then (f := f) journal
  rw [hrun, hf.result_eq]

theorem Runs.bind_silent (hx : x.Runs client? made (.ok a)) (hf : (f a).Runs client? [] result) :
    (x >>= f).Runs client? made result := by
  simpa using hx.bind hf

theorem Runs.bind_error (hx : x.Runs client? made (.error fault)) :
    (x >>= f).Runs client? made (.error fault) := by
  have hrun : ∀ journal, (x >>= f) client? journal = (.error fault, (x client? journal).2) :=
    fun journal => Action.bind_error (Prod.ext (hx.result_eq journal) rfl)
  refine ⟨fun journal => ?_, fun journal => ?_⟩
  · rw [hrun]
  · rw [hrun, hx.makes]

theorem Makes.bind_silent (hx : x.Makes client? made) (hf : ∀ a, (f a).Makes client? []) :
    (x >>= f).Makes client? made := by
  intro journal
  rw [bind_run]
  have hcalls := hx journal
  cases hrun : x client? journal with
  | mk result after =>
    rw [hrun] at hcalls
    cases result with
    | ok a => rw [← hcalls]; simpa using hf a after
    | error fault => exact hcalls

theorem Runs.bind_result (hx : x.Runs client? made e) (hf : ∀ a, (f a).Runs client? [] (r a)) :
    (x >>= f).Runs client? made (e >>= r) := by
  cases e with
  | ok a => exact hx.bind_silent (hf a)
  | error fault => exact hx.bind_error

theorem Runs.bind_of_eq (hx : x.Runs client? [] e) (he : e = .ok a)
    (hf : (f a).Runs client? made result) : (x >>= f).Runs client? made result :=
  (he ▸ hx : x.Runs client? [] (.ok a)).bind hf

theorem Runs.bind_error_of_eq (hx : x.Runs client? made e) (he : e = .error fault) :
    (x >>= f).Runs client? made (.error fault) :=
  Runs.bind_error (he ▸ hx)

variable (g : α → β)

theorem map_eq_bind (x : Action α) : g <$> x = x >>= fun a => Pure.pure (g a) := rfl

theorem Makes.map (hx : x.Makes client? made) : (g <$> x).Makes client? made :=
  hx.bind_silent fun _ => (Runs.pure _).makes

theorem Runs.map_ok (hx : x.Runs client? made (.ok a)) : (g <$> x).Runs client? made (.ok (g a)) :=
  hx.bind_silent (.pure _)

theorem Runs.map_error (hx : x.Runs client? made (.error fault)) :
    (g <$> x).Runs client? made (.error fault) := by
  rw [map_eq_bind]
  exact hx.bind_error

-- ---------------------------------------------------------------------------
-- Bounds on calls
-- ---------------------------------------------------------------------------

def Only (allowed : Call → Prop) (x : Action α) : Prop :=
  ∀ client? journal, ∃ made, (x client? journal).2.calls = journal.calls ++ made ∧
    ∀ c ∈ made, allowed c

variable {allowed : Call → Prop}

theorem Only.of_makes (h : ∀ client?, x.Makes client? []) : x.Only allowed :=
  fun client? journal => ⟨[], h client? journal, fun _ hc => (nomatch hc)⟩

theorem Only.call (h : allowed c) : (call c).Only allowed := by
  intro client? journal
  cases client? with
  | none => exact ⟨[], (List.append_nil _).symm, fun _ hc => (nomatch hc)⟩
  | some client =>
    refine ⟨[c], Makes.call client c journal, fun other hc => ?_⟩
    rw [List.mem_singleton.mp hc]
    exact h

theorem Only.bind (hx : x.Only allowed) (hf : ∀ a, (f a).Only allowed) :
    (x >>= f).Only allowed := by
  intro client? journal
  obtain ⟨made, hcalls, hmade⟩ := hx client? journal
  rw [bind_run]
  cases hrun : x client? journal with
  | mk result after =>
    rw [hrun] at hcalls
    cases result with
    | error fault => exact ⟨made, hcalls, hmade⟩
    | ok a =>
      obtain ⟨more, hmore, hallowed⟩ := hf a client? after
      refine ⟨made ++ more, ?_, List.forall_mem_append.mpr ⟨hmade, hallowed⟩⟩
      rw [hmore, hcalls, List.append_assoc]

theorem Only.map (g : α → β) (hx : x.Only allowed) : (g <$> x).Only allowed :=
  hx.bind fun _ => .of_makes fun _ => (Runs.pure _).makes

theorem Only.mapFault {g : Fault → Fault} (hx : x.Only allowed) : (x.mapFault g).Only allowed := by
  intro client? journal
  rw [mapFault_run]
  exact hx client? journal

-- ---------------------------------------------------------------------------
-- Calls and results together
-- ---------------------------------------------------------------------------

/-- An action makes only allowed calls, with any client, and if it gives a result, the
calls that it made and the result satisfy a condition. -/
def Ensures (allowed : Call → Prop) (post : List Call → α → Prop) (x : Action α) : Prop :=
  ∀ client? journal, ∃ made, (x client? journal).2.calls = journal.calls ++ made ∧
    (∀ c ∈ made, allowed c) ∧ ∀ a, (x client? journal).1 = .ok a → post made a

variable {post : List Call → α → Prop} {next : List Call → β → Prop}

theorem Ensures.of_only (hx : x.Only allowed) : x.Ensures allowed fun _ _ => True := by
  intro client? journal
  obtain ⟨made, hcalls, hmade⟩ := hx client? journal
  exact ⟨made, hcalls, hmade, fun _ _ => trivial⟩

theorem Ensures.of_runs (hx : ∀ client?, x.Runs client? [] e) :
    x.Ensures allowed fun made a => made = [] ∧ e = .ok a := by
  intro client? journal
  refine ⟨[], (hx client?).makes journal, List.forall_mem_nil _, fun a h => ⟨rfl, ?_⟩⟩
  exact ((hx client?).result_eq journal).symm.trans h

theorem Ensures.pure (h : post [] a) : (pure a : Action α).Ensures allowed post := by
  intro client? journal
  refine ⟨[], (List.append_nil _).symm, List.forall_mem_nil _, fun b hb => ?_⟩
  cases hb
  exact h

theorem Ensures.call (h : allowed c) : (call c).Ensures allowed fun made _ => made = [c] := by
  intro client? journal
  cases client? with
  | none => exact ⟨[], (List.append_nil _).symm, List.forall_mem_nil _, fun _ h => (nomatch h)⟩
  | some client =>
    exact ⟨[c], Makes.call client c journal, List.forall_mem_singleton.mpr h, fun _ _ => rfl⟩

theorem Ensures.bind (hx : x.Ensures allowed post)
    (hf : ∀ made a, post made a → (f a).Ensures allowed fun more => next (made ++ more)) :
    (x >>= f).Ensures allowed next := by
  intro client? journal
  obtain ⟨made, hcalls, hmade, hpost⟩ := hx client? journal
  rw [bind_run]
  cases hrun : x client? journal with
  | mk result after =>
    rw [hrun] at hcalls hpost
    cases result with
    | error fault => exact ⟨made, hcalls, hmade, fun _ h => (nomatch h)⟩
    | ok a =>
      obtain ⟨more, hmore, hallowed, hnext⟩ := hf made a (hpost a rfl) client? after
      refine ⟨made ++ more, ?_, List.forall_mem_append.mpr ⟨hmade, hallowed⟩, hnext⟩
      rw [hmore, hcalls, List.append_assoc]

theorem Ensures.mapFault {g : Fault → Fault} (hx : x.Ensures allowed post) :
    (x.mapFault g).Ensures allowed post := by
  intro client? journal
  obtain ⟨made, hcalls, hmade, hpost⟩ := hx client? journal
  rw [mapFault_run]
  exact ⟨made, hcalls, hmade, fun a h => hpost a (mapError_ok.mp h)⟩

-- ---------------------------------------------------------------------------
-- Calls of a kind
-- ---------------------------------------------------------------------------

/-- With a client, the calls of a kind that an action makes are the first ones of a list. They
are all of the list if it gives a result, which then satisfies a condition. -/
def Follows (kind : Call → Bool) (client? : Option Client) (listed : List Call) (post : α → Prop)
    (x : Action α) : Prop :=
  ∀ journal, ∃ made, (x client? journal).2.calls = journal.calls ++ made ∧
    made.filter kind <+: listed ∧
    ∀ a, (x client? journal).1 = .ok a → made.filter kind = listed ∧ post a

section

variable {kind : Call → Bool} {listed more : List Call} {post : α → Prop} {next : β → Prop}

theorem Follows.of_only (hx : x.Only fun c => kind c = false) :
    x.Follows kind client? [] fun _ => True := by
  intro journal
  obtain ⟨made, hcalls, hmade⟩ := hx client? journal
  have hnone : made.filter kind = [] := List.filter_eq_nil_iff.mpr (by simpa using hmade)
  exact ⟨made, hcalls, hnone ▸ List.prefix_rfl, fun _ _ => ⟨hnone, trivial⟩⟩

theorem Follows.of_runs (hx : x.Runs client? [] e) : x.Follows kind client? [] (e = .ok ·) := by
  intro journal
  refine ⟨[], hx.makes journal, List.prefix_rfl, fun a h => ⟨rfl, ?_⟩⟩
  exact (hx.result_eq journal).symm.trans h

theorem Follows.call (c : Call) :
    (call c).Follows kind client? ([c].filter kind) (client? = some ·) := by
  intro journal
  cases client? with
  | none => exact ⟨[], (List.append_nil _).symm, List.nil_prefix, fun _ h => (nomatch h)⟩
  | some client =>
    refine ⟨[c], Makes.call client c journal, List.prefix_rfl, fun _ h => ⟨rfl, ?_⟩⟩
    exact (of_call_ok h).1

theorem Follows.bind (hx : x.Follows kind client? listed post)
    (hf : ∀ a, post a → (f a).Follows kind client? more next) :
    (x >>= f).Follows kind client? (listed ++ more) next := by
  intro journal
  obtain ⟨made, hcalls, hprefix, hpost⟩ := hx journal
  rw [bind_run]
  cases hrun : x client? journal with
  | mk result after =>
    rw [hrun] at hcalls hpost
    cases result with
    | error fault =>
      exact ⟨made, hcalls, hprefix.trans (List.prefix_append ..), fun _ h => (nomatch h)⟩
    | ok a =>
      obtain ⟨hlisted, ha⟩ := hpost a rfl
      obtain ⟨others, hothers, hrest, hnext⟩ := hf a ha after
      refine ⟨made ++ others, by rw [hothers, hcalls, List.append_assoc], ?_, fun b hb => ?_⟩
      · rw [List.filter_append, hlisted]
        exact (List.prefix_append_right_inj listed).mpr hrest
      · obtain ⟨hmore, hb⟩ := hnext b hb
        exact ⟨by rw [List.filter_append, hlisted, hmore], hb⟩

theorem Follows.bind_silent (hx : x.Follows kind client? listed post)
    (hf : ∀ a, post a → (f a).Follows kind client? [] next) :
    (x >>= f).Follows kind client? listed next := by
  simpa using hx.bind hf

theorem Follows.silent_bind (hx : x.Follows kind client? [] post)
    (hf : ∀ a, post a → (f a).Follows kind client? more next) :
    (x >>= f).Follows kind client? more next := hx.bind hf

theorem Follows.weaken {other : α → Prop} (hx : x.Follows kind client? listed post)
    (h : ∀ a, post a → other a) : x.Follows kind client? listed other := by
  intro journal
  obtain ⟨made, hcalls, hprefix, hpost⟩ := hx journal
  exact ⟨made, hcalls, hprefix, fun a ha => (hpost a ha).imp_right (h a)⟩

theorem Follows.mapFault {g : Fault → Fault} (hx : x.Follows kind client? listed post) :
    (x.mapFault g).Follows kind client? listed post := by
  intro journal
  obtain ⟨made, hcalls, hprefix, hpost⟩ := hx journal
  rw [mapFault_run]
  exact ⟨made, hcalls, hprefix, fun a h => hpost a (mapError_ok.mp h)⟩

end

end DocQuery.Action
