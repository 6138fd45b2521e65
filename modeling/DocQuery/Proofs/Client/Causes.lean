import DocQuery.Proofs.Client.Failure

/-!
# What a fault is due to

`Ends` says of an action with a client what it may give and what its faults are due to:
to the last call that it made, to a cause that is admitted, or to anything at all as long as
the calls made until then are early ones. After its first request an action has no early
calls any more, so that `Ends.bind` asks for a cause of every later fault.
-/

namespace DocQuery

/-- A fault is what `raised` makes of the failure of the last of some calls, which were made
after a number of earlier ones. -/
def Client.Failed (client : Client) (raised : Call → DriverFault → Fault) (start : Nat)
    (made : List Call) (fault : Fault) : Prop :=
  ∃ before c cause, made = before ++ [c] ∧
    client.fault? (start + before.length) c = some cause ∧ fault = raised c cause

variable {client : Client} {raised : Call → DriverFault → Fault}

theorem Client.Failed.append (made : List Call)
    (h : client.Failed raised (start + made.length) more fault) :
    client.Failed raised start (made ++ more) fault := by
  obtain ⟨before, c, cause, rfl, hcause, rfl⟩ := h
  refine ⟨made ++ before, c, cause, (List.append_assoc ..).symm, ?_, rfl⟩
  rwa [List.length_append, ← Nat.add_assoc]

theorem Client.Failed.mapFault (g : Fault → Fault)
    (h : client.Failed raised start made fault) :
    client.Failed (fun c cause => g (raised c cause)) start made (g fault) := by
  obtain ⟨before, c, cause, hmade, hcause, rfl⟩ := h
  exact ⟨before, c, cause, hmade, hcause, rfl⟩

theorem Client.Failed.requestFault (h : client.Failed Call.fault start made fault) :
    client.Failed Call.raised start made (Action.requestFault fault) := by
  have h := h.mapFault Action.requestFault
  simpa only [Call.requestFault_fault] using h

namespace Action

/-- An action ends in a result with a property, or in a fault after early calls only, with an
admitted cause, or of the last call it made. -/
def Ends (client : Client) (raised : Call → DriverFault → Fault) (early : List Call → Prop)
    (admitted : Fault → Prop) (post : α → Prop) (x : Action α) : Prop :=
  ∀ journal, ∃ made, (x (some client) journal).2.calls = journal.calls ++ made ∧
    (∀ a, (x (some client) journal).1 = .ok a → post a) ∧
    ∀ fault, (x (some client) journal).1 = .error fault → early made ∨
      admitted fault ∨ client.Failed raised journal.calls.length made fault

def Never (_ : List Call) : Prop := False

/-- Calls are early as long as they are allowed. -/
def Within (allowed : Call → Prop) (made : List Call) : Prop := ∀ c ∈ made, allowed c

variable {early : List Call → Prop} {allowed : Call → Prop} {admitted : Fault → Prop}
  {post : α → Prop} {next : β → Prop} {x : Action α} {f : α → Action β}

-- ---------------------------------------------------------------------------
-- Single steps
-- ---------------------------------------------------------------------------

theorem Ends.ofExcept (hok : ∀ a, e = .ok a → post a)
    (herror : ∀ fault, e = .error fault → admitted fault) :
    (ofExcept e).Ends client raised early admitted post :=
  fun _ => ⟨[], (List.append_nil _).symm, hok, fun fault h => .inr (.inl (herror fault h))⟩

theorem Ends.pure (h : post a) : (pure a : Action α).Ends client raised early admitted post := by
  refine .ofExcept (e := .ok a) (fun b hb => ?_) fun fault hf => nomatch hf
  cases hb
  exact h

theorem Ends.call (hc : ∀ cause, c.fault cause = .driver cause) :
    (call c).Ends client Call.fault early admitted (· = client) := by
  intro journal
  refine ⟨[c], Makes.call client c journal, ?_, ?_⟩
  · intro reply h
    exact (Option.some.inj (of_call_ok h).1).symm
  · intro fault h
    unfold Action.call at h
    dsimp only at h
    split at h
    · rename_i cause hf
      refine .inr (.inr ⟨[], c, cause, rfl, Client.fault?_of_failure hf, ?_⟩)
      rw [hc]
      exact (Except.error.inj h).symm
    · cases h

theorem Ends.of_only (hx : x.Only allowed) :
    x.Ends client raised (Within allowed) admitted fun _ => True := by
  intro journal
  obtain ⟨made, hcalls, hmade⟩ := hx (some client) journal
  exact ⟨made, hcalls, fun _ _ => trivial, fun _ _ => .inl hmade⟩

-- ---------------------------------------------------------------------------
-- Several steps
-- ---------------------------------------------------------------------------

theorem Ends.bind (hx : x.Ends client raised early admitted post)
    (hf : ∀ a, post a → (f a).Ends client raised Never admitted next) :
    (x >>= f).Ends client raised early admitted next := by
  intro journal
  obtain ⟨made, hcalls, hok, herror⟩ := hx journal
  rw [bind_run]
  cases hrun : x (some client) journal with
  | mk result after =>
    rw [hrun] at hcalls hok herror
    cases result with
    | error fault =>
      refine ⟨made, hcalls, fun _ h => (nomatch h), fun other h => ?_⟩
      exact herror other (congrArg Except.error (Except.error.inj h))
    | ok a =>
      -- The calls that fail are counted from the start of the first action on.
      obtain ⟨more, hmore, hok', herror'⟩ := hf a (hok a rfl) after
      refine ⟨made ++ more, by rw [hmore, hcalls, List.append_assoc], hok', fun fault h => ?_⟩
      rw [hcalls, List.length_append] at herror'
      exact .inr (((herror' fault h).resolve_left id).imp_right (.append made))

/-- What makes only allowed calls may end in any fault, and leaves the next step free to do
the same. -/
theorem Ends.after (hx : x.Only allowed)
    (hf : ∀ a, (f a).Ends client raised (Within allowed) admitted next) :
    (x >>= f).Ends client raised (Within allowed) admitted next := by
  intro journal
  obtain ⟨made, hcalls, hmade⟩ := hx (some client) journal
  rw [bind_run]
  cases hrun : x (some client) journal with
  | mk result after =>
    rw [hrun] at hcalls
    cases result with
    | error fault => exact ⟨made, hcalls, fun _ h => (nomatch h), fun _ _ => .inl hmade⟩
    | ok a =>
      obtain ⟨more, hmore, hok, herror⟩ := hf a after
      refine ⟨made ++ more, by rw [hmore, hcalls, List.append_assoc], hok, fun fault h => ?_⟩
      rw [hcalls, List.length_append] at herror
      rcases herror fault h with hallowed | hadmitted | hfailed
      · exact .inl (List.forall_mem_append.mpr ⟨hmade, hallowed⟩)
      · exact .inr (.inl hadmitted)
      · exact .inr (.inr (hfailed.append made))

theorem Ends.after_runs (hx : x.Runs (some client) [] e)
    (hf : ∀ a, e = .ok a → (f a).Ends client raised (Within allowed) admitted next) :
    (x >>= f).Ends client raised (Within allowed) admitted next := by
  cases e with
  | ok a =>
    intro journal
    obtain ⟨after, hcalls, hrun⟩ := hx.then (f := f) journal
    rw [List.append_nil] at hcalls
    rw [hrun, ← hcalls]
    exact hf a rfl after
  | error fault =>
    intro journal
    have hruns : (x >>= f).Runs (some client) [] (.error fault) := hx.bind_error
    rw [hruns.result_eq]
    exact ⟨[], hruns.makes journal, fun _ h => (nomatch h), fun _ _ => .inl (List.forall_mem_nil _)⟩

theorem Ends.weaken {causes : Fault → Prop} (hc : ∀ fault, causes fault → admitted fault)
    (hx : x.Ends client raised early causes post) : x.Ends client raised early admitted post := by
  intro journal
  obtain ⟨made, hcalls, hok, herror⟩ := hx journal
  exact ⟨made, hcalls, hok, fun fault h => (herror fault h).imp_right (.imp_left (hc fault))⟩

theorem Ends.map (g : α → β) (hx : x.Ends client raised early admitted post) :
    (g <$> x).Ends client raised early admitted fun _ => True :=
  hx.bind fun _ _ => .pure trivial

theorem Ends.guarded {causes : Fault → Prop}
    (hc : ∀ fault, causes fault → admitted (requestFault fault))
    (hx : x.Ends client Call.fault early causes post) :
    x.guarded.Ends client Call.raised early admitted post := by
  intro journal
  obtain ⟨made, hcalls, hok, herror⟩ := hx journal
  unfold Action.guarded
  rw [mapFault_run]
  cases hrun : x (some client) journal with
  | mk result after =>
    rw [hrun] at hcalls hok herror
    cases result with
    | ok a => exact ⟨made, hcalls, hok, fun _ h => (nomatch h)⟩
    | error cause =>
      refine ⟨made, hcalls, fun _ h => (nomatch h), fun fault h => ?_⟩
      cases h
      exact (herror cause rfl).imp_right fun h => h.imp (hc cause) .requestFault

end Action

end DocQuery
