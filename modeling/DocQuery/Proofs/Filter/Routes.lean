import DocQuery.Proofs.Filter.Subfilters

/-!
# The way to a malformed part

`Value.at?` follows a path into a value. `at?_violation` says that the path of
a violation leads to the malformed part and that its cause describes that part.
-/

namespace DocQuery

/-- The part of a value that is one step away: the value of a key or an element. -/
def Value.step? : Value → PathStep → Option Value
  | .map entries, .field name => (entries.find? (·.1.text == name)).map (·.2)
  | .list items, .index i | .tuple items, .index i => items[i]?
  | _, _ => none

def Value.at? (v : Value) : Path → Option Value
  | [] => some v
  | step :: path => (v.step? step).bind (at? · path)

def Malformed.Describes (v : Value) : Malformed → Prop
  | .notMap found | .branchNotMap found => v.isMap = false ∧ found = v.typeName
  | .notList _ => v.elements? = none
  | .emptyClause => v = .map []
  | .manyOperators names => ∃ entries, v = .map entries ∧ 1 < entries.length ∧
      names = entries.map (·.1)
  | .noBranches _ => v.elements? = some []
  | .notRange operand => v = operand

namespace Filter

/-- A violation is within a value if its path goes on from the path of the value to
a part that its cause describes. -/
def Violation.Within (violation : Violation) (path : Path) (v : Value) : Prop :=
  ∃ steps part, violation.path = path ++ steps ∧ v.at? steps = some part ∧
    violation.cause.Describes part

variable {violation : Violation}

theorem Violation.within_self (hd : violation.cause.Describes v) :
    violation.Within violation.path v :=
  ⟨[], v, (List.append_nil _).symm, rfl, hd⟩

theorem Violation.Within.of_step {path : Path} {step : PathStep} (hs : v.step? step = some part)
    (hw : violation.Within (path ++ [step]) part) : violation.Within path v := by
  obtain ⟨steps, w, hp, ha, hd⟩ := hw
  refine ⟨step :: steps, w, by simpa using hp, ?_, hd⟩
  rw [Value.at?, hs, Option.bind_some, ha]

theorem find?_of_mem {filter : Entries} (hn : (names filter).Nodup) (he : entry ∈ filter) :
    filter.find? (·.1.text == entry.1.text) = some entry := by
  induction filter with
  | nil => cases he
  | cons head rest ih =>
    simp only [names, List.map_cons, List.nodup_cons] at hn
    rcases List.mem_cons.mp he with rfl | he
    · simp
    · have hne : head.1.text ≠ entry.1.text := fun h =>
        hn.1 (h ▸ List.mem_map_of_mem he)
      rw [List.find?_cons_of_neg (by simpa using hne), ih hn.2 he]

theorem eq_of_malformed_mem {found : Violation}
    (h : .malformed violation ∈ [Obstacle.malformed found]) : violation = found :=
  Obstacle.malformed.inj (List.mem_singleton.mp h)

theorem malformed_notMem_keyObstacles (key : Value) : .malformed violation ∉ keyObstacles key := by
  unfold keyObstacles
  split <;> simp

theorem listObstacles_describe (h : .malformed violation ∈ listObstacles path field)
    (hv : v.elements? = none) : violation.Within path v := by
  unfold listObstacles at h
  split at h
  · obtain rfl := eq_of_malformed_mem h
    exact Violation.within_self hv
  · cases h

theorem clauseObstacles_describe (h : .malformed violation ∈ clauseObstacles path entries) :
    violation.Within path (.map entries) := by
  match entries with
  | [] =>
    obtain rfl := eq_of_malformed_mem h
    exact Violation.within_self rfl
  | [_] => exact absurd h (malformed_notMem_keyObstacles _)
  | first :: second :: rest =>
    rcases List.mem_cons.mp h with h | h
    · obtain rfl := Obstacle.malformed.inj h
      exact Violation.within_self ⟨_, rfl, by simp, rfl⟩
    · exact absurd h (malformed_notMem_keyObstacles _)

-- The induction is on what is left of a filter, where the path of a violation cannot
-- be followed yet: an entry of it is only found under its key in the whole filter.
mutual
theorem obstacles_entry : (filter : Entries) → (∀ sub ∈ below filter, TextKeyed sub) →
    .malformed violation ∈ obstacles path filter →
    ∃ entry ∈ filter, violation.Within (path ++ [.field entry.1.text]) entry.2
  | (key, v) :: rest, hb, h => by
    simp only [below, List.forall_mem_append] at hb
    rcases List.mem_append.mp h with h | h
    · exact absurd h (malformed_notMem_keyObstacles key)
    rcases List.mem_append.mp h with h | h
    · exact ⟨_, List.mem_cons_self, valueObstacles_within v hb.1 h⟩
    · obtain ⟨entry, he, hw⟩ := obstacles_entry rest hb.2 h
      exact ⟨entry, List.mem_cons_of_mem _ he, hw⟩

theorem valueObstacles_within (v : Value) (hb : ∀ sub ∈ belowValue field v, TextKeyed sub)
    (h : .malformed violation ∈ valueObstacles path field v) : violation.Within path v := by
  cases v with
  | list items | tuple items =>
    rw [valueObstacles] at h
    rw [belowValue] at hb
    split at h
    · rename_i hc
      rw [hc] at hb
      split at h
      · rename_i hi
        obtain rfl := eq_of_malformed_mem h
        exact Violation.within_self (congrArg some (List.isEmpty_iff.mp hi))
      · obtain ⟨i, item, hi, hw⟩ := elementObstacles_within items hb h
        rw [Nat.zero_add] at hw
        refine .of_step ?_ hw
        exact hi
    · cases h
  | map entries =>
    rcases List.mem_append.mp h with h | h
    · exact listObstacles_describe h rfl
    · exact clauseObstacles_describe h
  | _ => exact listObstacles_describe h rfl

theorem elementObstacles_within (items : List Value)
    (hb : ∀ sub ∈ belowElements items, TextKeyed sub)
    (h : .malformed violation ∈ elementObstacles path index items) :
    ∃ i item, items[i]? = some item ∧ violation.Within (path ++ [.index (index + i)]) item := by
  match items with
  | [] => cases h
  | v :: rest =>
    have next (hb : ∀ sub ∈ belowElements rest, TextKeyed sub)
        (h : .malformed violation ∈ elementObstacles path (index + 1) rest) :
        ∃ i item, (v :: rest)[i]? = some item ∧
          violation.Within (path ++ [.index (index + i)]) item := by
      obtain ⟨i, item, hi, hw⟩ := elementObstacles_within rest hb h
      exact ⟨i + 1, item, hi, by rwa [Nat.add_assoc, Nat.add_comm 1] at hw⟩
    cases v with
    | map entries =>
      simp only [belowElements, List.forall_mem_cons, List.forall_mem_append] at hb
      rcases List.mem_append.mp h with h | h
      · obtain ⟨entry, he, hw⟩ := obstacles_entry entries hb.2.1 h
        refine ⟨0, _, rfl, .of_step ?_ hw⟩
        rw [Value.step?, find?_of_mem hb.1.nodup_names he, Option.map_some]
      · exact next hb.2.2 h
    | _ =>
      rcases List.mem_cons.mp h with h | h
      · obtain rfl := Obstacle.malformed.inj h
        exact ⟨0, _, rfl, Violation.within_self ⟨rfl, rfl⟩⟩
      · exact next hb h
end

theorem violations_within (ht : ∀ sub ∈ subfilters filter, TextKeyed sub)
    (h : violation ∈ violations [] filter) : violation.Within [] (.map filter) := by
  obtain ⟨hroot, hbelow⟩ := List.forall_mem_cons.mp ht
  obtain ⟨entry, he, hw⟩ := obstacles_entry filter hbelow (malformed_mem_iff.mpr h)
  refine .of_step ?_ hw
  rw [Value.step?, find?_of_mem hroot.nodup_names he, Option.map_some]

/-- The path of a violation leads to the part that its cause describes. -/
theorem at?_violation (ht : ∀ sub ∈ subfilters filter, TextKeyed sub)
    (h : violation ∈ violations [] filter) :
    ∃ part, (Value.map filter).at? violation.path = some part ∧
      violation.cause.Describes part := by
  obtain ⟨steps, part, hp, ha, hd⟩ := violations_within ht h
  rw [List.nil_append] at hp
  exact ⟨part, hp ▸ ha, hd⟩

end Filter

end DocQuery
