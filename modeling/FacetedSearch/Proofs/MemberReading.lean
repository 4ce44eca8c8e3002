import FacetedSearch.Lowering.Conditions
import FacetedSearch.Proofs.Entries
import FacetedSearch.Proofs.TreeReadBack

/-!
What becomes of a filter among the members of a group. A member is found by a path: the index of a
member, then the index of a member of that one, and so on. A filter that is given without any field
of a group becomes a condition where it can be one, and an empty group else; it is lost with all
other members of an object that counts as a condition itself.
-/

namespace FacetedSearch

namespace Value

/-- The values that are given as the members of a group. -/
def givenMembers : Value → List Value
  | .object entries => ((Entries.find? entries "conditions").bind Decode.listed?).getD []
  | _ => []

def givenAt? : Value → List Nat → Option Value
  | value, [] => some value
  | value, i :: path => value.givenMembers[i]?.bind (·.givenAt? path)

end Value

namespace ConditionTree

def memberAt? : ConditionTree → List Nat → Option ConditionTree
  | tree, [] => some tree
  | .group _ members _, i :: path => members[i]?.bind (·.memberAt? path)
  | .condition _, _ :: _ => none

/-- A value or an operator is given, and no field of a group. -/
structure IsBareFilter (entries : Entries Value) : Prop where
  filters : entries.contains "value" = true ∨ entries.contains "op" = true
  no_conjunction : entries.contains "conjunction" = false
  no_conditions : entries.contains "conditions" = false
  no_tags : entries.contains "tags" = false

/-- What is read of a filter: a condition where it can be one, else a group without members. -/
def ofBareFilter (entries : Entries Value) : ConditionTree :=
  match Condition.ofEntries? entries with
  | some c => .condition c
  | none => .group .and [] []

/-- The form of an object as a condition is valid, and no reading as a group uses more fields. -/
def CountsAsCondition : Value → Prop
  | .object entries =>
    (Condition.ofEntries? entries).isSome ∧
      ∀ group, (readMembersOf? entries).bind (groupReading? entries) = some group →
        group.fields ≤ Condition.givenFields entries
  | _ => False

/-- On the way from a member to what is given at a path inside of it, the member itself included,
something counts as a condition. -/
def Hides : Value → List Nat → Prop
  | _, [] => False
  | value, i :: path =>
    CountsAsCondition value ∨ ∃ member, value.givenMembers[i]? = some member ∧ Hides member path

section Members

variable {values : List Value} {readings : List Reading} {value member : Value} {reading : Reading}
  {entries : Entries Value} {path : List Nat}

theorem getElem?_of_readMembers? (h : readMembers? values = some readings) {i : Nat}
    (hmember : values[i]? = some member) :
    ∃ reading, readings[i]? = some reading ∧ readMember? member = some reading := by
  induction values generalizing readings i with
  | nil => simp at hmember
  | cons value rest ih =>
      rw [readMembers?] at h
      obtain ⟨first, hfirst, h⟩ := Option.bind_eq_some_iff.mp h
      obtain ⟨others, hothers, h⟩ := Option.bind_eq_some_iff.mp h
      cases h
      cases i with
      | zero =>
          cases hmember
          exact ⟨first, rfl, hfirst⟩
      | succ i => exact ih hothers hmember

theorem readMembersOf?_of_not_contains (h : entries.contains "conditions" = false) :
    readMembersOf? entries = some [] := by
  induction entries with
  | nil => rfl
  | cons entry rest ih =>
      obtain ⟨name, value⟩ := entry
      rw [Entries.contains, Entries.find?] at h
      by_cases hname : name = "conditions"
      · simp [hname] at h
      · rw [if_neg hname] at h
        rw [readMembersOf?.eq_def]
        dsimp only
        rw [if_neg hname]
        exact ih h

theorem readMembers?_givenMembers (h : readMembersOf? entries = some readings) :
    readMembers? (Value.object entries).givenMembers = some readings := by
  induction entries with
  | nil => exact h
  | cons entry rest ih =>
      obtain ⟨name, value⟩ := entry
      rw [readMembersOf?.eq_def] at h
      dsimp only at h
      by_cases hname : name = "conditions"
      · rw [if_pos hname] at h
        rw [Value.givenMembers, Entries.find?_cons, if_pos hname]
        split at h
        · exact h
        · exact h
        · exact h
        · cases h
      · rw [if_neg hname] at h
        rw [Value.givenMembers, Entries.find?_cons, if_neg hname]
        exact ih h

/-- A filter is read, whatever the data of its fields. -/
theorem readMember?_of_isBareFilter (h : IsBareFilter entries) :
    ∃ fields, readMember? (.object entries) = some ⟨ofBareFilter entries, fields⟩ := by
  have hconjunction : entries.find? "conjunction" = none :=
    Option.not_isSome_iff_eq_none.mp (ne_true_of_eq_false h.no_conjunction)
  have htags : entries.find? "tags" = none :=
    Option.not_isSome_iff_eq_none.mp (ne_true_of_eq_false h.no_tags)
  have hgroup : groupReading? entries [] = some ⟨.group .and [] [], 0⟩ := by
    simp [groupReading?, Decode.defaulted, hconjunction, htags, givenGroupFields, h.no_conjunction,
      h.no_conditions, h.no_tags]
  rw [readMember?, readMembersOf?_of_not_contains h.no_conditions, Option.bind_some, hgroup]
  cases hcondition : Condition.ofEntries? entries with
  | none => exact ⟨0, by simp [conditionReading?, ofBareFilter, hcondition, Reading.better?]⟩
  | some c =>
      exact ⟨Condition.givenFields entries, by
        simp [conditionReading?, ofBareFilter, hcondition, Reading.better?]⟩

theorem exists_condition_of_countsAsCondition (hread : readMember? value = some reading)
    (h : CountsAsCondition value) : ∃ c, reading.tree = .condition c := by
  cases value with
  | object entries =>
      obtain ⟨hsome, hfields⟩ := h
      obtain ⟨c, hc⟩ := Option.isSome_iff_exists.mp hsome
      refine ⟨c, ?_⟩
      rw [readMember?, conditionReading?, hc, Option.map_some] at hread
      cases hgroup : (readMembersOf? entries).bind (groupReading? entries) with
      | none =>
          rw [hgroup] at hread
          cases hread
          rfl
      | some group =>
          rw [hgroup, Reading.better?, if_neg (hfields group hgroup).not_gt] at hread
          cases hread
          rfl
  | _ => cases h

theorem exists_group_of_not_countsAsCondition (hread : readMember? value = some reading)
    (h : ¬CountsAsCondition value) :
    ∃ conjunction readings tags, reading.tree = .group conjunction (readings.map (·.tree)) tags ∧
      readMembers? value.givenMembers = some readings := by
  cases value with
  | object entries =>
      have hgroup : (readMembersOf? entries).bind (groupReading? entries) = some reading := by
        rw [readMember?, conditionReading?] at hread
        cases hc : Condition.ofEntries? entries with
        | none => rwa [hc] at hread
        | some c =>
            have hmore := not_and.mp h (hc ▸ rfl)
            push Not at hmore
            obtain ⟨group, hgroup, hfields⟩ := hmore
            rw [hc, hgroup, Option.map_some, Reading.better?, if_pos hfields] at hread
            rw [hgroup, hread]
      obtain ⟨readings, hreadings, hgroup⟩ := Option.bind_eq_some_iff.mp hgroup
      obtain ⟨conjunction, tags, htree, -⟩ := groupReading?_eq_some hgroup
      exact ⟨conjunction, readings, tags, htree, readMembers?_givenMembers hreadings⟩
  | _ => cases hread

/-- What is not hidden is read as what it is by itself. -/
theorem memberAt?_of_not_hides (hread : readMember? value = some reading)
    (hgiven : value.givenAt? path = some member) (h : ¬Hides value path) :
    ∃ inner, readMember? member = some inner ∧ reading.tree.memberAt? path = some inner.tree := by
  -- One step of the path leads from the reading of a group to that of its member.
  induction path generalizing value reading with
  | nil =>
      cases hgiven
      exact ⟨reading, hread, rfl⟩
  | cons i path ih =>
      obtain ⟨outer, houter, hgiven⟩ := Option.bind_eq_some_iff.mp hgiven
      obtain ⟨hcounts, hinner⟩ := not_or.mp h
      obtain ⟨conjunction, readings, tags, htree, hmembers⟩ :=
        exists_group_of_not_countsAsCondition hread hcounts
      obtain ⟨next, hnext, hread⟩ := getElem?_of_readMembers? hmembers houter
      obtain ⟨inner, hinner, hat⟩ := ih hread hgiven fun hhides => hinner ⟨outer, houter, hhides⟩
      refine ⟨inner, hinner, ?_⟩
      rw [htree, memberAt?, List.getElem?_map, hnext]
      exact hat

/-- What is hidden is lost. -/
theorem memberAt?_of_hides (hread : readMember? value = some reading) (h : Hides value path) :
    reading.tree.memberAt? path = none := by
  induction path generalizing value reading with
  | nil => cases h
  | cons i path ih =>
      by_cases hcounts : CountsAsCondition value
      · obtain ⟨c, htree⟩ := exists_condition_of_countsAsCondition hread hcounts
        rw [htree, memberAt?]
      · obtain ⟨outer, houter, hinner⟩ := h.resolve_left hcounts
        obtain ⟨conjunction, readings, tags, htree, hmembers⟩ :=
          exists_group_of_not_countsAsCondition hread hcounts
        obtain ⟨next, hnext, hread⟩ := getElem?_of_readMembers? hmembers houter
        rw [htree, memberAt?, List.getElem?_map, hnext]
        exact ih hread hinner

end Members

end ConditionTree

namespace ConditionGroup

open ConditionTree

/-- Whether a member on the way to a path counts as a condition. The group itself never does. -/
def IsHidden (value : Value) (path : List Nat) : Prop :=
  ∃ i rest member, path = i :: rest ∧ value.givenMembers[i]? = some member ∧ Hides member rest

variable {value : Value} {group : ConditionGroup} {path : List Nat} {entries : Entries Value}

theorem readMembers?_of_decode? (hread : decode? value = some group) :
    ∃ readings, group.members = readings.map (·.tree) ∧
      readMembers? value.givenMembers = some readings := by
  obtain ⟨entries, hentries, hread⟩ := Option.bind_eq_some_iff.mp hread
  obtain ⟨readings, hreadings, hread⟩ := Option.bind_eq_some_iff.mp hread
  obtain ⟨conjunction, -, hread⟩ := Option.bind_eq_some_iff.mp hread
  obtain ⟨tags, -, hdepth⟩ := Option.bind_eq_some_iff.mp hread
  cases value with
  | object entries =>
      cases hentries
      exact ⟨readings, congrArg members (eq_of_shallow? hdepth),
        readMembers?_givenMembers hreadings⟩
  | _ => cases hentries

/-- What becomes of a filter that is given anywhere below a group: a condition exactly where its
form as one is valid and no member around it counts as a condition, else an empty group or
nothing. -/
theorem memberAt?_of_isBareFilter (hread : decode? value = some group) (hpath : path ≠ [])
    (hgiven : value.givenAt? path = some (.object entries)) (hbare : IsBareFilter entries) :
    (∀ c, (ofGroup group).memberAt? path = some (.condition c) ↔
        Condition.ofEntries? entries = some c ∧ ¬IsHidden value path) ∧
      (Condition.ofEntries? entries = none → ¬IsHidden value path →
        (ofGroup group).memberAt? path = some (.group .and [] [])) ∧
      (IsHidden value path → (ofGroup group).memberAt? path = none) := by
  obtain ⟨readings, hmembers, hreadings⟩ := readMembers?_of_decode? hread
  obtain ⟨i, rest, rfl⟩ := List.exists_cons_of_ne_nil hpath
  obtain ⟨member, hmember, hgiven⟩ := Option.bind_eq_some_iff.mp hgiven
  obtain ⟨reading, hreading, hread⟩ := getElem?_of_readMembers? hreadings hmember
  have hat : (ofGroup group).memberAt? (i :: rest) = reading.tree.memberAt? rest := by
    rw [ofGroup, memberAt?, hmembers, List.getElem?_map, hreading]
    rfl
  have hhidden : IsHidden value (i :: rest) ↔ Hides member rest := by
    constructor
    · rintro ⟨_, _, other, hpath, hother, hhides⟩
      cases hpath
      rw [hmember] at hother
      cases hother
      exact hhides
    · exact fun hhides => ⟨i, rest, member, rfl, hmember, hhides⟩
  rw [hat, hhidden]
  by_cases hhides : Hides member rest
  · simp [memberAt?_of_hides hread hhides, hhides]
  · obtain ⟨inner, hinner, hat⟩ := memberAt?_of_not_hides hread hgiven hhides
    obtain ⟨fields, hbare⟩ := readMember?_of_isBareFilter hbare
    rw [hbare] at hinner
    cases hinner
    rw [hat]
    cases hc : Condition.ofEntries? entries with
    | none => simp [ofBareFilter, hc, hhides]
    | some c => simp [ofBareFilter, hc, hhides]

/-- A filter two groups deep, and one that is given inside of an object with a field, an operator
and a value: as many fields as its reading as a group uses. -/
def nestedFilters : Value :=
  .object
    [("conditions", .list
      [.object
          [("conditions", .tuple [.object [("field", .str "color"), ("value", .str "red")]])],
        .object
          [("field", .str "size"), ("op", .str "="), ("value", .int 1),
            ("conditions", .list [.object [("field", .str "hue"), ("value", .str "blue")]])]])]

def redFilter : Condition where
  field := "color"
  value := .str "red"

def nestedFiltersRead : ConditionGroup where
  members :=
    [.group .and [.condition redFilter] [], .condition { field := "size", value := .int 1 }]

theorem decode?_nestedFilters : decode? nestedFilters = some nestedFiltersRead := by
  rfl

theorem isHidden_nestedFilters : IsHidden nestedFilters [1, 0] := by
  refine ⟨1, [0], _, rfl, rfl, .inl ⟨rfl, ?_⟩⟩
  rintro group hgroup
  cases hgroup
  decide

theorem not_isHidden_nestedFilters : ¬IsHidden nestedFilters [0, 0] := by
  rintro ⟨_, _, member, hpath, hmember, hhides⟩
  cases hpath
  cases hmember
  rcases hhides with ⟨hsome, -⟩ | ⟨inner, hinner, hhides⟩
  · cases hsome
  · exact hhides

theorem nestedFilters_memberAt? :
    (ofGroup nestedFiltersRead).memberAt? [0, 0] = some (.condition redFilter) ∧
      (ofGroup nestedFiltersRead).memberAt? [1, 0] = none :=
  ⟨((memberAt?_of_isBareFilter decode?_nestedFilters (by decide) rfl
      ⟨.inl rfl, rfl, rfl, rfl⟩).1 redFilter).mpr ⟨rfl, not_isHidden_nestedFilters⟩,
    (memberAt?_of_isBareFilter decode?_nestedFilters (by decide) rfl
      ⟨.inl rfl, rfl, rfl, rfl⟩).2.2 isHidden_nestedFilters⟩

/-- A filter without its field. -/
def unnamedFilter : Entries Value := [("op", .str "="), ("value", .str "red")]

def unnamedFilters : Value := .object [("conditions", .list [.object unnamedFilter])]

/-- It is given as a filter, but the group is accepted without it and restricts nothing. -/
theorem unnamedFilter_is_lost :
    IsBareFilter unnamedFilter ∧ unnamedFilters.givenAt? [0] = some (.object unnamedFilter) ∧
      Condition.decode? (.object unnamedFilter) = none ∧
      decode? unnamedFilters = some { members := [.group .and [] []] } ∧
      (∀ c, (ofGroup { members := [.group .and [] []] }).memberAt? [0] ≠ some (.condition c)) ∧
      ∀ catalog, Lowering.lowerConditions catalog { members := [.group .and [] []] } =
        .ok { query := {}, postFilters := [] } :=
  ⟨⟨.inl rfl, rfl, rfl, rfl⟩, rfl, rfl, rfl, nofun, fun _ => rfl⟩

end ConditionGroup

end FacetedSearch
