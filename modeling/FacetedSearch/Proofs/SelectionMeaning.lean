import FacetedSearch.Proofs.ConditionAcceptance
import Mathlib.Data.List.Pairwise

/-!
Selections of facets, and what they mean in a condition tree. A tree is well selected when its
selections stand in nothing but conjunctions, each is made of conditions on one flat field, and no
two of them have the same key. The filter query of such a tree and its post filters together say
what the whole tree says.
-/

namespace FacetedSearch

theorem Text.afterStart?_eq_some_iff {α : Type} [DecidableEq α] {start list rest : List α} :
    Text.afterStart? start list = some rest ↔ list = start ++ rest := by
  induction start generalizing list with
  | nil => simp [Text.afterStart?]
  | cons a start ih =>
      cases list with
      | nil => simp [Text.afterStart?]
      | cons b list =>
          rw [Text.afterStart?]
          split_ifs with h
          · simp [ih, h]
          · simp [Ne.symm h]

/-- A tag that makes a group the selection of some field. -/
def isFacetTag (tag : String) : Bool := (Text.after? "facet:" tag).isSome

theorem isFacetTag_iff {tag : String} : isFacetTag tag = true ↔ ∃ field, tag = facetTag field := by
  simp only [isFacetTag, Text.after?, Option.isSome_map, Option.isSome_iff_exists,
    Text.afterStart?_eq_some_iff, facetTag]
  constructor
  · rintro ⟨rest, hrest⟩
    refine ⟨String.ofList rest, ?_⟩
    rw [← String.toList_inj, String.toList_append, hrest]
    simp
  · rintro ⟨field, rfl⟩
    exact ⟨field.toList, String.toList_append⟩

namespace ConditionTree

/-- An alternative group that is tagged as the selection of a field. -/
structure Selection where
  tags : List String
  members : List ConditionTree

namespace Selection

/-- A selection is made of conditions on one flat field that it is tagged with. -/
structure IsOn (catalog : FieldCatalog) (selection : Selection) (field : String) : Prop where
  tagged : facetTag field ∈ selection.tags
  flat : catalog.isNestedField field = false
  nonempty : selection.members ≠ []
  conditions : ∀ member ∈ selection.members, ∃ c, member = .condition c ∧ c.field = field

/-- The key of a selection is the one of its facet. -/
def HasKey (catalog : FieldCatalog) (selection : Selection) (key : String) : Prop :=
  ∃ field, selection.IsOn catalog field ∧ Lowering.facetKey selection.tags field = key

/-- What a selection diverts to post filters. -/
def diverted (catalog : FieldCatalog) (selection : Selection) : List (String × Condition) :=
  selection.members.flatMap (ownDiverted catalog .or selection.tags)

end Selection

/-- The selection that a group is itself. -/
def ownSelection (conjunction : Conjunction) (members : List ConditionTree) (tags : List String) :
    List Selection :=
  if conjunction = .or ∧ tags.any isFacetTag = true then [⟨tags, members⟩] else []

mutual

/-- The selections in a tree, wherever they stand. -/
def selections : ConditionTree → List Selection
  | .condition _ => []
  | .group conjunction members tags =>
    ownSelection conjunction members tags ++ selectionsOf members

def selectionsOf : List ConditionTree → List Selection
  | [] => []
  | member :: rest => member.selections ++ selectionsOf rest

end

mutual

/-- No selection stands below an alternative. -/
def SelectsInConjunctions : ConditionTree → Prop
  | .condition _ => True
  | .group .and members _ => AllSelectInConjunctions members
  | .group .or members _ => selectionsOf members = []

def AllSelectInConjunctions : List ConditionTree → Prop
  | [] => True
  | member :: rest => member.SelectsInConjunctions ∧ AllSelectInConjunctions rest

end

/-- Selections stand in conjunctions only, each on a flat field, and under distinct keys. -/
structure IsWellSelected (catalog : FieldCatalog) (tree : ConditionTree) : Prop where
  inConjunctions : tree.SelectsInConjunctions
  onField : ∀ selection ∈ tree.selections, ∃ field, selection.IsOn catalog field
  keys : tree.selections.Pairwise fun first second =>
    ∀ key, first.HasKey catalog key → ¬second.HasKey catalog key

variable {catalog : FieldCatalog} {meaning : Condition → Prop} {conjunction : Conjunction}
  {members : List ConditionTree} {tags : List String}

theorem ownSelection_of_isSelected {c : Condition} (h : IsSelected conjunction tags c) :
    ownSelection conjunction members tags = [⟨tags, members⟩] := by
  have htag : tags.any isFacetTag = true :=
    List.any_eq_true.mpr ⟨_, h.2, isFacetTag_iff.mpr ⟨c.field, rfl⟩⟩
  rw [ownSelection, if_pos ⟨h.1, htag⟩]

/-- In a group that is no selection itself, no condition is selected. -/
theorem not_isSelectedMember (h : ownSelection conjunction members tags = [])
    (member : ConditionTree) : ¬IsSelectedMember conjunction tags member := by
  cases member with
  | group inner innerMembers innerTags => exact id
  | condition c =>
      intro hselected
      rw [ownSelection_of_isSelected hselected] at h
      cases h

/-- What the members of a group divert themselves, the selection that the group is diverts. -/
theorem exists_ownDiverted_iff {entry : String × Condition} :
    (∃ member ∈ members, entry ∈ ownDiverted catalog conjunction tags member) ↔
      ∃ selection ∈ ownSelection conjunction members tags, entry ∈ selection.diverted catalog := by
  by_cases hown : conjunction = .or ∧ tags.any isFacetTag = true
  · obtain rfl := hown.1
    simp [ownSelection, hown.2, Selection.diverted]
  · have hnil : ownSelection conjunction members tags = [] := if_neg hown
    constructor
    · rintro ⟨member, -, hentry⟩
      cases member with
      | group inner innerMembers innerTags => cases hentry
      | condition c =>
          have hselected : ¬IsSelected conjunction tags c := not_isSelectedMember hnil (.condition c)
          simp [ownDiverted, hselected] at hentry
    · rintro ⟨selection, hselection, -⟩
      rw [hnil] at hselection
      cases hselection

mutual

/-- The diverted conditions of a tree are those of its selections. -/
theorem mem_diverted_iff {entry : String × Condition} :
    ∀ tree : ConditionTree, entry ∈ tree.diverted catalog ↔
      ∃ selection ∈ tree.selections, entry ∈ selection.diverted catalog
  | .condition c => by simp [ConditionTree.diverted, selections]
  | .group conjunction members tags => by
      rw [ConditionTree.diverted, mem_divertedMembers_iff members, exists_ownDiverted_iff,
        selections]
      simp only [List.mem_append, or_and_right, exists_or]

theorem mem_divertedMembers_iff {conjunction : Conjunction} {tags : List String}
    {entry : String × Condition} :
    ∀ members : List ConditionTree, entry ∈ divertedMembers catalog conjunction tags members ↔
      (∃ member ∈ members, entry ∈ ownDiverted catalog conjunction tags member) ∨
        ∃ selection ∈ selectionsOf members, entry ∈ selection.diverted catalog
  | [] => by simp [divertedMembers, selectionsOf]
  | member :: rest => by
      simp only [divertedMembers, selectionsOf, List.mem_append, List.exists_mem_cons_iff,
        or_and_right, exists_or, mem_diverted_iff member, mem_divertedMembers_iff rest]
      exact or_or_or_comm

end

theorem Selection.IsOn.field_eq {selection : Selection} {field : String} {c : Condition}
    (h : selection.IsOn catalog field) (hc : .condition c ∈ selection.members) : c.field = field := by
  obtain ⟨other, heq, hfield⟩ := h.conditions _ hc
  rw [ConditionTree.condition.inj heq, hfield]

/-- A selection on a flat field diverts all of its conditions, under its key. -/
theorem Selection.IsOn.mem_diverted_iff {selection : Selection} {field key : String} {c : Condition}
    (h : selection.IsOn catalog field) :
    (key, c) ∈ selection.diverted catalog ↔
      .condition c ∈ selection.members ∧ Lowering.facetKey selection.tags field = key := by
  rw [Selection.diverted, List.mem_flatMap]
  constructor
  · rintro ⟨member, hmember, hentry⟩
    obtain ⟨other, rfl, rfl⟩ := h.conditions member hmember
    rw [ownDiverted, if_pos ⟨⟨rfl, h.tagged⟩, h.flat⟩, List.mem_singleton] at hentry
    obtain ⟨rfl, rfl⟩ := Prod.mk.inj hentry
    exact ⟨hmember, rfl⟩
  · rintro ⟨hmember, rfl⟩
    obtain rfl := h.field_eq hmember
    refine ⟨_, hmember, ?_⟩
    rw [ownDiverted, if_pos ⟨⟨rfl, h.tagged⟩, h.flat⟩]
    exact List.mem_singleton_self _

/-- A selection holds where one of its members does, all of which are conditions. -/
theorem Selection.IsOn.someHold_iff {selection : Selection} {field : String}
    (h : selection.IsOn catalog field) :
    SomeHold meaning selection.members ↔ ∃ c, .condition c ∈ selection.members ∧ meaning c := by
  obtain ⟨tags, members⟩ := selection
  have hconditions := h.conditions
  clear h
  induction members with
  | nil => simp [SomeHold]
  | cons member rest ih =>
      obtain ⟨⟨c, rfl, -⟩, hrest⟩ := List.forall_mem_cons.mp hconditions
      simp [SomeHold, ConditionTree.Holds, ih hrest, or_and_right, exists_or]

/-- Of selections with distinct keys, one key tells the selection. -/
theorem IsWellSelected.eq_of_hasKey {tree : ConditionTree} (h : tree.IsWellSelected catalog)
    {first second : Selection} (hfirst : first ∈ tree.selections)
    (hsecond : second ∈ tree.selections) {key : String} (hkey : first.HasKey catalog key)
    (hother : second.HasKey catalog key) : first = second := by
  by_contra hne
  have hsymm : Std.Symm fun first second : Selection =>
      ∀ key, first.HasKey catalog key → ¬second.HasKey catalog key :=
    ⟨fun _ _ hdistinct key hsecond hfirst => hdistinct key hfirst hsecond⟩
  exact h.keys.forall hfirst hsecond hne key hkey hother

/-- Under every key some diverted condition holds exactly where every selection holds. -/
theorem IsWellSelected.diverted_hold_iff {tree : ConditionTree} (h : tree.IsWellSelected catalog) :
    (∀ key ∈ (tree.diverted catalog).map Prod.fst,
        ∃ c, (key, c) ∈ tree.diverted catalog ∧ meaning c) ↔
      ∀ selection ∈ tree.selections, SomeHold meaning selection.members := by
  simp only [List.forall_mem_map, mem_diverted_iff tree]
  constructor
  · intro hdiverted selection hselection
    obtain ⟨field, hon⟩ := h.onField selection hselection
    obtain ⟨member, hmember⟩ := List.exists_mem_of_ne_nil _ hon.nonempty
    obtain ⟨c, rfl, -⟩ := hon.conditions member hmember
    obtain ⟨held, ⟨other, hother, hheld⟩, hholds⟩ := hdiverted
      (Lowering.facetKey selection.tags field, c)
      ⟨selection, hselection, hon.mem_diverted_iff.mpr ⟨hmember, rfl⟩⟩
    obtain ⟨otherField, hotherOn⟩ := h.onField other hother
    obtain ⟨hheldMember, hkey⟩ := hotherOn.mem_diverted_iff.mp hheld
    -- The condition that holds may stand in any selection, but only this one has its key.
    obtain rfl := h.eq_of_hasKey hother hselection ⟨otherField, hotherOn, hkey⟩ ⟨field, hon, rfl⟩
    exact hon.someHold_iff.mpr ⟨held, hheldMember, hholds⟩
  · rintro hselections ⟨key, c⟩ ⟨selection, hselection, hentry⟩
    obtain ⟨field, hon⟩ := h.onField selection hselection
    obtain ⟨-, hkey⟩ := hon.mem_diverted_iff.mp hentry
    obtain ⟨held, hmember, hholds⟩ := hon.someHold_iff.mp (hselections selection hselection)
    exact ⟨held, ⟨selection, hselection, hon.mem_diverted_iff.mpr ⟨hmember, hkey⟩⟩, hholds⟩

mutual

/-- Without selections there is nothing to take out of a tree. -/
theorem unselected_of_no_selections :
    ∀ {tree : ConditionTree}, tree.selections = [] → tree.unselected = tree
  | .condition c, _ => rfl
  | .group conjunction members tags, h => by
      rw [selections, List.append_eq_nil_iff] at h
      rw [unselected, unselectedMembers_of_no_selections h.2 (not_isSelectedMember h.1)]

theorem unselectedMembers_of_no_selections {conjunction : Conjunction} {tags : List String} :
    ∀ {members : List ConditionTree}, selectionsOf members = [] →
      (∀ member, ¬IsSelectedMember conjunction tags member) →
        unselectedMembers conjunction tags members = members
  | [], _, _ => rfl
  | member :: rest, h, hmembers => by
      rw [selectionsOf, List.append_eq_nil_iff] at h
      rw [unselectedMembers, if_neg (hmembers member), unselected_of_no_selections h.1,
        unselectedMembers_of_no_selections h.2 hmembers]

end

/-- Nothing is left of a selection when its conditions are taken out. -/
theorem Selection.IsOn.unselectedMembers_eq_nil {field : String}
    (h : Selection.IsOn catalog ⟨tags, members⟩ field) : unselectedMembers .or tags members = [] := by
  obtain ⟨htag, -, -, hconditions⟩ := h
  replace htag : facetTag field ∈ tags := htag
  induction members with
  | nil => rfl
  | cons member rest ih =>
      obtain ⟨⟨c, rfl, rfl⟩, hrest⟩ := List.forall_mem_cons.mp hconditions
      rw [unselectedMembers, if_pos ⟨rfl, htag⟩, ih hrest]

/-- Conditions are never empty groups. -/
theorem Selection.IsOn.populatedMembers_eq {field : String}
    (h : Selection.IsOn catalog ⟨tags, members⟩ field) : populatedMembers members = members := by
  have hconditions := h.conditions
  clear h
  induction members with
  | nil => rfl
  | cons member rest ih =>
      obtain ⟨⟨c, rfl, -⟩, hrest⟩ := List.forall_mem_cons.mp hconditions
      rw [populatedMembers, ih hrest]
      rfl

theorem remainderHolds_conjunction :
    RemainderHolds meaning (populated? (.group .and members tags)) ↔
      AllHold meaning (populatedMembers members) := by
  unfold populated?
  cases populatedMembers members with
  | nil => simp [RemainderHolds, AllHold]
  | cons member rest => rfl

theorem allHold_populatedMembers_cons {member : ConditionTree} {rest : List ConditionTree} :
    AllHold meaning (populatedMembers (member :: rest)) ↔
      RemainderHolds meaning member.populated? ∧ AllHold meaning (populatedMembers rest) := by
  rw [populatedMembers]
  cases member.populated? with
  | none => simp [RemainderHolds]
  | some tree => simp [RemainderHolds, AllHold]

/-- A selection says on its own what it says in the tree, and leaves nothing else to ask for. -/
theorem Selection.IsOn.holds_iff {field : String}
    (h : Selection.IsOn catalog ⟨tags, members⟩ field) :
    RemainderHolds meaning (populated? (.group .or (unselectedMembers .or tags members) tags)) ∧
        SomeHold meaning members ↔
      RemainderHolds meaning (populated? (.group .or members tags)) := by
  have hmembers := h.nonempty
  rw [h.unselectedMembers_eq_nil, populated?, populated?, h.populatedMembers_eq]
  cases members with
  | nil => exact absurd rfl hmembers
  | cons member rest => simp [populatedMembers, RemainderHolds, ConditionTree.Holds]

mutual

/-- What is left of a tree and all of its selections together say what the tree says: only
conjunctions stand above a selection, so that it can be asked for by itself. -/
theorem remainder_and_selections_hold_iff :
    ∀ {tree : ConditionTree}, tree.SelectsInConjunctions →
      (∀ selection ∈ tree.selections, ∃ field, selection.IsOn catalog field) →
      ((RemainderHolds meaning tree.unselected.populated? ∧
          ∀ selection ∈ tree.selections, SomeHold meaning selection.members) ↔
        RemainderHolds meaning tree.populated?)
  | .condition c, _, _ => by simp [unselected, selections]
  | .group .and members tags, hreached, hfields => by
      have hnone : ownSelection .and members tags = [] := by simp [ownSelection]
      rw [selections, hnone, List.nil_append] at hfields ⊢
      rw [unselected, remainderHolds_conjunction, remainderHolds_conjunction]
      exact members_and_selections_hold_iff tags hreached hfields
  | .group .or members tags, hreached, hfields => by
      have hnone : selectionsOf members = [] := hreached
      rw [selections, hnone, List.append_nil] at hfields ⊢
      -- No selection stands below an alternative: the group is one itself, or there is none.
      by_cases hown : ownSelection .or members tags = []
      · have hselections : (group .or members tags).selections = [] := by
          rw [selections, hown, hnone, List.append_nil]
        rw [unselected_of_no_selections hselections, hown]
        simp
      · have hself : ownSelection .or members tags = [⟨tags, members⟩] := by
          unfold ownSelection at hown ⊢
          split_ifs at hown ⊢ with h
          · rfl
          · exact absurd rfl hown
        rw [hself] at hfields ⊢
        obtain ⟨field, hon⟩ := hfields _ (List.mem_singleton_self _)
        rw [unselected, List.forall_mem_singleton]
        exact hon.holds_iff

theorem members_and_selections_hold_iff (tags : List String) :
    ∀ {members : List ConditionTree}, AllSelectInConjunctions members →
      (∀ selection ∈ selectionsOf members, ∃ field, selection.IsOn catalog field) →
      ((AllHold meaning (populatedMembers (unselectedMembers .and tags members)) ∧
          ∀ selection ∈ selectionsOf members, SomeHold meaning selection.members) ↔
        AllHold meaning (populatedMembers members))
  | [], _, _ => by simp [unselectedMembers, selectionsOf]
  | member :: rest, hreached, hfields => by
      rw [selectionsOf, List.forall_mem_append] at hfields
      have hmember := remainder_and_selections_hold_iff hreached.1 hfields.1
      have hrest := members_and_selections_hold_iff tags hreached.2 hfields.2
      have hkept : ¬IsSelectedMember .and tags member := by
        cases member with
        | condition c => exact fun hselected => nomatch hselected.1
        | group inner innerMembers innerTags => exact id
      rw [unselectedMembers, if_neg hkept, allHold_populatedMembers_cons,
        allHold_populatedMembers_cons, selectionsOf, List.forall_mem_append, ← hmember, ← hrest]
      tauto

end

/-- A condition of a selection on a flat field is not skipped, nor is any other condition. -/
theorem not_isSkippedMember
    (h : ∀ selection ∈ ownSelection conjunction members tags, ∃ field, selection.IsOn catalog field) :
    ∀ member ∈ members, ¬IsSkippedMember catalog conjunction tags member := by
  intro member hmember hskipped
  cases member with
  | group inner innerMembers innerTags => exact hskipped
  | condition c =>
      rw [ownSelection_of_isSelected hskipped.1] at h
      obtain ⟨field, hon⟩ := h _ (List.mem_singleton_self _)
      obtain rfl := hon.field_eq hmember
      exact Bool.false_ne_true (hon.flat.symm.trans hskipped.2)

mutual

/-- Where selections are on flat fields only, nothing is skipped. -/
theorem unskipped_eq_conditions :
    ∀ {tree : ConditionTree},
      (∀ selection ∈ tree.selections, ∃ field, selection.IsOn catalog field) →
        tree.unskipped catalog = tree.conditions
  | .condition c, _ => rfl
  | .group conjunction members tags, h => by
      rw [selections, List.forall_mem_append] at h
      rw [unskipped, conditions, unskippedOf_eq_conditionsOf h.2 (not_isSkippedMember h.1)]

theorem unskippedOf_eq_conditionsOf {conjunction : Conjunction} {tags : List String} :
    ∀ {members : List ConditionTree},
      (∀ selection ∈ selectionsOf members, ∃ field, selection.IsOn catalog field) →
      (∀ member ∈ members, ¬IsSkippedMember catalog conjunction tags member) →
        unskippedOf catalog conjunction tags members = conditionsOf members
  | [], _, _ => rfl
  | member :: rest, h, hkept => by
      rw [selectionsOf, List.forall_mem_append] at h
      obtain ⟨hmember, hrest⟩ := List.forall_mem_cons.mp hkept
      rw [unskippedOf, if_neg hmember, unskipped_eq_conditions h.1,
        unskippedOf_eq_conditionsOf h.2 hrest, conditionsOf]

end

end ConditionTree

end FacetedSearch
