import FacetedSearch.Proofs.Compile
import FacetedSearch.Proofs.ConditionLowering

/-!
Queries without the selection of one facet: the conditions that are diverted to it are taken out of
the tree, and its own selected values are forgotten. Lowered, such a query differs only in the post
filters, which are those of the query but for the one of the facet.
-/

namespace FacetedSearch

namespace ConditionTree

/-- A member of a group that is diverted to the post filter of a key. -/
def isDivertedTo (catalog : FieldCatalog) (key : String) (conjunction : Conjunction)
    (tags : List String) (member : ConditionTree) : Bool :=
  (ownDiverted catalog conjunction tags member).any (·.1 == key)

mutual

/-- The tree without the conditions that are diverted to a key. -/
def deselect (catalog : FieldCatalog) (key : String) : ConditionTree → ConditionTree
  | .condition c => .condition c
  | .group conjunction members tags =>
    .group conjunction (deselectMembers catalog key conjunction tags members) tags

def deselectMembers (catalog : FieldCatalog) (key : String) (conjunction : Conjunction)
    (tags : List String) : List ConditionTree → List ConditionTree
  | [] => []
  | member :: rest =>
    if isDivertedTo catalog key conjunction tags member then
      deselectMembers catalog key conjunction tags rest
    else member.deselect catalog key :: deselectMembers catalog key conjunction tags rest

end

theorem ownDiverted_deselect (catalog : FieldCatalog) (key : String) (conjunction : Conjunction)
    (tags : List String) (member : ConditionTree) :
    ownDiverted catalog conjunction tags (member.deselect catalog key) =
      ownDiverted catalog conjunction tags member := by
  cases member with
  | condition c => rfl
  | group inner members innerTags => rfl

theorem filter_ownDiverted (catalog : FieldCatalog) (key : String) (conjunction : Conjunction)
    (tags : List String) (member : ConditionTree) :
    (ownDiverted catalog conjunction tags member).filter (·.1 != key) =
      if isDivertedTo catalog key conjunction tags member then []
      else ownDiverted catalog conjunction tags member := by
  unfold isDivertedTo ownDiverted
  cases member with
  | group inner members innerTags => rfl
  | condition c =>
      by_cases hown : IsSelected conjunction tags c ∧ catalog.isNestedField c.field = false
      · by_cases hkey : Lowering.facetKey tags c.field = key
        · simp [hown, hkey]
        · simp [hown, hkey]
      · simp [hown]

theorem diverted_of_isDivertedTo {catalog : FieldCatalog} {key : String} {conjunction : Conjunction}
    {tags : List String} {member : ConditionTree}
    (h : isDivertedTo catalog key conjunction tags member = true) :
    member.diverted catalog = [] := by
  cases member with
  | condition c => rfl
  | group inner members innerTags => cases h

mutual

/-- Nothing that is diverted to the key is left, and everything else is. -/
theorem diverted_deselect (catalog : FieldCatalog) (key : String) :
    ∀ tree : ConditionTree,
      (tree.deselect catalog key).diverted catalog =
        (tree.diverted catalog).filter (·.1 != key)
  | .condition _ => rfl
  | .group conjunction members tags => diverted_deselectMembers catalog key conjunction tags members

theorem diverted_deselectMembers (catalog : FieldCatalog) (key : String) (conjunction : Conjunction)
    (tags : List String) :
    ∀ members : List ConditionTree,
      divertedMembers catalog conjunction tags
          (deselectMembers catalog key conjunction tags members) =
        (divertedMembers catalog conjunction tags members).filter (·.1 != key)
  | [] => rfl
  | member :: rest => by
      rw [deselectMembers, divertedMembers, List.filter_append, List.filter_append,
        filter_ownDiverted, ← diverted_deselect catalog key member,
        ← diverted_deselectMembers catalog key conjunction tags rest]
      split_ifs with h
      · rw [diverted_deselect, diverted_of_isDivertedTo h]
        rfl
      · rw [divertedMembers, ownDiverted_deselect]

end

end ConditionTree

namespace Lowering

open ConditionTree

variable {catalog : FieldCatalog} {key : String}

/-- A contribution without what it diverts to a key. -/
def Contribution.without (key : String) (contribution : Contribution) : Contribution :=
  { contribution with diverted := contribution.diverted.filter (·.1 != key) }

theorem Contribution.without_append (first second : Contribution) :
    (first.append second).without key = (first.without key).append (second.without key) := by
  simp [Contribution.without, Contribution.append]

theorem groupContribution_without (conjunction : Conjunction) (members : Contribution) :
    groupContribution conjunction (members.without key) =
      (groupContribution conjunction members).without key := by
  unfold groupContribution
  cases hempty : members.clauses.isEmpty with
  | true => simp [Contribution.without, hempty]
  | false => simp [Contribution.without, hempty]

/-- Conditions that are not diverted to a key contribute nothing under it, the others nothing
else. -/
theorem lowerCondition_without (key : String) {conjunction : Conjunction} {tags : List String}
    {c : Condition} {contribution : Contribution}
    (h : lowerCondition catalog conjunction tags c = .ok contribution) :
    contribution.without key =
      if isDivertedTo catalog key conjunction tags (.condition c) then {} else contribution := by
  rcases lowerCondition_cases h with
    ⟨hselected, hnested, rfl⟩ | ⟨hselected, hnested, clause, -, rfl⟩ | ⟨hselected, clause, -, rfl⟩
  · simp [Contribution.without]
  · by_cases hkey : facetKey tags c.field = key
    · simp [Contribution.without, isDivertedTo, ownDiverted, hselected, hnested, hkey]
    · simp [Contribution.without, isDivertedTo, ownDiverted, hselected, hnested, hkey]
  · simp [Contribution.without, isDivertedTo, ownDiverted, hselected]

mutual

theorem lowerMember_deselect {conjunction : Conjunction} {tags : List String} :
    ∀ {member : ConditionTree} {contribution : Contribution},
      lowerMember catalog conjunction tags member = .ok contribution →
        if isDivertedTo catalog key conjunction tags member then contribution.without key = {}
        else lowerMember catalog conjunction tags (member.deselect catalog key) =
          .ok (contribution.without key)
  | .condition c, contribution, h => by
      have hwithout := lowerCondition_without key h
      split_ifs with hdiverted
      · rw [hwithout, if_pos hdiverted]
      · rw [hwithout, if_neg hdiverted]
        exact h
  | .group inner members innerTags, _, h => by
      obtain ⟨contribution, hmembers, h⟩ := Outcome.bind_eq_ok.mp h
      obtain rfl := Outcome.pure_eq_ok.mp h
      have hdeselect := lowerMembers_deselect hmembers
      rw [if_neg (by simp [isDivertedTo, ownDiverted]), deselect, lowerMember, hdeselect,
        Outcome.bind_ok, groupContribution_without]
      rfl

/-- Without the conditions that are diverted to a key, the other members contribute the same. -/
theorem lowerMembers_deselect {conjunction : Conjunction} {tags : List String} :
    ∀ {members : List ConditionTree} {contribution : Contribution},
      lowerMembers catalog conjunction tags members = .ok contribution →
        lowerMembers catalog conjunction tags
          (deselectMembers catalog key conjunction tags members) = .ok (contribution.without key)
  | [], _, h => by
      cases h
      rfl
  | member :: rest, _, h => by
      obtain ⟨first, hfirst, h⟩ := Outcome.bind_eq_ok.mp h
      obtain ⟨others, hothers, h⟩ := Outcome.bind_eq_ok.mp h
      obtain rfl := Outcome.pure_eq_ok.mp h
      have hmember := lowerMember_deselect hfirst
      have hrest := lowerMembers_deselect hothers
      rw [Contribution.without_append, deselectMembers]
      split_ifs at hmember ⊢ with hdiverted
      · rw [hrest, hmember]
        rfl
      · rw [lowerMembers, hmember, hrest]
        rfl

end

/-- The group without the conditions that are diverted to a key. -/
def deselectGroup (catalog : FieldCatalog) (key : String) (group : ConditionGroup) :
    ConditionGroup :=
  { group with
    members := deselectMembers catalog key group.conjunction group.tags group.members }

/-- The filter stays, and of the post filters only the one of the key goes. -/
theorem lowerConditions_deselect {group : ConditionGroup} {parts : FilterParts}
    (h : lowerConditions catalog group = .ok parts) :
    lowerConditions catalog (deselectGroup catalog key group) =
      .ok { parts with postFilters := parts.postFilters.erase key } := by
  obtain ⟨members, hmembers, h⟩ := Outcome.bind_eq_ok.mp h
  obtain rfl := Outcome.pure_eq_ok.mp h
  rw [lowerConditions, deselectGroup, lowerMembers_deselect hmembers, Outcome.bind_ok,
    Entries.erase_mapValues, erase_collect]
  rfl

end Lowering

end FacetedSearch
