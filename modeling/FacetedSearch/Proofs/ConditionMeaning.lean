import FacetedSearch.Lowering.Conditions
import FacetedSearch.Proofs.ClauseMeaning

/-!
What condition trees mean. A group holds when all of its members do, or one of them; what a single
condition means is left open. A condition is selected when it stands directly in an alternative
group that is tagged as the selection of its field. Selected conditions are no part of the tree that
filters: on flat fields they are diverted to post filters, on nested fields they are skipped.
-/

namespace FacetedSearch

namespace ConditionTree

/-- A condition of a group that is tagged as the selection of its field. -/
def IsSelected (conjunction : Conjunction) (tags : List String) (condition : Condition) : Prop :=
  conjunction = .or ∧ facetTag condition.field ∈ tags

instance (conjunction : Conjunction) (tags : List String) (condition : Condition) :
    Decidable (IsSelected conjunction tags condition) :=
  inferInstanceAs (Decidable (_ ∧ _))

/-- A member of a group that is a selected condition. -/
def IsSelectedMember (conjunction : Conjunction) (tags : List String) : ConditionTree → Prop
  | .condition c => IsSelected conjunction tags c
  | .group .. => False

instance (conjunction : Conjunction) (tags : List String) (member : ConditionTree) :
    Decidable (IsSelectedMember conjunction tags member) :=
  match member with
  | .condition c => inferInstanceAs (Decidable (IsSelected conjunction tags c))
  | .group .. => inferInstanceAs (Decidable False)

mutual

/-- The tree without its selected conditions. -/
def unselected : ConditionTree → ConditionTree
  | .condition c => .condition c
  | .group conjunction members tags =>
    .group conjunction (unselectedMembers conjunction tags members) tags

def unselectedMembers (conjunction : Conjunction) (tags : List String) :
    List ConditionTree → List ConditionTree
  | [] => []
  | member :: rest =>
    if IsSelectedMember conjunction tags member then unselectedMembers conjunction tags rest
    else member.unselected :: unselectedMembers conjunction tags rest

end

mutual

/-- The tree without groups that have no members, or none but such groups. -/
def populated? : ConditionTree → Option ConditionTree
  | .condition c => some (.condition c)
  | .group conjunction members tags =>
    match populatedMembers members with
    | [] => none
    | member :: rest => some (.group conjunction (member :: rest) tags)

def populatedMembers : List ConditionTree → List ConditionTree
  | [] => []
  | member :: rest => member.populated?.toList ++ populatedMembers rest

end

mutual

def Holds (meaning : Condition → Prop) : ConditionTree → Prop
  | .condition c => meaning c
  | .group .and members _ => AllHold meaning members
  | .group .or members _ => SomeHold meaning members

def AllHold (meaning : Condition → Prop) : List ConditionTree → Prop
  | [] => True
  | member :: rest => member.Holds meaning ∧ AllHold meaning rest

def SomeHold (meaning : Condition → Prop) : List ConditionTree → Prop
  | [] => False
  | member :: rest => member.Holds meaning ∨ SomeHold meaning rest

end

/-- What is left of a tree filters; nothing left asks for nothing. -/
def RemainderHolds (meaning : Condition → Prop) : Option ConditionTree → Prop
  | none => True
  | some tree => tree.Holds meaning

/-- The selected condition that a member is on a flat field, under the key of its facet. -/
def ownDiverted (catalog : FieldCatalog) (conjunction : Conjunction) (tags : List String) :
    ConditionTree → List (String × Condition)
  | .condition c =>
    if IsSelected conjunction tags c ∧ catalog.isNestedField c.field = false then
      [(Lowering.facetKey tags c.field, c)]
    else []
  | .group .. => []

mutual

/-- The selected conditions on flat fields, depth first, under the keys of their facets. -/
def diverted (catalog : FieldCatalog) : ConditionTree → List (String × Condition)
  | .condition _ => []
  | .group conjunction members tags => divertedMembers catalog conjunction tags members

def divertedMembers (catalog : FieldCatalog) (conjunction : Conjunction) (tags : List String) :
    List ConditionTree → List (String × Condition)
  | [] => []
  | member :: rest =>
    ownDiverted catalog conjunction tags member ++ member.diverted catalog ++
      divertedMembers catalog conjunction tags rest

end

mutual

def conditions : ConditionTree → List Condition
  | .condition c => [c]
  | .group _ members _ => conditionsOf members

def conditionsOf : List ConditionTree → List Condition
  | [] => []
  | member :: rest => member.conditions ++ conditionsOf rest

end

theorem populatedMembers_append (members others : List ConditionTree) :
    populatedMembers (members ++ others) = populatedMembers members ++ populatedMembers others := by
  induction members with
  | nil => rfl
  | cons member rest ih => simp only [List.cons_append, populatedMembers, ih, List.append_assoc]

theorem unselectedMembers_cons (conjunction : Conjunction) (tags : List String)
    (member : ConditionTree) (rest : List ConditionTree) :
    unselectedMembers conjunction tags (member :: rest) =
      unselectedMembers conjunction tags [member] ++ unselectedMembers conjunction tags rest := by
  simp only [unselectedMembers]
  split
  · rfl
  · rfl

theorem divertedMembers_cons (catalog : FieldCatalog) (conjunction : Conjunction)
    (tags : List String) (member : ConditionTree) (rest : List ConditionTree) :
    divertedMembers catalog conjunction tags (member :: rest) =
      divertedMembers catalog conjunction tags [member] ++
        divertedMembers catalog conjunction tags rest := by
  simp only [divertedMembers, List.append_nil]

end ConditionTree

end FacetedSearch
