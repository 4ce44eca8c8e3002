import FacetedSearch.Lowering.Keys

/-!
What full-text keys mean. What the plain terms of a group mean together is left open. A group says
all of what its terms and its groups say, or one of it, and a negated group says the contrary. A
group without terms below it says nothing, and keys without terms ask for nothing.
-/

namespace FacetedSearch

namespace KeyTerm

mutual

/-- A group with a term, in itself or in groups below it. -/
def isPopulatedGroup : KeyTerm → Bool
  | .term _ => false
  | .group _ terms _ => terms.any (·.text?.isSome) || anyPopulatedGroup terms

def anyPopulatedGroup : List KeyTerm → Bool
  | [] => false
  | t :: rest => t.isPopulatedGroup || anyPopulatedGroup rest

end

mutual

/-- No group, at any depth, has both terms and groups. -/
def isUnmixed : KeyTerm → Bool
  | .term _ => true
  | .group _ terms _ =>
    (terms.all (·.text?.isSome) || terms.all (·.text?.isNone)) && areUnmixed terms

def areUnmixed : List KeyTerm → Bool
  | [] => true
  | t :: rest => t.isUnmixed && areUnmixed rest

end

/-- A statement, or its contrary. -/
def Signed (negation : Bool) (statement : Prop) : Prop :=
  match negation with
  | false => statement
  | true => ¬statement

mutual

/-- What a group says, under a meaning of the plain terms of a group. -/
def Holds (meaning : Conjunction → List String → Prop) : KeyTerm → Prop
  | .term _ => True
  | .group .and terms negation =>
    let texts := Lowering.flatTerms terms
    Signed negation ((texts ≠ [] → meaning .and texts) ∧ AllHold meaning terms)
  | .group .or terms negation =>
    let texts := Lowering.flatTerms terms
    Signed negation ((texts ≠ [] ∧ meaning .or texts) ∨ SomeHold meaning terms)

/-- All populated groups among the members of a group hold. -/
def AllHold (meaning : Conjunction → List String → Prop) : List KeyTerm → Prop
  | [] => True
  | t :: rest => (t.isPopulatedGroup = true → t.Holds meaning) ∧ AllHold meaning rest

/-- One of the populated groups among the members of a group holds. -/
def SomeHold (meaning : Conjunction → List String → Prop) : List KeyTerm → Prop
  | [] => False
  | t :: rest => (t.isPopulatedGroup = true ∧ t.Holds meaning) ∨ SomeHold meaning rest

end

variable {meaning : Conjunction → List String → Prop} {conjunction : Conjunction}
  {terms : List KeyTerm} {negation : Bool}

/-- A group of groups says all of what they say, or one of it. -/
theorem holds_group_of_no_terms (h : Lowering.flatTerms terms = []) :
    (group conjunction terms negation).Holds meaning ↔
      Signed negation
        (match conjunction with
          | .and => AllHold meaning terms
          | .or => SomeHold meaning terms) := by
  cases conjunction with
  | and => simp [Holds, h]
  | or => simp [Holds, h]

/-- A group in which no group says anything says what its terms mean. -/
theorem holds_group_of_terms (h : Lowering.flatTerms terms ≠ []) (hall : AllHold meaning terms)
    (hsome : ¬SomeHold meaning terms) :
    (group conjunction terms negation).Holds meaning ↔
      Signed negation (meaning conjunction (Lowering.flatTerms terms)) := by
  cases conjunction with
  | and => simp [Holds, h, hall]
  | or => simp [Holds, h, hsome]

end KeyTerm

/-- Keys ask for what their group says, if there is a term in it. -/
def FullTextKeys.Holds (meaning : Conjunction → List String → Prop) (keys : FullTextKeys) : Prop :=
  (KeyTerm.ofKeys keys).isPopulatedGroup = true → (KeyTerm.ofKeys keys).Holds meaning

end FacetedSearch
