import FacetedSearch.Clause.Basic
import Mathlib.Tactic.Tauto

/-!
What clauses mean. A truth assignment says which clauses other than bool clauses hold of a document.
A bool clause holds when all that must match and all filters hold, nothing that must not match
holds and, where it has alternatives, one of them does. Queries merged list by list ask for what
both require, but for one alternative of either.
-/

namespace FacetedSearch

/-- Which clauses hold of a document; of bool clauses nothing is read. -/
abbrev Truth := Clause → Prop

namespace Clause

mutual

def Holds (truth : Truth) : Clause → Prop
  | .bool must should filter mustNot =>
    AllHold truth must ∧ AllHold truth filter ∧ ¬SomeHold truth mustNot ∧
      (should = [] ∨ SomeHold truth should)
  | clause => truth clause

def AllHold (truth : Truth) : List Clause → Prop
  | [] => True
  | clause :: rest => clause.Holds truth ∧ AllHold truth rest

def SomeHold (truth : Truth) : List Clause → Prop
  | [] => False
  | clause :: rest => clause.Holds truth ∨ SomeHold truth rest

end

variable {truth : Truth}

theorem allHold_iff {clauses : List Clause} :
    AllHold truth clauses ↔ ∀ clause ∈ clauses, clause.Holds truth := by
  induction clauses with
  | nil => simp [AllHold]
  | cons clause rest ih => simp [AllHold, ih]

theorem someHold_iff {clauses : List Clause} :
    SomeHold truth clauses ↔ ∃ clause ∈ clauses, clause.Holds truth := by
  induction clauses with
  | nil => simp [SomeHold]
  | cons clause rest ih => simp [SomeHold, ih]

theorem renderAll_eq_map (clauses : List Clause) : renderAll clauses = clauses.map render := by
  induction clauses with
  | nil => rfl
  | cons clause rest ih => rw [renderAll, ih, List.map_cons]

/-- A bool clause as sent asks for a minimum of one alternative exactly where it has some. -/
theorem minimumShouldMatch_render (must should filter mustNot : List Clause) :
    (bool must should filter mustNot).render.path ["bool", "minimum_should_match"] =
      if should = [] then .null else .int 1 := by
  simp only [render, ClauseShape.bool, renderAll_eq_map]
  cases must <;> cases should <;> cases filter <;> cases mustNot <;> rfl

end Clause

namespace BoolQuery

variable {truth : Truth} {query other : BoolQuery}

def Holds (truth : Truth) (query : BoolQuery) : Prop := query.toClause.Holds truth

/-- What a query asks for in any case. -/
def RequirementsHold (truth : Truth) (query : BoolQuery) : Prop :=
  (∀ clause ∈ query.must, clause.Holds truth) ∧ (∀ clause ∈ query.filter, clause.Holds truth) ∧
    ∀ clause ∈ query.mustNot, ¬clause.Holds truth

/-- What a query asks for of its alternatives, if it has any. -/
def AlternativesHold (truth : Truth) (query : BoolQuery) : Prop :=
  query.should = [] ∨ ∃ clause ∈ query.should, clause.Holds truth

theorem holds_iff :
    query.Holds truth ↔ query.RequirementsHold truth ∧ query.AlternativesHold truth := by
  simp only [Holds, toClause, Clause.Holds, Clause.allHold_iff, Clause.someHold_iff,
    RequirementsHold, AlternativesHold, not_exists, not_and, and_assoc]

theorem requirementsHold_merge :
    (query.merge other).RequirementsHold truth ↔
      query.RequirementsHold truth ∧ other.RequirementsHold truth := by
  simp only [RequirementsHold, merge, List.forall_mem_append]
  tauto

/-- The alternatives of merged queries are one list: where both have some, one of either is
enough. -/
theorem alternativesHold_merge :
    (query.merge other).AlternativesHold truth ↔
      if query.should = [] ∨ other.should = [] then
        query.AlternativesHold truth ∧ other.AlternativesHold truth
      else query.AlternativesHold truth ∨ other.AlternativesHold truth := by
  simp only [AlternativesHold, merge, List.append_eq_nil_iff, List.mem_append, or_and_right,
    exists_or]
  by_cases hquery : query.should = []
  · simp [hquery]
  · by_cases hother : other.should = []
    · simp [hquery, hother]
    · simp [hquery, hother]

theorem holds_addMust {clauses : List Clause} :
    (query.addMust clauses).Holds truth ↔
      query.Holds truth ∧ ∀ clause ∈ clauses, clause.Holds truth := by
  simp only [holds_iff, RequirementsHold, AlternativesHold, addMust, List.forall_mem_append]
  tauto

theorem holds_addFilter {clauses : List Clause} :
    (query.addFilter clauses).Holds truth ↔
      query.Holds truth ∧ ∀ clause ∈ clauses, clause.Holds truth := by
  simp only [holds_iff, RequirementsHold, AlternativesHold, addFilter, List.forall_mem_append]
  tauto

end BoolQuery

namespace Clause

variable {truth : Truth}

theorem holds_negate {clause : Clause} : clause.negate.Holds truth ↔ ¬clause.Holds truth := by
  simp [negate, Holds, AllHold, SomeHold]

theorem holds_allOf {clauses : List Clause} :
    (allOf clauses).Holds truth ↔ ∀ clause ∈ clauses, clause.Holds truth := by
  simp [allOf, Holds, AllHold, SomeHold, allHold_iff]

/-- One of several clauses holds; without clauses nothing would be asked for. -/
theorem holds_anyOf {clauses : List Clause} (hclauses : clauses ≠ []) :
    (anyOf clauses).Holds truth ↔ ∃ clause ∈ clauses, clause.Holds truth := by
  match clauses with
  | [] => exact absurd rfl hclauses
  | [clause] => simp [anyOf]
  | first :: second :: rest => simp [anyOf, Holds, AllHold, SomeHold, someHold_iff]

end Clause

end FacetedSearch
