import FacetedSearch.Lowering.Query
import FacetedSearch.Proofs.ClauseMeaning
import FacetedSearch.Proofs.FieldPaths
import FacetedSearch.Proofs.KeyCoverage

/-!
The field names in a compiled query. A name is written for a use, and each use writes the name of an
id in its own way, after its dotted path. What is asked of all names is asked of the clauses and the
aggregations down to the leaves, and of the sorts, the suggester and the excluded fields.
-/

namespace FacetedSearch

/-- What a field name is written for. -/
inductive NameUse where
  /-- The field that a clause tests. -/
  | filtered
  /-- The path of nested objects. -/
  | nested
  /-- A field that keys are sought in, with its boost. -/
  | searched
  /-- A field in which documents are similar. -/
  | similar
  /-- The field that the user's input is completed from. -/
  | typed
  | suggested
  /-- The field whose values an aggregation counts or measures. -/
  | counted
  /-- The part of a document that a bucket shows. -/
  | shown
  | sorted
  /-- The part of a document that results leave out. -/
  | hidden
deriving DecidableEq, Repr

namespace NameUse

open FieldPath (IsResolved dotted root)

/-- How the name of an id is written for a use: as its path, as the root of the path, or as the path
and a part of the field. -/
def Writes (use : NameUse) (id name : String) : Prop :=
  match use with
  | .filtered | .similar | .counted | .hidden => name = dotted id
  | .nested | .shown => name = dotted id ∨ name = root id
  | .searched => ∃ boost, name = dotted id ++ "^" ++ NumberFormat.brief.write boost
  | .typed => name = dotted id ++ ".autocomplete"
  | .suggested =>
    name = dotted id ++ ".suggestion_trigram" ∨ name = dotted id ++ ".suggestion_reverse"
  | .sorted => name = dotted id ∨ name = dotted id ++ ".keyword"

theorem isResolved_boosted (id : String) (boost : Binary64) :
    IsResolved (dotted id ++ "^" ++ NumberFormat.brief.write boost) := by
  have hboost := NumberFormat.underscore_not_mem_write_brief boost
  have hmark : IsResolved (dotted id ++ "^") :=
    (FieldPath.isResolved_dotted id).append (by decide) (by decide)
  refine hmark.append (FieldPath.isResolved_of_not_mem hboost) ?_
  intro hhead
  exact hboost (List.mem_of_mem_head? hhead)

/-- The parts of fields that have names of their own. -/
theorem isResolved_part (id : String) {part : String}
    (h : part ∈ [".keyword", ".autocomplete", ".suggestion_trigram", ".suggestion_reverse"]) :
    IsResolved (dotted id ++ part) := by
  have hparts : ∀ part ∈ [".keyword", ".autocomplete", ".suggestion_trigram",
      ".suggestion_reverse"], part.toList.IsChain FieldPath.Apart ∧
        part.toList.head? ≠ some '_' := by
    simp [FieldPath.Apart]
  obtain ⟨hchain, hhead⟩ := hparts part h
  exact (FieldPath.isResolved_dotted id).append (FieldPath.isResolved_iff.mpr hchain) hhead

/-- No name of an id has a separator left, whatever it is written for. -/
theorem isResolved_of_writes {use : NameUse} {id name : String} (h : use.Writes id name) :
    IsResolved name := by
  have hpath := FieldPath.isResolved_dotted id
  cases use with
  | filtered | similar | counted | hidden =>
      obtain rfl : name = _ := h
      exact hpath
  | nested | shown =>
      rcases h with rfl | rfl
      · exact hpath
      · exact FieldPath.isResolved_root id
  | searched =>
      obtain ⟨boost, rfl⟩ := h
      exact isResolved_boosted id boost
  | typed =>
      obtain rfl : name = _ := h
      exact isResolved_part id (by simp)
  | suggested =>
      rcases h with rfl | rfl
      · exact isResolved_part id (by simp)
      · exact isResolved_part id (by simp)
  | sorted =>
      rcases h with rfl | rfl
      · exact hpath
      · exact isResolved_part id (by simp)

end NameUse

variable {p : NameUse → String → Prop}

namespace Clause

mutual

/-- All field names in a clause are as asked. Of a caller's own clause that is not known. -/
def NamesOnly (p : NameUse → String → Prop) : Clause → Prop
  | .term field _ | .terms field _ | .range field _ | .present field => p .filtered field
  | .nested path query => p .nested path ∧ query.NamesOnly p
  | .matchAll => True
  | .simpleQueryString _ fields _ => ∀ field ∈ fields, p .searched field
  | .multiMatch query => ∀ field ∈ query.fields, p .searched field
  | .matchText field _ => p .typed field
  | .moreLikeThis fields _ _ => ∀ field ∈ fields, p .similar field
  | .bool must should filter mustNot =>
    AllNameOnly p must ∧ AllNameOnly p should ∧ AllNameOnly p filter ∧ AllNameOnly p mustNot
  | .given _ => False

def AllNameOnly (p : NameUse → String → Prop) : List Clause → Prop
  | [] => True
  | clause :: rest => clause.NamesOnly p ∧ AllNameOnly p rest

end

theorem allNameOnly_iff {clauses : List Clause} :
    AllNameOnly p clauses ↔ ∀ clause ∈ clauses, clause.NamesOnly p := by
  induction clauses with
  | nil => simp [AllNameOnly]
  | cons clause rest ih => simp [AllNameOnly, ih]

@[simp] theorem namesOnly_negate {clause : Clause} : clause.negate.NamesOnly p ↔ clause.NamesOnly p := by
  simp [negate, NamesOnly, AllNameOnly]

@[simp] theorem namesOnly_allOf {clauses : List Clause} :
    (allOf clauses).NamesOnly p ↔ ∀ clause ∈ clauses, clause.NamesOnly p := by
  simp [allOf, NamesOnly, AllNameOnly, allNameOnly_iff]

@[simp] theorem namesOnly_anyOf {clauses : List Clause} :
    (anyOf clauses).NamesOnly p ↔ ∀ clause ∈ clauses, clause.NamesOnly p := by
  unfold anyOf
  split
  · simp
  · simp [NamesOnly, AllNameOnly, allNameOnly_iff]

mutual

/-- The names in a clause are those in its leaves. -/
theorem namesOnly_iff_leaves :
    ∀ clause : Clause, clause.NamesOnly p ↔ ∀ leaf ∈ clause.leaves, leaf.NamesOnly p
  | .bool must should filter mustNot => by
      simp only [NamesOnly, leaves, List.forall_mem_append, allNameOnly_iff_leaves must,
        allNameOnly_iff_leaves should, allNameOnly_iff_leaves filter,
        allNameOnly_iff_leaves mustNot, and_assoc]
  | .term .. | .terms .. | .range .. | .present .. | .nested .. | .matchAll
  | .simpleQueryString .. | .multiMatch .. | .matchText .. | .moreLikeThis .. | .given .. => by
      simp [leaves]

theorem allNameOnly_iff_leaves :
    ∀ clauses : List Clause,
      AllNameOnly p clauses ↔ ∀ leaf ∈ leavesOfAll clauses, leaf.NamesOnly p
  | [] => by simp [AllNameOnly, leavesOfAll]
  | clause :: rest => by
      rw [AllNameOnly, leavesOfAll, List.forall_mem_append, namesOnly_iff_leaves clause,
        allNameOnly_iff_leaves rest]

end

end Clause

namespace BoolQuery

variable {query other : BoolQuery} {clauses : List Clause}

/-- All field names in the clauses of a query are as asked. -/
def NamesOnly (p : NameUse → String → Prop) (query : BoolQuery) : Prop := query.toClause.NamesOnly p

theorem namesOnly_iff : query.NamesOnly p ↔ ∀ clause ∈ query.clauses, clause.NamesOnly p := by
  simp only [NamesOnly, toClause, Clause.NamesOnly, Clause.allNameOnly_iff, BoolQuery.clauses,
    List.forall_mem_append, and_assoc]

@[simp] theorem namesOnly_empty : ({} : BoolQuery).NamesOnly p := by
  simp [namesOnly_iff, BoolQuery.clauses]

theorem NamesOnly.addMust (hquery : query.NamesOnly p)
    (hclauses : ∀ clause ∈ clauses, clause.NamesOnly p) : (query.addMust clauses).NamesOnly p := by
  rw [namesOnly_iff] at hquery ⊢
  simp only [BoolQuery.clauses, BoolQuery.addMust, List.forall_mem_append] at hquery ⊢
  obtain ⟨⟨⟨hmust, hshould⟩, hfilter⟩, hmustNot⟩ := hquery
  exact ⟨⟨⟨⟨hmust, hclauses⟩, hshould⟩, hfilter⟩, hmustNot⟩

theorem NamesOnly.addFilter (hquery : query.NamesOnly p)
    (hclauses : ∀ clause ∈ clauses, clause.NamesOnly p) :
    (query.addFilter clauses).NamesOnly p := by
  rw [namesOnly_iff] at hquery ⊢
  simp only [BoolQuery.clauses, BoolQuery.addFilter, List.forall_mem_append] at hquery ⊢
  obtain ⟨⟨⟨hmust, hshould⟩, hfilter⟩, hmustNot⟩ := hquery
  exact ⟨⟨⟨hmust, hshould⟩, hfilter, hclauses⟩, hmustNot⟩

theorem NamesOnly.merge (hquery : query.NamesOnly p) (hother : other.NamesOnly p) :
    (query.merge other).NamesOnly p := by
  rw [namesOnly_iff] at hquery hother ⊢
  simp only [BoolQuery.clauses, BoolQuery.merge, List.forall_mem_append] at hquery hother ⊢
  obtain ⟨⟨⟨hmust, hshould⟩, hfilter⟩, hmustNot⟩ := hquery
  obtain ⟨⟨⟨hmust', hshould'⟩, hfilter'⟩, hmustNot'⟩ := hother
  exact ⟨⟨⟨⟨hmust, hmust'⟩, hshould, hshould'⟩, hfilter, hfilter'⟩, hmustNot, hmustNot'⟩

end BoolQuery

namespace Aggregation

mutual

/-- All field names in an aggregation are as asked. -/
def NamesOnly (p : NameUse → String → Prop) : Aggregation → Prop
  | .filter clause aggs => clause.NamesOnly p ∧ AllNameOnly p aggs
  | .nested path aggs => p .nested path ∧ AllNameOnly p aggs
  | .terms field _ _ _ aggs => p .counted field ∧ AllNameOnly p aggs
  | .topHit source => p .shown source
  | .minimum field | .maximum field => p .counted field
  | .dateHistogram field _ | .histogram field _ _ | .completions field _ _ => p .counted field

def AllNameOnly (p : NameUse → String → Prop) : List (String × Aggregation) → Prop
  | [] => True
  | (_, agg) :: rest => agg.NamesOnly p ∧ AllNameOnly p rest

end

theorem allNameOnly_iff {aggs : List (String × Aggregation)} :
    AllNameOnly p aggs ↔ ∀ entry ∈ aggs, entry.2.NamesOnly p := by
  induction aggs with
  | nil => simp [AllNameOnly]
  | cons entry rest ih => simp [AllNameOnly, ih]

end Aggregation

namespace Lowering

/-- Both field names of a suggester are as asked. -/
def PhraseSuggester.NamesOnly (p : NameUse → String → Prop) (suggester : PhraseSuggester) : Prop :=
  p .suggested (suggester.field ++ ".suggestion_trigram") ∧
    p .suggested (suggester.field ++ ".suggestion_reverse")

/-- All field names in a compiled query are as asked. -/
structure CompiledQuery.NamesOnly (p : NameUse → String → Prop) (compiled : CompiledQuery) :
    Prop where
  root : compiled.root.NamesOnly p
  postFilters : ∀ entry ∈ compiled.postFilters, entry.2.NamesOnly p
  sorts : ∀ sort ∈ compiled.sorts, ∀ name ∈ sort.1.text?, p .sorted name
  chance : compiled.seed.isSome = true → p .sorted sequenceField
  excludes : ∀ name ∈ compiled.excludes, p .hidden name
  aggregations : Aggregation.AllNameOnly p compiled.aggregations
  suggester : ∀ suggester ∈ compiled.suggester, suggester.NamesOnly p

end Lowering

end FacetedSearch
