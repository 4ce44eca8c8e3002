import FacetedSearch.Proofs.ClauseMeaning

/-!
Which documents clauses match. A document has values in its fields and, under the paths of nested
objects, documents of their own. A clause on a field matches where one of its values is as asked
for, and a nested clause where one object under its path matches. How a backend compares values is
left open. Every document is a truth assignment of the clauses that match it, so that what holds
under all of these holds of all documents.
-/

namespace FacetedSearch

/-- A document as it is indexed: values by field, and objects by nested path. -/
inductive Document where
  | indexed (values : List (String × List Value)) (objects : List (String × List Document))

namespace Document

def valuesAt (field : String) : Document → List Value
  | indexed values _ => (Entries.find? values field).getD []

def objectsAt (path : String) : Document → List Document
  | indexed _ objects => (Entries.find? objects path).getD []

end Document

/-- How a backend compares a value with a sought one and with the bounds of a range, and which
documents it finds for clauses of other kinds. -/
structure Backend where
  equals : Value → Value → Prop
  isWithin : Value → Entries Value → Prop
  finds : Clause → Document → Prop

namespace Clause

mutual

def Matches (backend : Backend) : Clause → Document → Prop
  | .term field sought, document => ∃ value ∈ document.valuesAt field, backend.equals value sought
  | .terms field listed, document =>
    ∃ value ∈ document.valuesAt field, ∃ sought ∈ listed, backend.equals value sought
  | .range field bounds, document =>
    ∃ value ∈ document.valuesAt field, backend.isWithin value bounds
  | .present field, document => document.valuesAt field ≠ []
  | .nested path query, document => ∃ object ∈ document.objectsAt path, query.Matches backend object
  | .bool must should filter mustNot, document =>
    AllMatch backend must document ∧ AllMatch backend filter document ∧
      ¬SomeMatch backend mustNot document ∧ (should = [] ∨ SomeMatch backend should document)
  | clause, document => backend.finds clause document

def AllMatch (backend : Backend) : List Clause → Document → Prop
  | [], _ => True
  | clause :: rest, document => clause.Matches backend document ∧ AllMatch backend rest document

def SomeMatch (backend : Backend) : List Clause → Document → Prop
  | [], _ => False
  | clause :: rest, document => clause.Matches backend document ∨ SomeMatch backend rest document

end

end Clause

/-- What a document says of clauses: those that match it hold. -/
def Document.truth (backend : Backend) (document : Document) : Truth :=
  fun clause => clause.Matches backend document

namespace Clause

variable {backend : Backend} {document : Document}

mutual

/-- Bool clauses match where they hold under what the document says. -/
theorem matches_iff_holds :
    ∀ clause : Clause, clause.Matches backend document ↔ clause.Holds (document.truth backend)
  | .bool must should filter mustNot => by
      obtain ⟨hmust, -⟩ := allMatch_iff_allHold must
      obtain ⟨hfilter, -⟩ := allMatch_iff_allHold filter
      obtain ⟨-, hmustNot⟩ := allMatch_iff_allHold mustNot
      obtain ⟨-, hshould⟩ := allMatch_iff_allHold should
      rw [Matches, Holds, hmust, hfilter, hmustNot, hshould]
  | .term .. | .terms .. | .range .. | .present .. | .nested .. | .matchAll
  | .simpleQueryString .. | .multiMatch .. | .matchText .. | .moreLikeThis .. | .given .. => Iff.rfl

theorem allMatch_iff_allHold :
    ∀ clauses : List Clause,
      (AllMatch backend clauses document ↔ AllHold (document.truth backend) clauses) ∧
        (SomeMatch backend clauses document ↔ SomeHold (document.truth backend) clauses)
  | [] => ⟨Iff.rfl, Iff.rfl⟩
  | clause :: rest => by
      obtain ⟨hall, hsome⟩ := allMatch_iff_allHold rest
      rw [AllMatch, AllHold, SomeMatch, SomeHold, matches_iff_holds clause, hall, hsome]
      exact ⟨Iff.rfl, Iff.rfl⟩

end

theorem matches_negate {clause : Clause} :
    clause.negate.Matches backend document ↔ ¬clause.Matches backend document := by
  rw [matches_iff_holds, matches_iff_holds, holds_negate]

end Clause

end FacetedSearch
