import FacetedSearch.Proofs.ContraryConditions
import FacetedSearch.Proofs.DeclaredFields
import FacetedSearch.Proofs.NameResolution

/-!
Where conditions are placed in nested objects. A condition below a field of nested objects is one
nested clause under that field, of which everything inside is a part; any other condition has no
nested clause in it. However an id is written, its path and the field it is below are the same.
-/

namespace FacetedSearch

namespace Clause

mutual

/-- The paths of nested clauses in a clause, at any depth. -/
def nestedPaths : Clause → List String
  | .nested path query => path :: query.nestedPaths
  | .bool must should filter mustNot =>
    nestedPathsOf must ++ nestedPathsOf should ++ nestedPathsOf filter ++ nestedPathsOf mustNot
  | _ => []

def nestedPathsOf : List Clause → List String
  | [] => []
  | clause :: rest => clause.nestedPaths ++ nestedPathsOf rest

end

theorem nestedPathsOf_eq_nil_iff {clauses : List Clause} :
    nestedPathsOf clauses = [] ↔ ∀ clause ∈ clauses, clause.nestedPaths = [] := by
  induction clauses with
  | nil => simp [nestedPathsOf]
  | cons clause rest ih => simp [nestedPathsOf, ih]

theorem nestedPaths_anyOf {clauses : List Clause}
    (h : ∀ clause ∈ clauses, clause.nestedPaths = []) : (anyOf clauses).nestedPaths = [] := by
  match clauses with
  | [] => rfl
  | [clause] => exact h clause (List.mem_singleton_self clause)
  | first :: second :: rest =>
      simp only [anyOf, nestedPaths, nestedPathsOf_eq_nil_iff.mpr h]
      rfl

variable {p : NameUse → String → Prop}

mutual

theorem NamesOnly.forall_mem_nestedPaths :
    ∀ {clause : Clause}, clause.NamesOnly p → ∀ path ∈ clause.nestedPaths, p .nested path
  | .nested path query, h => List.forall_mem_cons.mpr ⟨h.1, h.2.forall_mem_nestedPaths⟩
  | .bool must should filter mustNot, h => by
      obtain ⟨hmust, hshould, hfilter, hmustNot⟩ := h
      simp only [nestedPaths, List.forall_mem_append]
      exact ⟨⟨⟨hmust.forall_mem_nestedPathsOf, hshould.forall_mem_nestedPathsOf⟩,
        hfilter.forall_mem_nestedPathsOf⟩, hmustNot.forall_mem_nestedPathsOf⟩
  | .term .., _ | .terms .., _ | .range .., _ | .present .., _ | .matchAll, _
  | .simpleQueryString .., _ | .multiMatch .., _ | .matchText .., _ | .moreLikeThis .., _ =>
      List.forall_mem_nil _

theorem AllNameOnly.forall_mem_nestedPathsOf :
    ∀ {clauses : List Clause}, AllNameOnly p clauses →
      ∀ path ∈ nestedPathsOf clauses, p .nested path
  | [], _ => List.forall_mem_nil _
  | clause :: rest, h => by
      rw [nestedPathsOf, List.forall_mem_append]
      exact ⟨h.1.forall_mem_nestedPaths, h.2.forall_mem_nestedPathsOf⟩

end

/-- A clause asks for one object under a path and tests nothing but parts of it. -/
def NestsAt (path : String) (clause : Clause) : Prop :=
  ∃ inner, clause = .nested path inner ∧ inner.nestedPaths = [] ∧
    inner.NamesOnly fun _ name => FieldPath.IsAt path name

end Clause

namespace Lowering

variable {catalog : FieldCatalog} {c : Condition} {clause : Clause}

theorem nestedPaths_flatClause (h : flatClause catalog c = .ok clause) :
    clause.nestedPaths = [] := by
  have hnames : clause.NamesOnly fun use _ => use = .filtered := namesOnly_flatClause rfl h
  rw [List.eq_nil_iff_forall_not_mem]
  intro path hpath
  cases hnames.forall_mem_nestedPaths path hpath

theorem nestsAt_conditionClause (hnested : catalog.isNestedField c.field = true)
    (h : conditionClause catalog c = .ok clause) : clause.NestsAt (FieldPath.root c.field) := by
  obtain ⟨inner, hinner, rfl⟩ := conditionClause_eq_ok_iff.mp h
  rw [placed, if_pos hnested]
  exact ⟨inner, rfl, nestedPaths_flatClause hinner,
    namesOnly_flatClause (FieldPath.isAt_root_dotted c.field) hinner⟩

theorem nestedPaths_conditionClause (hflat : catalog.isNestedField c.field = false)
    (h : conditionClause catalog c = .ok clause) : clause.nestedPaths = [] := by
  obtain ⟨inner, hinner, rfl⟩ := conditionClause_eq_ok_iff.mp h
  rw [placed_of_flat hflat]
  exact nestedPaths_flatClause hinner

theorem isNestedField_iff {id : String} :
    catalog.isNestedField id = true ↔
      ∃ declared, catalog.get? (FieldPath.root id) = some declared ∧
        declared.type = .nestedObject := by
  simp [FieldCatalog.isNestedField, FieldCatalog.typeOf?]

/-- Below a field of nested objects, a condition asks for one of its objects and tests nothing but
parts of it; all other conditions ask for no nested objects. The field is the one at the root of
the dotted path too. -/
theorem conditionClause_nestsAt (h : conditionClause catalog c = .ok clause) :
    (∀ declared, catalog.get? (FieldPath.root c.field) = some declared →
      declared.type = .nestedObject →
        clause.NestsAt (FieldPath.root (FieldPath.dotted c.field)) ∧
        catalog.get? (FieldPath.root (FieldPath.dotted c.field)) = some declared ∧
        ∀ fields settings, FieldCatalog.ofFields fields settings = .ok catalog →
          declared.id = FieldPath.root (FieldPath.dotted c.field)) ∧
    ((∀ declared, catalog.get? (FieldPath.root c.field) = some declared →
      declared.type ≠ .nestedObject) → clause.nestedPaths = []) := by
  constructor
  · intro declared hdeclared htype
    have hnested := isNestedField_iff.mpr ⟨declared, hdeclared, htype⟩
    rw [FieldPath.root_dotted]
    refine ⟨nestsAt_conditionClause hnested h, hdeclared, ?_⟩
    intro fields settings hcatalog
    exact (FieldCatalog.isKeyed_ofFields hcatalog).id_of_get? hdeclared
  · intro htype
    apply nestedPaths_conditionClause _ h
    rw [← Bool.not_eq_true, isNestedField_iff]
    rintro ⟨declared, hdeclared, hnested⟩
    exact htype declared hdeclared hnested

/-- Offers as nested objects, and a field whose id only begins like theirs. -/
def likeNamedFields : List SearchField :=
  [{ id := "offers", type := .nestedObject }, { id := "offers_" }]

def likeNamedCatalog : FieldCatalog where
  entries :=
    [("offers", { id := "offers", type := .nestedObject }), ("offers_", { id := "offers_" }),
      ("search_api_language", { id := "search_api_language" }),
      ("search_api_datasource", { id := "search_api_datasource" })]

/-- A path of nested objects that is written with both separators and with more underscores. -/
def offerKinds : Condition where
  field := "offers___kind.name__x"
  op := "NOT IN"
  value := .list [.str "new"]

def offerKindsClause : Clause :=
  .nested "offers" (.bool [] [] [] [.terms "offers._kind.name.x" [.str "new"]])

theorem offerKinds_nestsAt :
    conditionClause likeNamedCatalog offerKinds = .ok offerKindsClause ∧
      offerKindsClause.NestsAt (FieldPath.root (FieldPath.dotted offerKinds.field)) ∧
      "offers" = FieldPath.root (FieldPath.dotted offerKinds.field) ∧
      conditionClause likeNamedCatalog { field := "offers_.kind" } =
        .ok (Clause.present "offers_.kind").negate ∧
      (Clause.present "offers_.kind").negate.nestedPaths = [] := by
  have hcatalog : FieldCatalog.ofFields likeNamedFields [] = .ok likeNamedCatalog := rfl
  have hkinds : conditionClause likeNamedCatalog offerKinds = .ok offerKindsClause := rfl
  have hflat : conditionClause likeNamedCatalog { field := "offers_.kind" } =
      .ok (Clause.present "offers_.kind").negate := rfl
  obtain ⟨hnests, -, hid⟩ := (conditionClause_nestsAt hkinds).1 _ rfl rfl
  refine ⟨hkinds, hnests, hid likeNamedFields [] hcatalog, hflat, (conditionClause_nestsAt hflat).2 ?_⟩
  intro declared hdeclared
  cases hdeclared
  decide

end Lowering

end FacetedSearch
