import FacetedSearch.Proofs.FacetLowering
import FacetedSearch.Proofs.NestedPlacement
import FacetedSearch.Proofs.SelectionMeaning

/-!
Selections that come together in the filters of facets. The conditions that a tree diverts stand in
the post filters under the keys of their facets, and the selections of nested alternative facets are
set there under the ids of these. Nothing else is added and no selection of a nested facet is
missing, but where an id is also a key, the clause of the tree is lost.
-/

namespace FacetedSearch

namespace ConditionTree

variable {catalog : FieldCatalog} {tree : ConditionTree} {entry : String × Condition}

theorem flat_of_mem_diverted (h : entry ∈ tree.diverted catalog) :
    catalog.isNestedField entry.2.field = false := by
  obtain ⟨selection, -, hentry⟩ := (mem_diverted_iff tree).mp h
  obtain ⟨member, -, hown⟩ := List.mem_flatMap.mp hentry
  cases member with
  | group inner innerMembers innerTags => cases hown
  | condition c =>
      rw [ownDiverted] at hown
      split_ifs at hown with hselected
      · rw [List.mem_singleton.mp hown]
        exact hselected.2
      · cases hown

end ConditionTree

namespace Lowering

open ConditionTree

variable {catalog : FieldCatalog} {group : ConditionGroup} {facets : List FacetRequest}
  {facet : FacetRequest} {filter : FilterParts} {result : FacetParts}

section PostFilters

theorem nodup_names_postFilters (h : lowerConditions catalog group = .ok filter) :
    filter.postFilters.names.Nodup := by
  obtain ⟨members, -, -, hpost⟩ := lowerConditions_represents h
  rw [hpost, Entries.names_mapValues]
  exact nodup_names_collect members.diverted

theorem mem_names_postFilters (h : lowerConditions catalog group = .ok filter) {key : String} :
    key ∈ filter.postFilters.names ↔ key ∈ ((ofGroup group).diverted catalog).map Prod.fst := by
  rw [(lowerConditions_meaning h).postFilters_names, List.mem_eraseDups]

/-- Post filters of a tree ask for no nested objects: what is selected there is on flat fields. -/
theorem nestedPaths_postFilters (h : lowerConditions catalog group = .ok filter) :
    ∀ entry ∈ filter.postFilters, entry.2.nestedPaths = [] := by
  obtain ⟨members, ⟨-, hdiverted⟩, -, hpost⟩ := lowerConditions_represents h
  rw [hpost]
  refine List.forall_mem_map.mpr fun entry hentry => Clause.nestedPaths_anyOf ?_
  intro clause hclause
  rw [(values_of_mem_collect hentry).1, mem_valuesNamed] at hclause
  obtain ⟨taken, htaken, hdiverts⟩ := Outcome.exists_of_forall₂ hdiverted.flip hclause
  exact nestedPaths_conditionClause (flat_of_mem_diverted htaken) hdiverts.2

end PostFilters

section Selections

/-- A nested facet with selected values has a selection of its own. -/
def IsSelecting (catalog : FieldCatalog) (facet : FacetRequest) : Prop :=
  isNestedFacet catalog facet = true ∧ facet.activeValues ≠ []

instance (catalog : FieldCatalog) (facet : FacetRequest) :
    Decidable (IsSelecting catalog facet) :=
  inferInstanceAs (Decidable (_ ∧ _))

def facetSelection? (catalog : FieldCatalog) (facet : FacetRequest) : Option Clause :=
  if IsSelecting catalog facet then facet.nested.map (selectionClause facet) else none

/-- The selections of alternative facets, under their ids. -/
def selectedAlternatives (catalog : FieldCatalog) (facets : List FacetRequest) : Entries Clause :=
  facets.filterMap fun facet =>
    if facet.operator = .or then (facetSelection? catalog facet).map (facet.id, ·) else none

/-- The selections of all other facets. -/
def selectedRequirements (catalog : FieldCatalog) (facets : List FacetRequest) : List Clause :=
  facets.filterMap fun facet =>
    if facet.operator = .or then none else facetSelection? catalog facet

theorem nestedPaths_of_facetSelection? {clause : Clause}
    (h : clause ∈ facetSelection? catalog facet) : clause.nestedPaths ≠ [] := by
  unfold facetSelection? at h
  split_ifs at h
  · obtain ⟨options, -, rfl⟩ := Option.map_eq_some_iff.mp h
    exact List.cons_ne_nil _ _
  · cases h

theorem isSelecting_of_facetSelection? {clause : Clause}
    (h : facetSelection? catalog facet = some clause) : IsSelecting catalog facet := by
  by_contra hnot
  rw [facetSelection?, if_neg hnot] at h
  cases h

theorem facetSelection?_of_selecting {options : NestedFacetOptions}
    (hselecting : IsSelecting catalog facet) (hoptions : facet.nested = some options) :
    facetSelection? catalog facet = some (selectionClause facet options) := by
  rw [facetSelection?, if_pos hselecting, hoptions, Option.map_some]

/-- A facet that is accepted has the options that its selection is made of. -/
theorem options_of_lowerFacet {part : FacetPart} (h : lowerFacet catalog facet = .ok part)
    (hselecting : IsSelecting catalog facet) : ∃ options, facet.nested = some options := by
  rcases lowerFacet_cases h with ⟨-, options, -, hoptions, -⟩ | ⟨hflat, -⟩
  · exact ⟨options, hoptions⟩
  · cases hflat.symm.trans hselecting.1

theorem selection_of_lowerFacet {part : FacetPart} (h : lowerFacet catalog facet = .ok part) :
    part.selection = facetSelection? catalog facet := by
  rcases lowerFacet_cases h with ⟨hnested, options, inner, hoptions, -, rfl⟩ | ⟨hflat, _, -, rfl⟩
  · rw [nestedFacetPart]
    by_cases hvalues : facet.activeValues = []
    · rw [if_pos (List.isEmpty_iff.mpr hvalues), facetSelection?,
        if_neg fun hselecting => hselecting.2 hvalues]
    · rw [if_neg (mt List.isEmpty_iff.mp hvalues),
        facetSelection?_of_selecting ⟨hnested, hvalues⟩ hoptions]
  · rw [facetSelection?, if_neg]
    intro hselecting
    cases hflat.symm.trans hselecting.1

theorem selections_of_lowered {parts : List FacetPart}
    (h : List.Forall₂ (fun facet part => lowerFacet catalog facet = .ok part) facets parts) :
    alternativeSelections parts = selectedAlternatives catalog facets ∧
      rootSelections parts = selectedRequirements catalog facets := by
  unfold alternativeSelections selectedAlternatives rootSelections selectedRequirements
  induction h with
  | nil => exact ⟨rfl, rfl⟩
  | cons hpart _ ih =>
      simp only [List.filterMap_cons, ih.1, ih.2, (lowerFacet_spec hpart).1,
        selection_of_lowerFacet hpart, and_self]

theorem mem_selectedAlternatives {entry : String × Clause} :
    entry ∈ selectedAlternatives catalog facets ↔
      ∃ facet ∈ facets, facet.operator = .or ∧ facet.id = entry.1 ∧
        facetSelection? catalog facet = some entry.2 := by
  obtain ⟨key, clause⟩ := entry
  simp [selectedAlternatives, and_left_comm]

theorem mem_selectedRequirements {clause : Clause} :
    clause ∈ selectedRequirements catalog facets ↔
      ∃ facet ∈ facets, facet.operator ≠ .or ∧ facetSelection? catalog facet = some clause := by
  simp [selectedRequirements]

theorem nodup_names_selectedAlternatives (hids : (facets.map (·.id)).Nodup) :
    (selectedAlternatives catalog facets).names.Nodup := by
  refine List.Sublist.nodup ?_ hids
  clear hids
  unfold selectedAlternatives
  induction facets with
  | nil => exact .slnil
  | cons facet rest ih =>
      rw [List.filterMap_cons, List.map_cons]
      by_cases hor : facet.operator = .or
      · rw [if_pos hor]
        cases facetSelection? catalog facet with
        | none => exact ih.cons _
        | some clause => exact ih.cons_cons _
      · rw [if_neg hor]
        exact ih.cons _

/-- All selections of facets hold where those of alternative facets and those of the others do. -/
theorem forall_facetSelection?_iff {truth : Truth} :
    (∀ facet ∈ facets, ∀ clause ∈ facetSelection? catalog facet, clause.Holds truth) ↔
      (∀ entry ∈ selectedAlternatives catalog facets, entry.2.Holds truth) ∧
        ∀ clause ∈ selectedRequirements catalog facets, clause.Holds truth := by
  constructor
  · intro h
    constructor
    · intro entry hentry
      obtain ⟨facet, hfacet, -, -, hselection⟩ := mem_selectedAlternatives.mp hentry
      exact h facet hfacet entry.2 hselection
    · intro clause hclause
      obtain ⟨facet, hfacet, -, hselection⟩ := mem_selectedRequirements.mp hclause
      exact h facet hfacet clause hselection
  · rintro ⟨halternatives, hrequirements⟩ facet hfacet clause hselection
    by_cases hor : facet.operator = .or
    · exact halternatives (facet.id, clause)
        (mem_selectedAlternatives.mpr ⟨facet, hfacet, hor, rfl, hselection⟩)
    · exact hrequirements clause
        (mem_selectedRequirements.mpr ⟨facet, hfacet, hor, hselection⟩)

end Selections

/-- The selections of nested facets are all that is added to the filters: once each, among the post
filters or among the root filters by the operator of the facet. A clause of the post filters before
stays unless an added one has its name. -/
structure AddsSelections (catalog : FieldCatalog) (facets : List FacetRequest)
    (diverted : Entries Clause) (result : FacetParts) : Prop where
  selected : ∀ facet ∈ facets, IsSelecting catalog facet →
    ∃ options, facet.nested = some options ∧
      facetSelection? catalog facet = some (selectionClause facet options)
  postFilters : result.postFilters.Perm
    (diverted.filter (·.1 ∉ (selectedAlternatives catalog facets).names) ++
      selectedAlternatives catalog facets)
  rootFilters : result.rootFilters = selectedRequirements catalog facets

/-- No post filter is lost, so that a document that passes all filters passes every selection. -/
structure KeepsSelections (catalog : FieldCatalog) (facets : List FacetRequest)
    (diverted : Entries Clause) (result : FacetParts) : Prop where
  kept : ∀ entry ∈ diverted, entry ∈ result.postFilters
  passes_iff : ∀ truth : Truth,
    ((∀ entry ∈ result.postFilters, entry.2.Holds truth) ∧
        ∀ clause ∈ result.rootFilters, clause.Holds truth) ↔
      (∀ entry ∈ diverted, entry.2.Holds truth) ∧
        ∀ facet ∈ facets, ∀ clause ∈ facetSelection? catalog facet, clause.Holds truth

/-- The selection of a facet is set under a key that the tree has diverted a condition to. -/
def SharesKey (catalog : FieldCatalog) (group : ConditionGroup) (facet : FacetRequest) : Prop :=
  facet.operator = .or ∧ IsSelecting catalog facet ∧
    facet.id ∈ ((ofGroup group).diverted catalog).map Prod.fst

instance (catalog : FieldCatalog) (group : ConditionGroup) (facet : FacetRequest) :
    Decidable (SharesKey catalog group facet) :=
  inferInstanceAs (Decidable (_ ∧ _))

section Filters

variable (hids : (facets.map (·.id)).Nodup)
  (hconditions : lowerConditions catalog group = .ok filter)
  (h : lowerFacets catalog facets filter.postFilters = .ok result)

include hids hconditions h

theorem addsSelections_lowerFacets : AddsSelections catalog facets filter.postFilters result := by
  obtain ⟨parts, hparts, rfl⟩ := lowerFacets_eq_ok_iff.mp h
  obtain ⟨halternatives, hrequirements⟩ := selections_of_lowered hparts
  refine ⟨?selected, ?postFilters, hrequirements⟩
  case selected =>
    intro facet hfacet hselecting
    obtain ⟨part, -, hpart⟩ := Outcome.exists_of_forall₂ hparts hfacet
    obtain ⟨options, hoptions⟩ := options_of_lowerFacet hpart hselecting
    exact ⟨options, hoptions, facetSelection?_of_selecting hselecting hoptions⟩
  case postFilters =>
    rw [halternatives]
    exact Entries.putAll_perm (nodup_names_postFilters hconditions)
      (nodup_names_selectedAlternatives hids)

/-- Under a shared key stands the selection of the facet alone, which is no clause of the tree. -/
theorem not_mem_of_sharesKey (hfacet : facet ∈ facets) (hshares : SharesKey catalog group facet)
    {clause : Clause} (hclause : (facet.id, clause) ∈ filter.postFilters) :
    (facet.id, clause) ∉ result.postFilters := by
  have hadds := addsSelections_lowerFacets hids hconditions h
  obtain ⟨hor, hselecting, -⟩ := hshares
  obtain ⟨options, -, hselection⟩ := hadds.selected facet hfacet hselecting
  have hset : (facet.id, selectionClause facet options) ∈ selectedAlternatives catalog facets :=
    mem_selectedAlternatives.mpr ⟨facet, hfacet, hor, rfl, hselection⟩
  have hname : facet.id ∈ (selectedAlternatives catalog facets).names :=
    List.mem_map.mpr ⟨_, hset, rfl⟩
  rw [hadds.postFilters.mem_iff, List.mem_append, not_or]
  constructor
  · intro hkept
    exact of_decide_eq_true (List.mem_filter.mp hkept).2 hname
  · intro hadded
    obtain ⟨other, -, -, -, hother⟩ := mem_selectedAlternatives.mp hadded
    exact nestedPaths_of_facetSelection? hother (nestedPaths_postFilters hconditions _ hclause)

theorem postFilters_perm_append (hfree : ∀ facet ∈ facets, ¬SharesKey catalog group facet) :
    result.postFilters.Perm (filter.postFilters ++ selectedAlternatives catalog facets) := by
  have hadds := addsSelections_lowerFacets hids hconditions h
  have hall : filter.postFilters.filter (·.1 ∉ (selectedAlternatives catalog facets).names) =
      filter.postFilters := by
    refine List.filter_eq_self.mpr fun entry hentry => decide_eq_true fun hname => ?_
    obtain ⟨other, hother, hname⟩ := List.mem_map.mp hname
    obtain ⟨facet, hfacet, hor, hid, hselection⟩ := mem_selectedAlternatives.mp hother
    refine hfree facet hfacet ⟨hor, isSelecting_of_facetSelection? hselection, ?_⟩
    rw [← mem_names_postFilters hconditions, hid, hname]
    exact List.mem_map_of_mem hentry
  rw [← hall]
  exact hadds.postFilters

end Filters

/-- Lowering facets adds each selection of a nested facet once and nothing else. All post filters of
the tree are kept, and documents that pass the filters pass every selection, exactly where no
selection is set under a key that the tree has diverted a condition to. -/
theorem lowerFacets_keepsSelections_iff (hids : (facets.map (·.id)).Nodup)
    (hconditions : lowerConditions catalog group = .ok filter)
    (h : lowerFacets catalog facets filter.postFilters = .ok result) :
    AddsSelections catalog facets filter.postFilters result ∧
      (KeepsSelections catalog facets filter.postFilters result ↔
        ∀ facet ∈ facets, ¬SharesKey catalog group facet) := by
  have hadds := addsSelections_lowerFacets hids hconditions h
  refine ⟨hadds, ?lost, ?free⟩
  case lost =>
    intro hkeeps facet hfacet hshares
    have hname := (mem_names_postFilters hconditions).mpr hshares.2.2
    obtain ⟨⟨key, clause⟩, hclause, rfl⟩ := List.mem_map.mp hname
    exact not_mem_of_sharesKey hids hconditions h hfacet hshares hclause (hkeeps.kept _ hclause)
  case free =>
    intro hfree
    have hperm := postFilters_perm_append hids hconditions h hfree
    constructor
    · intro entry hentry
      exact hperm.mem_iff.mpr (List.mem_append_left _ hentry)
    · intro truth
      simp only [hperm.mem_iff, List.forall_mem_append, hadds.rootFilters,
        forall_facetSelection?_iff, and_assoc]

def newOffers : NestedFacetOptions where
  groupField := "offers.kind"
  groupValue := .str "new"

/-- A facet on colors, one on the sizes of new offers that must match, and one on prices of new
offers of which a range is excluded. The facet on sizes has the key of the sizes in the tree. -/
def offerFacets : List FacetRequest :=
  [{ id := "color", field := "color", operator := .or },
    { id := "sizes", field := "offers.size", kind := .nested, activeValues := [.str "L"]
      nested := some newOffers },
    { id := "prices", field := "offers__price", kind := .range, operator := .or, exclude := true
      activeValues := [.list [.null, .int 5]], nested := some newOffers }]

theorem offerFacets_keepSelections :
    (offerFacets.map (·.id)).Nodup ∧
      lowerConditions goodsCatalog goodsConditions = .ok goodsParts ∧
      ∃ result, lowerFacets goodsCatalog offerFacets goodsParts.postFilters = .ok result ∧
        AddsSelections goodsCatalog offerFacets goodsParts.postFilters result ∧
        KeepsSelections goodsCatalog offerFacets goodsParts.postFilters result ∧
        result.postFilters.names = ["color", "sizes", "prices"] ∧
        result.rootFilters =
          [.nested "offers" (.allOf
            [.term "offers.kind" (.str "new"), .terms "offers.size" [.str "L"]])] := by
  have hids : (offerFacets.map (·.id)).Nodup := by decide
  have hconditions : lowerConditions goodsCatalog goodsConditions = .ok goodsParts := rfl
  obtain ⟨result, hresult⟩ : ∃ result,
      lowerFacets goodsCatalog offerFacets goodsParts.postFilters = .ok result := ⟨_, rfl⟩
  have hfree : ∀ facet ∈ offerFacets, ¬SharesKey goodsCatalog goodsConditions facet := by decide
  obtain ⟨hadds, hkeeps⟩ := lowerFacets_keepsSelections_iff hids hconditions hresult
  refine ⟨hids, hconditions, result, hresult, hadds, hkeeps.mpr hfree, ?_, ?_⟩
  · cases hresult
    rfl
  · cases hresult
    rfl

/-- A selected color, and a facet on the colors of new offers under the same key. -/
def redGoods : ConditionGroup where
  members :=
    [.group .or [.condition { field := "color", value := .str "red" }] ["facet:color"]]

def offerColorFacet : FacetRequest where
  id := "color"
  field := "offers.color"
  kind := .nested
  operator := .or
  activeValues := [.str "blue"]
  nested := some newOffers

/-- The selected color of goods is lost to the selected color of offers: what has such an offer
passes all filters, whatever color it has itself. -/
theorem offerColor_replaces_color :
    ([offerColorFacet].map (·.id)).Nodup ∧
      ∃ filter result, lowerConditions goodsCatalog redGoods = .ok filter ∧
        lowerFacets goodsCatalog [offerColorFacet] filter.postFilters = .ok result ∧
        ∃ entry ∈ filter.postFilters, entry ∉ result.postFilters ∧
          ∃ truth : Truth, (∀ other ∈ result.postFilters, other.2.Holds truth) ∧
            (∀ clause ∈ result.rootFilters, clause.Holds truth) ∧ ¬entry.2.Holds truth := by
  refine ⟨by decide, _, _, rfl, rfl, ("color", .term "color" (.str "red")), .head _, ?lost, ?passed⟩
  case lost =>
    intro hmem
    cases hmem with
    | tail _ hrest => cases hrest
  case passed =>
    refine ⟨fun clause => clause.nestedPaths ≠ [], ?_, List.forall_mem_nil _, fun hred => hred rfl⟩
    exact List.forall_mem_singleton.mpr (List.cons_ne_nil _ _)

end Lowering

end FacetedSearch
