import FacetedSearch.Proofs.SelectionMeaning

/-!
What lowering makes of well selected trees. The clauses of selections are moved out of the tree into
post filters, one for every selection, and nothing of their meaning is lost: a document passes the
filter query and all post filters exactly when the tree holds of it.
-/

namespace FacetedSearch.Lowering

open ConditionTree

variable {catalog : FieldCatalog}

/-- Post filters hold where under every key one of the diverted clauses does. -/
theorem postFilters_hold_iff {truth : Truth} {diverted : List (String × Clause)} :
    (∀ entry ∈ Entries.mapValues Clause.anyOf (collect diverted), entry.2.Holds truth) ↔
      ∀ key ∈ diverted.map Prod.fst, ∃ clause, (key, clause) ∈ diverted ∧ clause.Holds truth := by
  have hcollected : ∀ {key values}, (key, values) ∈ collect diverted →
      ((Clause.anyOf values).Holds truth ↔
        ∃ clause, (key, clause) ∈ diverted ∧ clause.Holds truth) := by
    intro key values hmem
    obtain ⟨hvalues, hne⟩ := values_of_mem_collect hmem
    rw [Clause.holds_anyOf hne, hvalues]
    simp only [mem_valuesNamed]
  rw [Entries.mapValues, List.forall_mem_map]
  constructor
  · intro hfilters key hkey
    rw [← List.mem_eraseDups, ← names_collect] at hkey
    obtain ⟨⟨name, values⟩, hmem, rfl⟩ := List.mem_map.mp hkey
    exact (hcollected hmem).mp (hfilters _ hmem)
  · rintro hkeys ⟨key, values⟩ hmem
    have hkey : key ∈ (collect diverted).names := List.mem_map_of_mem hmem
    rw [names_collect, List.mem_eraseDups] at hkey
    exact (hcollected hmem).mpr (hkeys key hkey)

/-- Where a tree is well selected, all of its conditions have clauses, and the filter query holds
together with every post filter exactly where the tree holds as if it had no selections. -/
theorem query_and_postFilters_hold_iff {group : ConditionGroup} {parts : FilterParts}
    (h : lowerConditions catalog group = .ok parts)
    (hselected : (ofGroup group).IsWellSelected catalog) :
    (∀ c ∈ (ofGroup group).conditions, ∃ clause, conditionClause catalog c = .ok clause) ∧
      ∀ truth, (parts.query.Holds truth ∧ ∀ entry ∈ parts.postFilters, entry.2.Holds truth) ↔
        RemainderHolds (ConditionHolds catalog truth) (ofGroup group).populated? := by
  constructor
  · intro c hc
    have haccepted := (lowerConditions_acceptsIff catalog group).exists_ok_iff.mp ⟨parts, h⟩
    rw [← unskipped_eq_conditions hselected.onField] at hc
    exact (conditionClause_acceptsIff catalog c).exists_ok_iff.mpr (haccepted.wellFormed c hc)
  · intro truth
    obtain ⟨members, ⟨hclauses, hdiverted⟩, hquery, hpost⟩ := lowerConditions_represents h
    have hfilters : (∀ entry ∈ parts.postFilters, entry.2.Holds truth) ↔
        ∀ selection ∈ (ofGroup group).selections,
          SomeHold (ConditionHolds catalog truth) selection.members := by
      rw [hpost, postFilters_hold_iff, ← map_fst_of_diverts hdiverted,
        ← hselected.diverted_hold_iff]
      simp only [exists_diverted_holds_iff hdiverted]
    rw [hquery, groupQuery_holds_iff_remainder hclauses, hfilters]
    exact remainder_and_selections_hold_iff hselected.inConjunctions hselected.onField

def colorSelection : Selection where
  tags := ["facet:color"]
  members :=
    [.condition { field := "color", value := .str "red" },
      .condition { field := "color", value := .str "blue" }]

def sizeSelection : Selection where
  tags := ["facet:size", "facet_id:sizes"]
  members := [.condition { field := "size", value := .str "L" }]

/-- Selections of colors and of a size at different depths, among other groups. -/
def selectedGoods : ConditionGroup where
  members :=
    [.group .or colorSelection.members colorSelection.tags,
     .group .and
      [.group .or sizeSelection.members sizeSelection.tags,
        .group .or [] [],
        .group .or
          [.condition { field := "color", op := "<>" },
            .condition { field := "offers.kind", value := .str "new" }]
          []]
      []]

def selectedGoodsParts : FilterParts where
  query :=
    { filter := [.bool [] [] [.bool [] [.present "color",
        .nested "offers" (.term "offers.kind" (.str "new"))] [] []] []] }
  postFilters :=
    [("color", .bool [] [.term "color" (.str "red"), .term "color" (.str "blue")] [] []),
      ("sizes", .term "size" (.str "L"))]

theorem colorSelection_isOn : colorSelection.IsOn goodsCatalog "color" :=
  ⟨by decide, by decide, List.cons_ne_nil _ _, by simp [colorSelection]⟩

theorem sizeSelection_isOn : sizeSelection.IsOn goodsCatalog "size" :=
  ⟨by decide, by decide, List.cons_ne_nil _ _, by simp [sizeSelection]⟩

theorem selectedGoods_isWellSelected : (ofGroup selectedGoods).IsWellSelected goodsCatalog := by
  have hselections : (ofGroup selectedGoods).selections = [colorSelection, sizeSelection] := rfl
  refine ⟨⟨rfl, ⟨rfl, rfl, rfl, trivial⟩, trivial⟩, ?_, ?_⟩
  · intro selection hselection
    rw [hselections, List.mem_pair] at hselection
    rcases hselection with rfl | rfl
    · exact ⟨"color", colorSelection_isOn⟩
    · exact ⟨"size", sizeSelection_isOn⟩
  · rw [hselections, List.pairwise_pair]
    rintro key ⟨first, hfirst, rfl⟩ ⟨second, hsecond, hkey⟩
    obtain rfl := hfirst.field_eq List.mem_cons_self
    obtain rfl := hsecond.field_eq List.mem_cons_self
    revert hkey
    decide

theorem selectedGoods_hold_iff :
    lowerConditions goodsCatalog selectedGoods = .ok selectedGoodsParts ∧
      (ofGroup selectedGoods).IsWellSelected goodsCatalog ∧
      ∀ truth, (selectedGoodsParts.query.Holds truth ∧
          ∀ entry ∈ selectedGoodsParts.postFilters, entry.2.Holds truth) ↔
        RemainderHolds (ConditionHolds goodsCatalog truth) (ofGroup selectedGoods).populated? := by
  have hlower : lowerConditions goodsCatalog selectedGoods = .ok selectedGoodsParts := rfl
  exact ⟨hlower, selectedGoods_isWellSelected,
    (query_and_postFilters_hold_iff hlower selectedGoods_isWellSelected).2⟩

end FacetedSearch.Lowering
