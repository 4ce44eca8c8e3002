import Mathlib.Data.List.Induction
import Mathlib.Data.List.Nodup

/-!
Texts without their later repeats. Each text of a list is left once, in the order of the first places
in the list, and there is one such list only.
-/

namespace FacetedSearch

/-- The texts of a list, each of them once, in the order of their first places. -/
structure AreFirstPlaces (texts firsts : List String) : Prop where
  mem_iff : ∀ text, text ∈ firsts ↔ text ∈ texts
  ordered : firsts.Pairwise fun a b => texts.idxOf a < texts.idxOf b

/-- One text more is left where it is not a repeat. -/
theorem eraseDups_concat (texts : List String) (text : String) :
    (texts ++ [text]).eraseDups =
      if text ∈ texts then texts.eraseDups else texts.eraseDups ++ [text] := by
  rw [List.eraseDups_append]
  by_cases h : text ∈ texts
  · have hnone : [text].removeAll texts = [] := by simpa [List.removeAll] using h
    rw [hnone, if_pos h, List.eraseDups_nil, List.append_nil]
  · have hself : [text].removeAll texts = [text] := by simpa [List.removeAll] using h
    rw [hself, if_neg h]
    simp [List.eraseDups_cons]

namespace AreFirstPlaces

variable {texts firsts : List String}

theorem nodup (h : AreFirstPlaces texts firsts) : firsts.Nodup :=
  h.ordered.imp fun hlt heq => Nat.ne_of_lt hlt (congrArg texts.idxOf heq)

theorem eraseDups (texts : List String) : AreFirstPlaces texts texts.eraseDups := by
  refine ⟨fun text => List.mem_eraseDups, ?_⟩
  induction texts using List.reverseRecOn with
  | nil => exact .nil
  | append_singleton texts text ih =>
      have hplaces : texts.eraseDups.Pairwise fun a b =>
          (texts ++ [text]).idxOf a < (texts ++ [text]).idxOf b := by
        refine ih.imp_of_mem fun ha hb hlt => ?_
        rwa [List.idxOf_append_of_mem (List.mem_eraseDups.mp ha),
          List.idxOf_append_of_mem (List.mem_eraseDups.mp hb)]
      rw [eraseDups_concat]
      split_ifs with hrepeat
      · exact hplaces
      · rw [List.pairwise_append]
        refine ⟨hplaces, List.pairwise_singleton _ _, ?_⟩
        intro a ha b hb
        obtain rfl := List.mem_singleton.mp hb
        have hlt := List.idxOf_lt_length_of_mem (List.mem_eraseDups.mp ha)
        rw [List.idxOf_append_of_mem (List.mem_eraseDups.mp ha),
          List.idxOf_append_of_notMem hrepeat]
        omega

end AreFirstPlaces

/-- No other texts are left than those that the library leaves. -/
theorem areFirstPlaces_iff {texts firsts : List String} :
    AreFirstPlaces texts firsts ↔ firsts = texts.eraseDups := by
  constructor
  · intro h
    have hperm : firsts.Perm texts.eraseDups := by
      rw [List.perm_ext_iff_of_nodup h.nodup (AreFirstPlaces.eraseDups texts).nodup]
      exact fun text => (h.mem_iff text).trans List.mem_eraseDups.symm
    exact hperm.eq_of_pairwise (fun _ _ _ _ hab hba => absurd hba (Nat.lt_asymm hab)) h.ordered
      (AreFirstPlaces.eraseDups texts).ordered
  · rintro rfl
    exact .eraseDups texts

end FacetedSearch
