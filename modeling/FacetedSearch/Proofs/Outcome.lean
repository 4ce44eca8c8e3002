import FacetedSearch.Fault
import Mathlib.Data.List.Forall2

/-!
Steps that may fail. A computation gives a result exactly when each of its steps gives one, and a
step on every element of a list gives the list of the elementwise results. Where a step gives a
result exactly for acceptable input, so do its sequences and repetitions for input that is
acceptable to all of them. A sequence ends in a fault that no request is blamed for where one of its
steps does and those before it give a result.
-/

namespace FacetedSearch.Outcome

variable {α β : Type}

theorem bind_eq_ok {step : Outcome α} {next : α → Outcome β} {result : β} :
    step >>= next = .ok result ↔ ∃ a, step = .ok a ∧ next a = .ok result := by
  cases step <;> simp [bind, Except.bind]

theorem pure_eq_ok {a result : α} : (pure a : Outcome α) = .ok result ↔ a = result := by
  simp [pure, Except.pure]

@[simp]
theorem bind_ok (a : α) (next : α → Outcome β) : (.ok a : Outcome α) >>= next = next a := rfl

theorem bind_error (fault : Fault) (next : α → Outcome β) :
    (.error fault : Outcome α) >>= next = .error fault := rfl

@[simp]
theorem pure_eq (a : α) : (pure a : Outcome α) = .ok a := rfl

/-- A step on each element of a list succeeds when it succeeds on all of them. -/
theorem mapM_eq_ok_iff {step : α → Outcome β} {items : List α} {results : List β} :
    items.mapM step = .ok results ↔
      List.Forall₂ (fun item result => step item = .ok result) items results := by
  induction items generalizing results with
  | nil => cases results <;> simp
  | cons item rest ih =>
      simp only [List.mapM_cons, bind_eq_ok, pure_eq_ok, List.forall₂_cons_left_iff]
      constructor
      · rintro ⟨first, hfirst, others, hothers, rfl⟩
        exact ⟨first, others, hfirst, ih.mp hothers, rfl⟩
      · rintro ⟨first, others, hfirst, hothers, rfl⟩
        exact ⟨first, hfirst, others, ih.mpr hothers, rfl⟩

theorem mapM_eq_ok_map {step : α → Outcome β} {f : α → β} {items : List α}
    (h : ∀ item ∈ items, step item = .ok (f item)) : items.mapM step = .ok (items.map f) := by
  rw [mapM_eq_ok_iff, List.forall₂_map_right_iff, List.forall₂_same]
  exact h

theorem exists_of_forall₂ {related : α → β → Prop} {items : List α} {results : List β}
    (h : List.Forall₂ related items results) {item : α} (hitem : item ∈ items) :
    ∃ result ∈ results, related item result := by
  induction h with
  | nil => cases hitem
  | cons hfirst _ ih =>
      rcases List.mem_cons.mp hitem with rfl | hrest
      · exact ⟨_, List.mem_cons_self, hfirst⟩
      · obtain ⟨result, hresult, hrelated⟩ := ih hrest
        exact ⟨result, List.mem_cons_of_mem _ hresult, hrelated⟩

/-- A step gives a result exactly where what it is given is acceptable; where it gives none, it ends
in a fault of a certain kind. -/
inductive SucceedsIff (blamed : Fault → Prop) (acceptable : Prop) : Outcome α → Prop
  | accepted (a : α) (h : acceptable) : SucceedsIff blamed acceptable (.ok a)
  | refused {fault : Fault} (hfault : blamed fault) (h : ¬acceptable) :
      SucceedsIff blamed acceptable (.error fault)

/-- A step gives a result exactly where a request is acceptable, and else the request is at fault. -/
abbrev AcceptsIff (acceptable : Prop) (step : Outcome α) : Prop :=
  SucceedsIff (fun fault => fault.isBadRequest = true) acceptable step

/-- A step gives a result exactly where a response is readable; no request is at fault else. -/
abbrev ReadsIff (readable : Prop) (step : Outcome α) : Prop :=
  SucceedsIff (fun fault => fault.isBadRequest = false) readable step

namespace SucceedsIff

variable {blamed : Fault → Prop} {acceptable other : Prop} {step : Outcome α}
  {next : α → Outcome β}

theorem exists_ok_iff (h : SucceedsIff blamed acceptable step) :
    (∃ a, step = .ok a) ↔ acceptable := by
  cases h with
  | accepted a h => exact iff_of_true ⟨a, rfl⟩ h
  | refused _ h => exact iff_of_false (by simp) h

theorem congr (h : SucceedsIff blamed acceptable step) (hiff : acceptable ↔ other) :
    SucceedsIff blamed other step := by
  rwa [← propext hiff]

/-- A step that always gives a result accepts everything. -/
theorem of_ok {a : α} (h : step = .ok a) : SucceedsIff blamed True step := by
  rw [h]
  exact .accepted a trivial

theorem bind (h : SucceedsIff blamed acceptable step)
    (hnext : ∀ a, step = .ok a → SucceedsIff blamed other (next a)) :
    SucceedsIff blamed (acceptable ∧ other) (step >>= next) := by
  cases h with
  | accepted a h => exact (hnext a rfl).congr (by simp [h])
  | refused hblamed h => exact .refused hblamed fun hboth => h hboth.1

/-- What follows without a fault of its own does not matter. -/
theorem bind_total (h : SucceedsIff blamed acceptable step)
    (hnext : ∀ a, step = .ok a → ∃ b, next a = .ok b) :
    SucceedsIff blamed acceptable (step >>= next) := by
  have htotal : ∀ a, step = .ok a → SucceedsIff blamed True (next a) := by
    intro a ha
    obtain ⟨b, hb⟩ := hnext a ha
    exact of_ok hb
  exact (h.bind htotal).congr (by simp)

theorem mapM {step : α → Outcome β} {acceptable : α → Prop} {items : List α}
    (h : ∀ item ∈ items, SucceedsIff blamed (acceptable item) (step item)) :
    SucceedsIff blamed (∀ item ∈ items, acceptable item) (items.mapM step) := by
  induction items with
  | nil => exact .accepted [] (by simp)
  | cons item rest ih =>
      obtain ⟨hitem, hrest⟩ := List.forall_mem_cons.mp h
      rw [List.mapM_cons]
      refine (hitem.bind fun first _ => (ih hrest).bind_total fun others _ => ⟨_, rfl⟩).congr ?_
      exact List.forall_mem_cons.symm

/-- A fold accepts a list where each of its elements is acceptable, whatever was reached before. -/
theorem foldlM {step : β → α → Outcome β} {acceptable : α → Prop} {items : List α}
    (h : ∀ item ∈ items, ∀ state, SucceedsIff blamed (acceptable item) (step state item))
    (start : β) : SucceedsIff blamed (∀ item ∈ items, acceptable item) (items.foldlM step start) := by
  induction items generalizing start with
  | nil => exact .accepted start (by simp)
  | cons item rest ih =>
      obtain ⟨hitem, hrest⟩ := List.forall_mem_cons.mp h
      rw [List.foldlM_cons]
      refine ((hitem start).bind fun state _ => ih hrest state).congr ?_
      exact List.forall_mem_cons.symm

end SucceedsIff

/-- How a step ends: with a result where what it is given is acceptable, in a fault that the request
is not blamed for where it slips, and else the request is at fault. -/
inductive EndsIn (acceptable slips : Prop) : Outcome α → Prop
  | accepted (a : α) (h : acceptable) (hslips : ¬slips) : EndsIn acceptable slips (.ok a)
  | refused {fault : Fault} (hfault : fault.isBadRequest = true) (h : ¬acceptable)
      (hslips : ¬slips) : EndsIn acceptable slips (.error fault)
  | slipped {fault : Fault} (hfault : fault.isBadRequest = false) (h : ¬acceptable)
      (hslips : slips) : EndsIn acceptable slips (.error fault)

/-- One of the items slips, and those before it are acceptable. -/
def SlipsFirst (acceptable slips : α → Prop) (items : List α) : Prop :=
  ∃ before item after, items = before ++ item :: after ∧ (∀ earlier ∈ before, acceptable earlier) ∧
    slips item

theorem not_slipsFirst_nil {acceptable slips : α → Prop} : ¬SlipsFirst acceptable slips [] := by
  rintro ⟨before, item, after, hitems, -⟩
  simp at hitems

theorem slipsFirst_cons_iff {acceptable slips : α → Prop} {item : α} {rest : List α} :
    SlipsFirst acceptable slips (item :: rest) ↔
      slips item ∨ acceptable item ∧ SlipsFirst acceptable slips rest := by
  constructor
  · rintro ⟨before, slipping, after, hitems, hbefore, hslips⟩
    cases before with
    | nil =>
        cases hitems
        exact .inl hslips
    | cons first others =>
        cases hitems
        obtain ⟨hfirst, hothers⟩ := List.forall_mem_cons.mp hbefore
        exact .inr ⟨hfirst, others, slipping, after, rfl, hothers, hslips⟩
  · rintro (hslips | ⟨hitem, before, slipping, after, rfl, hbefore, hslips⟩)
    · exact ⟨[], item, rest, rfl, List.forall_mem_nil _, hslips⟩
    · have hearlier := List.forall_mem_cons.mpr ⟨hitem, hbefore⟩
      exact ⟨item :: before, slipping, after, rfl, hearlier, hslips⟩

namespace EndsIn

variable {acceptable slips other otherSlips : Prop} {step : Outcome α} {next : α → Outcome β}

theorem exists_ok_iff (h : EndsIn acceptable slips step) : (∃ a, step = .ok a) ↔ acceptable := by
  cases h with
  | accepted a h _ => exact iff_of_true ⟨a, rfl⟩ h
  | refused _ h _ => exact iff_of_false (by simp) h
  | slipped _ h _ => exact iff_of_false (by simp) h

theorem exists_error_iff (h : EndsIn acceptable slips step) :
    (∃ fault, step = .error fault ∧ fault.isBadRequest = false) ↔ slips := by
  cases h with
  | accepted a _ hslips => exact iff_of_false (by simp) hslips
  | refused hfault _ hslips => exact iff_of_false (by simp [hfault]) hslips
  | @slipped fault hfault _ hslips => exact iff_of_true ⟨fault, rfl, hfault⟩ hslips

theorem congr (h : EndsIn acceptable slips step) (hiff : acceptable ↔ other)
    (hslips : slips ↔ otherSlips) : EndsIn other otherSlips step := by
  rwa [← propext hiff, ← propext hslips]

/-- A step that only ever blames the request does not slip. -/
theorem of_acceptsIff (h : AcceptsIff acceptable step) : EndsIn acceptable False step := by
  cases h with
  | accepted a h => exact .accepted a h id
  | refused hfault h => exact .refused hfault h id

theorem bind (h : EndsIn acceptable slips step)
    (hnext : ∀ a, step = .ok a → EndsIn other otherSlips (next a)) :
    EndsIn (acceptable ∧ other) (slips ∨ acceptable ∧ otherSlips) (step >>= next) := by
  cases h with
  | accepted a h hslips => exact (hnext a rfl).congr (by simp [h]) (by simp [h, hslips])
  | refused hfault h hslips => exact .refused hfault (by simp [h]) (by simp [h, hslips])
  | slipped hfault h hslips => exact .slipped hfault (by simp [h]) (.inl hslips)

/-- What follows without a fault of its own does not matter. -/
theorem bind_total (h : EndsIn acceptable slips step)
    (hnext : ∀ a, step = .ok a → ∃ b, next a = .ok b) :
    EndsIn acceptable slips (step >>= next) := by
  have htotal : ∀ a, step = .ok a → EndsIn True False (next a) := by
    intro a ha
    obtain ⟨b, hb⟩ := hnext a ha
    exact of_acceptsIff (.of_ok hb)
  exact (h.bind htotal).congr (by simp) (by simp)

/-- Of the items of a list, the first one that is not acceptable decides. -/
theorem mapM {step : α → Outcome β} {acceptable slips : α → Prop} {items : List α}
    (h : ∀ item ∈ items, EndsIn (acceptable item) (slips item) (step item)) :
    EndsIn (∀ item ∈ items, acceptable item) (SlipsFirst acceptable slips items)
      (items.mapM step) := by
  induction items with
  | nil => exact .accepted [] (List.forall_mem_nil _) not_slipsFirst_nil
  | cons item rest ih =>
      obtain ⟨hitem, hrest⟩ := List.forall_mem_cons.mp h
      rw [List.mapM_cons]
      refine (hitem.bind fun first _ => (ih hrest).bind_total fun others _ => ⟨_, rfl⟩).congr ?_ ?_
      · exact List.forall_mem_cons.symm
      · exact slipsFirst_cons_iff.symm

end EndsIn

end FacetedSearch.Outcome
