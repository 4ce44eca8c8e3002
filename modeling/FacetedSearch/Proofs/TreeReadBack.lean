import FacetedSearch.Proofs.OperatorForm
import FacetedSearch.Proofs.ReadBack
import Mathlib.Data.List.Nodup
import Mathlib.Data.String.Basic

/-!
Trees of conditions and of keys are read back from their documents. The document of a condition is
no group with any field of its own, and the document of a group is no condition, so that each member
of a tree is read back as what it was.
-/

namespace FacetedSearch

section

variable {texts : List String}

theorem nodup_eraseDups : ∀ texts : List String, texts.eraseDups.Nodup
  | [] => List.nodup_nil
  | text :: rest => by
    rw [List.eraseDups_cons, List.nodup_cons]
    exact ⟨by simp [List.mem_eraseDups], nodup_eraseDups _⟩
termination_by texts => texts.length
decreasing_by exact Nat.lt_succ_of_le (List.length_filter_le _ _)

theorem eraseDups_of_nodup (h : texts.Nodup) : texts.eraseDups = texts := by
  induction texts with
  | nil => rfl
  | cons text rest ih =>
      obtain ⟨htext, hrest⟩ := List.nodup_cons.mp h
      have hfilter : rest.filter (fun other => !other == text) = rest := by
        rw [List.filter_eq_self]
        intro other hother
        have hne : other ≠ text := fun heq => htext (heq ▸ hother)
        simp [hne]
      rw [List.eraseDups_cons, hfilter, ih hrest]

/-- A sorted list without repeats is the set of its elements. -/
theorem sortedSet_sortedSet (texts : List String) :
    sortedSet (sortedSet texts) = sortedSet texts := by
  have hnodup : (sortedSet texts).Nodup :=
    (List.mergeSort_perm _ _).nodup_iff.mpr (nodup_eraseDups texts)
  have hsorted : (sortedSet texts).Pairwise fun a b => decide (a ≤ b) = true := by
    refine List.pairwise_mergeSort ?_ ?_ _
    · intro a b c hab hbc
      rw [decide_eq_true_eq] at hab hbc ⊢
      exact le_trans hab hbc
    · intro a b
      simpa using le_total a b
  rw [sortedSet, eraseDups_of_nodup hnodup, List.mergeSort_of_pairwise hsorted]

end

theorem Condition.decodeOp_settles : Decode.Settles Condition.decodeOp .str := by
  intro value op hread
  obtain ⟨text, -, rfl⟩ := Option.map_eq_some_iff.mp hread
  exact congrArg some (Operator.normalize_normalize text)

theorem Condition.decodeValue_settles : Decode.Settles Condition.decodeValue id := by
  intro value result hread
  cases value with
  | object entries => cases hread
  | set members =>
      cases hread
      rfl
  | _ =>
      cases hread
      rfl

namespace ConditionTree

theorem decodeTags_settles : Decode.Settles decodeTags .set := by
  intro value tags hread
  obtain ⟨texts, -, rfl⟩ := Option.map_eq_some_iff.mp hread
  have hitems : Decode.items Decode.text (.set (sortedSet texts)) = some (sortedSet texts) :=
    Decode.mapM_readsBack fun text _ => Decode.text_readsBack text
  rw [Decode.ReadsBack, decodeTags, hitems, Option.map_some, sortedSet_sortedSet]

theorem decodeTags_nil : Decode.ReadsBack decodeTags .set [] := by
  simp [Decode.ReadsBack, decodeTags, Decode.items, Decode.listed?, sortedSet]

theorem decodeConjunction_readsBack (conjunction : Conjunction) :
    Decode.ReadsBack decodeConjunction (fun c => .str c.word) conjunction := by
  cases conjunction <;> rfl

/-- The fields of the document of a condition. -/
theorem ofEntries?_encode {condition : Condition}
    (hop : Decode.ReadsBack Condition.decodeOp .str condition.op)
    (hvalue : Decode.ReadsBack Condition.decodeValue id condition.value) :
    Condition.ofEntries?
        [("field", .str condition.field), ("op", .str condition.op), ("value", condition.value)] =
      some condition := by
  have hvalue : Condition.decodeValue condition.value = some condition.value := hvalue
  simp [Condition.ofEntries?, Decode.required, Decode.defaulted, Entries.find?, Decode.text,
    Value.text?, hop, hvalue]

/-- The document of a condition is a member that is this condition. -/
theorem readMember?_encode_condition {condition : Condition}
    (h : Condition.ofEntries?
        [("field", .str condition.field), ("op", .str condition.op), ("value", condition.value)] =
      some condition) :
    readMember? (encode (.condition condition)) = some ⟨.condition condition, 3⟩ := by
  simp [encode, Condition.encode, readMember?, conditionReading?, h, Condition.givenFields,
    Entries.contains, Entries.find?, readMembersOf?, groupReading?, Decode.defaulted,
    givenGroupFields, Reading.better?]

/-- The document of a group is a member that is this group where its members are read back. -/
theorem readMember?_encode_group {conjunction : Conjunction} {readings : List Reading}
    {tags : List String}
    (hmembers : readMembers? (encodeAll (readings.map (·.tree))) = some readings)
    (htags : Decode.ReadsBack decodeTags .set tags) :
    readMember? (encode (.group conjunction (readings.map (·.tree)) tags)) =
      some ⟨.group conjunction (readings.map (·.tree)) tags,
        3 + readings.foldl (fun total member => total + member.fields) 0⟩ := by
  have hconjunction := decodeConjunction_readsBack conjunction
  simp [encode, readMember?, conditionReading?, Condition.ofEntries?, Decode.required,
    Entries.find?, readMembersOf?, hmembers, groupReading?, Decode.defaulted, hconjunction, htags,
    Reading.better?, givenGroupFields, Entries.contains]

/-- The better of two readings is one of them. -/
theorem eq_or_eq_of_better? {first second : Option Reading} {reading : Reading}
    (h : Reading.better? first second = some reading) :
    first = some reading ∨ second = some reading := by
  cases first with
  | none => exact .inr h
  | some first =>
      cases second with
      | none => exact .inl h
      | some second =>
          simp only [Reading.better?, Option.some.injEq] at h ⊢
          split at h
          · exact .inr h
          · exact .inl h

theorem groupReading?_eq_some {entries : Entries Value} {members : List Reading}
    {reading : Reading} (h : groupReading? entries members = some reading) :
    ∃ conjunction tags, reading.tree = .group conjunction (members.map (·.tree)) tags ∧
      Decode.ReadsBack decodeTags .set tags := by
  obtain ⟨conjunction, -, h⟩ := Option.bind_eq_some_iff.mp h
  obtain ⟨tags, htags, h⟩ := Option.bind_eq_some_iff.mp h
  cases h
  exact ⟨conjunction, tags, rfl, decodeTags_settles.defaulted decodeTags_nil htags⟩

theorem conditionReading?_eq_some {entries : Entries Value} {reading : Reading}
    (h : conditionReading? entries = some reading) :
    ∃ condition, reading.tree = .condition condition ∧
      Decode.ReadsBack Condition.decodeOp .str condition.op ∧
      Decode.ReadsBack Condition.decodeValue id condition.value := by
  obtain ⟨condition, hcondition, rfl⟩ := Option.map_eq_some_iff.mp h
  obtain ⟨field, -, h⟩ := Option.bind_eq_some_iff.mp hcondition
  obtain ⟨op, hop, h⟩ := Option.bind_eq_some_iff.mp h
  obtain ⟨value, hvalue, h⟩ := Option.bind_eq_some_iff.mp h
  cases h
  exact ⟨_, rfl, Condition.decodeOp_settles.defaulted rfl hop,
    Condition.decodeValue_settles.defaulted rfl hvalue⟩

-- By recursion along the reading itself: its document may have more fields than what was read, so
-- that only the trees of the two readings agree, not the numbers of fields that they use.
mutual

/-- What a member was read as is read back. -/
theorem readMember?_encode : ∀ {value : Value} {reading : Reading},
    readMember? value = some reading →
      ∃ fields, readMember? reading.tree.encode = some ⟨reading.tree, fields⟩
  | .object entries, reading, h => by
    rw [readMember?] at h
    rcases eq_or_eq_of_better? h with hcondition | hgroup
    · obtain ⟨condition, htree, hop, hvalue⟩ := conditionReading?_eq_some hcondition
      rw [htree]
      exact ⟨3, readMember?_encode_condition (ofEntries?_encode hop hvalue)⟩
    · obtain ⟨readings, hreadings, hgroup⟩ := Option.bind_eq_some_iff.mp hgroup
      obtain ⟨conjunction, tags, htree, htags⟩ := groupReading?_eq_some hgroup
      obtain ⟨again, hagain, htrees⟩ := readMembersOf?_encodeAll hreadings
      rw [htree, ← htrees]
      rw [← htrees] at hagain
      exact ⟨_, readMember?_encode_group hagain htags⟩
  | .null, _, h | .bool _, _, h | .int _, _, h | .float _, _, h | .str _, _, h | .list _, _, h
  | .tuple _, _, h | .set _, _, h => by cases h

theorem readMembers?_encodeAll : ∀ {values : List Value} {readings : List Reading},
    readMembers? values = some readings →
      ∃ again, readMembers? (encodeAll (readings.map (·.tree))) = some again ∧
        again.map (·.tree) = readings.map (·.tree)
  | [], readings, h => by
    cases h
    exact ⟨[], rfl, rfl⟩
  | value :: rest, readings, h => by
    rw [readMembers?] at h
    obtain ⟨reading, hreading, h⟩ := Option.bind_eq_some_iff.mp h
    obtain ⟨others, hothers, h⟩ := Option.bind_eq_some_iff.mp h
    cases h
    obtain ⟨fields, hback⟩ := readMember?_encode hreading
    obtain ⟨again, hagain, htrees⟩ := readMembers?_encodeAll hothers
    refine ⟨⟨reading.tree, fields⟩ :: again, ?_, by simp [htrees]⟩
    simp [encodeAll, readMembers?, hback, hagain]

theorem readMembersOf?_encodeAll : ∀ {entries : List (String × Value)} {readings : List Reading},
    readMembersOf? entries = some readings →
      ∃ again, readMembers? (encodeAll (readings.map (·.tree))) = some again ∧
        again.map (·.tree) = readings.map (·.tree)
  | [], readings, h => by
    cases h
    exact ⟨[], rfl, rfl⟩
  | (name, value) :: rest, readings, h => by
    unfold readMembersOf? at h
    split at h
    · split at h
      · exact readMembers?_encodeAll h
      · exact readMembers?_encodeAll h
      · cases h
        exact ⟨[], rfl, rfl⟩
      · cases h
    · exact readMembersOf?_encodeAll h

end

end ConditionTree

theorem ConditionGroup.eq_of_shallow? {group result : ConditionGroup}
    (h : shallow? group = some result) : result = group := by
  unfold shallow? at h
  split at h
  · cases h
    rfl
  · cases h

/-- The conditions of a query are read back. -/
theorem ConditionGroup.decode?_settles :
    Decode.Settles ConditionGroup.decode? ConditionGroup.encode := by
  intro value group hread
  obtain ⟨entries, -, hread⟩ := Option.bind_eq_some_iff.mp hread
  obtain ⟨readings, hreadings, hread⟩ := Option.bind_eq_some_iff.mp hread
  obtain ⟨conjunction, -, hread⟩ := Option.bind_eq_some_iff.mp hread
  obtain ⟨tags, htags, hread⟩ := Option.bind_eq_some_iff.mp hread
  obtain ⟨again, hagain, htrees⟩ := ConditionTree.readMembersOf?_encodeAll hreadings
  have htags := ConditionTree.decodeTags_settles.defaulted ConditionTree.decodeTags_nil htags
  have hconjunction := ConditionTree.decodeConjunction_readsBack conjunction
  obtain rfl := eq_of_shallow? hread
  simp [Decode.ReadsBack, ConditionGroup.decode?, ConditionGroup.encode, ConditionTree.ofGroup,
    ConditionTree.encode, Value.entries?, ConditionTree.readMembersOf?, hagain, htrees,
    Decode.defaulted, Entries.find?, hconjunction, htags, hread]

theorem ConditionGroup.empty_readsBack : Decode.ReadsBack ConditionGroup.decode? encode {} := by
  have htags := ConditionTree.decodeTags_nil
  have hconjunction := ConditionTree.decodeConjunction_readsBack .and
  simp [Decode.ReadsBack, ConditionGroup.decode?, ConditionGroup.encode, ConditionTree.ofGroup,
    ConditionTree.encode, ConditionTree.encodeAll, Value.entries?, ConditionTree.readMembersOf?,
    ConditionTree.readMembers?, Decode.defaulted, Entries.find?, hconjunction, htags, shallow?,
    ConditionTree.depth, ConditionTree.depthOfAll, Decode.nestingLimit]

namespace KeyTerm

theorem decodeTermsOf?_encode {terms : List KeyTerm} {conjunction : Conjunction} {negation : Bool}
    (hterms : decodeAll? (encodeAll terms) = some terms) :
    (decodeTermsOf?
        [("terms", .list (encodeAll terms)), ("conjunction", .str conjunction.word),
          ("negation", .bool negation)]).bind
      (groupOf?
        [("terms", .list (encodeAll terms)), ("conjunction", .str conjunction.word),
          ("negation", .bool negation)]) =
      some { terms, conjunction, negation } := by
  have hconjunction := ConditionTree.decodeConjunction_readsBack conjunction
  simp [decodeTermsOf?, hterms, groupOf?, Decode.defaulted, Entries.find?, hconjunction,
    Decode.flag]

theorem decodeAll?_terms (texts : List String) :
    decodeAll? (encodeAll (texts.map .term)) = some (texts.map .term) := by
  induction texts with
  | nil => rfl
  | cons text rest ih => simp [encodeAll, encode, decodeAll?, decode?, ih]

theorem groupOf?_eq_some {entries : Entries Value} {terms : List KeyTerm} {keys : FullTextKeys}
    (h : groupOf? entries terms = some keys) : keys.terms = terms := by
  obtain ⟨conjunction, -, h⟩ := Option.bind_eq_some_iff.mp h
  obtain ⟨negation, -, h⟩ := Option.bind_eq_some_iff.mp h
  cases h
  rfl

mutual

/-- What a term was read as is read back. -/
theorem decode?_encode : ∀ {value : Value} {result : KeyTerm},
    decode? value = some result → decode? result.encode = some result
  | .str text, result, h => by
    cases h
    rfl
  | .object entries, result, h => by
    rw [decode?] at h
    obtain ⟨keys, hkeys, h⟩ := Option.bind_eq_some_iff.mp h
    obtain ⟨terms, hterms, hgroup⟩ := Option.bind_eq_some_iff.mp hkeys
    cases h
    have hback := decodeTermsOf?_encodeAll hterms
    rw [← groupOf?_eq_some hgroup] at hback
    rw [ofKeys, encode, decode?, decodeTermsOf?_encode hback]
    rfl
  | .null, _, h | .bool _, _, h | .int _, _, h | .float _, _, h | .list _, _, h
  | .tuple _, _, h | .set _, _, h => by cases h

theorem decodeAll?_encodeAll : ∀ {values : List Value} {terms : List KeyTerm},
    decodeAll? values = some terms → decodeAll? (encodeAll terms) = some terms
  | [], terms, h => by
    cases h
    rfl
  | value :: rest, terms, h => by
    rw [decodeAll?] at h
    obtain ⟨result, hresult, h⟩ := Option.bind_eq_some_iff.mp h
    obtain ⟨others, hothers, h⟩ := Option.bind_eq_some_iff.mp h
    cases h
    simp [encodeAll, decodeAll?, decode?_encode hresult, decodeAll?_encodeAll hothers]

theorem decodeTermsOf?_encodeAll : ∀ {entries : List (String × Value)} {terms : List KeyTerm},
    decodeTermsOf? entries = some terms → decodeAll? (encodeAll terms) = some terms
  | [], terms, h => by
    cases h
    rfl
  | (name, value) :: rest, terms, h => by
    unfold decodeTermsOf? at h
    split at h
    · split at h
      · exact decodeAll?_encodeAll h
      · exact decodeAll?_encodeAll h
      · cases h
        exact decodeAll?_terms _
      · cases h
    · exact decodeTermsOf?_encodeAll h

end

end KeyTerm

namespace FullTextKeys

theorem eq_of_shallow? {keys result : FullTextKeys} (h : shallow? keys = some result) :
    result = keys := by
  unfold shallow? at h
  split at h
  · cases h
    rfl
  · cases h

/-- A group of keys whose terms are read back is read back unless it nests too deep. -/
theorem decode?_encode {keys : FullTextKeys}
    (hterms : KeyTerm.decodeAll? (KeyTerm.encodeAll keys.terms) = some keys.terms)
    (hdepth : shallow? keys = some keys) : Decode.ReadsBack decode? encode keys := by
  obtain ⟨terms, hdecoded, hgroup⟩ := Option.bind_eq_some_iff.mp
    (@KeyTerm.decodeTermsOf?_encode keys.terms keys.conjunction keys.negation hterms)
  simp only [Decode.ReadsBack, decode?, encode, KeyTerm.ofKeys, KeyTerm.encode, Value.entries?,
    Option.bind_eq_bind, Option.bind_some, hdecoded, hgroup]
  exact hdepth

theorem decode?_settles : Decode.Settles decode? encode := by
  intro value keys hread
  obtain ⟨entries, -, hread⟩ := Option.bind_eq_some_iff.mp hread
  obtain ⟨terms, hterms, hread⟩ := Option.bind_eq_some_iff.mp hread
  obtain ⟨group, hgroup, hdepth⟩ := Option.bind_eq_some_iff.mp hread
  obtain rfl := eq_of_shallow? hdepth
  have hback := KeyTerm.decodeTermsOf?_encodeAll hterms
  rw [← KeyTerm.groupOf?_eq_some hgroup] at hback
  exact decode?_encode hback hdepth

theorem ofItems?_readsBack {items : List Value} {keys : FullTextKeys}
    (h : ofItems? items = some keys) : Decode.ReadsBack decode? encode keys := by
  obtain ⟨terms, hterms, hdepth⟩ := Option.bind_eq_some_iff.mp h
  obtain rfl := eq_of_shallow? hdepth
  exact decode?_encode (KeyTerm.decodeAll?_encodeAll hterms) hdepth

end FullTextKeys

namespace QueryKeys

theorem group_readsBack {keys : FullTextKeys}
    (h : Decode.ReadsBack FullTextKeys.decode? FullTextKeys.encode keys) :
    Decode.ReadsBack decode? encode (.group keys) :=
  congrArg (Option.map QueryKeys.group) h

/-- The keys of a query are read back as a text or as a group. -/
theorem decode?_settles : Decode.Settles decode? encode := by
  intro value keys hread
  unfold decode? at hread
  split at hread
  · cases hread
    rfl
  · obtain ⟨group, hgroup, rfl⟩ := Option.map_eq_some_iff.mp hread
    exact group_readsBack (FullTextKeys.ofItems?_readsBack hgroup)
  · obtain ⟨group, hgroup, rfl⟩ := Option.map_eq_some_iff.mp hread
    exact group_readsBack (FullTextKeys.ofItems?_readsBack hgroup)
  · obtain ⟨group, hgroup, rfl⟩ := Option.map_eq_some_iff.mp hread
    exact group_readsBack (FullTextKeys.decode?_settles _ _ hgroup)

end QueryKeys

end FacetedSearch
