import FacetedSearch.Proofs.TreeReadBack

/-!
Queries are read back from their documents: reading settles each field of a query, so that a query
that was read once is read again, unchanged, from the document it gives.
-/

namespace FacetedSearch

open Decode

theorem ParseMode.decode?_readsBack (mode : ParseMode) :
    ReadsBack ParseMode.decode? (fun mode => .str mode.word) mode := by
  cases mode <;> rfl

theorem SortDirection.decode?_readsBack (direction : SortDirection) :
    ReadsBack SortDirection.decode? (fun direction => .str direction.word) direction := by
  cases direction <;> rfl

theorem FacetKind.decode?_readsBack (kind : FacetKind) :
    ReadsBack FacetKind.decode? (fun kind => .str kind.word) kind := by
  cases kind <;> rfl

theorem FacetOperator.decode?_readsBack (operator : FacetOperator) :
    ReadsBack FacetOperator.decode? (fun operator => .str operator.word) operator := by
  cases operator <;> rfl

namespace Decode

theorem text_settles : Settles Decode.text .str := .of_forall text_readsBack

theorem optional_text_settles : Settles (optional Decode.text) (Value.nullable .str) :=
  text_settles.optional fun _ h => by cases h

theorem optional_whole_settles : Settles (optional whole) (Value.nullable .int) :=
  (Settles.of_forall whole_readsBack).optional fun _ h => by cases h

theorem optional_flag_settles : Settles (optional flag) (Value.nullable .bool) :=
  (Settles.of_forall flag_readsBack).optional fun _ h => by cases h

theorem texts_settles : Settles (items Decode.text) SearchQuery.encodeTexts := text_settles.items

theorem optional_texts_settles :
    Settles (optional (items Decode.text)) (Value.nullable SearchQuery.encodeTexts) :=
  texts_settles.optional fun _ h => by cases h

theorem anythings_readsBack (values : List Value) : ReadsBack (items anything) .list values := by
  have h := mapM_readsBack fun value (_ : value ∈ values) => anything_readsBack value
  rwa [List.map_id] at h

end Decode

namespace NestedFacetOptions

theorem decodeScalar_settles : Settles decodeScalar id := by
  intro value result hread
  cases value <;> cases hread <;> rfl

theorem decode?_settles : Settles decode? encode := by
  intro value options hread
  obtain ⟨entries, -, hread⟩ := Option.bind_eq_some_iff.mp hread
  obtain ⟨path, hpath, hread⟩ := Option.bind_eq_some_iff.mp hread
  obtain ⟨groupField, -, hread⟩ := Option.bind_eq_some_iff.mp hread
  obtain ⟨groupValue, hvalue, hread⟩ := Option.bind_eq_some_iff.mp hread
  cases hread
  have hpath := optional_text_settles.defaulted rfl hpath
  have hvalue : decodeScalar groupValue = some groupValue := decodeScalar_settles.required hvalue
  simp [ReadsBack, decode?, encode, Value.entries?, ofEntries?, defaulted, required, Entries.find?,
    hpath, hvalue, text_readsBack]

end NestedFacetOptions

namespace FacetRequest

theorem decodeGranularity_settles : Settles decodeGranularity fun value => value := by
  intro value result hread
  cases value <;> cases hread <;> rfl

theorem decode?_settles : Settles decode? encode := by
  intro value facet hread
  obtain ⟨entries, -, hread⟩ := Option.bind_eq_some_iff.mp hread
  obtain ⟨id, -, hread⟩ := Option.bind_eq_some_iff.mp hread
  obtain ⟨field, -, hread⟩ := Option.bind_eq_some_iff.mp hread
  obtain ⟨kind, -, hread⟩ := Option.bind_eq_some_iff.mp hread
  obtain ⟨operator, -, hread⟩ := Option.bind_eq_some_iff.mp hread
  obtain ⟨limit, -, hread⟩ := Option.bind_eq_some_iff.mp hread
  obtain ⟨minCount, -, hread⟩ := Option.bind_eq_some_iff.mp hread
  obtain ⟨missing, -, hread⟩ := Option.bind_eq_some_iff.mp hread
  obtain ⟨granularity, hgranularity, hread⟩ := Option.bind_eq_some_iff.mp hread
  obtain ⟨dateDisplay, hdisplay, hread⟩ := Option.bind_eq_some_iff.mp hread
  obtain ⟨minValue, -, hread⟩ := Option.bind_eq_some_iff.mp hread
  obtain ⟨maxValue, -, hread⟩ := Option.bind_eq_some_iff.mp hread
  obtain ⟨activeValues, -, hread⟩ := Option.bind_eq_some_iff.mp hread
  obtain ⟨exclude, -, hread⟩ := Option.bind_eq_some_iff.mp hread
  obtain ⟨nested, hnested, hread⟩ := Option.bind_eq_some_iff.mp hread
  cases hread
  have hkind := FacetKind.decode?_readsBack kind
  have hoperator := FacetOperator.decode?_readsBack operator
  have hgranularity : decodeGranularity granularity = some granularity :=
    decodeGranularity_settles.defaulted rfl hgranularity
  have hdisplay := optional_flag_settles.defaulted rfl hdisplay
  have hactive : items some (.list activeValues) = some activeValues :=
    anythings_readsBack activeValues
  have hnested : ReadsBack (optional NestedFacetOptions.decode?)
      (Value.nullable NestedFacetOptions.encode) nested :=
    (NestedFacetOptions.decode?_settles.optional fun _ h => by cases h).defaulted rfl hnested
  simp [ReadsBack, decode?, encode, Value.entries?, ofEntries?, defaulted, required, Entries.find?,
    text_readsBack, whole_readsBack, flag_readsBack, anything, hkind, hoperator, hgranularity,
    hdisplay, hactive, hnested]

end FacetRequest

theorem SortSpec.decode?_settles : Settles SortSpec.decode? SortSpec.encode := by
  intro value spec hread
  obtain ⟨entries, -, hread⟩ := Option.bind_eq_some_iff.mp hread
  obtain ⟨field, -, hread⟩ := Option.bind_eq_some_iff.mp hread
  obtain ⟨direction, -, hread⟩ := Option.bind_eq_some_iff.mp hread
  cases hread
  have hdirection := SortDirection.decode?_readsBack direction
  simp [ReadsBack, decode?, encode, Value.entries?, defaulted, required, Entries.find?,
    text_readsBack, hdirection]

theorem MoreLikeThisRequest.decode?_settles :
    Settles MoreLikeThisRequest.decode? MoreLikeThisRequest.encode := by
  intro value request hread
  obtain ⟨entries, -, hread⟩ := Option.bind_eq_some_iff.mp hread
  obtain ⟨id, -, hread⟩ := Option.bind_eq_some_iff.mp hread
  obtain ⟨fields, hfields, hread⟩ := Option.bind_eq_some_iff.mp hread
  obtain ⟨translatable, -, hread⟩ := Option.bind_eq_some_iff.mp hread
  obtain ⟨translations, htranslations, hread⟩ := Option.bind_eq_some_iff.mp hread
  obtain ⟨defaultId, hdefault, hread⟩ := Option.bind_eq_some_iff.mp hread
  cases hread
  have hfields : items Decode.text (.list (fields.map .str)) = some fields :=
    texts_settles.defaulted rfl hfields
  have htranslations := text_settles.dictionary.defaulted rfl htranslations
  have hdefault := optional_text_settles.defaulted rfl hdefault
  simp [ReadsBack, decode?, encode, Value.entries?, defaulted, required, Entries.find?,
    text_readsBack, flag_readsBack, hfields, htranslations, hdefault]

theorem AutocompleteRequest.decode?_settles :
    Settles AutocompleteRequest.decode? AutocompleteRequest.encode := by
  intro value request hread
  obtain ⟨entries, -, hread⟩ := Option.bind_eq_some_iff.mp hread
  obtain ⟨field, -, hread⟩ := Option.bind_eq_some_iff.mp hread
  obtain ⟨userInput, -, hread⟩ := Option.bind_eq_some_iff.mp hread
  obtain ⟨incompleteKey, hkey, hread⟩ := Option.bind_eq_some_iff.mp hread
  obtain ⟨limit, -, hread⟩ := Option.bind_eq_some_iff.mp hread
  obtain ⟨liveResults, -, hread⟩ := Option.bind_eq_some_iff.mp hread
  cases hread
  have hkey := optional_text_settles.defaulted rfl hkey
  simp [ReadsBack, decode?, encode, Value.entries?, defaulted, required, Entries.find?,
    text_readsBack, whole_readsBack, hkey]

namespace SearchQuery

/-- A query that was read from any value is read back from its own document. -/
theorem readsBack_of_decode? {value : Value} {query : SearchQuery}
    (hread : decode? value = some query) : decode? query.encode = some query := by
  obtain ⟨entries, -, hread⟩ := Option.bind_eq_some_iff.mp hread
  obtain ⟨collection, hcollection, hread⟩ := Option.bind_eq_some_iff.mp hread
  obtain ⟨conditions, hconditions, hread⟩ := Option.bind_eq_some_iff.mp hread
  obtain ⟨keys, hkeys, hread⟩ := Option.bind_eq_some_iff.mp hread
  obtain ⟨parseMode, -, hread⟩ := Option.bind_eq_some_iff.mp hread
  obtain ⟨originalKeys, horiginal, hread⟩ := Option.bind_eq_some_iff.mp hread
  obtain ⟨fulltextFields, hfulltext, hread⟩ := Option.bind_eq_some_iff.mp hread
  obtain ⟨languages, hlanguages, hread⟩ := Option.bind_eq_some_iff.mp hread
  obtain ⟨limit, hlimit, hread⟩ := Option.bind_eq_some_iff.mp hread
  obtain ⟨offset, hoffset, hread⟩ := Option.bind_eq_some_iff.mp hread
  obtain ⟨sorts, hsorts, hread⟩ := Option.bind_eq_some_iff.mp hread
  obtain ⟨facets, hfacets, hread⟩ := Option.bind_eq_some_iff.mp hread
  obtain ⟨excluded, hexcluded, hread⟩ := Option.bind_eq_some_iff.mp hread
  obtain ⟨moreLikeThis, hmoreLikeThis, hread⟩ := Option.bind_eq_some_iff.mp hread
  obtain ⟨autocomplete, hautocomplete, hread⟩ := Option.bind_eq_some_iff.mp hread
  obtain ⟨randomSeed, hseed, hread⟩ := Option.bind_eq_some_iff.mp hread
  cases hread
  have hcollection := optional_text_settles.defaulted rfl hcollection
  have hconditions : ConditionGroup.decode? conditions.encode = some conditions :=
    ConditionGroup.decode?_settles.defaulted ConditionGroup.empty_readsBack hconditions
  have hkeys : ReadsBack (optional QueryKeys.decode?) (Value.nullable QueryKeys.encode) keys :=
    (QueryKeys.decode?_settles.optional fun keys h => by cases keys <;> cases h).defaulted rfl hkeys
  have hmode := ParseMode.decode?_readsBack parseMode
  have horiginal := optional_text_settles.defaulted rfl horiginal
  have hfulltext := optional_texts_settles.defaulted rfl hfulltext
  have hlanguages := optional_texts_settles.defaulted rfl hlanguages
  have hlimit := optional_whole_settles.defaulted rfl hlimit
  have hoffset := optional_whole_settles.defaulted rfl hoffset
  have hsorts := SortSpec.decode?_settles.items.defaulted rfl hsorts
  have hfacets := FacetRequest.decode?_settles.items.defaulted rfl hfacets
  have hexcluded := texts_settles.defaulted rfl hexcluded
  have hmoreLikeThis : ReadsBack (optional MoreLikeThisRequest.decode?)
      (Value.nullable MoreLikeThisRequest.encode) moreLikeThis :=
    (MoreLikeThisRequest.decode?_settles.optional fun _ h => by cases h).defaulted rfl hmoreLikeThis
  have hautocomplete : ReadsBack (optional AutocompleteRequest.decode?)
      (Value.nullable AutocompleteRequest.encode) autocomplete :=
    (AutocompleteRequest.decode?_settles.optional fun _ h => by cases h).defaulted rfl hautocomplete
  have hseed := optional_whole_settles.defaulted rfl hseed
  simp [decode?, encode, Value.entries?, ofEntries?, defaulted, Entries.find?, hcollection,
    hconditions, hkeys, hmode, horiginal, hfulltext, hlanguages, hlimit, hoffset, hsorts, hfacets,
    hexcluded, hmoreLikeThis, hautocomplete, hseed]

/-- Conditions in forms that reading changes: words in other letter cases and blanks, tuples and
sets where lists stand, a member with fields of both forms and one that is neither. -/
def looseConditions : Value :=
  .object
    [("conjunction", .str "or"),
      ("conditions", .tuple
        [.object
            [("field", .str "size"), ("op", .str " not\tbetween "),
              ("value", .tuple [.bool true, .float (Binary64.ofInt 1)])],
          .object
            [("field", .str "color"), ("conditions", .list [.object [("field", .str "hue")]]),
              ("tags", .set ["facet:size", "facet:color"])],
          .object [("value", .str "red")]])]

def looseKeys : Value :=
  .list
    [.str "cat",
      .object
        [("conjunction", .str "or"), ("terms", .tuple [.str "dog", .object []]),
          ("negation", .str "Yes")]]

def looseQuery : Value :=
  .object
    [("keys", looseKeys), ("conditions", looseConditions), ("limit", .str " 10 "),
      ("sorts", .list [.object [("field", .str "title"), ("direction", .str "DESC")]])]

def settledConditions : ConditionGroup where
  conjunction := .or
  members :=
    [.condition
        { field := "size", op := "NOT BETWEEN",
          value := .tuple [.bool true, .float (Binary64.ofInt 1)] },
      .group .and [.condition { field := "hue" }] ["facet:color", "facet:size"],
      .group .and [] []]

def settledKeys : FullTextKeys where
  terms := [.term "cat", .group .or [.term "dog", .group .and [] false] true]

def settledQuery : SearchQuery where
  conditions := settledConditions
  keys := some (.group settledKeys)
  limit := some 10
  sorts := [{ field := "title", direction := .descending }]

theorem decode?_looseConditions :
    ConditionGroup.decode? looseConditions = some settledConditions := by
  have hword : Text.uppercase "or" = "OR" := by decide +kernel
  have hop : Operator.normalize " not\tbetween " = "NOT BETWEEN" := by decide +kernel
  have htags : sortedSet ["facet:size", "facet:color"] = ["facet:color", "facet:size"] := by
    have hne : ("facet:color" == "facet:size") = false := by decide +kernel
    have hle : ¬"facet:size" ≤ "facet:color" := by decide +kernel
    simp [sortedSet, List.eraseDups_cons, List.mergeSort, List.MergeSort.Internal.splitInTwo, hne,
      hle]
  simp [ConditionGroup.decode?, looseConditions, settledConditions, Value.entries?,
    ConditionTree.readMembersOf?, ConditionTree.readMembers?, ConditionTree.readMember?,
    ConditionTree.conditionReading?, Condition.ofEntries?, required, defaulted, Entries.find?,
    Decode.text, Value.text?, Condition.decodeOp, hop, Condition.decodeValue, Condition.givenFields,
    Entries.contains, ConditionTree.groupReading?, ConditionTree.decodeConjunction, hword,
    Conjunction.ofWord?, ConditionTree.decodeTags, items, listed?, htags,
    ConditionTree.givenGroupFields, ConditionTree.Reading.better?, ConditionGroup.shallow?,
    ConditionTree.ofGroup, ConditionTree.depth, ConditionTree.depthOfAll, nestingLimit]

theorem decode?_looseKeys : QueryKeys.decode? looseKeys = some (.group settledKeys) := by
  have hword : Text.uppercase "or" = "OR" := by decide +kernel
  have hyes : Text.lowercase "Yes" = "yes" := by decide +kernel
  simp [QueryKeys.decode?, looseKeys, settledKeys, FullTextKeys.ofItems?, KeyTerm.decodeAll?,
    KeyTerm.decode?, KeyTerm.decodeTermsOf?, KeyTerm.groupOf?, KeyTerm.ofKeys, defaulted,
    Entries.find?, ConditionTree.decodeConjunction, Decode.text, Value.text?, hword,
    Conjunction.ofWord?, flag, hyes, flagOfWord?, falseWords, trueWords, FullTextKeys.shallow?,
    KeyTerm.depth, KeyTerm.depthOfAll, nestingLimit]

theorem decode?_looseQuery : decode? looseQuery = some settledQuery := by
  have hlimit : optional whole (.str " 10 ") = some (some 10) := by
    have h : Numeral.readIntField? " 10 " = some 10 := by decide +kernel
    simp [Decode.optional, whole, h]
  have hword : Text.lowercase "DESC" = "desc" := by decide +kernel
  have hkeys : optional QueryKeys.decode? looseKeys = some (some (.group settledKeys)) :=
    congrArg (Option.map some) decode?_looseKeys
  simp [decode?, looseQuery, settledQuery, Value.entries?, ofEntries?, defaulted, required,
    Entries.find?, decode?_looseConditions, hkeys, hlimit, items, listed?, SortSpec.decode?,
    SortDirection.decode?, Decode.text, Value.text?, hword, SortDirection.ofWord?]

theorem settledQuery_readsBack :
    decode? looseQuery = some settledQuery ∧ decode? settledQuery.encode = some settledQuery :=
  ⟨decode?_looseQuery, readsBack_of_decode? decode?_looseQuery⟩

end SearchQuery

end FacetedSearch
