import FacetedSearch.Proofs.Readings
import FacetedSearch.Proofs.ResponseParts

/-!
Hits and their items. A hit is accepted for what it is, whatever stands beside it, and gives an item
with its flattened source, in which every declared object is also there as a whole; each hit that
is not accepted gives a warning, and the rest of the page is read as without it.
-/

namespace FacetedSearch

/-- The declared fields whose values are objects. -/
def FieldCatalog.IsObjectField (catalog : FieldCatalog) (name : String) : Prop :=
  catalog.typeOf? name = some .object ∨ catalog.typeOf? name = some .nestedObject

namespace Hit

variable {catalog : FieldCatalog} {hit : Value} {entries : Entries Value}

/-- A hit with an id, with a score that is null or a number, and with an object for its source if it
is given one. -/
structure IsAccepted (hit : Value) : Prop where
  id : (ResultItem.decodeId (hit.path ["_id"])).isSome = true
  source : (hit.path ["_source"]).isTruthy = true → (hit.path ["_source"]).isObject = true
  score : (Decode.optional Decode.real (hit.path ["_score"])).isSome = true

instance : DecidablePred IsAccepted := fun hit =>
  decidable_of_iff
    ((ResultItem.decodeId (hit.path ["_id"])).isSome = true ∧
      ((hit.path ["_source"]).isTruthy = true → (hit.path ["_source"]).isObject = true) ∧
      (Decode.optional Decode.real (hit.path ["_score"])).isSome = true)
    ⟨fun h => ⟨h.1, h.2.1, h.2.2⟩, fun h => ⟨h.id, h.source, h.score⟩⟩

/-- The source of a hit, which is empty where none is given. -/
def sourceOf (hit : Value) : Entries Value := (hit.path ["_source"]).entries?.getD []

/-- The item of an accepted hit. -/
def itemOf (catalog : FieldCatalog) (hit : Value) : ResultItem where
  id := (ResultItem.decodeId (hit.path ["_id"])).getD ""
  score := (Decode.optional Decode.real (hit.path ["_score"])).getD none
  fields := fields catalog (sourceOf hit)

/-- What is wrong with a hit that is not accepted. -/
def faultOf : Value → HitFault
  | .object entries =>
    match Entries.find? entries "_id" with
    | none => .missingId
    | some id => if (source? entries).isNone then .sourceNotAnObject id else .invalid
  | _ => .notAnObject

/-- The warning about a hit that is not accepted. -/
def warningOf (hit : Value) : String := "Skipped malformed hit: " ++ (faultOf hit).text

/-- The fields of an item hold a source: its flattened values as lists, and as a list in addition
or in place of these the whole value under each name that is declared as an object. Of several values
under one name the last counts. -/
structure HoldsSource (catalog : FieldCatalog) (source : Entries Value)
    (fields : Entries (List Value)) : Prop where
  names : fields.names.Nodup
  whole : ∀ name value, (Entries.ofList source).find? name = some value →
    catalog.IsObjectField name → fields.find? name = some value.asList
  flattened : ∀ name, (name ∈ source.names → ¬catalog.IsObjectField name) →
    fields.find? name = ((FieldPath.flatten source).find? name).map Value.asList

theorem isObjectField_iff {name : String} :
    ((catalog.typeOf? name).map FieldType.isObject).getD false = true ↔
      catalog.IsObjectField name := by
  unfold FieldCatalog.IsObjectField
  cases catalog.typeOf? name with
  | none => simp
  | some type => cases type <;> simp [FieldType.isObject]

theorem find?_fields (catalog : FieldCatalog) (source : Entries Value) (name : String) :
    (fields catalog source).find? name =
      ((if ((catalog.typeOf? name).map FieldType.isObject).getD false then
          (Entries.ofList source).find? name
        else none).or ((FieldPath.flatten source).find? name)).map Value.asList := by
  rw [fields, Entries.find?_mapValues, Entries.find?_putAll, wholeObjects,
    Entries.find?_ofList_filter fun name => ((catalog.typeOf? name).map FieldType.isObject).getD false]

theorem fields_holdsSource (catalog : FieldCatalog) (source : Entries Value) :
    HoldsSource catalog source (fields catalog source) where
  names := by
    have hflattened : (FieldPath.flatten source).names.Nodup :=
      Entries.nodup_names_putAll (show (Entries.names ([] : Entries Value)).Nodup from .nil) _
    rw [fields, Entries.names_mapValues]
    exact Entries.nodup_names_putAll hflattened _
  whole := by
    intro name value hvalue hobject
    rw [find?_fields, if_pos (isObjectField_iff.mpr hobject), hvalue, Option.some_or]
    rfl
  flattened := by
    intro name hname
    have hwhole : (if ((catalog.typeOf? name).map FieldType.isObject).getD false then
        (Entries.ofList source).find? name else none) = none := by
      split_ifs with hobject
      · apply Entries.find?_eq_none_of_not_mem
        rw [Entries.ofList, Entries.mem_names_putAll]
        rintro (hnone | hgiven)
        · cases hnone
        · exact hname hgiven (isObjectField_iff.mp hobject)
      · rfl
    rw [find?_fields, hwhole, Option.none_or]

/-- A source can be taken over where it is an object or does not count as given. -/
theorem source?_eq (entries : Entries Value) :
    source? entries =
      if ((Value.object entries).path ["_source"]).isTruthy = true →
          ((Value.object entries).path ["_source"]).isObject = true then
        some (sourceOf (.object entries))
      else none := by
  have hpath : (Value.object entries).path ["_source"] = Value.member entries "_source" := rfl
  unfold source? sourceOf Value.orElse
  rw [hpath]
  cases htruthy : (Value.member entries "_source").isTruthy with
  | true =>
      cases Value.member entries "_source" with
      | object source => rfl
      | _ => rfl
  | false =>
      rw [if_neg Bool.false_ne_true, if_pos nofun]
      cases hsource : Value.member entries "_source" with
      | object source =>
          rw [hsource] at htruthy
          have hempty : source = [] := by simpa [Value.isTruthy] using htruthy
          rw [hempty]
          rfl
      | _ => rfl

/-- What makes an object an accepted hit. -/
theorem isAccepted_object_iff :
    IsAccepted (.object entries) ↔
      (ResultItem.decodeId (Value.member entries "_id")).isSome = true ∧
        (source? entries).isSome = true ∧
        (Decode.optional Decode.real (Value.member entries "_score")).isSome = true := by
  have hsource : (source? entries).isSome = true ↔
      (((Value.object entries).path ["_source"]).isTruthy = true →
        ((Value.object entries).path ["_source"]).isObject = true) := by
    rw [source?_eq]
    split_ifs with h
    · exact iff_of_true rfl h
    · exact iff_of_false Bool.false_ne_true h
  rw [hsource, ← Value.path_object, ← Value.path_object]
  exact ⟨fun h => ⟨h.id, h.source, h.score⟩, fun h => ⟨h.1, h.2.1, h.2.2⟩⟩

/-- Each hit is read for what it is: as its item if it is accepted, else as what is wrong with it. -/
theorem read_eq (catalog : FieldCatalog) (hit : Value) :
    read catalog hit =
      if IsAccepted hit then .ok (itemOf catalog hit) else .error (faultOf hit) := by
  cases hit with
  | object entries =>
      have hitem : itemOf catalog (.object entries) =
          { id := (ResultItem.decodeId (Value.member entries "_id")).getD ""
            score := (Decode.optional Decode.real (Value.member entries "_score")).getD none
            fields := fields catalog (sourceOf (.object entries)) } := rfl
      simp only [read, faultOf, isAccepted_object_iff, hitem]
      cases hid : Entries.find? entries "_id" with
      | none =>
          have hmember : Value.member entries "_id" = .null := by rw [Value.member, hid]; rfl
          rw [hmember, if_neg (fun h => Bool.false_ne_true h.1)]
      | some id =>
          have hmember : Value.member entries "_id" = id := by rw [Value.member, hid]; rfl
          rw [hmember]
          dsimp only
          cases hsource : source? entries with
          | none => rw [if_neg (fun h => Bool.false_ne_true h.2.1)]; rfl
          | some source =>
              have hgiven : source = sourceOf (.object entries) := by
                rw [source?_eq] at hsource
                split_ifs at hsource
                exact (Option.some.inj hsource).symm
              rw [← hgiven]
              cases ResultItem.decodeId id with
              | none => rfl
              | some text =>
                  cases Decode.optional Decode.real (Value.member entries "_score") with
                  | none => rfl
                  | some score => rfl
  | _ => exact (if_neg fun h => Bool.false_ne_true h.id).symm

theorem reading_eq (catalog : FieldCatalog) (hit : Value) :
    reading catalog hit =
      if decide (¬IsAccepted hit) then .malformed (warningOf hit)
      else if true then .value (itemOf catalog hit) else .nothing := by
  unfold reading
  rw [read_eq]
  by_cases h : IsAccepted hit
  · have hmalformed : decide (¬IsAccepted hit) = false := decide_eq_false (not_not_intro h)
    rw [if_pos h, hmalformed]
    rfl
  · have hmalformed : decide (¬IsAccepted hit) = true := decide_eq_true h
    rw [if_neg h, hmalformed]
    rfl

/-- The hits of a page are in order accepted ones, which give one item each, and others, which give one
warning each; what an item holds depends on its own hit alone. -/
structure ArePartitioned (catalog : FieldCatalog) (hits : List Value) (items : List ResultItem)
    (warnings : List String) : Prop where
  accepted : items = (hits.filter (IsAccepted ·)).map (itemOf catalog)
  rejected : warnings = (hits.filter (¬IsAccepted ·)).map warningOf
  length : items.length + warnings.length = hits.length
  sources : ∀ hit ∈ hits, IsAccepted hit →
    HoldsSource catalog (sourceOf hit) (itemOf catalog hit).fields

theorem readAll_arePartitioned (catalog : FieldCatalog) (hits : List Value) :
    ArePartitioned catalog hits (readAll catalog hits).values (readAll catalog hits).warnings := by
  have hread : readAll catalog hits =
      { values := (hits.filter (IsAccepted ·)).map (itemOf catalog)
        warnings := (hits.filter (¬IsAccepted ·)).map warningOf } := by
    rw [readAll, Readings.ofList_map fun hit _ => reading_eq catalog hit]
    simp
  rw [hread]
  refine ⟨rfl, rfl, ?_, fun hit _ _ => fields_holdsSource catalog (sourceOf hit)⟩
  have hlength := hits.length_eq_length_filter_add (IsAccepted ·)
  simp only [List.length_map, decide_not]
  exact hlength.symm

end Hit

namespace ResultSet

/-- A response has a list of hits, and neither aggregations nor suggestions. -/
structure HoldsHits (response : Value) (hits : List Value) : Prop where
  hits : response.path ["hits", "hits"] = .list hits
  aggregations : response.path ["aggregations"] = .null
  suggest : response.path ["suggest"] = .null

variable {response : Value} {hits : List Value}

theorem HoldsHits.isWellShaped (h : HoldsHits response hits) : IsWellShaped response := by
  obtain ⟨entries, rfl⟩ := Lowering.exists_object_of_path h.hits nofun
  have hblock := h.hits
  rw [Value.path_cons] at hblock
  exact ⟨⟨entries, rfl⟩, .inr (Lowering.exists_object_of_path hblock nofun),
    .inr ⟨hits, h.hits⟩, .inl h.aggregations, .inl h.suggest⟩

/-- A page of hits can always be read, whatever they are, and it is partitioned into items and
warnings. -/
theorem ofResponse_partitions_hits (h : HoldsHits response hits) (catalog : FieldCatalog)
    (query : SearchQuery) :
    ∃ results, ofResponse catalog query response = .ok results ∧
      Hit.ArePartitioned catalog hits results.items results.warnings := by
  have hnull : ∀ name, response.path ["suggest", name] = .null := by
    intro name
    rw [Value.path_cons, h.suggest]
    rfl
  obtain ⟨results, hresults, hitems, -, hwarnings⟩ :=
    ofResponse_uncounted h.isWellShaped h.aggregations (hnull _) catalog query
  rw [h.hits] at hitems hwarnings
  rw [hnull] at hwarnings
  have hwalked : (Value.list hits).walked = hits := rfl
  have hsilent : (Suggestion.readAll .null).warnings = [] := rfl
  rw [hwalked] at hitems hwarnings
  rw [hsilent, List.append_nil] at hwarnings
  refine ⟨results, hresults, ?_⟩
  rw [hitems, hwarnings]
  exact Hit.readAll_arePartitioned catalog hits

def authorsCatalog : FieldCatalog where
  entries := [("author", { id := "author", type := .object })]

/-- A book, a hit without an id, something that is no hit, and a hit whose source is a text. -/
def bookHits : List Value :=
  [.object
      [("_id", .int 7), ("_source", .object
        [("title", .str "Tea"), ("author", .object [("name", .str "Ann"), ("born", .null)])])],
    .object [("_source", .object [("title", .str "Rice")])],
    .list [.str "_id"],
    .object [("_id", .str "8"), ("_source", .str "Salt")]]

def bookPage : Value := .object [("hits", .object [("total", .int 4), ("hits", .list bookHits)])]

def bookResults : ResultSet where
  total := .int 4
  items :=
    [{ id := "7"
       fields :=
         [("title", [.str "Tea"]), ("author__name", [.str "Ann"]), ("author__born", []),
           ("author", [.object [("name", .str "Ann"), ("born", .null)]])] }]
  warnings :=
    ["Skipped malformed hit: KeyError('_id')", "Skipped malformed hit: TypeError",
      "Skipped malformed hit: TypeError('Source of hit 8 is not an object')"]

theorem bookPage_partitioned :
    HoldsHits bookPage bookHits ∧ ofResponse authorsCatalog {} bookPage = .ok bookResults ∧
      Hit.ArePartitioned authorsCatalog bookHits bookResults.items bookResults.warnings := by
  have hheld : HoldsHits bookPage bookHits := ⟨rfl, rfl, rfl⟩
  have hresults : ofResponse authorsCatalog {} bookPage = .ok bookResults := rfl
  obtain ⟨results, hread, hpartition⟩ := ofResponse_partitions_hits hheld authorsCatalog {}
  obtain rfl := Except.ok.inj (hresults.symm.trans hread)
  exact ⟨hheld, hresults, hpartition⟩

end ResultSet

end FacetedSearch
