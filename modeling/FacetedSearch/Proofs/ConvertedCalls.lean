import FacetedSearch.Proofs.Entries
import FacetedSearch.Proofs.SettledArguments
import FacetedSearch.Proofs.WrittenTypes
import FacetedSearch.Store.Component

/-!
Calls with arguments that have been converted to the types of their parameters. Converting such
arguments again leaves all of them as they are, so that a provider calls its method with the very
arguments that it is given.
-/

namespace FacetedSearch

namespace DeclaredType

variable {declared other : DeclaredType} {argument result : Argument} {name : String}
  {types : Entries DeclaredType} {args results : Entries Argument}

/-- Converts the arguments that have a declared type, one after the other. -/
def convertNamed : Entries DeclaredType → Entries Argument → Outcome (Entries Argument)
  | [], args => .ok args
  | (name, declared) :: types, args =>
    match args.find? name with
    | none => convertNamed types args
    | some argument => do convertNamed types (args.put name (← declared.convert argument))

/-- Whether a type gives back the argument of a name, if there is one. -/
def GivesBack (declared : DeclaredType) (name : String) (args : Entries Argument) : Prop :=
  ∀ argument, args.find? name = some argument → declared.convert argument = .ok argument

/-- Arguments that have a declared type are converted if they are there. -/
theorem convertNamed_cons (h : convertNamed ((name, declared) :: types) args = .ok results) :
    args.find? name = none ∧ convertNamed types args = .ok results ∨
      ∃ argument result, args.find? name = some argument ∧
        declared.convert argument = .ok result ∧
          convertNamed types (args.put name result) = .ok results := by
  rw [convertNamed] at h
  cases hfind : args.find? name with
  | none =>
      rw [hfind] at h
      exact .inl ⟨rfl, h⟩
  | some argument =>
      rw [hfind] at h
      obtain ⟨result, hresult, hrest⟩ := Outcome.bind_eq_ok.mp h
      exact .inr ⟨argument, result, rfl, hresult, hrest⟩

/-- One argument alone is converted to its type. -/
theorem convertNamed_singleton (name : String) (h : declared.convert argument = .ok result) :
    convertNamed [(name, declared)] [(name, argument)] = .ok [(name, result)] := by
  simp [convertNamed, Entries.find?, Entries.put, h]

/-- Arguments that their types give back are left as they are. -/
theorem convertNamed_eq_self (h : ∀ entry ∈ types, entry.2.GivesBack entry.1 args) :
    convertNamed types args = .ok args := by
  induction types with
  | nil => rfl
  | cons entry types ih =>
      obtain ⟨name, declared⟩ := entry
      obtain ⟨hentry, htypes⟩ := List.forall_mem_cons.mp h
      rw [convertNamed]
      cases hfind : args.find? name with
      | none => exact ih htypes
      | some argument =>
          dsimp only
          rw [hentry argument hfind, Outcome.bind_ok, Entries.put_of_find? hfind]
          exact ih htypes

/-- What a type gives back, it gives back after another argument, or this one, is converted. -/
theorem GivesBack.put (h : declared.GivesBack name args) {otherName : String}
    (hargument : args.find? otherName = some argument)
    (hresult : other.convert argument = .ok result) :
    declared.GivesBack name (args.put otherName result) := by
  intro found hfound
  by_cases hname : name = otherName
  · subst hname
    rw [Entries.find?_put_self] at hfound
    cases hfound
    exact convert_after_convert (h argument hargument) hresult
  · rw [Entries.find?_put_of_ne _ _ hname] at hfound
    exact h found hfound

/-- What a type gives back, it gives back after a whole conversion. -/
theorem GivesBack.after (h : declared.GivesBack name args)
    (hresults : convertNamed types args = .ok results) : declared.GivesBack name results := by
  induction types generalizing args with
  | nil =>
      cases hresults
      exact h
  | cons entry types ih =>
      rcases convertNamed_cons hresults with ⟨-, hrest⟩ | ⟨argument, result, hfind, hresult, hrest⟩
      · exact ih h hrest
      · exact ih (h.put hfind hresult) hrest

/-- Arguments that have been converted are given back by all of their types. -/
theorem givesBack_of_convertNamed (h : convertNamed types args = .ok results) :
    ∀ entry ∈ types, entry.2.GivesBack entry.1 results := by
  -- What the first type gives back must outlast the conversions to the types behind it.
  induction types generalizing args with
  | nil => exact List.forall_mem_nil _
  | cons entry types ih =>
      obtain ⟨name, declared⟩ := entry
      rcases convertNamed_cons h with ⟨hfind, hrest⟩ | ⟨argument, result, hfind, hresult, hrest⟩
      · refine List.forall_mem_cons.mpr ⟨?_, ih hrest⟩
        have hgiven : declared.GivesBack name args := by
          intro argument hargument
          cases hfind.symm.trans hargument
        exact hgiven.after hrest
      · refine List.forall_mem_cons.mpr ⟨?_, ih hrest⟩
        have hgiven : declared.GivesBack name (args.put name result) := by
          intro found hfound
          rw [Entries.find?_put_self] at hfound
          cases hfound
          exact convert_convert hresult
        exact hgiven.after hrest

/-- Arguments that have been converted are left as they are when they are converted again. -/
theorem convertNamed_convertNamed (h : convertNamed types args = .ok results) :
    convertNamed types results = .ok results :=
  convertNamed_eq_self (givesBack_of_convertNamed h)

/-- A type that reads nothing gives back all there is. -/
theorem givesBack_of_not_readsDescriptions (hwhole : ∀ element, declared ≠ .sequence element)
    (h : declared.readsDescriptions = false) : declared.GivesBack name args := by
  intro argument _
  refine convert_eq_self hwhole ((isSettled_of_whole hwhole).mpr fun hreads => ?_)
  cases h.symm.trans hreads

end DeclaredType

namespace StoreMethod

/-- The types of the parameters of a query next to the query itself, none of which is read. What is
gathered has no type of its own. -/
def unreadTypes : Entries DeclaredType :=
  [("collection", .union [.plain, .plain]), (gatheredName, .plain)]

/-- The types of the parameters of a method. -/
def parameterTypes : StoreMethod → Entries DeclaredType
  | .close _ => [(gatheredName, .plain)]
  | _ => ("query", SearchProvider.queryType) :: unreadTypes

/-- Converts the arguments of a call to the types of the parameters. -/
def convertArguments (method : StoreMethod) (args : Entries Argument) :
    Outcome (Entries Argument) :=
  DeclaredType.convertNamed method.parameterTypes args

theorem convertArguments_close (kind : ClientKind) (args : Entries Argument) :
    (close kind).convertArguments args = .ok args := by
  apply DeclaredType.convertNamed_eq_self
  exact List.forall_mem_singleton.mpr (DeclaredType.givesBack_of_not_readsDescriptions nofun rfl)

theorem convertNamed_unreadTypes (args : Entries Argument) :
    DeclaredType.convertNamed unreadTypes args = .ok args := by
  apply DeclaredType.convertNamed_eq_self
  refine List.forall_mem_cons.mpr ⟨?_, List.forall_mem_singleton.mpr ?_⟩
  · exact DeclaredType.givesBack_of_not_readsDescriptions nofun rfl
  · exact DeclaredType.givesBack_of_not_readsDescriptions nofun rfl

/-- Only the query of a call is read; other arguments are kept. -/
theorem convertArguments_of_query {method : StoreMethod} (hmethod : ∀ kind, method ≠ .close kind)
    (args : Entries Argument) :
    method.convertArguments args = SearchProvider.convertArguments args := by
  have htypes : method.parameterTypes = ("query", SearchProvider.queryType) :: unreadTypes := by
    cases method with
    | close kind => exact absurd rfl (hmethod kind)
    | compile | query => rfl
  rw [convertArguments, htypes, DeclaredType.convertNamed, SearchProvider.convertArguments]
  cases args.find? "query" with
  | none => exact convertNamed_unreadTypes args
  | some query => simp only [convertNamed_unreadTypes, Outcome.pure_eq]

end StoreMethod

namespace SearchProvider

open DeclaredType

variable {provider : SearchProvider} {method : StoreMethod}

/-- A method is called with its arguments converted. -/
theorem invokeConverted_of_convertArguments {args converted : Entries Argument}
    (h : method.convertArguments args = .ok converted) (context : CallContext)
    (reply : ClientReply) (state : ProviderState) :
    provider.invokeConverted method context reply args state =
      provider.invoke method context reply converted state := by
  by_cases hclose : ∃ kind, method = .close kind
  · obtain ⟨kind, rfl⟩ := hclose
    rw [StoreMethod.convertArguments_close] at h
    cases h
    rfl
  · push Not at hclose
    rw [StoreMethod.convertArguments_of_query hclose] at h
    cases method with
    | close kind => exact absurd rfl (hclose kind)
    | compile | query => simp only [invokeConverted, h]

theorem run_eq {kind : ClientKind} {name : String}
    (hname : StoreMethod.ofName? kind name = some method) (context : CallContext)
    (reply : ClientReply) (args : Entries Argument) (state : ProviderState) :
    (Provider.search provider).run kind context reply { name := some name, args := some args }
        state =
      (provider.invokeConverted method context reply args state).map .response := by
  simp only [Provider.run, Option.getD_some, hname]

/-- Every type is read as it is written, and what a conversion to it returns is given back when it
is converted again: nothing is left in it that the type would read, and only such arguments are
converted to what they hold already. The arguments of a call that are converted beforehand are
therefore left as they are by the provider, which calls its method with them. -/
theorem conversion_settles :
    (∀ type : WrittenType, type.IsProper → DeclaredType.ofText type.text = type.declared) ∧
      (∀ (declared : DeclaredType) (argument result : Argument),
        declared.convert argument = .ok result →
          declared.IsSettled result ∧ declared.convert result = .ok result) ∧
      (∀ (declared : DeclaredType) (argument : Argument),
        declared.IsSettled argument ↔
          ∃ result, declared.convert argument = .ok result ∧ result.IsSame argument) ∧
      (∀ (types : Entries DeclaredType) (args converted : Entries Argument),
        convertNamed types args = .ok converted → convertNamed types converted = .ok converted) ∧
      ∀ (provider : SearchProvider) (kind : ClientKind) (name : String) (method : StoreMethod)
        (context : CallContext) (reply : ClientReply) (state : ProviderState)
        (args converted : Entries Argument),
        StoreMethod.ofName? kind name = some method →
        method.convertArguments args = .ok converted →
          let run := fun args => (Provider.search provider).run kind context reply
            { name := some name, args := some args } state
          run args = run converted ∧
            run converted =
              (provider.invoke method context reply converted state).map .response := by
  refine ⟨fun type => WrittenType.IsProper.ofText_text,
    fun declared argument result h => ⟨isSettled_of_convert h, convert_convert h⟩,
    fun declared argument => isSettled_iff,
    fun types args converted => convertNamed_convertNamed, ?_⟩
  intro provider kind name method context reply state args converted hname hconverted run
  have hrun : ∀ given, method.convertArguments given = .ok converted →
      run given = (provider.invoke method context reply converted state).map .response := by
    intro given hgiven
    rw [← invokeConverted_of_convertArguments hgiven]
    exact run_eq hname context reply given state
  have hagain : method.convertArguments converted = .ok converted :=
    convertNamed_convertNamed hconverted
  exact ⟨(hrun args hconverted).trans (hrun converted hagain).symm, hrun converted hagain⟩

/-- Lists of sorts, each of them a model or a dictionary. -/
def sortsType : WrittenType := .applied .list [.union [.named "SortSpec", .named "dict"]]

theorem sortsType_isProper : sortsType.IsProper := by
  refine .applied .list (List.forall_mem_singleton.mpr (.union (by decide) (by simp) ?_ ?_))
  · simp [WrittenType.isUnion]
  · simp only [List.forall_mem_cons]
    exact ⟨.named rfl, .named rfl, List.forall_mem_nil _⟩

def titleText : String := "\x7b\"field\": \"title\"\x7d"

theorem readModel_titleText : Argument.readModel "SortSpec" (.str titleText) =
    .ok (.model (.sortSpec { field := "title" })) := by
  have htext : Json.read .ofArguments titleText = .ok (.object [("field", .str "title")]) := by
    decide +kernel
  rw [Argument.readModel, Argument.readWith, htext]
  rfl

theorem sorts_settle :
    let declared := DeclaredType.ofText "list[SortSpec|dict]"
    let given : Argument :=
      .value (.list [.object [("field", .str "price")], .null, .str titleText])
    let sorts : Argument := .list [.model (.sortSpec { field := "price" }), .value .null,
      .model (.sortSpec { field := "title" })]
    let args : Entries Argument := [("query", .value (.object [("limit", .int 3)]))]
    let converted : Entries Argument := [("query", .model (.searchQuery { limit := some 3 }))]
    let run := fun args => (Provider.search {}).run .sync {} (.response .null)
      { name := some "query", args := some args } {}
    declared = sortsType.declared ∧
      declared.convert given = .ok sorts ∧
      (declared.IsSettled sorts ∧ declared.convert sorts = .ok sorts) ∧
      convertNamed [("sorts", declared)] [("sorts", sorts)] = .ok [("sorts", sorts)] ∧
      (StoreMethod.query .sync).convertArguments args = .ok converted ∧
      run args = run converted := by
  intro declared given sorts args converted run
  obtain ⟨hread, hsettles, -, hnamed, hrun⟩ := conversion_settles
  have htext : sortsType.text = "list[SortSpec|dict]" := by decide
  have hdeclared : declared = sortsType.declared := by
    rw [← hread sortsType sortsType_isProper, htext]
  have hconvert : declared.convert given = .ok sorts := by
    rw [hdeclared]
    refine (convert_list_eq_ok rfl).mpr ⟨_, ?_, rfl⟩
    exact .cons rfl (.cons rfl (.cons readModel_titleText .nil))
  have hgiven := convertNamed_singleton "sorts" hconvert
  have hconverted : (StoreMethod.query .sync).convertArguments args = .ok converted := rfl
  have hsettled := hsettles declared given sorts hconvert
  have hagain := hnamed [("sorts", declared)] [("sorts", given)] [("sorts", sorts)] hgiven
  obtain ⟨hsame, -⟩ :=
    hrun {} .sync "query" (.query .sync) {} (.response .null) {} args converted rfl hconverted
  exact ⟨hdeclared, hconvert, hsettled, hagain, hconverted, hsame⟩

end SearchProvider

end FacetedSearch
