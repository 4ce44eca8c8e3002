import FacetedSearch.Proofs.Completions
import FacetedSearch.Proofs.TermPatterns

/-!
The patterns by which completions are sought. A query for completions counts the terms that a pattern
accepts, which is the text to complete followed by anything. The text is written into the pattern as
it is, so that the pattern accepts the terms that start with the text where this is verbatim, and
other ones where it has a sign of the pattern language.
-/

namespace FacetedSearch.AutocompleteRequest

open Lowering TermPattern

variable {request : AutocompleteRequest}

/-- Compiled queries for the completions of a request count, by one pattern, the terms that start
with the text to complete. -/
def SeeksStarts (request : AutocompleteRequest) : Prop :=
  ∀ setting drawn (query : SearchQuery) compiled, query.autocomplete = some request →
    compileQuery setting drawn query = .ok compiled →
    ∃ pattern, compiled.aggregations =
        [(autocompleteName,
          .completions (FieldPath.dotted request.field) pattern request.limit)] ∧
      ∀ term, Accepts pattern term ↔ request.completed.toList <+: term.toList

theorem exists_pattern_iff {compiled : CompiledQuery} {p : String → Prop}
    (h : request.Seeks request.completed compiled) :
    (∃ pattern, compiled.aggregations =
        [(autocompleteName,
          .completions (FieldPath.dotted request.field) pattern request.limit)] ∧ p pattern) ↔
      p (request.completed ++ ".*") := by
  rw [Seeks] at h
  simp [h]

/-- Queries for completions seek what starts with the text to complete exactly where the text is
verbatim. -/
theorem seeksStarts_iff (hinput : request.userInput ≠ "") :
    (∀ setting drawn, ∃ compiled, compileQuery setting drawn request.alone = .ok compiled) ∧
      (request.SeeksStarts ↔ IsVerbatim request.completed) := by
  have hcompiles := compileQuery_alone hinput
  refine ⟨hcompiles, ?_⟩
  rw [← accepts_thenAnything_iff]
  constructor
  · intro h
    obtain ⟨compiled, hcompiled⟩ := hcompiles { collection := .null, catalog := {} } .null
    have hseeks := seeks_completed rfl hinput hcompiled
    exact (exists_pattern_iff hseeks).mp (h _ _ _ _ rfl hcompiled)
  · intro h setting drawn query compiled hautocomplete hcompiled
    have hseeks := seeks_completed hautocomplete hinput hcompiled
    exact (exists_pattern_iff hseeks).mpr h

/-- Titles that go on with the last of two words, in which a sign stands that no pattern has. -/
def lastWord : AutocompleteRequest where
  field := "title"
  userInput := "new rock-n"
  incompleteKey := some "rock-n"

theorem lastWord_seeksStarts :
    lastWord.userInput ≠ "" ∧ IsVerbatim lastWord.completed ∧ lastWord.SeeksStarts :=
  ⟨by decide, by decide, (seeksStarts_iff (by decide)).2.mpr (by decide)⟩

/-- Titles that start with a name in which signs of repetition stand. -/
def signedWord : AutocompleteRequest where
  field := "title"
  userInput := "c++"

theorem signedWord_accepts_cat : Accepts (signedWord.completed ++ ".*") "cat" := by
  have hc : Denotes .repeated true ['c'] (single {'c'}) := .once (.letter rfl (by decide))
  refine ⟨_, .only (.next hc.someTimes.someTimes (.last (.anyTimes (.once .any)))), ?_⟩
  rw [← startingWith_nil]
  have hword : ['c'] ∈ single {'c'} := mem_single_iff.mpr ⟨'c', rfl, rfl⟩
  have some_of_mem : ∀ {L : Language Char}, ['c'] ∈ L → ['c'] ∈ L * KStar.kstar L := fun h =>
    Language.append_mem_mul h (Language.nil_mem_kstar _)
  exact Language.append_mem_mul (some_of_mem (some_of_mem hword))
    (mem_startingWith_iff.mpr (List.nil_prefix (l := ['a', 't'])))

/-- Asked for what starts with `c++`, the pattern accepts `cat`. -/
theorem signedWord_seeks_others :
    ∃ compiled pattern,
      compileQuery { collection := .null, catalog := {} } .null signedWord.alone = .ok compiled ∧
        compiled.aggregations =
          [(autocompleteName, .completions "title" pattern signedWord.limit)] ∧
        Accepts pattern "cat" ∧ ¬signedWord.completed.toList <+: "cat".toList := by
  have hinput : signedWord.userInput ≠ "" := by decide
  obtain ⟨compiled, hcompiled⟩ :=
    compileQuery_alone hinput { collection := .null, catalog := {} } .null
  have hseeks := seeks_completed rfl hinput hcompiled
  exact ⟨compiled, _, hcompiled, hseeks, signedWord_accepts_cat, by decide⟩

end FacetedSearch.AutocompleteRequest
