import FacetedSearch.Aggregation.Basic
import FacetedSearch.Aggregation.Granularity
import FacetedSearch.Catalog.Basic
import FacetedSearch.Catalog.Coercion
import FacetedSearch.Catalog.Definition
import FacetedSearch.Catalog.Field
import FacetedSearch.Clause.Basic
import FacetedSearch.Clause.Call
import FacetedSearch.Clause.Shape
import FacetedSearch.Decode
import FacetedSearch.Entries
import FacetedSearch.Fault
import FacetedSearch.FieldPath
import FacetedSearch.Hooks
import FacetedSearch.Invocation
import FacetedSearch.Json.Reader
import FacetedSearch.Json.Writer
import FacetedSearch.Lowering.Conditions
import FacetedSearch.Lowering.Facets
import FacetedSearch.Lowering.Keys
import FacetedSearch.Lowering.Query
import FacetedSearch.Model
import FacetedSearch.Model.Description
import FacetedSearch.Model.Text
import FacetedSearch.Number.Binary64
import FacetedSearch.Number.Format
import FacetedSearch.Number.Numeral
import FacetedSearch.Number.Shortest
import FacetedSearch.Proofs.AggregationAnswers
import FacetedSearch.Proofs.AwaitedCalls
import FacetedSearch.Proofs.BucketPartition
import FacetedSearch.Proofs.BucketReading
import FacetedSearch.Proofs.CatalogFields
import FacetedSearch.Proofs.CatalogResolution
import FacetedSearch.Proofs.ClauseMeaning
import FacetedSearch.Proofs.ClientLifecycle
import FacetedSearch.Proofs.Collect
import FacetedSearch.Proofs.CollectionCache
import FacetedSearch.Proofs.CollectionCatalogs
import FacetedSearch.Proofs.ComparedValues
import FacetedSearch.Proofs.Compile
import FacetedSearch.Proofs.CompletionPatterns
import FacetedSearch.Proofs.Completions
import FacetedSearch.Proofs.ConditionAcceptance
import FacetedSearch.Proofs.ConditionLowering
import FacetedSearch.Proofs.ConditionMeaning
import FacetedSearch.Proofs.ContraryConditions
import FacetedSearch.Proofs.ConvertedCalls
import FacetedSearch.Proofs.ConvertedValues
import FacetedSearch.Proofs.DeclaredFields
import FacetedSearch.Proofs.Deselection
import FacetedSearch.Proofs.DocumentMatching
import FacetedSearch.Proofs.Entries
import FacetedSearch.Proofs.FacetAnswers
import FacetedSearch.Proofs.FacetLowering
import FacetedSearch.Proofs.FacetReading
import FacetedSearch.Proofs.FieldNames
import FacetedSearch.Proofs.FieldPaths
import FacetedSearch.Proofs.FirstPlaces
import FacetedSearch.Proofs.Flattening
import FacetedSearch.Proofs.HistogramIntervals
import FacetedSearch.Proofs.HistogramTexts
import FacetedSearch.Proofs.HitPartition
import FacetedSearch.Proofs.JoinedNames
import FacetedSearch.Proofs.KeptSelections
import FacetedSearch.Proofs.KeyCoverage
import FacetedSearch.Proofs.KeyLowering
import FacetedSearch.Proofs.KeyMatches
import FacetedSearch.Proofs.KeyMeaning
import FacetedSearch.Proofs.LetterCase
import FacetedSearch.Proofs.ListedValues
import FacetedSearch.Proofs.MemberReading
import FacetedSearch.Proofs.MixedKeys
import FacetedSearch.Proofs.NameResolution
import FacetedSearch.Proofs.NestedPlacement
import FacetedSearch.Proofs.OpenBounds
import FacetedSearch.Proofs.OperatorForm
import FacetedSearch.Proofs.Outcome
import FacetedSearch.Proofs.PathSegments
import FacetedSearch.Proofs.QueryAcceptance
import FacetedSearch.Proofs.QueryExecution
import FacetedSearch.Proofs.QueryReadBack
import FacetedSearch.Proofs.RandomOrder
import FacetedSearch.Proofs.ReadBack
import FacetedSearch.Proofs.Readings
import FacetedSearch.Proofs.ResponseParts
import FacetedSearch.Proofs.ResponseReading
import FacetedSearch.Proofs.RootConjunction
import FacetedSearch.Proofs.Rounding
import FacetedSearch.Proofs.SelectionLowering
import FacetedSearch.Proofs.SelectionMeaning
import FacetedSearch.Proofs.SelfExclusion
import FacetedSearch.Proofs.SettledValues
import FacetedSearch.Proofs.SharedDefinitions
import FacetedSearch.Proofs.SimilarDocuments
import FacetedSearch.Proofs.SuggestedTexts
import FacetedSearch.Proofs.TermPatterns
import FacetedSearch.Proofs.TreeReadBack
import FacetedSearch.Proofs.WrittenTypes
import FacetedSearch.Query.Condition
import FacetedSearch.Query.Draft
import FacetedSearch.Query.Facet
import FacetedSearch.Query.Keys
import FacetedSearch.Query.Operator
import FacetedSearch.Query.Search
import FacetedSearch.Request
import FacetedSearch.Result.Basic
import FacetedSearch.Result.Bucket
import FacetedSearch.Result.Hit
import FacetedSearch.Result.Reading
import FacetedSearch.Result.Response
import FacetedSearch.Result.Suggestion
import FacetedSearch.Store.CatalogSource
import FacetedSearch.Store.Component
import FacetedSearch.Store.Conversion
import FacetedSearch.Store.DeclaredType
import FacetedSearch.Store.Loader
import FacetedSearch.Store.Manifest
import FacetedSearch.Store.Operation
import FacetedSearch.Store.PerCollection
import FacetedSearch.Store.Provider
import FacetedSearch.Store.Registry
import FacetedSearch.Text.Blank
import FacetedSearch.Text.Digit
import FacetedSearch.Text.Printable
import FacetedSearch.Text.Quoted
import FacetedSearch.Text.Split
import FacetedSearch.Text.Uppercase
import FacetedSearch.Value.Argument
import FacetedSearch.Value.Basic
import FacetedSearch.Value.Display
