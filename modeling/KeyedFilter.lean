import KeyedFilter.Text.Case
import KeyedFilter.Text.Identifier
import KeyedFilter.Text.Printable
import KeyedFilter.Text.Quoted
import KeyedFilter.Text.Pattern
import KeyedFilter.Number.Basic
import KeyedFilter.Number.Shortest
import KeyedFilter.Scalar.Conversion
import KeyedFilter.OrderedMap
import KeyedFilter.Predicate.Basic
import KeyedFilter.Predicate.Evaluation
import KeyedFilter.FilterKey
import KeyedFilter.SortClause
import KeyedFilter.Document.Matcher
import KeyedFilter.Document.Yaml
import KeyedFilter.Document.JsonText
import KeyedFilter.Request.TextReading
import KeyedFilter.Request.Discovery
import KeyedFilter.Memory
import KeyedFilter.Journal
import KeyedFilter.Diagnostics
import KeyedFilter.Schema.Basic
import KeyedFilter.Ticket
import KeyedFilter.Proofs.Number.Comparison
import KeyedFilter.Proofs.Predicate.WholeText
import KeyedFilter.Proofs.Predicate.Representation
import KeyedFilter.Proofs.Predicate.Threshold
import KeyedFilter.Proofs.SortOrder
import KeyedFilter.Proofs.FilterKey.Ambiguity
import KeyedFilter.Proofs.StableSort
import KeyedFilter.Proofs.GroupedList
import KeyedFilter.Proofs.Traversal
import KeyedFilter.Proofs.FilterPlan
import KeyedFilter.Proofs.FilterPlan.Outcome
import KeyedFilter.Proofs.Refinement
import KeyedFilter.Proofs.Conservation
import KeyedFilter.Proofs.Memory.Results
import KeyedFilter.Proofs.Memory.FilterOrder
import KeyedFilter.Proofs.Paging
import KeyedFilter.Proofs.Memory.Negation
import KeyedFilter.Proofs.Recording
import KeyedFilter.Proofs.SearchSession
import KeyedFilter.Proofs.Suppression
import KeyedFilter.Proofs.Memory.Narrowing
import KeyedFilter.Proofs.Memory.SortedSelection
import KeyedFilter.Proofs.Memory.Recast
import KeyedFilter.Proofs.Memory.Pages
import KeyedFilter.Proofs.Document.Questions
import KeyedFilter.Proofs.Request.JsonFilters
import KeyedFilter.Proofs.Request.FilterReading
import KeyedFilter.Proofs.Request.Refusal
import KeyedFilter.Proofs.Request.Discovery
import KeyedFilter.Proofs.Predicate.Mismatch
import KeyedFilter.Proofs.Document.Tags
import KeyedFilter.Proofs.Schema.Constant
import KeyedFilter.Proofs.Schema.Derivation
import KeyedFilter.Proofs.Schema.Attribute
import KeyedFilter.Proofs.Paging.Window
import KeyedFilter.Proofs.OrderedMap.History
import KeyedFilter.Proofs.Schema.Exposure
import KeyedFilter.Proofs.Number.NearestDouble
import KeyedFilter.Proofs.Number.Grammar
import KeyedFilter.Proofs.Number.Reading
import KeyedFilter.Proofs.Timestamp
