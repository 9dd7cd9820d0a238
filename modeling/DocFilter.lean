import DocFilter.Expansion.FilterText
import DocFilter.Script.Run
import DocFilter.Proofs.Document.Distinct
import DocFilter.Proofs.Merge.Rule
import DocFilter.Proofs.Merge.Path
import DocFilter.Proofs.Merge.Grouping
import DocFilter.Proofs.Merge.Repetition
import DocFilter.Proofs.Calls.Funnel
import DocFilter.Proofs.Negation.Reading
import DocFilter.Proofs.Negation.Successive
import DocFilter.Proofs.Negation.Classes
import DocFilter.Proofs.Negation.Fieldwise
import DocFilter.Proofs.Negation.Polarity
import DocFilter.Proofs.Merge.Exchange
import DocFilter.Proofs.Calls.Reorder
import DocFilter.Proofs.Script.History
import DocFilter.Proofs.Calls.Keys
import DocFilter.Proofs.Calls.Settling
import DocFilter.Proofs.Script.Literals
import DocFilter.Proofs.Calls.Clauses
import DocFilter.Proofs.Calls.Congruence
import DocFilter.Proofs.Calls.Vacancy
import DocFilter.Proofs.Merge.Override
import DocFilter.Proofs.Script.Refusals
import DocFilter.Proofs.Script.Conditions
import DocFilter.Proofs.Script.Snapshots
import DocFilter.Proofs.Script.Journal
import DocFilter.Proofs.Calls.Geometry
import DocFilter.Proofs.Calls.Nested
import DocFilter.Proofs.Source.Reading
import DocFilter.Proofs.Expansion.Rename
import DocFilter.Proofs.Expansion.Variants
import DocFilter.Proofs.Json.RoundTrip
import DocFilter.Proofs.Expansion.FilterText
