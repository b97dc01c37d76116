import StreamPlan.Text.Letter
import StreamPlan.Text.Blank
import StreamPlan.Text.Quoted
import StreamPlan.Text.Case
import StreamPlan.Decimal.Style
import StreamPlan.Decimal.Reader
import StreamPlan.Json.Writer
import StreamPlan.Json.Reader
import StreamPlan.Json.Shape
import StreamPlan.Schema.Json
import StreamPlan.Scalar.Json
import StreamPlan.Expr.Typing
import StreamPlan.Expr.Eval
import StreamPlan.Expr.Parser
import StreamPlan.Expr.Json
import StreamPlan.Codec.Json
import StreamPlan.Config
import StreamPlan.Manifest
import StreamPlan.Ident
import StreamPlan.Plan.Builder
import StreamPlan.Plan.Explain
import StreamPlan.Topology.Json
import StreamPlan.Compile.Basic
import StreamPlan.Run.Basic
import StreamPlan.Plan.Document
import StreamPlan.CommandLine.Response
import StreamPlan.Main
import StreamPlan.Proofs.Results
import StreamPlan.Proofs.Columns
import StreamPlan.Proofs.Built
import StreamPlan.Proofs.Stages
import StreamPlan.Proofs.Compiling
import StreamPlan.Proofs.Compilation
import StreamPlan.Proofs.Acceptance
import StreamPlan.Proofs.Recording
import StreamPlan.Proofs.Handles
import StreamPlan.Proofs.Continuation
import StreamPlan.Proofs.PostOrder
import StreamPlan.Proofs.Leftovers
import StreamPlan.Proofs.ValueTypes
import StreamPlan.Proofs.Meaning
import StreamPlan.Proofs.Simulation
import StreamPlan.Proofs.RecordKeys
import StreamPlan.Proofs.JoinKeys
import StreamPlan.Proofs.Faults
import StreamPlan.Proofs.Authored
import StreamPlan.Proofs.Wiring
import StreamPlan.Proofs.TypedRuns
import StreamPlan.Proofs.InputRows
import StreamPlan.Proofs.Nulls
import StreamPlan.Proofs.Rounding
import StreamPlan.Proofs.ShortestDigits
import StreamPlan.Proofs.DecimalTexts
import StreamPlan.Proofs.JsonTexts
import StreamPlan.Proofs.Fingerprints
import StreamPlan.Proofs.Calls
import StreamPlan.Proofs.Beside
import StreamPlan.Proofs.Deliveries
import StreamPlan.Proofs.Independence
import StreamPlan.Proofs.Batches
import StreamPlan.Proofs.TableKeys
import StreamPlan.Proofs.LatestRows
import StreamPlan.Proofs.Grammar
import StreamPlan.Proofs.Reading
import StreamPlan.Proofs.Halting
import StreamPlan.Proofs.Parsing
import StreamPlan.Proofs.TokenTexts
import StreamPlan.Proofs.Printing
import StreamPlan.Compile.Context
import StreamPlan.Proofs.Contexts
import StreamPlan.Proofs.KnownColumns
import StreamPlan.Proofs.SharedTopics
import StreamPlan.Proofs.JsonReading
import StreamPlan.Proofs.JsonRoundTrip
import StreamPlan.Proofs.NotANumber
import StreamPlan.Proofs.TypeFaults
import StreamPlan.Proofs.KeyTexts
import StreamPlan.Proofs.QuotedNames
import StreamPlan.Proofs.ExactNames
import StreamPlan.Proofs.SortedObjects
import StreamPlan.Proofs.Changelogs
import StreamPlan.Proofs.Widening
import StreamPlan.Proofs.JoinColumns
import StreamPlan.Proofs.ExactIntegers
import StreamPlan.Proofs.FedRows
import StreamPlan.Proofs.LeftmostCodecs
import StreamPlan.Proofs.ReportedColumns
import StreamPlan.Proofs.Sessions
import StreamPlan.Proofs.NodeIds
import StreamPlan.Proofs.LetterCase
import StreamPlan.Proofs.RecasedTexts
import StreamPlan.Proofs.RecasedPlans
import StreamPlan.Proofs.RecasedRuns
import StreamPlan.Proofs.RecasedCalls
import StreamPlan.Proofs.ConjunctiveFilters
import StreamPlan.Proofs.Spacing
import StreamPlan.Proofs.Negations
import StreamPlan.Proofs.CanonicalNames
