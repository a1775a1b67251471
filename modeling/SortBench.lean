import SortBench.Bench.Basic
import SortBench.Bench.Operations
import SortBench.Bench.Requirements
import SortBench.Bench.Verdict
import SortBench.Binary64.Basic
import SortBench.Binary64.Rounding
import SortBench.Binary64.Shortest
import SortBench.CommandLine.Commands
import SortBench.CommandLine.Grammar
import SortBench.CommandLine.Parsing
import SortBench.CommandLine.Request
import SortBench.CommandLine.Usage
import SortBench.Digest.Canonical
import SortBench.Digest.Sha256
import SortBench.Fault.Basic
import SortBench.Fault.Precondition
import SortBench.Json.Document
import SortBench.Json.Quoted
import SortBench.Json.Reader
import SortBench.Json.Text
import SortBench.Log
import SortBench.Main
import SortBench.Numeral.Lenient
import SortBench.Numeral.Literal
import SortBench.Numeral.Written
import SortBench.Program.Algorithm
import SortBench.Program.Catalog
import SortBench.Program.Ensemble
import SortBench.Program.Report
import SortBench.Program.Run
import SortBench.Program.Sabotage
import SortBench.Program.Session
import SortBench.Program.Shared
import SortBench.Program.Smoke
import SortBench.Program.Spec
import SortBench.Program.Task
import SortBench.Proofs.Bench.Bounded
import SortBench.Proofs.Bench.Bubbled
import SortBench.Proofs.Bench.Conservation
import SortBench.Proofs.Bench.Guarded
import SortBench.Proofs.Bench.Heads
import SortBench.Proofs.Bench.Judged
import SortBench.Proofs.Bench.Ordered
import SortBench.Proofs.Bench.Partitioned
import SortBench.Proofs.Bench.Quicksorts
import SortBench.Proofs.Bench.Ranges
import SortBench.Proofs.Bench.Undefined
import SortBench.Proofs.Bench.Verdicts
import SortBench.Proofs.CommandLine.Arguments
import SortBench.Proofs.CommandLine.Attempts
import SortBench.Proofs.CommandLine.Endings
import SortBench.Proofs.CommandLine.Outcomes
import SortBench.Proofs.CommandLine.Parsing
import SortBench.Proofs.CommandLine.Seeds
import SortBench.Proofs.CommandLine.Sorting
import SortBench.Proofs.CommandLine.Verifying
import SortBench.Proofs.Digest.Agreement
import SortBench.Proofs.Digest.Conversion
import SortBench.Proofs.Digest.Distinct
import SortBench.Proofs.Digest.ReadBack
import SortBench.Proofs.Fault.Raised
import SortBench.Proofs.FrontEnds.Drawing
import SortBench.Proofs.FrontEnds.Seeding
import SortBench.Proofs.FrontEnds.Sorting
import SortBench.Proofs.Json.Fitting
import SortBench.Proofs.Json.Integers
import SortBench.Proofs.Json.ReadBack
import SortBench.Proofs.Json.Strings
import SortBench.Proofs.Json.Written
import SortBench.Proofs.Limits
import SortBench.Proofs.Numeral.Digits
import SortBench.Proofs.Numeral.Literals
import SortBench.Proofs.Numeral.ReadBack
import SortBench.Proofs.Program.Agreement
import SortBench.Proofs.Program.Algorithms
import SortBench.Proofs.Program.Apart
import SortBench.Proofs.Program.Conservation
import SortBench.Proofs.Program.Divergence
import SortBench.Proofs.Program.EndToEnd
import SortBench.Proofs.Program.Ensembles
import SortBench.Proofs.Program.Instrumented
import SortBench.Proofs.Program.Names
import SortBench.Proofs.Program.Presorted
import SortBench.Proofs.Program.Refusals
import SortBench.Proofs.Program.Runs
import SortBench.Proofs.Program.Smoke
import SortBench.Proofs.Program.Soundness
import SortBench.Proofs.Program.Steady
import SortBench.Proofs.Register.Courses
import SortBench.Proofs.Register.Draws
import SortBench.Proofs.Register.Leaps
import SortBench.Proofs.Register.Period
import SortBench.Proofs.Register.Window
import SortBench.Proofs.Service.Posted
import SortBench.Proofs.Service.Sorted
import SortBench.Proofs.Service.Statuses
import SortBench.Proofs.Settings.Checked
import SortBench.Proofs.Settings.Loading
import SortBench.Proofs.Settings.Readers
import SortBench.Proofs.Settings.Seeded
import SortBench.Proofs.Sorting.Addressed
import SortBench.Proofs.Sorting.Ascending
import SortBench.Proofs.Sorting.CallTree
import SortBench.Proofs.Sorting.Counting
import SortBench.Proofs.Sorting.Divided
import SortBench.Proofs.Sorting.Divisions
import SortBench.Proofs.Sorting.Exchanges
import SortBench.Proofs.Sorting.Fences
import SortBench.Proofs.Sorting.Heads
import SortBench.Proofs.Sorting.Inversions
import SortBench.Proofs.Sorting.Listing
import SortBench.Proofs.Sorting.Lopsided
import SortBench.Proofs.Sorting.Parted
import SortBench.Proofs.Sorting.Passes
import SortBench.Proofs.Sorting.Refused
import SortBench.Proofs.Sorting.Scripts
import SortBench.Proofs.Sorting.Settled
import SortBench.Proofs.Sorting.Stable
import SortBench.Proofs.Sorting.Steps
import SortBench.Proofs.Sorting.Tracked
import SortBench.Proofs.Value.Families
import SortBench.Proofs.Value.Marks
import SortBench.Proofs.Value.Places
import SortBench.Register.Basic
import SortBench.Register.Demand
import SortBench.Register.Generator
import SortBench.Service.Endpoints
import SortBench.Service.Fields
import SortBench.Service.Reply
import SortBench.Settings.Basic
import SortBench.Settings.EnvFile
import SortBench.Settings.Reader
import SortBench.Settings.Reference
import SortBench.Settings.Source
import SortBench.Site
import SortBench.Sorting.Bubble
import SortBench.Sorting.Comparison
import SortBench.Sorting.Outcome
import SortBench.Sorting.Partition
import SortBench.Sorting.Pending
import SortBench.Sorting.Quick
import SortBench.Sorting.Tally
import SortBench.Text.Basic
import SortBench.Text.Blank
import SortBench.Text.DecimalDigit
import SortBench.Text.Encoding
import SortBench.Text.Printable
import SortBench.Text.Quoted
import SortBench.Text.Symbol
import SortBench.Text.Uppercase
import SortBench.Value.Basic
import SortBench.Value.Conversion
import SortBench.Value.Document
import SortBench.Value.Order
import SortBench.Value.Quantity
import SortBench.Value.Sameness
