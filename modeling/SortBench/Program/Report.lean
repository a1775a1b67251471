import SortBench.Bench.Basic
import SortBench.Digest.Canonical
import SortBench.Json.Text
import SortBench.Program.Algorithm
import SortBench.Program.Spec

/-!
# Reports

A report tells what a run of a program was given and what it made of it: both lists of
values with their digests, the work done, and whether the algorithm keeps equal values in
order, where that is recorded. Its document can be limited to leading values; the size is
that of the whole result.
-/

namespace SortBench

/-- The outcome of a run. -/
structure Report where
  /-- The name of the program. -/
  name : Text
  /-- The name of the algorithm, if one was asked for. -/
  algorithm : Option Text
  /-- The values before sorting. -/
  input : List Value
  /-- The values after sorting. -/
  output : List Value
  /-- The digest of the values before sorting. -/
  inputDigest : String
  /-- The digest of the values after sorting. -/
  outputDigest : String
  /-- Whether the algorithm keeps equal values in order, where that is recorded. -/
  stable : Option Bool
  /-- The figures of the work done. -/
  figures : List (Text × Int)
  deriving DecidableEq, Repr

namespace Report

/-- The report of a run that began with the given values and ended with the given bench, or
the cause why one of the two lists has no digest. -/
def ofRun (spec : Spec) (input : List Value) (bench : Bench) : Except Fault Report :=
  match Canonical.digest input with
  | .error fault => .error fault
  | .ok inputDigest =>
    match Canonical.digest bench.values.toList with
    | .error fault => .error fault
    | .ok outputDigest =>
      .ok
        { name := spec.name
          algorithm := spec.algorithm
          input := input
          output := bench.values.toList
          inputDigest := inputDigest
          outputDigest := outputDigest
          stable := spec.algorithm.bind Algorithm.stable?
          figures := (bench.tally.getD {}).figures }

/-- The leading values up to a limit; a negative limit leaves out so many values at the end
instead. -/
def leading (limit : Option Int) (values : List Value) : List Value :=
  match limit with
  | none => values
  | some count =>
    if 0 ≤ count then values.take count.toNat
    else values.take (values.length - count.natAbs)

/-- The document of a report, its values limited, with further members before the figures. -/
def document (report : Report) (limit : Option Int)
    (further : List (Text × Json.Document)) : Json.Document :=
  let first : List (Text × Json.Document) :=
    [("name", .text report.name), ("algorithm", .ofText? report.algorithm),
      ("size", .integer report.output.length), ("input_hash", .text report.inputDigest),
      ("output_hash", .text report.outputDigest), ("stable", .ofTruth? report.stable)]
  let last : List (Text × Json.Document) :=
    [("stats", .ofFigures report.figures),
      ("input_values", Value.documents (leading limit report.input)),
      ("output_values", Value.documents (leading limit report.output))]
  .object (first ++ further ++ last)

/-- The text of a report, its values limited. The time that a run took is no part of a
report; where the text has a place for it, it says zero. -/
def text (report : Report) (limit : Option Int) : String :=
  (report.document limit [("elapsed_ms", .integer 0)]).indented

end Report

end SortBench
