import SortBench.Program.Report
import SortBench.Program.Session

/-!
# Runs of programs

A run builds the input, has it sorted if the program names an algorithm, judges the result
against the input, and reports it. Nothing of the algorithm is trusted: what it left on the
bench is compared with the input that was built before. Verifying a program means two runs
whose results have one digest.
-/

namespace SortBench

namespace Spec

/-- Sort an input with the algorithm of a program and judge the result. Without an algorithm
the input stays as it is and is not judged. -/
def sorted (registry : Registry) (spec : Spec) (input : List Value) : Except Fault Bench :=
  match spec.algorithm with
  | none => .ok (Bench.ofList input)
  | some name => registry.sortJudged name input

/-- Build the input of a program, and count the reading of its literal if there was one. -/
def build (spec : Spec) : Procedure (List Value) := do
  let session ← get
  if spec.readsLiteral then set (session.countReading spec.name)
  Procedure.ofExcept
    ((spec.input (session.readingsOf spec.name)).mapError Fault.precondition)

/-- The log entry about the work of a run. -/
def workEntry (spec : Spec) (bench : Bench) : Log.Entry :=
  let tally := bench.tally.getD {}
  { source := Log.runs
    level := .debug
    message :=
      "program=" ++ spec.name ++ " algorithm=" ++ spec.algorithm.getD "None" ++ " size=" ++
        Numeral.decimal bench.values.size ++ " comparisons=" ++
        Numeral.decimal tally.comparisons ++ " swaps=" ++ Numeral.decimal tally.swaps }

/-- Run a program and report: build its input, have it sorted and judged if an algorithm is named,
and make the digests. The first failure is that of the whole. -/
def run (registry : Registry) (spec : Spec) : Procedure Report := do
  let input ← spec.build
  let bench ← Procedure.ofExcept (spec.sorted registry input)
  Procedure.note (spec.workEntry bench)
  Procedure.ofExcept (Report.ofRun spec input bench)

/-- The log entry about a verified program. -/
def steadyEntry (spec : Spec) (digest : String) : Log.Entry :=
  { source := Log.runs
    level := .info
    message := "program=" ++ spec.name ++ " deterministic hash=" ++ digest }

/-- Run a program twice and report the first run; fail if the two results differ. They are compared
by the digests of their outputs only. -/
def verify (registry : Registry) (spec : Spec) : Procedure Report := do
  let first ← spec.run registry
  let second ← spec.run registry
  if first.outputDigest == second.outputDigest then
    Procedure.note (spec.steadyEntry first.outputDigest)
    return first
  else
    throw (.diverged spec.name first.outputDigest second.outputDigest)

end Spec

end SortBench
