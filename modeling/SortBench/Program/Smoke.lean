import SortBench.Program.Catalog
import SortBench.Program.Run

/-!
# The smoke suite

Every program of the catalog is verified in turn and the findings are printed; no failure
ends the suite. Programs that sort values of the register must all come to the same result.
The last lines tell whether everything passed.
-/

namespace SortBench.Smoke

/-- A line of sixty equal characters. -/
def rule (c : Char) : String :=
  String.ofList (List.replicate 60 c)

/-- How many leading values the suite prints. -/
def shownValues : Int := 5

/-- Whether a program sorts values of the register. Its seed and its size play no part. -/
def sortsRegister (spec : Spec) : Bool :=
  Source.ofName? spec.source == some .register && spec.algorithm.isSome

/-- What the suite has found so far. -/
structure Findings where
  /-- Whether no program has failed. -/
  passed : Bool := true
  /-- The digests of the sorted register values, by program. -/
  digests : List (Text × String) := []

/-- Verify one program and print the findings. Every fault is caught and printed, and makes the
suite fail in the end. -/
def examine (registry : Registry) (findings : Findings) (spec : Spec) : Procedure Findings := do
  Procedure.print
    ["\n" ++ rule '-',
     "  " ++ spec.name ++ "  (algorithm=" ++ spec.algorithm.getD "None" ++ ")",
     rule '-']
  match ← Procedure.outcome (spec.verify registry) with
  | .ok report =>
    Procedure.print [report.text (some shownValues), "  OK: Deterministic (hash stable)"]
    if sortsRegister spec then
      return { findings with digests := findings.digests ++ [(spec.name, report.outputDigest)] }
    else
      return findings
  | .error fault =>
    Procedure.print ["  FAIL: " ++ fault.message]
    return { findings with passed := false }

/-- Whether all digests are one. Of no digests and of one there is nothing to compare. -/
def agree : List (Text × String) → Bool
  | [] => true
  | (_, first) :: rest => rest.all fun entry => entry.2 == first

/-- Digests by program between braces. -/
def digestsText (digests : List (Text × String)) : String :=
  "\x7b" ++
    ", ".intercalate
      (digests.map fun (program, digest) => Text.quoted program ++ ": " ++ Text.quoted digest) ++
    "\x7d"

/-- Run the suite over a catalog; the answer tells whether everything passed. -/
def run (registry : Registry) (catalog : Catalog) : Procedure Bool := do
  let findings ← catalog.sorted.foldlM (examine registry) {}
  let agreed := agree findings.digests
  if !agreed then
    Procedure.print
      ["  FAIL: algorithms disagree on LFSR input: " ++ digestsText findings.digests]
  let passed := findings.passed && agreed
  Procedure.print
    ["\n" ++ rule '=',
     if passed then "  ALL SMOKE TESTS PASSED" else "  SOME TESTS FAILED",
     rule '=']
  return passed

end SortBench.Smoke
