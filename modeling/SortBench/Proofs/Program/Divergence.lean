import SortBench.Proofs.Digest.Distinct
import SortBench.Proofs.Program.EndToEnd

/-!
# Programs that diverge

The literal of an unsteady program may read differently in the second run of a verification. The
verification compares digests of outputs, so it sees the difference exactly when the outputs
differ: without an algorithm whenever the readings differ, and with one only when they are no
rearrangements of each other. This holds as long as SHA-256 does not collide on the two outputs.
-/

namespace SortBench

/-- One more reading of the literal of a program is counted. -/
theorem Session.readingsOf_countReading (session : Session) (program : Text) :
    (session.countReading program).readingsOf program = session.readingsOf program + 1 := by
  simp [countReading, readingsOf]

open Numeral (IsShort)

namespace Spec

/-- A run leaves the readings as building the input leaves them. Sorting and judging read
nothing. -/
theorem readings_run (registry : Registry) (spec : Spec) (session : Session) :
    ((spec.run registry).run.run session).2.readings =
      (spec.build.run.run session).2.readings := by
  unfold run
  rw [Procedure.run_bind]
  obtain ⟨outcome, between⟩ := spec.build.run.run session
  cases outcome with
  | error fault => rfl
  | ok input =>
    simp only [Procedure.run_ofExcept_bind]
    cases spec.sorted registry input with
    | error fault => rfl
    | ok bench => rfl

/-- A run of a program that reads its literal is one more reading of it. The second run of a
verification therefore has the next reading for its input, and not the same. -/
theorem readingsOf_run {spec : Spec} (reads : spec.readsLiteral = true) (registry : Registry)
    (session : Session) :
    ((spec.run registry).run.run session).2.readingsOf spec.name =
      session.readingsOf spec.name + 1 := by
  have readings := readings_run registry spec session
  rw [run_build, if_pos reads] at readings
  rw [← session.readingsOf_countReading spec.name]
  unfold Session.readingsOf
  rw [readings]

/-- Verifying compares the outcomes of two runs by their digests; the first failure counts. -/
def compared (spec : Spec) (first second : Except Fault Report) : Except Fault Report :=
  match first, second with
  | .error fault, _ => .error fault
  | .ok _, .error fault => .error fault
  | .ok report, .ok again =>
    if report.outputDigest = again.outputDigest then .ok report
    else .error (.diverged spec.name report.outputDigest again.outputDigest)

/-- Verifying a program compares a run with another one in the session that the first leaves. -/
theorem verify_compared (registry : Registry) (spec : Spec) (session : Session) :
    ((spec.verify registry).run.run session).1 =
      spec.compared ((spec.run registry).run.run session).1
        ((spec.run registry).run.run ((spec.run registry).run.run session).2).1 := by
  unfold verify
  rw [Procedure.run_bind]
  obtain ⟨outcome, between⟩ := (spec.run registry).run.run session
  cases outcome with
  | error fault => rfl
  | ok report =>
    dsimp only
    rw [Procedure.run_bind]
    obtain ⟨outcome, after⟩ := (spec.run registry).run.run between
    cases outcome with
    | error fault => rfl
    | ok again =>
      dsimp only [compared]
      simp only [beq_iff_eq]
      split
      · rfl
      · rfl

/-- What is reported of integers that were read from a literal: these, their arrangement, and the
digest of the arrangement. -/
structure Shows (spec : Spec) (given result : List Int) (report : Report) : Prop where
  /-- The input is what was read. -/
  input : report.input = given.map .integer
  /-- The output is the result. -/
  output : report.output = result.map .integer
  /-- The result arranges what was read. -/
  arranges : spec.Arranges given result
  /-- The digest is that of the result. -/
  digest : report.outputDigest = Canonical.digestOfChars (Canonical.chars result)

/-- A report of integers that were read or drawn shows their arrangement. -/
theorem shows_of_answer {spec : Spec} {given : List Int} {earlier : Nat} {report : Report}
    (built : spec.input earlier = .ok (given.map .integer))
    (answered : spec.answer .builtIn earlier = .ok report) :
    ∃ result, spec.Shows given result report := by
  obtain ⟨input, bench, again, sorted, reported⟩ := answer_eq_ok_iff.mp answered
  obtain rfl := Except.ok.inj (built.symm.trans again)
  have ending := spec.sorted_ending given
  rw [sorted] at ending
  cases ending with
  | @arranged _ result known stayed values arranges =>
    obtain ⟨input, output, _, digested⟩ := Report.ofRun_eq_ok reported
    have shown := output.trans values
    rw [shown] at digested
    exact ⟨result, input, shown, arranges, (Canonical.eq_of_digest_integer digested).2⟩

theorem input_of_reading {spec : Spec} {given : List Int} {earlier : Nat}
    (reads : spec.readsLiteral = true)
    (reading : spec.literal.reading earlier = given.map .integer) :
    spec.input earlier = .ok (given.map .integer) := by
  simp only [readsLiteral, Bool.and_eq_true, beq_iff_eq] at reads
  obtain ⟨literal, declared⟩ := reads
  unfold Spec.input
  rw [literal]
  dsimp only
  rw [if_pos declared, reading]

/-- The integers given are arranged, unless the algorithm is refused or gives up. Whether they are
short makes no difference yet: nothing is written while they are sorted. -/
theorem exists_sorted {spec : Spec} {given : List Int} (known : spec.algorithmRefusal? = none)
    (stays : ¬ spec.GivesUp given) :
    ∃ bench result, spec.sorted .builtIn (given.map .integer) = .ok bench ∧
      bench.values.toList = result.map .integer ∧ spec.Arranges given result := by
  have ending := spec.sorted_ending given
  generalize spec.sorted .builtIn (given.map .integer) = outcome at ending ⊢
  cases ending with
  | refused unknown => exact absurd (known.symm.trans unknown) (by simp)
  | exhausted _ gaveUp => exact absurd gaveUp stays
  | arranged _ _ values arranges => exact ⟨_, _, rfl, values, arranges⟩

/-- A run that reads short integers shows an arrangement of them, unless its algorithm is refused or
gives up. -/
theorem answer_of_reading {spec : Spec} {given : List Int} {earlier : Nat}
    (reads : spec.readsLiteral = true)
    (reading : spec.literal.reading earlier = given.map .integer)
    (known : spec.algorithmRefusal? = none) (stays : ¬ spec.GivesUp given)
    (short : ∀ number ∈ given, IsShort number) :
    ∃ report result, spec.answer .builtIn earlier = .ok report ∧
      spec.Shows given result report := by
  have built := input_of_reading reads reading
  obtain ⟨bench, result, sorted, values, arranges⟩ := exists_sorted known stays
  have digested := Canonical.digest_integer fun number member =>
    short number (arranges.1.subset member)
  rw [← values] at digested
  obtain ⟨report, reported⟩ :=
    Report.exists_ofRun spec (Canonical.digest_integer short) digested
  have answered := answer_eq_ok_iff.mpr ⟨_, bench, built, sorted, reported⟩
  obtain ⟨result, shown⟩ := shows_of_answer built answered
  exact ⟨report, result, answered, shown⟩

/-- A run that reads an integer that is not short fails for it, unless its algorithm is refused or
gives up. Those come first, as the digest is made last. -/
theorem answer_of_longReading {spec : Spec} {given : List Int} {earlier : Nat}
    (reads : spec.readsLiteral = true)
    (reading : spec.literal.reading earlier = given.map .integer)
    (known : spec.algorithmRefusal? = none) (stays : ¬ spec.GivesUp given)
    (long : ¬ ∀ number ∈ given, IsShort number) :
    spec.answer .builtIn earlier = .error (.unwritten Numeral.mostDigits) := by
  obtain ⟨bench, _, sorted, _⟩ := exists_sorted known stays
  unfold answer outcome
  rw [input_of_reading reads reading]
  dsimp only
  rw [sorted]
  dsimp only
  rw [ofRun_of_long spec bench long]
  rfl

/-- Two lists have one ascending rearrangement exactly if they are rearrangements of each other. -/
theorem ascending_eq_iff {first second one two : List Int} (firstPerm : one.Perm first)
    (firstOrder : one.Pairwise (· ≤ ·)) (secondPerm : two.Perm second)
    (secondOrder : two.Pairwise (· ≤ ·)) : one = two ↔ second.Perm first := by
  constructor
  · rintro rfl
    exact secondPerm.symm.trans firstPerm
  · intro rearranged
    have same : one.Perm two := firstPerm.trans (rearranged.symm.trans secondPerm.symm)
    exact same.eq_of_pairwise (fun _ _ _ _ => Int.le_antisymm) firstOrder secondOrder

/-- Two readings that no output tells apart: the same list, or rearrangements of each other if an
algorithm is named. -/
def Alike (spec : Spec) (first second : List Int) : Prop :=
  match spec.algorithm with
  | none => second = first
  | some _ => second.Perm first

/-- Two readings have one arrangement exactly if they are alike. Sorting hides the order of the
input, and hides nothing else. -/
theorem arrangements_eq_iff {spec : Spec} {first second one two : List Int}
    (firstArranged : spec.Arranges first one) (secondArranged : spec.Arranges second two) :
    one = two ↔ spec.Alike first second := by
  unfold Arranges at firstArranged secondArranged
  unfold Alike
  obtain ⟨firstPerm, firstOrder⟩ := firstArranged
  obtain ⟨secondPerm, secondOrder⟩ := secondArranged
  cases named : spec.algorithm with
  | none =>
    rw [named] at firstOrder secondOrder
    rw [firstOrder, secondOrder]
    exact eq_comm
  | some name =>
    rw [named] at firstOrder secondOrder
    exact ascending_eq_iff firstPerm firstOrder secondPerm secondOrder

/-- Two runs that show arrangements are compared by them, unless SHA-256 collides: the first report
stands exactly if the readings are alike, and otherwise its digest is the expected one. -/
theorem compared_of_shown {spec : Spec} {first second one two : List Int} {report again : Report}
    (firstShown : spec.Shows first one report) (secondShown : spec.Shows second two again)
    (apart : ¬ Sha256.Collide (Canonical.bytes one) (Canonical.bytes two)) :
    (spec.compared (.ok report) (.ok again) = .ok report ↔ spec.Alike first second) ∧
      (¬ spec.Alike first second → spec.compared (.ok report) (.ok again) =
        .error (.diverged spec.name report.outputDigest again.outputDigest)) := by
  have visible : report.outputDigest = again.outputDigest ↔ spec.Alike first second := by
    rw [firstShown.digest, secondShown.digest, Canonical.digestOfChars_eq_iff apart]
    exact arrangements_eq_iff firstShown.arranges secondShown.arranges
  dsimp only [compared]
  by_cases alike : spec.Alike first second
  · rw [if_pos (visible.mpr alike)]
    exact ⟨⟨fun _ => alike, fun _ => rfl⟩, fun distinct => absurd alike distinct⟩
  · rw [if_neg (mt visible.mp alike)]
    refine ⟨⟨?_, fun same => absurd same alike⟩, fun _ => rfl⟩
    intro answered
    cases answered

/-- Two runs of which one reads an integer that is not short are not compared at all. If it is the
second one, the first has been reported, and still the comparison fails. -/
theorem compared_of_longReading {spec : Spec} {first second : List Int} {earlier later : Nat}
    (reads : spec.readsLiteral = true)
    (firstReading : spec.literal.reading earlier = first.map .integer)
    (secondReading : spec.literal.reading later = second.map .integer)
    (known : spec.algorithmRefusal? = none)
    (firstStays : ¬ spec.GivesUp first) (secondStays : ¬ spec.GivesUp second)
    (long : ∃ number ∈ first ++ second, ¬ IsShort number) :
    spec.compared (spec.answer .builtIn earlier) (spec.answer .builtIn later) =
      .error (.unwritten Numeral.mostDigits) := by
  by_cases firstShort : ∀ number ∈ first, IsShort number
  · have secondLong : ¬ ∀ number ∈ second, IsShort number := by
      intro secondShort
      obtain ⟨number, member, isLong⟩ := long
      exact isLong (List.forall_mem_append.mpr ⟨firstShort, secondShort⟩ number member)
    obtain ⟨report, _, firstAnswer, _⟩ :=
      answer_of_reading reads firstReading known firstStays firstShort
    rw [firstAnswer, answer_of_longReading reads secondReading known secondStays secondLong]
    rfl
  · rw [answer_of_longReading reads firstReading known firstStays firstShort]
    rfl

/-- Verifying a program of the built-in registry whose literal reads as two lists of integers, one
after the other. If all of these are short, both runs are reported. Unless SHA-256 collides on their
outputs, the first report is the answer exactly if the readings are alike, and otherwise the program
is said to diverge, with the digest of the first output as the expected one and that of the second
as the actual one. If one of the integers is not short, its run has no digest to compare, and the
verification fails for that reason, whatever the readings.

So a divergence that no output shows is never reported, and one that an output shows always is,
though the readings may be of different lengths: what an algorithm forgets of its input is the order
alone.

Proof: two ascending rearrangements are one list exactly if they are rearrangements of each other,
two lists of integers have one canonical text exactly if they are one list, and SHA-256 is assumed
to keep two such texts apart. -/
theorem verify_diverging (spec : Spec) (session : Session) (first second : List Int)
    (reads : spec.readsLiteral = true)
    (firstReading : spec.literal.reading (session.readingsOf spec.name) = first.map .integer)
    (secondReading :
      spec.literal.reading (session.readingsOf spec.name + 1) = second.map .integer)
    (known : spec.algorithmRefusal? = none)
    (firstStays : ¬ spec.GivesUp first) (secondStays : ¬ spec.GivesUp second) :
    ((∀ number ∈ first ++ second, IsShort number) →
      ∃ report again one two,
        ((spec.run .builtIn).run.run session).1 = .ok report ∧ spec.Shows first one report ∧
        ((spec.run .builtIn).run.run ((spec.run .builtIn).run.run session).2).1 = .ok again ∧
          spec.Shows second two again ∧
        (¬ Sha256.Collide (Canonical.bytes one) (Canonical.bytes two) →
          (((spec.verify .builtIn).run.run session).1 = .ok report ↔ spec.Alike first second) ∧
          (¬ spec.Alike first second →
            ((spec.verify .builtIn).run.run session).1 =
              .error (.diverged spec.name report.outputDigest again.outputDigest)))) ∧
      ((∃ number ∈ first ++ second, ¬ IsShort number) →
        ((spec.verify .builtIn).run.run session).1 = .error (.unwritten Numeral.mostDigits)) := by
  have firstRun := run_answer .builtIn spec session
  have secondRun := run_answer .builtIn spec ((spec.run .builtIn).run.run session).2
  rw [readingsOf_run reads] at secondRun
  rw [verify_compared]
  constructor
  · intro short
    obtain ⟨firstShort, secondShort⟩ := List.forall_mem_append.mp short
    obtain ⟨report, one, firstAnswer, firstShown⟩ :=
      answer_of_reading reads firstReading known firstStays firstShort
    obtain ⟨again, two, secondAnswer, secondShown⟩ :=
      answer_of_reading reads secondReading known secondStays secondShort
    rw [firstRun, secondRun, firstAnswer, secondAnswer]
    exact ⟨report, again, one, two, rfl, firstShown, rfl, secondShown,
      compared_of_shown firstShown secondShown⟩
  · intro long
    rw [firstRun, secondRun]
    exact compared_of_longReading reads firstReading secondReading known firstStays secondStays long

/-- Two readings of one list that has an integer of one digit more than is written are alike, and
yet the verification answers with no report. -/
theorem verify_unwritten :
    (singleLiteral (10 ^ 4300)).Alike [10 ^ 4300] [10 ^ 4300] ∧
      (((singleLiteral (10 ^ 4300)).verify .builtIn).run.run {}).1 = .error (.unwritten 4300) := by
  have long : ¬ IsShort (10 ^ 4300) := Numeral.not_isShort_pow
  refine ⟨List.Perm.refl _, ?_⟩
  rw [verify_compared, run_singleLiteral long]
  rfl

/-- A literal of two readings: three integers, and then two of them. -/
def shrinkingLiteral : Spec :=
  { name := "shrinking"
    description := "Bubble sort over a literal that loses a value"
    source := "literal"
    size := 3
    literal := { first := [3, 1, 2].map .integer, later := [[2, 1].map .integer] }
    algorithm := some "bubble" }

/-- The shrinking literal is said to diverge: its outputs have different digests. -/
theorem verify_diverging_shrinkingLiteral :
    ∃ report again : Report,
      report.output = [1, 2, 3].map .integer ∧ again.output = [1, 2].map .integer ∧
        ((shrinkingLiteral.verify .builtIn).run.run {}).1 =
          .error (.diverged shrinkingLiteral.name report.outputDigest again.outputDigest) := by
  obtain ⟨report, again, one, two, _, firstShown, _, secondShown, verdict⟩ :=
    (verify_diverging shrinkingLiteral {} [3, 1, 2] [2, 1] (by decide) rfl rfl (by decide)
      (not_givesUp_bubble rfl _) (not_givesUp_bubble rfl _)).1 (by decide)
  have firstArranged : shrinkingLiteral.Arranges [3, 1, 2] [1, 2, 3] :=
    ⟨by decide, show List.Pairwise (· ≤ ·) [1, 2, 3] by decide⟩
  have secondArranged : shrinkingLiteral.Arranges [2, 1] [1, 2] :=
    ⟨by decide, show List.Pairwise (· ≤ ·) [1, 2] by decide⟩
  obtain rfl : one = [1, 2, 3] :=
    (arrangements_eq_iff firstShown.arranges firstArranged).mpr (List.Perm.refl _)
  obtain rfl : two = [1, 2] :=
    (arrangements_eq_iff secondShown.arranges secondArranged).mpr (List.Perm.refl _)
  refine ⟨report, again, firstShown.output, secondShown.output, (verdict ?_).2 ?_⟩
  · rintro ⟨_, same⟩
    exact absurd same (by decide +kernel)
  · intro alike
    exact absurd (List.Perm.length_eq alike) (by decide)

end Spec

end SortBench
