import SortBench.Program.Smoke
import SortBench.Proofs.Program.Divergence
import SortBench.Proofs.Program.Steady

/-!
# The verdict of the smoke suite

The suite goes through all programs, whatever it finds, so the verdict and all that is printed are
determined by what verifying each program answers. Of programs of integers each verification answers
by itself; it does not matter what was verified before.

The last test compares all programs that sort values of the register, those with different seeds or
sizes as well. Built-in algorithms do not disagree: given the same values, in whatever order, they
have one output. So where the test finds a disagreement two programs have drawn different values,
and when two have, it finds one unless SHA-256 collides on the two outputs.
-/

namespace SortBench

namespace Procedure

variable {β γ : Type}

/-- The procedure prints nothing. -/
def Quiet (procedure : Procedure β) : Prop :=
  ∀ session, (procedure.run.run session).2.printed = session.printed

/-- Printing adds to what was printed. -/
theorem run_print (texts : List Text) (session : Session) :
    (print texts).run.run session =
      (.ok (), { session with printed := session.printed ++ texts }) :=
  rfl

theorem quiet_ofExcept (outcome : Except Fault β) : (ofExcept outcome).Quiet :=
  fun _ => rfl

/-- An entry in the log is not printed. -/
theorem quiet_note (entry : Log.Entry) : (note entry).Quiet :=
  fun _ => rfl

/-- Two procedures that print nothing print nothing one after the other. -/
theorem Quiet.bind {first : Procedure β} {next : β → Procedure γ} (before : first.Quiet)
    (after : ∀ answer, (next answer).Quiet) : (first >>= next).Quiet := by
  intro session
  rw [run_bind, ← before session]
  obtain ⟨outcome, between⟩ := first.run.run session
  cases outcome with
  | ok answer => exact after answer between
  | error fault => rfl

end Procedure

namespace Spec

open Procedure (Quiet quiet_ofExcept quiet_note)

theorem quiet_build (spec : Spec) : spec.build.Quiet := by
  intro session
  rw [run_build]
  split <;> rfl

/-- A run prints nothing, so that what the suite prints is its own. -/
theorem quiet_run (registry : Registry) (spec : Spec) : (spec.run registry).Quiet := by
  unfold run
  apply spec.quiet_build.bind
  intro input
  apply (quiet_ofExcept _).bind
  intro bench
  exact (quiet_note _).bind fun _ => quiet_ofExcept _

/-- Verifying prints nothing. -/
theorem quiet_verify (registry : Registry) (spec : Spec) : (spec.verify registry).Quiet := by
  unfold verify
  apply (spec.quiet_run registry).bind
  intro first
  apply (spec.quiet_run registry).bind
  intro second
  split
  · exact (quiet_note _).bind fun _ _ => rfl
  · exact fun _ => rfl

/-- The program draws its values from the register, or its literal is a list of integers. -/
def OfIntegers (spec : Spec) : Prop :=
  spec.source = "lfsr" ∨ ∃ numbers, spec.literal = Catalog.literal numbers

/-- Every run of a program of integers answers alike, whatever was read before. -/
theorem OfIntegers.answer_eq {spec : Spec} (integers : spec.OfIntegers) (registry : Registry)
    (earlier : Nat) : spec.answer registry earlier = spec.answer registry 0 := by
  obtain source | ⟨numbers, literal⟩ := integers
  · have drawn : spec.input earlier = spec.input 0 := by
      unfold Spec.input
      rw [source]
      rfl
    unfold answer outcome
    rw [drawn]
  · have steady : spec.IsSteady := by rw [IsSteady, literal, Catalog.literal]
    exact steady.answer_eq registry earlier

end Spec

namespace Smoke

/-- What is printed before a program is verified. -/
def heading (spec : Spec) : List Text :=
  ["\n" ++ rule '-', "  " ++ spec.name ++ "  (algorithm=" ++ spec.algorithm.getD "None" ++ ")",
    rule '-']

/-- What is printed of the answer of a verification. -/
def finding : Except Fault Report → List Text
  | .ok report => [report.text (some shownValues), "  OK: Deterministic (hash stable)"]
  | .error fault => ["  FAIL: " ++ fault.message]

/-- The digest of a program that sorts values of the register and was verified. -/
def sortedDigest? (spec : Spec) : Except Fault Report → Option (Text × String)
  | .ok report => if sortsRegister spec then some (spec.name, report.outputDigest) else none
  | .error _ => none

/-- The findings after those of one more program. -/
def Findings.add (findings : Findings) (spec : Spec) : Except Fault Report → Findings
  | .ok report =>
    if sortsRegister spec then
      { findings with digests := findings.digests ++ [(spec.name, report.outputDigest)] }
    else findings
  | .error _ => { findings with passed := false }

/-- A program that is not verified is a failure, and no later program makes up for it. -/
theorem Findings.passed_add (findings : Findings) (spec : Spec) (answer : Except Fault Report) :
    (findings.add spec answer).passed = (findings.passed && answer.isOk) := by
  cases answer with
  | ok report =>
    unfold add
    cases sortsRegister spec <;> simp [Except.isOk, Except.toBool]
  | error fault => simp [add, Except.isOk, Except.toBool]

/-- The digest of a program that sorts values of the register is added. Programs that are not
verified have none to add. -/
theorem Findings.digests_add (findings : Findings) (spec : Spec) (answer : Except Fault Report) :
    (findings.add spec answer).digests =
      findings.digests ++ (sortedDigest? spec answer).toList := by
  cases answer with
  | ok report =>
    unfold add sortedDigest?
    cases sortsRegister spec <;> simp
  | error fault => simp [add, sortedDigest?]

/-- What is printed when digests do not agree. -/
def objection (digests : List (Text × String)) : List Text :=
  if agree digests then []
  else ["  FAIL: algorithms disagree on LFSR input: " ++ digestsText digests]

/-- What is printed in the end. -/
def closing (passed : Bool) : List Text :=
  ["\n" ++ rule '=', if passed then "  ALL SMOKE TESTS PASSED" else "  SOME TESTS FAILED", rule '=']

section

variable {registry : Registry} {answer : Spec → Except Fault Report}

/-- Examining a program adds what its verification answers to the findings and to what is printed. A
failure is caught, whatever it is, and goes into the findings. -/
theorem examine_run {spec : Spec} (verifies : ∀ session,
      ((spec.verify registry).run.run session).1 = answer spec)
    (findings : Findings) (session : Session) :
    ∃ after, (examine registry findings spec).run.run session =
        (.ok (findings.add spec (answer spec)), after) ∧
      after.printed = session.printed ++ (heading spec ++ finding (answer spec)) := by
  unfold examine
  rw [Procedure.run_bind, Procedure.run_print]
  dsimp only
  rw [Procedure.run_bind, Procedure.run_outcome, verifies]
  have quiet := spec.quiet_verify registry
  cases answer spec with
  | ok report =>
    dsimp only
    rw [Procedure.run_bind, Procedure.run_print]
    unfold Findings.add
    cases sortsRegister spec with
    | true =>
      refine ⟨_, rfl, ?_⟩
      simp [heading, finding, quiet _]
    | false =>
      refine ⟨_, rfl, ?_⟩
      simp [heading, finding, quiet _]
  | error fault =>
    refine ⟨_, rfl, ?_⟩
    simp [heading, finding, quiet _]

/-- Examining programs one after another adds the findings and prints them in turn. -/
theorem examine_all {specs : List Spec} (verifies : ∀ spec ∈ specs, ∀ session,
      ((spec.verify registry).run.run session).1 = answer spec)
    (findings : Findings) (session : Session) :
    ∃ found after, (specs.foldlM (examine registry) findings).run.run session =
        (.ok found, after) ∧
      found.passed = (findings.passed && specs.all fun spec => (answer spec).isOk) ∧
      found.digests =
        findings.digests ++ specs.filterMap (fun spec => sortedDigest? spec (answer spec)) ∧
      after.printed =
        session.printed ++ specs.flatMap (fun spec => heading spec ++ finding (answer spec)) := by
  induction specs generalizing findings session with
  | nil => exact ⟨findings, session, rfl, by simp, by simp, by simp⟩
  | cons spec rest inductionHypothesis =>
    obtain ⟨first, others⟩ := List.forall_mem_cons.mp verifies
    obtain ⟨between, examined, printed⟩ := examine_run first findings session
    obtain ⟨found, after, ran, passed, digests, rest⟩ :=
      inductionHypothesis others (findings.add spec (answer spec)) between
    refine ⟨found, after, ?_, ?_, ?_, ?_⟩
    · rw [List.foldlM_cons, Procedure.run_bind, examined]
      exact ran
    · rw [passed, Findings.passed_add, List.all_cons, Bool.and_assoc]
    · rw [digests, Findings.digests_add, List.append_assoc]
      cases digest : sortedDigest? spec (answer spec) <;> simp [digest]
    · rw [rest, printed, List.flatMap_cons, List.append_assoc]

/-- The suite answers and prints what the verifications of its programs answer, and after these
whether the digests agree. -/
theorem run_examined {catalog : Catalog} (verifies : ∀ spec ∈ catalog.specs, ∀ session,
      ((spec.verify registry).run.run session).1 = answer spec) (session : Session) :
    ∃ passed after, (run registry catalog).run.run session = (.ok passed, after) ∧
      passed = ((catalog.specs.all fun spec => (answer spec).isOk) &&
        agree (catalog.sorted.filterMap fun spec => sortedDigest? spec (answer spec))) ∧
      after.printed = session.printed ++
        (catalog.sorted.flatMap fun spec => heading spec ++ finding (answer spec)) ++
        objection (catalog.sorted.filterMap fun spec => sortedDigest? spec (answer spec)) ++
        closing passed := by
  have listed : catalog.sorted.Perm catalog.specs := List.mergeSort_perm _ _
  have verifiesListed : ∀ spec ∈ catalog.sorted, ∀ other,
      ((spec.verify registry).run.run other).1 = answer spec :=
    fun spec member => verifies spec (listed.mem_iff.mp member)
  obtain ⟨found, between, ran, passed, digests, printed⟩ := examine_all verifiesListed {} session
  rw [Bool.true_and, listed.all_eq] at passed
  rw [List.nil_append] at digests
  unfold run
  rw [Procedure.run_bind, ran, ← digests, ← passed]
  dsimp only
  cases agreed : agree found.digests with
  | true =>
    refine ⟨_, _, rfl, rfl, ?_⟩
    simp [objection, agreed, closing, printed]
  | false =>
    refine ⟨_, _, rfl, rfl, ?_⟩
    simp [objection, agreed, closing, printed]

end

/-- All digests are one exactly if no two of them differ. In particular none and one agree. -/
theorem agree_iff (digests : List (Text × String)) :
    agree digests = true ↔ ∀ one ∈ digests, ∀ other ∈ digests, one.2 = other.2 := by
  cases digests with
  | nil => simp [agree]
  | cons first rest =>
    simp only [agree, List.all_eq_true, beq_iff_eq]
    constructor
    · intro same
      have one : ∀ entry ∈ first :: rest, entry.2 = first.2 :=
        List.forall_mem_cons.mpr ⟨rfl, same⟩
      exact fun left leftMember right rightMember =>
        (one left leftMember).trans (one right rightMember).symm
    · intro same entry member
      exact same entry (List.mem_cons_of_mem _ member) first (List.mem_cons_self ..)

/-- What verifying a program with the built-in algorithms answers in a session. -/
def verification (session : Session) (spec : Spec) : Except Fault Report :=
  ((spec.verify .builtIn).run.run session).1

/-- Verifying programs of integers answers in every session as in a given one. So the order of the
programs in the catalog has no influence on what each of them answers. -/
theorem verification_eq {specs : List Spec} (integers : ∀ spec ∈ specs, spec.OfIntegers)
    (session : Session) : ∀ spec ∈ specs, ∀ other,
      ((spec.verify .builtIn).run.run other).1 = verification session spec := by
  intro spec member other
  have alike := (integers spec member).answer_eq .builtIn
  exact (Spec.verify_of_alike alike other).trans (Spec.verify_of_alike alike session).symm

/-- The digests that are compared, in the order of the programs. -/
def comparedDigests (session : Session) (catalog : Catalog) : List (Text × String) :=
  catalog.sorted.filterMap fun spec => sortedDigest? spec (verification session spec)

/-- A program of the catalog takes part in the comparison with its report. -/
structure TakesPart (session : Session) (catalog : Catalog) (spec : Spec) (report : Report) :
    Prop where
  /-- The program is in the catalog. -/
  listed : spec ∈ catalog.specs
  /-- It sorts values of the register. -/
  sorts : sortsRegister spec = true
  /-- Verifying it returns the report. -/
  verified : verification session spec = .ok report

/-- The digests that are compared are those of the programs that take part. -/
theorem mem_comparedDigests {session : Session} {catalog : Catalog} {entry : Text × String} :
    entry ∈ comparedDigests session catalog ↔
      ∃ spec report, TakesPart session catalog spec report ∧
        entry = (spec.name, report.outputDigest) := by
  have listed : catalog.sorted.Perm catalog.specs := List.mergeSort_perm _ _
  unfold comparedDigests
  simp only [List.mem_filterMap, listed.mem_iff]
  constructor
  · rintro ⟨spec, member, digest⟩
    unfold sortedDigest? at digest
    split at digest
    case h_1 report verified =>
      split at digest
      case isTrue sorts =>
        exact ⟨spec, report, ⟨member, sorts, verified⟩, (Option.some.inj digest).symm⟩
      case isFalse => cases digest
    case h_2 => cases digest
  · rintro ⟨spec, report, ⟨member, sorts, verified⟩, rfl⟩
    refine ⟨spec, member, ?_⟩
    rw [verified, sortedDigest?, if_pos sorts]

/-- The digests agree exactly if no two programs that take part have different ones. Which seeds and
sizes the programs have is not looked at. -/
theorem agree_comparedDigests_iff (session : Session) (catalog : Catalog) :
    agree (comparedDigests session catalog) = true ↔
      ∀ one first other second, TakesPart session catalog one first →
        TakesPart session catalog other second → first.outputDigest = second.outputDigest := by
  rw [agree_iff]
  constructor
  · intro same one first other second firstPart secondPart
    exact same _ (mem_comparedDigests.mpr ⟨one, first, firstPart, rfl⟩) _
      (mem_comparedDigests.mpr ⟨other, second, secondPart, rfl⟩)
  · intro same left leftMember right rightMember
    obtain ⟨one, first, firstPart, rfl⟩ := mem_comparedDigests.mp leftMember
    obtain ⟨other, second, secondPart, rfl⟩ := mem_comparedDigests.mp rightMember
    exact same one first other second firstPart secondPart

/-- A program sorts values of the register if that is its source and it has an algorithm. -/
theorem sortsRegister_iff {spec : Spec} :
    sortsRegister spec = true ↔ spec.source = "lfsr" ∧ ∃ name, spec.algorithm = some name := by
  have found : Source.ofName? spec.source = some .register ↔ spec.source = "lfsr" := by
    obtain ⟨source, found⟩ | ⟨source, found⟩ | ⟨_, other, found⟩ := Source.ofName?_cases spec.source
    · rw [source]
      decide
    · exact iff_of_true found source
    · simp [found, other]
  rw [← found, ← Option.isSome_iff_exists]
  simp [sortsRegister]

namespace TakesPart

variable {session : Session} {catalog : Catalog} {one other : Spec} {first second : Report}

/-- A program that takes part has drawn the successors of its seed and has them in ascending
order. -/
theorem exists_sorted (part : TakesPart session catalog one first) :
    ∃ sorted : List Int,
      first.input = (Register.successors one.seed one.size.toNat).map .integer ∧
        first.output = sorted.map .integer ∧
        sorted.Perm (Register.successors one.seed one.size.toNat) ∧ sorted.Pairwise (· ≤ ·) ∧
        first.outputDigest = Canonical.digestOfChars (Canonical.chars sorted) := by
  obtain ⟨source, name, algorithm⟩ := sortsRegister_iff.mp part.sorts
  have answered : one.answer .builtIn 0 = .ok first := by
    rw [← Spec.verify_of_alike (Spec.OfIntegers.answer_eq (Or.inl source) .builtIn) session]
    exact part.verified
  obtain ⟨_, _, refused⟩ | ⟨_, _, built⟩ := Spec.input_of_register source 0
  · rw [Spec.answer, Spec.outcome, refused] at answered
    cases answered
  · obtain ⟨sorted, shown⟩ := Spec.shows_of_answer built answered
    obtain ⟨perm, ascending⟩ := shown.arranges
    rw [algorithm] at ascending
    exact ⟨sorted, shown.input, shown.output, perm, ascending, shown.digest⟩

/-- Two programs that take part have one output exactly if they have drawn the same values, in
whatever order. Programs with different seeds or sizes will in general have drawn different ones. -/
theorem output_eq_iff (firstPart : TakesPart session catalog one first)
    (secondPart : TakesPart session catalog other second) :
    first.output = second.output ↔ first.input.Perm second.input := by
  obtain ⟨sorted, input, output, perm, ascending, _⟩ := firstPart.exists_sorted
  obtain ⟨otherSorted, otherInput, otherOutput, otherPerm, otherAscending, _⟩ :=
    secondPart.exists_sorted
  rw [input, otherInput, output, otherOutput, Value.map_integer_injective.eq_iff,
    List.map_perm_map_iff fun _ _ => Value.integer.inj, List.perm_comm]
  exact Spec.ascending_eq_iff perm ascending otherPerm otherAscending

/-- Two programs that take part have one digest if they have drawn the same values. If they have
not and still have one digest, SHA-256 collides on their outputs. -/
theorem digest_eq_iff (firstPart : TakesPart session catalog one first)
    (secondPart : TakesPart session catalog other second) :
    first.outputDigest = second.outputDigest ↔
      first.input.Perm second.input ∨ ∃ left right : List Int,
        (first.output = left.map .integer ∧ second.output = right.map .integer) ∧
          Sha256.Collide (Canonical.bytes left) (Canonical.bytes right) := by
  rw [← firstPart.output_eq_iff secondPart]
  obtain ⟨sorted, _, output, _, _, digest⟩ := firstPart.exists_sorted
  obtain ⟨otherSorted, _, otherOutput, _, _, otherDigest⟩ := secondPart.exists_sorted
  rw [output, otherOutput, digest, otherDigest, Value.map_integer_injective.eq_iff]
  constructor
  · intro same
    by_cases collide : Sha256.Collide (Canonical.bytes sorted) (Canonical.bytes otherSorted)
    · exact Or.inr ⟨sorted, otherSorted, ⟨rfl, rfl⟩, collide⟩
    · exact Or.inl ((Canonical.digestOfChars_eq_iff collide).mp same)
  · rintro (rfl | ⟨left, right, ⟨isLeft, isRight⟩, _, same⟩)
    · rfl
    · rw [Value.map_integer_injective isLeft, Value.map_integer_injective isRight]
      exact same

end TakesPart

/-- Verifying a program of short integers returns, if nothing is wrong with it and its algorithm
does not give up. -/
theorem exists_verified {spec : Spec} {numbers : List Int}
    (integers : spec.literal = Catalog.literal numbers) (accepted : spec.refusal? = none)
    (stays : ¬ spec.GivesUp (spec.given numbers))
    (short : ∀ number ∈ spec.given numbers, Numeral.IsShort number) (session : Session) :
    ∃ report, verification session spec = .ok report := by
  have alike := Spec.OfIntegers.answer_eq (Or.inr ⟨numbers, integers⟩) .builtIn
  obtain ⟨cause, refused, _⟩ | ⟨_, gaveUp, _⟩ | ⟨_, _, long, _⟩ | ⟨_, _, _, report, ran, _⟩ :=
    Spec.run_integers_cases integers session
  · exact absurd (accepted.symm.trans refused) (by simp)
  · exact absurd gaveUp stays
  · exact absurd short long
  · rw [Spec.run_answer, alike] at ran
    exact ⟨report, (Spec.verify_of_alike alike session).trans ran⟩

/-- A program without a literal that sorts values of the register, with which nothing is wrong and
which is not for the algorithm that may give up. -/
def IsReady (spec : Spec) : Prop :=
  sortsRegister spec = true ∧ spec.literal = Catalog.literal [] ∧ spec.refusal? = none ∧
    spec.algorithm ≠ some "quick"

/-- Whether a program is ready can be computed. -/
instance (spec : Spec) : Decidable (IsReady spec) :=
  inferInstanceAs (Decidable (_ ∧ _ ∧ _ ∧ _))

theorem IsReady.ofIntegers {spec : Spec} (ready : IsReady spec) : spec.OfIntegers :=
  Or.inr ⟨[], ready.2.1⟩

/-- A program of a catalog that is ready takes part. So the comparison is not about nothing: whoever
registers two such programs has them compared. -/
theorem IsReady.exists_takesPart {spec : Spec} (ready : IsReady spec) {catalog : Catalog}
    (listed : spec ∈ catalog.specs) (session : Session) :
    ∃ report, TakesPart session catalog spec report := by
  obtain ⟨sorts, literal, accepted, other⟩ := ready
  have source := (sortsRegister_iff.mp sorts).1
  have short := Spec.isShort_given source (Option.or_eq_none_iff.mp accepted).1 []
  have stays : ¬ spec.GivesUp (spec.given []) := by
    rintro ⟨_, named, rfl, _⟩
    exact other named
  obtain ⟨report, verified⟩ := exists_verified literal accepted stays short session
  exact ⟨report, listed, sorts, verified⟩

/-- A program that has so many values of the register sorted. -/
def drawing (name : Text) (size : Int) (algorithm : Text) : Spec :=
  { name
    description := "Values of the register in order"
    source := "lfsr"
    size
    algorithm := some algorithm }

/-- Two programs for the same two values. -/
def sameValues : Catalog :=
  { specs := [drawing "bubble" 2 "bubble", drawing "stack" 2 "quick_iterative"] }

/-- The suite over a catalog of programs of integers. It prints what verifying each program answers,
an objection if the digests that are compared do not agree, and the verdict. It passes exactly if
every verification returns and those digests agree. Two programs that take part in the comparison
and have drawn the same values have the same output; so the digests agree exactly if all of them
have drawn the same values, in whatever order, or SHA-256 collides on the outputs of two that have
not.

Proof: by induction on the programs, each of which is verified as if it were alone, since its
integers do not depend on the session. What is left at the end is a fold over the answers, and the
digests in it are those of the programs that take part. -/
theorem run_verdict {catalog : Catalog} (integers : ∀ spec ∈ catalog.specs, spec.OfIntegers)
    (session : Session) :
    ∃ passed after, (run .builtIn catalog).run.run session = (.ok passed, after) ∧
      (after.printed = session.printed ++
        (catalog.sorted.flatMap fun spec => heading spec ++ finding (verification session spec)) ++
        objection (comparedDigests session catalog) ++ closing passed) ∧
      (passed = true ↔
        (∀ spec ∈ catalog.specs, ∃ report, verification session spec = .ok report) ∧
          agree (comparedDigests session catalog) = true) ∧
      (agree (comparedDigests session catalog) = true ↔
        ∀ one first other second, TakesPart session catalog one first →
          TakesPart session catalog other second → first.outputDigest = second.outputDigest) ∧
      ∀ one first other second, TakesPart session catalog one first →
        TakesPart session catalog other second →
          (first.output = second.output ↔ first.input.Perm second.input) ∧
          (first.outputDigest = second.outputDigest ↔
            first.input.Perm second.input ∨ ∃ left right : List Int,
              (first.output = left.map .integer ∧ second.output = right.map .integer) ∧
                Sha256.Collide (Canonical.bytes left) (Canonical.bytes right)) := by
  obtain ⟨passed, after, ran, verdict, printed⟩ :=
    run_examined (verification_eq integers session) session
  refine ⟨passed, after, ran, printed, ?_, agree_comparedDigests_iff session catalog, ?_⟩
  · rw [verdict, Bool.and_eq_true, List.all_eq_true]
    refine and_congr_left fun _ => forall₂_congr fun spec _ => ?_
    cases verification session spec <;> simp [Except.isOk, Except.toBool]
  · intro one first other second firstPart secondPart
    exact ⟨firstPart.output_eq_iff secondPart, firstPart.digest_eq_iff secondPart⟩

/-- The suite passes two programs that sort the same values by different algorithms. -/
theorem run_verdict_sameValues :
    (∀ spec ∈ sameValues.specs, spec.OfIntegers) ∧
      ∃ after, (run .builtIn sameValues).run.run {} = (.ok true, after) := by
  have ready : ∀ spec ∈ sameValues.specs, IsReady spec := by decide
  have integers := fun spec listed => (ready spec listed).ofIntegers
  obtain ⟨passed, after, ran, _, verdict, agreement, same⟩ := run_verdict integers {}
  have drawn {spec : Spec} {report : Report} (part : TakesPart {} sameValues spec report) :
      report.input = (Register.successors Register.defaultSeed 2).map .integer := by
    obtain ⟨_, input, _⟩ := part.exists_sorted
    obtain rfl | rfl : spec = _ ∨ spec = _ := by simpa [sameValues] using part.listed
    · exact input
    · exact input
  have verified : ∀ spec ∈ sameValues.specs, ∃ report, verification {} spec = .ok report := by
    intro spec listed
    obtain ⟨report, part⟩ := (ready spec listed).exists_takesPart listed {}
    exact ⟨report, part.verified⟩
  have agreed : agree (comparedDigests {} sameValues) = true := by
    rw [agreement]
    intro one first other second firstPart secondPart
    refine (same one first other second firstPart secondPart).2.mpr (Or.inl ?_)
    rw [drawn firstPart, drawn secondPart]
  obtain rfl := verdict.mpr ⟨verified, agreed⟩
  exact ⟨integers, after, ran⟩

/-- Two programs that sort different numbers of values. -/
def differentValues : Catalog :=
  { specs := [drawing "one" 1 "bubble", drawing "two" 2 "bubble"] }

/-- Both are ready. -/
theorem ready_differentValues : ∀ spec ∈ differentValues.specs, IsReady spec := by
  decide

/-- The digests of one value of the register and of two in order differ. -/
theorem not_agree_differentValues : agree (comparedDigests {} differentValues) = false := by
  have parts : ∀ spec ∈ differentValues.specs, ∃ report, TakesPart {} differentValues spec report :=
    fun spec listed => (ready_differentValues spec listed).exists_takesPart listed {}
  simp only [differentValues, List.forall_mem_cons] at parts
  obtain ⟨⟨first, firstPart⟩, ⟨second, secondPart⟩, _⟩ := parts
  obtain ⟨sorted, _, _, perm, ascending, digest⟩ := firstPart.exists_sorted
  obtain ⟨otherSorted, _, _, otherPerm, otherAscending, otherDigest⟩ := secondPart.exists_sorted
  -- The values are drawn in ascending order.
  obtain rfl : sorted = Register.successors Register.defaultSeed 1 :=
    (Spec.ascending_eq_iff perm ascending (.refl _) (by decide)).mpr (.refl _)
  obtain rfl : otherSorted = Register.successors Register.defaultSeed 2 :=
    (Spec.ascending_eq_iff otherPerm otherAscending (.refl _) (by decide)).mpr (.refl _)
  rw [← Bool.not_eq_true, agree_comparedDigests_iff]
  intro same
  have equal := same _ _ _ _ firstPart secondPart
  rw [digest, otherDigest] at equal
  exact absurd equal (by decide +kernel)

/-- Verifying either of the two returns, and no two programs of one input have different outputs;
but the suite says that algorithms disagree, and does not pass. -/
theorem run_objects_differentValues :
    (∀ spec ∈ differentValues.specs, spec.OfIntegers) ∧
      (∀ spec ∈ differentValues.specs, ∃ report, verification {} spec = .ok report) ∧
      (∀ one first other second, TakesPart {} differentValues one first →
        TakesPart {} differentValues other second → first.input = second.input →
          first.output = second.output) ∧
      ∃ after, (run .builtIn differentValues).run.run {} = (.ok false, after) ∧
        (↑"  FAIL: algorithms disagree on LFSR input: " : Text) ++
          ↑(digestsText (comparedDigests {} differentValues)) ∈ after.printed ∧
        ↑"  SOME TESTS FAILED" ∈ after.printed := by
  have integers := fun spec listed => (ready_differentValues spec listed).ofIntegers
  refine ⟨integers, ?_, ?_, ?_⟩
  · intro spec listed
    obtain ⟨report, part⟩ := (ready_differentValues spec listed).exists_takesPart listed {}
    exact ⟨report, part.verified⟩
  · intro one first other second firstPart secondPart same
    rw [firstPart.output_eq_iff secondPart, same]
  · obtain ⟨passed, after, ran, verdict, printed⟩ :=
      run_examined (verification_eq integers {}) {}
    have disagree := not_agree_differentValues
    unfold comparedDigests at disagree
    rw [disagree, Bool.and_false] at verdict
    subst verdict
    refine ⟨after, ran, ?_⟩
    rw [printed, objection, disagree]
    simp [comparedDigests, closing]

end Smoke

end SortBench
