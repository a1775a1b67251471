import Mathlib.Data.List.Perm.Basic
import SortBench.Program.Catalog
import SortBench.Proofs.Digest.Conversion
import SortBench.Proofs.Numeral.ReadBack
import SortBench.Proofs.Program.Algorithms
import SortBench.Proofs.Register.Draws

/-!
# Programs of integers from end to end

A program whose literal holds integers is refused for one of six causes, in a fixed order; or its
algorithm gives up; or it is reported. Nothing else can happen: integers have an order and a
digest, so no comparison is refused, no result fails its judge, and no list is without a digest.
-/

namespace SortBench

theorem Value.le?_integer (a b : Int) : (integer a).le? (integer b) = .ok true ↔ a ≤ b := by
  rw [le?, decide_of_quantities _ _ _ _ rfl rfl, Except.ok.injEq]
  simp [Quantity.le, Quantity.compare?, compare_le_iff_le]

/-- Integers are ordered values of the family of numbers. -/
theorem Value.isOrdered_integer (number : Int) : IsOrdered .number (integer number) :=
  ⟨rfl, fun _ same => by cases same⟩

theorem Value.isOrdered_integers (numbers : List Int) :
    ∀ value ∈ numbers.map integer, IsOrdered .number value := by
  intro value member
  obtain ⟨number, _, rfl⟩ := List.mem_map.mp member
  exact isOrdered_integer number

/-- Every reading of a literal of integers gives these, as it is not of the kind that reads
differently each time. -/
theorem Catalog.reading_literal (numbers : List Int) (earlier : Nat) :
    (literal numbers).reading earlier = numbers.map .integer := by
  cases earlier <;> rfl

/-- Lists of integers are the same if they are so as values. -/
theorem Value.map_integer_injective : Function.Injective (List.map integer) :=
  List.map_injective_iff.mpr fun _ _ => integer.inj

/-- A rearrangement of a list of integers is a list of integers. -/
theorem exists_integers_of_perm {numbers : List Int} {values : List Value}
    (same : values.Perm (numbers.map .integer)) :
    ∃ result : List Int, values = result.map .integer ∧ result.Perm numbers := by
  have composed := congrFun (congrFun (List.eq_map_comp_perm Value.integer) values) numbers
  exact composed.mpr same

/-- An ascending rearrangement of a list of integers is these in ascending order. -/
theorem exists_ascending_integers {numbers : List Int} {values : List Value}
    (same : values.Perm (numbers.map .integer))
    (ascending : values.Pairwise fun left right => left.le? right = .ok true) :
    ∃ result : List Int, values = result.map .integer ∧ result.Perm numbers ∧
      result.Pairwise (· ≤ ·) := by
  obtain ⟨result, rfl, permuted⟩ := exists_integers_of_perm same
  rw [List.pairwise_map] at ascending
  exact ⟨result, rfl, permuted, ascending.imp (Value.le?_integer ..).mp⟩

open Numeral (IsShort)

namespace Spec

/-- Why the input of a program is refused: a literal of another length than declared; a seed that is
zero or beyond the register, before a negative size; or an unknown source. -/
def inputRefusal? (spec : Spec) : Option Precondition :=
  if spec.source = "literal" then
    if spec.literal.first.length = spec.size then none
    else some (.literalSize spec.name spec.size spec.literal.first.length)
  else if spec.source = "lfsr" then
    if spec.seed = 0 then some .zeroSeed
    else if spec.seed < 1 ∨ 65535 < spec.seed then some (.seedOutOfRange spec.seed)
    else if spec.size < 0 then some (.negativeCount spec.size)
    else none
  else some (.unknownSource spec.source spec.name)

/-- Why the algorithm of a program is refused: it is named, but not built in. -/
def algorithmRefusal? (spec : Spec) : Option Precondition :=
  match spec.algorithm with
  | none => none
  | some name =>
    if name ∈ Registry.builtIn.entries.map Prod.fst then none
    else some (.unknownAlgorithm name Registry.builtIn.names)

/-- Why a program is refused: for its input, or else for its algorithm. This is stated on the
specification of the program, without running it. -/
def refusal? (spec : Spec) : Option Precondition :=
  spec.inputRefusal?.or spec.algorithmRefusal?

/-- The integers that a program is to sort: its literal, or the successors of its seed. -/
def given (spec : Spec) (numbers : List Int) : List Int :=
  if spec.source = "literal" then numbers else Register.successors spec.seed spec.size.toNat

/-- The input from the register is refused for its seed or else for its size, or it is the
successors of the seed. -/
theorem input_of_register {spec : Spec} (source : spec.source = "lfsr") (earlier : Nat) :
    (∃ cause, spec.inputRefusal? = some cause ∧ spec.input earlier = .error cause) ∨
      (spec.inputRefusal? = none ∧ 0 ≤ spec.size ∧
        spec.input earlier =
          .ok ((Register.successors spec.seed spec.size.toNat).map .integer)) := by
  have notLiteral : ¬ spec.source = "literal" := by
    rw [source]
    decide
  have found : Source.ofName? spec.source = some .register := by
    rw [source]
    rfl
  unfold inputRefusal? input
  rw [found, if_neg notLiteral, if_pos source]
  obtain ⟨zero, refused⟩ | ⟨nonzero, outside, refused⟩ |
      ⟨generator, nonzero, inside, started, register⟩ :=
    Generator.ofSeed_cases spec.seed
  · rw [refused, if_pos zero]
    exact Or.inl ⟨_, rfl, rfl⟩
  · rw [refused, if_neg nonzero, if_pos outside]
    exact Or.inl ⟨_, rfl, rfl⟩
  · rw [started, if_neg nonzero, if_neg inside]
    dsimp only
    obtain ⟨negative, refused⟩ | ⟨counted, drawn, after, taken, values⟩ :=
      generator.take_cases spec.size
    · rw [if_pos negative, refused]
      exact Or.inl ⟨_, rfl, rfl⟩
    · rw [if_neg (by omega), taken, ← register, ← values]
      refine Or.inr ⟨rfl, counted, ?_⟩
      simp [Function.comp_def]

/-- What is drawn from the register is short: only a literal can hold an integer that is not. -/
theorem isShort_given {spec : Spec} (source : spec.source = "lfsr")
    (accepted : spec.inputRefusal? = none) (numbers : List Int) :
    ∀ number ∈ spec.given numbers, IsShort number := by
  have notLiteral : ¬ spec.source = "literal" := by
    rw [source]
    decide
  rw [inputRefusal?, if_neg notLiteral, if_pos source] at accepted
  obtain ⟨zero, _⟩ | ⟨nonzero, outside, _⟩ | ⟨generator, _, _, _, register⟩ :=
    Generator.ofSeed_cases spec.seed
  · rw [if_pos zero] at accepted
    cases accepted
  · rw [if_neg nonzero, if_pos outside] at accepted
    cases accepted
  · rw [given, if_neg notLiteral, ← register, ← generator.draw_eq_successors]
    intro number member
    obtain ⟨value, drawn, rfl⟩ := List.mem_map.mp member
    have inside : value ≤ 65535 := generator.draw_le_top _ value drawn
    exact Numeral.isShort_of_lt (by omega)

/-- The input of a program of integers is refused, or it is the integers given, as many as declared.
The two cases are told apart by the specification alone, and not by the session. -/
theorem input_integers {spec : Spec} {numbers : List Int}
    (integers : spec.literal = Catalog.literal numbers) (earlier : Nat) :
    (∃ cause, spec.inputRefusal? = some cause ∧ spec.input earlier = .error cause) ∨
      (spec.inputRefusal? = none ∧ spec.input earlier = .ok ((spec.given numbers).map .integer) ∧
        (spec.given numbers).length = spec.size) := by
  unfold given
  obtain ⟨source, found⟩ | ⟨source, _⟩ | ⟨notLiteral, notRegister, found⟩ :=
    Source.ofName?_cases spec.source
  · unfold inputRefusal? input
    rw [found, if_pos source, if_pos source, integers]
    by_cases declared : (Catalog.literal numbers).first.length = spec.size
    · rw [if_pos declared, if_pos declared]
      refine Or.inr ⟨rfl, ?_, ?_⟩
      · rw [Catalog.reading_literal]
      · simpa [Catalog.literal] using declared
    · rw [if_neg declared, if_neg declared]
      exact Or.inl ⟨_, rfl, rfl⟩
  · have notLiteral : ¬ spec.source = "literal" := by
      rw [source]
      decide
    rw [if_neg notLiteral]
    obtain refused | ⟨accepted, counted, built⟩ := input_of_register source earlier
    · exact Or.inl refused
    · refine Or.inr ⟨accepted, built, ?_⟩
      rw [Register.length_successors]
      omega
  · unfold inputRefusal? input
    rw [found, if_neg notLiteral, if_neg notLiteral, if_neg notRegister]
    exact Or.inl ⟨_, rfl, rfl⟩

/-- A rearrangement of the integers given, ascending if an algorithm is named. -/
def Arranges (spec : Spec) (given result : List Int) : Prop :=
  result.Perm given ∧
    match spec.algorithm with
    | none => result = given
    | some _ => result.Pairwise (· ≤ ·)

/-- The algorithm of a program gives up on the integers given. -/
def GivesUp (spec : Spec) (given : List Int) : Prop :=
  ∃ name, spec.algorithm = some name ∧ Registry.GivesUp name (given.map .integer)

/-- How the sort of the integers given can end. There are three ways, and which of them it is can be
said in advance. -/
inductive Ending (spec : Spec) (given : List Int) : Except Fault Bench → Prop where
  /-- The algorithm is not built in. -/
  | refused {cause : Precondition} (unknown : spec.algorithmRefusal? = some cause) :
    Ending spec given (.error (.precondition cause))
  /-- The algorithm gives up. -/
  | exhausted (known : spec.algorithmRefusal? = none) (gaveUp : spec.GivesUp given) :
    Ending spec given (.error Bench.tooDeep)
  /-- The bench holds an arrangement of the integers. -/
  | arranged {bench : Bench} {result : List Int} (known : spec.algorithmRefusal? = none)
    (stayed : ¬ spec.GivesUp given) (values : bench.values.toList = result.map .integer)
    (arranges : spec.Arranges given result) : Ending spec given (.ok bench)

/-- A named algorithm is refused if it is not built in; it gives up on the integers given, or leaves
them in ascending order. -/
theorem ending_of_named {spec : Spec} {name : Text} (named : spec.algorithm = some name)
    (given : List Int) :
    spec.Ending given (Registry.builtIn.sortJudged name (given.map .integer)) := by
  have refusal : spec.algorithmRefusal? =
      if name ∈ Registry.builtIn.entries.map Prod.fst then none
      else some (.unknownAlgorithm name Registry.builtIn.names) := by
    rw [algorithmRefusal?, named]
  by_cases known : name ∈ Registry.builtIn.entries.map Prod.fst
  · rw [if_pos known] at refusal
    obtain ⟨gaveUp, failed⟩ | ⟨stayed, bench, judged, same, ascending⟩ :=
      Registry.builtIn_sortJudged known _ (Value.isOrdered_integers given)
    · rw [failed]
      exact .exhausted refusal ⟨name, named, gaveUp⟩
    · rw [judged]
      obtain ⟨result, values, perm, sorted⟩ := exists_ascending_integers same ascending
      refine .arranged refusal ?_ values ⟨perm, ?_⟩
      · rintro ⟨other, again, gaveUp⟩
        obtain rfl : name = other := Option.some.inj (named.symm.trans again)
        exact stayed gaveUp
      · rw [named]
        exact sorted
  · rw [if_neg known] at refusal
    rw [Registry.sortJudged_of_unknown known]
    exact .refused refusal

/-- Every sort of the integers given ends in one of these ways; without an algorithm they stay as
they are. -/
theorem sorted_ending (spec : Spec) (given : List Int) :
    spec.Ending given (spec.sorted .builtIn (given.map .integer)) := by
  unfold Spec.sorted
  cases named : spec.algorithm with
  | some name => exact ending_of_named named given
  | none =>
    refine .arranged ?_ ?_ rfl ⟨.refl given, ?_⟩
    · rw [algorithmRefusal?, named]
    · rintro ⟨name, again, _⟩
      rw [named] at again
      cases again
    · rw [named]

/-- What is reported of a program of integers: the integers given, as many as declared; their
arrangement; and the digests of both. -/
structure Reports (spec : Spec) (given : List Int) (report : Report) : Prop where
  /-- The input is what was given. -/
  input : report.input = given.map .integer
  /-- It has the declared size. -/
  size : given.length = spec.size
  /-- The output is its arrangement. -/
  output : ∃ result : List Int, report.output = result.map .integer ∧ spec.Arranges given result
  /-- The input has its digest. -/
  inputDigest : Canonical.digest report.input = .ok report.inputDigest
  /-- The output has its digest. -/
  outputDigest : Canonical.digest report.output = .ok report.outputDigest

/-- An arrangement of the integers given is reported, if these are short. -/
theorem exists_reports {spec : Spec} {given result : List Int} {bench : Bench}
    (size : given.length = spec.size) (values : bench.values.toList = result.map .integer)
    (arranges : spec.Arranges given result) (short : ∀ number ∈ given, IsShort number) :
    ∃ report, Report.ofRun spec (given.map .integer) bench = .ok report ∧
      spec.Reports given report := by
  have first := Canonical.digest_integer short
  have second := Canonical.digest_integer fun number member =>
    short number (arranges.1.subset member)
  rw [← values] at second
  obtain ⟨report, reported⟩ := Report.exists_ofRun spec first second
  obtain ⟨input, output, inputDigest, outputDigest⟩ := Report.ofRun_eq_ok reported
  refine ⟨report, reported, ?_⟩
  exact ⟨input, size, ⟨result, output.trans values, arranges⟩, inputDigest, outputDigest⟩

/-- If one of them is not short, no arrangement of them is reported: the digest of the input is the
first to be made. -/
theorem ofRun_of_long (spec : Spec) {given : List Int} (bench : Bench)
    (long : ¬ ∀ number ∈ given, IsShort number) :
    Report.ofRun spec (given.map .integer) bench = .error (.unwritten Numeral.mostDigits) := by
  rw [Report.ofRun, Canonical.digest_of_long long]

/-- A program of integers is refused for the first cause that it has, or its algorithm gives up, or
the integers given are not all short, or it is reported. These cases are all, and they exclude each
other, so each kind of outcome has one origin. -/
theorem run_integers_cases {spec : Spec} {numbers : List Int}
    (integers : spec.literal = Catalog.literal numbers) (session : Session) :
    (∃ cause, spec.refusal? = some cause ∧
        ((spec.run .builtIn).run.run session).1 =
          .error ((Fault.precondition cause).raised Numeral.usualLimit)) ∨
      (spec.refusal? = none ∧ spec.GivesUp (spec.given numbers) ∧
        ((spec.run .builtIn).run.run session).1 = .error Bench.tooDeep) ∨
      (spec.refusal? = none ∧ ¬ spec.GivesUp (spec.given numbers) ∧
        (¬ ∀ number ∈ spec.given numbers, IsShort number) ∧
        ((spec.run .builtIn).run.run session).1 = .error (.unwritten Numeral.mostDigits)) ∨
      (spec.refusal? = none ∧ ¬ spec.GivesUp (spec.given numbers) ∧
        (∀ number ∈ spec.given numbers, IsShort number) ∧
        ∃ report, ((spec.run .builtIn).run.run session).1 = .ok report ∧
          spec.Reports (spec.given numbers) report) := by
  rw [run_answer]
  unfold refusal? answer outcome
  obtain ⟨cause, refused, failed⟩ | ⟨accepted, built, size⟩ :=
    input_integers integers (session.readingsOf spec.name)
  · rw [refused, failed]
    exact Or.inl ⟨cause, rfl, rfl⟩
  · rw [accepted, built, Option.none_or]
    dsimp only
    have ending := spec.sorted_ending (spec.given numbers)
    generalize spec.sorted .builtIn ((spec.given numbers).map .integer) = outcome at ending ⊢
    cases ending with
    | refused unknown => exact Or.inl ⟨_, unknown, rfl⟩
    | exhausted known gaveUp => exact Or.inr (Or.inl ⟨known, gaveUp, rfl⟩)
    | arranged known stayed values arranges =>
      refine Or.inr (Or.inr ?_)
      by_cases short : ∀ number ∈ spec.given numbers, IsShort number
      · obtain ⟨report, reported, reports⟩ := exists_reports size values arranges short
        refine Or.inr ⟨known, stayed, short, report, ?_, reports⟩
        exact Sorting.mapError_eq_ok.mpr reported
      · refine Or.inl ⟨known, stayed, short, ?_⟩
        dsimp only
        rw [ofRun_of_long spec _ short]
        rfl

/-- A program of integers fails for a violated condition exactly when it is refused for it, the
first cause that it has, and the integers that its text names are short; for exhausted room only
where the recursive quicksort goes beyond the deepest level; because an integer is not written only
where one is not short, be it in the text of the cause or among the integers given, and exactly
then, unless the program is refused or gives up before; and never for a result that is not a sorted
permutation. In every other case it is reported.

So the checks on the way are exact and in order, and no sort and no judge of integers can fail; what
is left to the runtime are integers of more than 4300 digits, which a program can hold and sort, but
neither name nor digest.

Proof: each part of a run is refused, gives up or answers by what it is given alone; of the four
ways that a run as a whole can end, the statement looks up each. -/
theorem run_integers (spec : Spec) (numbers : List Int)
    (integers : spec.literal = Catalog.literal numbers) (session : Session) :
    (∀ cause, ((spec.run .builtIn).run.run session).1 = .error (.precondition cause) ↔
        spec.refusal? = some cause ∧ ∀ number ∈ cause.numbers, IsShort number) ∧
      (∀ text, ((spec.run .builtIn).run.run session).1 = .error (.exhausted text) →
        spec.GivesUp (spec.given numbers)) ∧
      (∀ violation, ((spec.run .builtIn).run.run session).1 ≠ .error (.violation violation)) ∧
      (((spec.run .builtIn).run.run session).1 = .error (.unwritten Numeral.mostDigits) ↔
        (∃ cause, spec.refusal? = some cause ∧ ∃ number ∈ cause.numbers, ¬ IsShort number) ∨
          (spec.refusal? = none ∧ ¬ spec.GivesUp (spec.given numbers) ∧
            ∃ number ∈ spec.given numbers, ¬ IsShort number)) ∧
      (spec.refusal? = none → ¬ spec.GivesUp (spec.given numbers) →
        (∀ number ∈ spec.given numbers, IsShort number) →
          ∃ report, ((spec.run .builtIn).run.run session).1 = .ok report ∧
            spec.Reports (spec.given numbers) report) := by
  obtain ⟨cause, refused, failed⟩ | ⟨accepted, gaveUp, failed⟩ | ⟨accepted, stayed, long, failed⟩ |
      ⟨accepted, stayed, short, report, ran, reports⟩ :=
    run_integers_cases integers session
  · rw [failed, refused, Fault.raised_usual]
    by_cases short : ∀ number ∈ cause.numbers, IsShort number
    · rw [if_pos (show ∀ number ∈ (Fault.precondition cause).numbers, IsShort number from short)]
      simp only [Except.error.injEq, Fault.precondition.injEq, Option.some.injEq]
      refine ⟨?_, nofun, nofun, ?_, nofun⟩
      · rintro other
        constructor
        · rintro rfl
          exact ⟨rfl, short⟩
        · exact And.left
      · simpa using short
    · rw [if_neg (show ¬ ∀ number ∈ (Fault.precondition cause).numbers, IsShort number from short)]
      refine ⟨?_, nofun, nofun, ?_, nofun⟩
      · simp only [Except.error.injEq, reduceCtorEq, Option.some.injEq, false_iff]
        rintro other ⟨rfl, named⟩
        exact short named
      · simpa using short
  · rw [failed, accepted]
    simp [gaveUp, Bench.tooDeep]
  · rw [failed, accepted]
    simpa [stayed] using long
  · rw [ran, accepted]
    simpa [reports] using fun _ => short

/-- A program of the literal that consists of one integer, for the bubble sort. -/
def singleLiteral (number : Int) : Spec :=
  { name := "single"
    description := "Bubble sort of a literal of one integer"
    source := "literal"
    size := 1
    literal := Catalog.literal [number]
    algorithm := some "bubble" }

/-- A program that draws so many values, for the bubble sort. -/
def drawing (size : Int) : Spec :=
  { name := "drawing"
    description := "Bubble sort of values from the register"
    source := "lfsr"
    size
    algorithm := some "bubble" }

/-- A program for the bubble sort never gives up. -/
theorem not_givesUp_bubble {spec : Spec} (bubble : spec.algorithm = some "bubble")
    (given : List Int) : ¬ spec.GivesUp given := by
  rintro ⟨name, named, quick, _⟩
  obtain rfl := Option.some.inj (bubble.symm.trans named)
  exact absurd quick (by decide)

/-- The literal of an integer that is not short is sorted, but it has no digest. -/
theorem run_singleLiteral {number : Int} (long : ¬ IsShort number) :
    (((singleLiteral number).run .builtIn).run.run {}).1 =
      .error (.unwritten Numeral.mostDigits) := by
  have integers : (singleLiteral number).literal = Catalog.literal [number] := rfl
  obtain ⟨cause, refused, _⟩ | ⟨_, gaveUp, _⟩ | ⟨_, _, _, failed⟩ | ⟨_, _, short, _⟩ :=
    run_integers_cases integers {}
  · cases refused
  · exact absurd gaveUp (not_givesUp_bubble rfl _)
  · exact failed
  · exact absurd (short number (List.mem_singleton_self number)) long

theorem refusal?_drawing {size : Int} (negative : size < 0) :
    (drawing size).refusal? = some (.negativeCount size) := by
  have refused : (drawing size).inputRefusal? = some (.negativeCount size) := if_pos negative
  rw [refusal?, refused, Option.some_or]

/-- A negative number of values to draw that is not short is refused, but not named. -/
theorem run_drawing {size : Int} (negative : size < 0) (long : ¬ IsShort size) :
    (((drawing size).run .builtIn).run.run {}).1 = .error (.unwritten Numeral.mostDigits) := by
  have refusal := refusal?_drawing negative
  have integers : (drawing size).literal = Catalog.literal [] := rfl
  obtain ⟨cause, refused, failed⟩ | ⟨accepted, _⟩ | ⟨accepted, _⟩ | ⟨accepted, _⟩ :=
    run_integers_cases integers {}
  · obtain rfl := Option.some.inj (refusal.symm.trans refused)
    rw [failed, Fault.raised_usual, if_neg]
    exact fun short => long (short size (List.mem_singleton_self size))
  all_goals
    rw [refusal] at accepted
    cases accepted

/-- Two programs with an integer of one digit more than is written. A literal of it is refused for
nothing and no algorithm gives up, and yet it is not reported; as a negative number of values to
draw it is refused, and yet the run fails for no violated condition. -/
theorem run_unwritten :
    ((singleLiteral (10 ^ 4300)).refusal? = none ∧
        ¬ (singleLiteral (10 ^ 4300)).GivesUp [10 ^ 4300] ∧
        (((singleLiteral (10 ^ 4300)).run .builtIn).run.run {}).1 = .error (.unwritten 4300)) ∧
      (drawing (-10 ^ 4300)).refusal? = some (.negativeCount (-10 ^ 4300)) ∧
        (((drawing (-10 ^ 4300)).run .builtIn).run.run {}).1 = .error (.unwritten 4300) := by
  have long : ¬ IsShort (10 ^ 4300) := Numeral.not_isShort_pow
  have negative : (-10 ^ 4300 : Int) < 0 := neg_neg_of_pos (by positivity)
  refine ⟨⟨rfl, not_givesUp_bubble rfl _, run_singleLiteral long⟩, refusal?_drawing negative, ?_⟩
  exact run_drawing negative (mt Numeral.isShort_neg.mp long)

/-- A literal of five integers for the bubble sort. -/
def shortLiteral : Spec :=
  { name := "bubblesort"
    description := "Bubble sort over a five element literal array"
    source := "literal"
    size := 5
    literal := Catalog.literal [4, 6, 2, 7, 8]
    algorithm := some "bubble" }

/-- The short literal is reported. -/
theorem run_integers_shortLiteral :
    ∃ report, ((shortLiteral.run .builtIn).run.run {}).1 = .ok report ∧
      shortLiteral.Reports [4, 6, 2, 7, 8] report :=
  (run_integers shortLiteral [4, 6, 2, 7, 8] rfl {}).2.2.2.2 (by decide)
    (not_givesUp_bubble rfl _) (by decide)

end Spec

end SortBench
