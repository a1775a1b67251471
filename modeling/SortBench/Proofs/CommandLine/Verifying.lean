import SortBench.Proofs.CommandLine.Arguments
import SortBench.Proofs.CommandLine.Attempts
import SortBench.Proofs.CommandLine.Outcomes

/-!
# What the command that verifies prints

The programs that are asked for are verified one after another, and each finding is one entry of the
output: the program passes when its verification answers, and fails when its result is wrong or
differs between two runs. Any other fault ends the command at once, with the entries of the programs
before it and without a summary. When no program does so the summary counts those that passed and
those that failed, and the exit code is zero when none failed. An unknown name ends the command
before the first program is run.
-/

namespace SortBench

namespace Catalog

/-- The list of a catalog is ordered by name, so its order does not depend on the order in which
programs were registered. -/
theorem pairwise_sorted (catalog : Catalog) :
    catalog.sorted.Pairwise fun first second => ¬ second.name < first.name := by
  have before (first second : Spec) : (!decide (second.name < first.name)) = true ↔
      ¬ second.name.numbers < first.name.numbers := by
    rw [Bool.not_eq_true', decide_eq_false_iff_not]
    rfl
  refine (List.pairwise_mergeSort ?_ ?_ catalog.specs).imp fun kept => (before _ _).mp kept
  · intro first second third one other
    rw [before, List.not_lt] at *
    exact List.le_trans one other
  · intro first second
    rw [Bool.or_eq_true, before, before, List.not_lt, List.not_lt]
    exact List.le_total _ _

theorem exists_forall₂_find? {catalog : Catalog} {names : List Text}
    (known : ∀ name ∈ names, ∃ spec, catalog.find? name = some spec) :
    ∃ specs, List.Forall₂ (fun name spec => catalog.find? name = some spec) names specs := by
  induction names with
  | nil => exact ⟨[], .nil⟩
  | cons name names inductionHypothesis =>
    obtain ⟨⟨spec, found⟩, others⟩ := List.forall_mem_cons.mp known
    obtain ⟨specs, rest⟩ := inductionHypothesis others
    exact ⟨spec :: specs, .cons found rest⟩

end Catalog

namespace CommandLine

/-- The programs that are asked for by names. No names ask for the whole catalog in its order;
otherwise each name asks for one program, repeated names included. -/
inductive Requested (catalog : Catalog) : List Text → List Spec → Prop where
  /-- Without a name all programs of the catalog, in the order of their names. -/
  | all {specs : List Spec} (same : specs.Perm catalog.specs)
    (ordered : specs.Pairwise fun first second => ¬ second.name < first.name) :
    Requested catalog [] specs
  /-- The program of each name, in the order of the names. -/
  | named {names : List Text} {specs : List Spec} (some : names ≠ [])
    (found : List.Forall₂ (fun name spec => catalog.find? name = Option.some spec) names specs) :
    Requested catalog names specs

/-- Names determine the programs that are asked for. -/
theorem Requested.eq_of_forall₂ {catalog : Catalog} {names : List Text} {specs others : List Spec}
    (requested : Requested catalog names specs) (some : names ≠ [])
    (found : List.Forall₂ (fun name spec => catalog.find? name = Option.some spec) names others) :
    specs = others := by
  cases requested with
  | all => exact absurd rfl some
  | named _ listed =>
    exact List.right_unique_forall₂'
      (fun _ _ _ one other => Option.some.inj (one.symm.trans other)) listed found

/-- With a name that no program has, the choice of programs is the fault of an unknown program. It
does not matter how many known names stand in front of it: nothing is run before the choice is
made. -/
theorem chosenSpecs_unknown {catalog : Catalog} {names : List Text}
    (unknown : ∃ name ∈ names, catalog.find? name = none) :
    ∃ name known, chosenSpecs catalog names = .error (.unknownProgram name known) := by
  have refused : ∃ name known, names.mapM catalog.get = .error (.unknownProgram name known) := by
    induction names with
    | nil => simp at unknown
    | cons name names inductionHypothesis =>
      rw [List.mapM_cons]
      cases found : catalog.find? name with
      | none => exact ⟨name, catalog.names, by rw [Catalog.get, found]; rfl⟩
      | some spec =>
        obtain ⟨other, known, refused⟩ :=
          inductionHypothesis (by simpa [found] using unknown)
        exact ⟨other, known, by rw [Catalog.get, found, refused]; rfl⟩
  obtain ⟨_, member, _⟩ := unknown
  unfold chosenSpecs
  rwa [if_neg (by simpa using List.ne_nil_of_mem member)]

/-- With known names only, the choice of programs is what is asked for. -/
theorem chosenSpecs_known {catalog : Catalog} {names : List Text}
    (known : ∀ name ∈ names, ∃ spec, catalog.find? name = some spec) :
    ∃ specs, chosenSpecs catalog names = .ok specs ∧ Requested catalog names specs := by
  cases names with
  | nil => exact ⟨_, rfl, .all (List.mergeSort_perm _ _) catalog.pairwise_sorted⟩
  | cons name names =>
    obtain ⟨specs, found⟩ := Catalog.exists_forall₂_find? known
    refine ⟨specs, mapM_eq_ok_iff.mpr (found.imp fun name spec listed => ?_),
      .named (List.cons_ne_nil _ _) found⟩
    rw [Catalog.get, listed]

/-- A command line ends with a code, and its output are entries with a line end after each. -/
def Prints (site : Site) (arguments : List Text) (code : Nat) (entries : List Text) : Prop :=
  ∃ ending, run site arguments = .ok ending ∧ ending.code = code ∧
    ending.output = Text.join (entries.map (· ++ "\n"))

/-- What verifying programs one after another prints and with which exit code it ends, given the
attempts. -/
structure Verifies (site : Site) (settings : Settings) (names : List Text)
    (attempts : List Attempt) : Prop where
  /-- The first program that ends the command ends it with its fault. There is an entry for each
  program before it, and no summary. A violated condition is a misuse and a recursion that is too
  deep is a failure; a fault that no command may end with is handed on. -/
  ended : ∀ attempt fault,
    attempts.find? (fun attempt => attempt.aborts site.registry) = some attempt →
    attempt.outcome site.registry = .error fault →
    (∃ after, ((Command.verify names).perform site settings).run.run (started settings) =
        (.error fault, after) ∧ after.printed = entries site.registry attempts) ∧
      (∀ cause, fault = .precondition cause →
        Prints site ("verify" :: names) 2 (entries site.registry attempts)) ∧
      (∀ text, fault = .exhausted text →
        Prints site ("verify" :: names) 1 (entries site.registry attempts)) ∧
      (faultEnding fault = none → run site ("verify" :: names) = .error fault)
  /-- When no program ends the command, there is an entry for each program, and a summary of how
  many passed and failed. -/
  summed : attempts.find? (fun attempt => attempt.aborts site.registry) = none →
    passed site.registry attempts + failures site.registry attempts = attempts.length ∧
      Prints site ("verify" :: names) (if failures site.registry attempts = 0 then 0 else 1)
        (attempts.map (Attempt.entry site.registry) ++ [summary site.registry attempts])
  /-- Code zero means that every program was run twice, with one digest. -/
  verified : ∀ ending, run site ("verify" :: names) = .ok ending → ending.code = 0 →
    ∀ attempt ∈ attempts, ∃ report again between after,
      (attempt.spec.run site.registry).run.run attempt.session = (.ok report, between) ∧
        (attempt.spec.run site.registry).run.run between = (.ok again, after) ∧
        report.outputDigest = again.outputDigest ∧
        attempt.outcome site.registry = .ok report

section Verify

variable {site : Site} {names : List Text} {specs : List Spec}
  (chosen : chosenSpecs site.catalog names = .ok specs)

include chosen

/-- The command ends with the fault of the first program that ends it. The entries of the programs
before it have been printed, and there is no summary. -/
theorem Command.verify_ended {attempt : Attempt} {fault : Fault} (settings : Settings)
    (session : Session) (first : (attempts site.registry specs session).find?
      (fun attempt => attempt.aborts site.registry) = some attempt)
    (outcome : attempt.outcome site.registry = .error fault) :
    ∃ after, ((verify names).perform site settings).run.run session = (.error fault, after) ∧
      after.printed =
        session.printed ++ entries site.registry (attempts site.registry specs session) := by
  obtain ⟨found, printed⟩ := mapM_verifyOne_run site.registry specs session
  obtain ⟨same, again, ends⟩ := mapM_finding_of_first first
  obtain rfl : fault = same := Except.error.inj (outcome.symm.trans again)
  rw [ends] at found
  rw [perform_verify, chosen]
  dsimp only
  cases ran : (specs.mapM (verifyOne site.registry)).run.run session with
  | mk outcome after =>
    rw [ran] at found printed
    cases found
    exact ⟨after, rfl, printed⟩

/-- Without such a program the command ends with the summary, after an entry for each program. -/
theorem Command.verify_summed (settings : Settings) (session : Session)
    (none : (attempts site.registry specs session).find?
      (fun attempt => attempt.aborts site.registry) = none) :
    ∃ after, ((verify names).perform site settings).run.run session =
        (.ok (if failures site.registry (attempts site.registry specs session) = 0 then 0 else 1),
          after) ∧
      after.printed = session.printed ++
        ((attempts site.registry specs session).map (Attempt.entry site.registry) ++
          [summary site.registry (attempts site.registry specs session)]) := by
  obtain ⟨found, printed⟩ := mapM_verifyOne_run site.registry specs session
  have goesOn : ∀ attempt ∈ attempts site.registry specs session,
      attempt.aborts site.registry = false :=
    fun attempt member => Bool.eq_false_iff.mpr (List.find?_eq_none.mp none attempt member)
  have length : specs.length = (attempts site.registry specs session).length := by
    rw [← List.length_map Attempt.spec, map_spec_attempts]
  have counted : ((attempts site.registry specs session).map
      fun attempt => !attempt.passes site.registry).count true =
        failures site.registry (attempts site.registry specs session) := by
    rw [List.count_eq_countP, List.countP_map, failures]
    simp [Function.comp_def]
  rw [mapM_finding_of_all goesOn] at found
  rw [handled_eq_self goesOn] at printed
  rw [perform_verify, chosen]
  dsimp only
  cases ran : (specs.mapM (verifyOne site.registry)).run.run session with
  | mk outcome after =>
    rw [ran] at found printed
    cases found
    dsimp only
    rw [counted, length, summaryLine_eq]
    refine ⟨_, rfl, ?_⟩
    show after.printed ++ _ = _
    rw [← List.append_assoc, ← printed]

end Verify

/-- The exit code of a fault is never that of a command that was carried out. So code zero says of a
verification that it reached its summary. -/
theorem code_ne_zero_of_faultEnding {fault : Fault} {code : Nat} {message : Text}
    (expected : faultEnding fault = some (code, message)) : code ≠ 0 := by
  unfold faultEnding at expected
  split at expected <;> cases expected <;> decide

section Line

variable {site : Site} {settings : Settings} {names : List Text}
  (noHyphen : ∀ name ∈ names, name.symbols.head? ≠ some (.character '-'))
  (loaded : Settings.load site.environment site.files none = .ok settings)

include noHyphen loaded

/-- A command that fails ends the command line with the exit code of its fault and what it
printed. -/
theorem prints_of_error {fault : Fault} {code : Nat} {message : Text} {after : Session}
    (ran : ((Command.verify names).perform site settings).run.run (started settings) =
      (.error fault, after))
    (expected : faultEnding fault = some (code, message)) :
    Prints site ("verify" :: names) code after.printed := by
  obtain ⟨performed, ended, code, output⟩ :=
    Request.perform_error ⟨none, none, .verify names⟩ ran expected
  obtain ⟨ending, ran, sameCode, sameOutput⟩ :=
    run_asked (ofArguments_verify _ _ noHyphen) loaded ended
  exact ⟨ending, ran, sameCode.trans code, sameOutput.trans output⟩

theorem prints_of_ok {code : Nat} {after : Session}
    (ran : ((Command.verify names).perform site settings).run.run (started settings) =
      (.ok code, after)) : Prints site ("verify" :: names) code after.printed := by
  obtain ⟨performed, ended, code, output⟩ :=
    Request.perform_ok ⟨none, none, .verify names⟩ ran
  obtain ⟨ending, ran, sameCode, sameOutput⟩ :=
    run_asked (ofArguments_verify _ _ noHyphen) loaded ended
  exact ⟨ending, ran, sameCode.trans code, sameOutput.trans output⟩

/-- When the command line ends with code zero, no program fails or ends the command. Code zero can
therefore be relied on without reading the output. -/
theorem passes_of_succeeded {specs : List Spec}
    (chosen : chosenSpecs site.catalog names = .ok specs) {ending : Ending}
    (ran : run site ("verify" :: names) = .ok ending) (code : ending.code = 0) :
    ∀ attempt ∈ attempts site.registry specs (started settings),
      attempt.passes site.registry = true := by
  have only {other : Nat} {printed : List Text}
      (prints : Prints site ("verify" :: names) other printed) : other = 0 := by
    obtain ⟨same, again, other, _⟩ := prints
    cases ran.symm.trans again
    exact other.symm.trans code
  cases first : (attempts site.registry specs (started settings)).find?
      (fun attempt => attempt.aborts site.registry) with
  | some attempt =>
    obtain ⟨fault, outcome, _⟩ := Attempt.finding_of_aborts (List.find?_some first)
    obtain ⟨after, failed, _⟩ :=
      Command.verify_ended chosen settings (started settings) first outcome
    cases expected : faultEnding fault with
    | none =>
      have uncaught := run_uncaught (ofArguments_verify _ _ noHyphen) loaded failed expected
      cases ran.symm.trans uncaught
    | some ended =>
      have zero := only (prints_of_error noHyphen loaded failed expected)
      exact absurd zero (code_ne_zero_of_faultEnding expected)
  | none =>
    obtain ⟨after, answered, _⟩ :=
      Command.verify_summed chosen settings (started settings) first
    have zero := only (prints_of_ok noHyphen loaded answered)
    have none : failures site.registry (attempts site.registry specs (started settings)) = 0 := by
      by_contra some
      rw [if_neg some] at zero
      cases zero
    intro attempt member
    simpa using List.countP_eq_zero.mp none attempt member

/-- Programs that were chosen are verified one after another. -/
theorem verifies_of_chosen {specs : List Spec}
    (chosen : chosenSpecs site.catalog names = .ok specs) :
    Verifies site settings names (attempts site.registry specs (started settings)) := by
  have ended {attempt : Attempt} {fault : Fault}
      (first : (attempts site.registry specs (started settings)).find?
        (fun attempt => attempt.aborts site.registry) = some attempt)
      (outcome : attempt.outcome site.registry = .error fault) :=
    Command.verify_ended chosen settings (started settings) first outcome
  have summed := Command.verify_summed chosen settings (started settings)
  refine ⟨fun attempt fault first outcome => ?_, fun goesOn => ?_, ?_⟩
  · obtain ⟨after, ran, printed⟩ := ended first outcome
    refine ⟨⟨after, ran, printed⟩, ?_, ?_, ?_⟩
    · rintro cause rfl
      have prints := prints_of_error noHyphen loaded ran rfl
      rwa [printed] at prints
    · rintro text rfl
      have prints := prints_of_error noHyphen loaded ran rfl
      rwa [printed] at prints
    · exact run_uncaught (ofArguments_verify _ _ noHyphen) loaded ran
  · obtain ⟨after, ran, printed⟩ := summed goesOn
    have prints := prints_of_ok noHyphen loaded ran
    rw [printed] at prints
    exact ⟨passed_add_failures _ _, prints⟩
  · intro ending ran code attempt member
    have passes := passes_of_succeeded noHyphen loaded chosen ran code attempt member
    unfold Attempt.passes at passes
    cases outcome : attempt.outcome site.registry with
    | error fault =>
      rw [outcome] at passes
      cases passes
    | ok report =>
      obtain ⟨again, between, after, first, second, same⟩ := Spec.exists_runs_of_verify outcome
      exact ⟨report, again, between, after, first, second, same, rfl⟩

end Line

/-- What the command that verifies prints and with which exit code it ends, for every site and all
names that do not begin with a hyphen. An unknown name is a misuse without output, whatever the
algorithms, and leaves the session as it is. Otherwise the programs that are asked for are verified
one after another.

That the registry is left free in the first part says that no program has run: an algorithm that
would fail, or would not be found, makes no difference there. In the second part programs and
algorithms are arbitrary, so that passing, failing and ending the command may come in any mixture.

Proof: the choice of programs is made before the first is verified. After it, the output is that of
the attempts in turn, and the exit code is read off the first one that ends the command or, if there
is none, off the number of failures. -/
theorem verify_verdicts (site : Site) (settings : Settings) (names : List Text)
    (noHyphen : ∀ name ∈ names, name.symbols.head? ≠ some (.character '-'))
    (loaded : Settings.load site.environment site.files none = .ok settings) :
    ((∃ name ∈ names, site.catalog.find? name = none) →
        (∃ ending, run site ("verify" :: names) = .ok ending ∧ ending.code = 2 ∧
            ending.output = "") ∧
          ∃ fault, ∀ registry session,
            ((Command.verify names).perform { site with registry } settings).run.run session =
              (.error fault, session)) ∧
      ((∀ name ∈ names, ∃ spec, site.catalog.find? name = some spec) →
        ∃ specs, Requested site.catalog names specs ∧
          (attempts site.registry specs (started settings)).map Attempt.spec = specs ∧
          Verifies site settings names (attempts site.registry specs (started settings))) := by
  constructor
  · intro unknown
    obtain ⟨name, known, chosen⟩ := chosenSpecs_unknown unknown
    have stays (registry : Registry) (session : Session) :
        ((Command.verify names).perform { site with registry } settings).run.run session =
          (.error (.unknownProgram name known), session) := by
      rw [Command.perform_verify, chosen]
      rfl
    exact ⟨prints_of_error noHyphen loaded (stays site.registry _) rfl, _, stays⟩
  · intro known
    obtain ⟨specs, chosen, requested⟩ := chosenSpecs_known known
    exact ⟨specs, requested, map_spec_attempts .., verifies_of_chosen noHyphen loaded chosen⟩

/-- A program that has one value sorted by an algorithm. -/
def single (name algorithm : Text) : Spec :=
  { name
    description := "One value"
    source := "literal"
    size := 1
    literal := Catalog.literal [1]
    algorithm := some algorithm }

/-- A site with a program whose result is wrong, and one whose algorithm is not registered. -/
def faultySite : Site :=
  { registry := ⟨[("wrong", fun bench => (.error (.violation (.stated "order" "wrong")), bench))]⟩
    catalog := ⟨[single "first" "wrong", single "second" "missing"]⟩ }

/-- The short literal at the start of a command. -/
def shortAttempt : Attempt :=
  ⟨Spec.shortLiteral, started (.limited 10000)⟩

/-- At this site an unknown name is a misuse without output, also after a known one; the program
with the wrong result fails, and the other one ends the command as a misuse after the entry of the
first. At the usual site the short literal is run twice and passes. -/
theorem verify_verdicts_faultySite :
    (∃ ending, run faultySite ["verify", "first", "third"] = .ok ending ∧ ending.code = 2 ∧
        ending.output = "") ∧
      Prints faultySite ["verify", "first", "second"] 2
        ["  [FAIL] first: [INVARIANT:order] wrong"] ∧
      Prints faultySite ["verify", "first"] 1
        ["  [FAIL] first: [INVARIANT:order] wrong", "\n0 passed, 1 failed out of 1"] ∧
      ∃ report : Report, Prints {} ["verify", "bubblesort"] 0
          ["  [PASS] bubblesort: " ++ report.outputDigest, "\n1 passed, 0 failed out of 1"] ∧
        ∃ again between after,
          (Spec.shortLiteral.run .builtIn).run.run (started (.limited 10000)) =
            (.ok report, between) ∧
          (Spec.shortLiteral.run .builtIn).run.run between = (.ok again, after) ∧
          report.outputDigest = again.outputDigest := by
  have loaded : Settings.load [] [] none = .ok (.limited 10000) := rfl
  have verdicts (names : List Text) (noHyphen) :=
    verify_verdicts faultySite (.limited 10000) names noHyphen loaded
  refine ⟨?_, ?_, ?_, ?_⟩
  · exact ((verdicts ["first", "third"] (by decide)).1 ⟨"third", by decide, rfl⟩).1
  · obtain ⟨specs, requested, _, verifies⟩ := (verdicts ["first", "second"] (by decide)).2
      (by simp only [List.forall_mem_cons]; exact ⟨⟨_, rfl⟩, ⟨_, rfl⟩, by simp⟩)
    obtain rfl : specs = [single "first" "wrong", single "second" "missing"] :=
      requested.eq_of_forall₂ (by decide) (.cons rfl (.cons rfl .nil))
    exact (verifies.ended _ _ rfl rfl).2.1 _ rfl
  · obtain ⟨specs, requested, _, verifies⟩ := (verdicts ["first"] (by decide)).2
      (by simp only [List.forall_mem_cons]; exact ⟨⟨_, rfl⟩, by simp⟩)
    obtain rfl : specs = [single "first" "wrong"] :=
      requested.eq_of_forall₂ (by decide) (.cons rfl .nil)
    exact (verifies.summed rfl).2
  · obtain ⟨specs, requested, _, verifies⟩ :=
      (verify_verdicts {} (.limited 10000) ["bubblesort"] (by decide) loaded).2
        (by simp only [List.forall_mem_cons]; exact ⟨⟨_, rfl⟩, by simp⟩)
    obtain rfl : specs = [Spec.shortLiteral] :=
      requested.eq_of_forall₂ (by decide) (.cons rfl .nil)
    obtain ⟨report, verified⟩ :=
      Smoke.exists_verified rfl (show Spec.shortLiteral.refusal? = none by decide)
        (Spec.not_givesUp_bubble rfl [4, 6, 2, 7, 8]) (by decide) (started (.limited 10000))
    have only : attempts .builtIn [Spec.shortLiteral] (started (.limited 10000)) =
        [shortAttempt] := rfl
    have outcome : shortAttempt.outcome .builtIn = .ok report := verified
    have goesOn : shortAttempt.aborts .builtIn = false := by rw [Attempt.aborts, outcome]
    have passes : shortAttempt.passes .builtIn = true := by
      rw [Attempt.passes, outcome]
      rfl
    have entry : shortAttempt.entry .builtIn =
        "  [PASS] bubblesort: " ++ report.outputDigest := by
      rw [Attempt.entry, outcome]
      rfl
    rw [only] at verifies
    have prints := (verifies.summed (List.find?_cons_of_neg (Bool.eq_false_iff.mp goesOn))).2
    unfold failures summary passed failures at prints
    rw [List.map_cons, entry] at prints
    simp only [List.countP_cons, passes] at prints
    refine ⟨report, prints, ?_⟩
    obtain ⟨ending, ran, code, _⟩ := prints
    obtain ⟨same, again, between, after, first, second, digest, shown⟩ :=
      verifies.verified ending ran code _ (List.mem_singleton_self _)
    cases outcome.symm.trans shown
    exact ⟨again, between, after, first, second, digest⟩

end CommandLine

end SortBench
