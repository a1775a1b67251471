import SortBench.CommandLine.Commands
import SortBench.Proofs.Digest.Conversion
import SortBench.Proofs.Program.Steady

/-!
# Commands that are carried out

A request ends with code zero exactly when its command was carried out, and each command says by its
arguments and the site alone when that is: when its program is known and reported, its values are
drawn, its integers are sorted, or all of its programs are reported. For a verification, which goes
on after a finding, this holds of steady programs.
-/

namespace SortBench

/-- The settings of an environment that sets nothing but the limit. -/
def Settings.limited (limit : Int) : Settings :=
  { seed := Register.defaultSeed
    limit
    level := .info
    frontend := Settings.defaultFrontend }

namespace CommandLine

/-- What verifying a program finds of the answer of a run: whether it failed. A report is no
failure; a result that is wrong or that differs between two runs is one; any other fault is no
finding at all. -/
def finding : Except Fault Report → Except Fault Bool
  | .ok _ => .ok false
  | .error (.diverged _ _ _) => .ok true
  | .error (.violation _) => .ok true
  | .error other => .error other

/-- Nothing is found to have failed exactly when the program is reported. -/
theorem finding_eq_false_iff (answer : Except Fault Report) :
    finding answer = .ok false ↔ ∃ report, answer = .ok report := by
  cases answer with
  | ok report => simp [finding]
  | error fault => cases fault <;> simp [finding]

/-- Verifying a program answers with what is found of its verification. The line that it prints is
left out here and is the matter of the attempts. -/
theorem verifyOne_finding (registry : Registry) (spec : Spec) (session : Session) :
    ((verifyOne registry spec).run.run session).1 =
      finding ((spec.verify registry).run.run session).1 := by
  unfold verifyOne
  rw [Procedure.run_bind, Procedure.run_outcome]
  cases ((spec.verify registry).run.run session).1 with
  | ok report => rfl
  | error fault => cases fault <;> rfl

/-- Verifying a steady program answers with what is found of its first run, as the second one has
the same digest. -/
theorem verifyOne_answer {spec : Spec} (steady : spec.IsSteady) (registry : Registry)
    (session : Session) :
    ((verifyOne registry spec).run.run session).1 = finding (spec.answer registry 0) := by
  rw [verifyOne_finding, steady.verify_answer]

/-- The findings of several programs contain no failure exactly when all of them are reported. In
one direction this includes that no fault has ended the walk before its end. -/
theorem mapM_finding_iff (registry : Registry) (specs : List Spec) :
    (∃ failures, specs.mapM (fun spec => finding (spec.answer registry 0)) = .ok failures ∧
        failures.count true = 0) ↔
      ∀ spec ∈ specs, ∃ report, spec.answer registry 0 = .ok report := by
  induction specs with
  | nil => simp [pure, Except.pure]
  | cons spec rest inductionHypothesis =>
    rw [List.forall_mem_cons, ← inductionHypothesis, ← finding_eq_false_iff, List.mapM_cons]
    cases finding (spec.answer registry 0) with
    | error fault => simp [bind, Except.bind]
    | ok failure =>
      cases rest.mapM fun spec => finding (spec.answer registry 0) with
      | error fault => simp [bind, Except.bind]
      | ok failures => cases failure <;> simp [bind, Except.bind, pure, Except.pure]

theorem mem_specs_of_get {catalog : Catalog} {name : Text} {spec : Spec}
    (found : catalog.get name = .ok spec) : spec ∈ catalog.specs := by
  unfold Catalog.get Catalog.find? at found
  split at found
  case h_1 listed =>
    cases found
    exact List.mem_of_find?_eq_some listed
  case h_2 => cases found

/-- Chosen programs are programs of the catalog, also when they were chosen by no name at all. -/
theorem mem_specs_of_chosen {catalog : Catalog} {names : List Text} {specs : List Spec}
    (chosen : chosenSpecs catalog names = .ok specs) : ∀ spec ∈ specs, spec ∈ catalog.specs := by
  unfold chosenSpecs at chosen
  intro spec member
  split at chosen
  · cases chosen
    exact (List.mergeSort_perm _ _).subset member
  · have paired := mapM_eq_ok_iff.mp chosen
    obtain ⟨position, inside, rfl⟩ := List.mem_iff_getElem.mp member
    exact mem_specs_of_get (paired.get (paired.length_eq ▸ inside) inside)

/-- When a command can be carried out. It is put in terms of what the command is about, and not of
how it is performed, so that it can be compared with what the service accepts. -/
def Command.Succeeds (site : Site) (settings : Settings) : Command → Prop
  | list => True
  | run name shown =>
    (∃ count, shown = some count) ∧ ∃ spec report, site.catalog.get name = .ok spec ∧
      spec.answer site.registry 0 = .ok report
  | draw seed count _ => ∃ values, drawValues settings seed count = .ok values
  | sort algorithm numbers =>
    ∃ bench document, sortNumbers site.registry settings.limit algorithm numbers = .ok bench ∧
      sortedDocument algorithm bench = .ok document
  | verify names =>
    ∃ specs, chosenSpecs site.catalog names = .ok specs ∧
      ∀ spec ∈ specs, ∃ report, spec.answer site.registry 0 = .ok report

/-- Integers are sorted when they are within the limit and the algorithm ends well. Nothing is asked
of what it leaves, since no judge is called here. -/
theorem sortNumbers_eq_ok_iff {registry : Registry} {limit : Int} {algorithm : Text}
    {numbers : List Int} {bench : Bench} :
    sortNumbers registry limit algorithm numbers = .ok bench ↔
      (numbers.length : Int) ≤ limit ∧
        registry.sort algorithm (Bench.ofList (numbers.map .integer)) = (.ok (), bench) := by
  unfold sortNumbers
  by_cases beyond : limit < numbers.length
  · rw [if_pos beyond]
    exact iff_of_false (by rintro ⟨⟩) fun within => absurd within.1 (Int.not_le.mpr beyond)
  · rw [if_neg beyond]
    cases registry.sort algorithm (Bench.ofList (numbers.map .integer)) with
    | mk outcome left =>
      cases outcome with
      | error fault => simp
      | ok answer => simp [Int.not_lt.mp beyond]

/-- The command that sorts prints the document of what the algorithm left, if it left anything that
has one. A failure on the way is met as it is raised, and nothing has been printed by then. -/
theorem Command.perform_sort (site : Site) (settings : Settings) (algorithm : Text)
    (numbers : List Int) (session : Session) :
    ((sort algorithm numbers).perform site settings).run.run session =
      match sortNumbers site.registry settings.limit algorithm numbers with
      | .error fault => (.error (fault.raised Numeral.usualLimit), session)
      | .ok bench =>
        match sortedDocument algorithm bench with
        | .error fault => (.error (fault.raised Numeral.usualLimit), session)
        | .ok document =>
          (.ok succeeded, { session with printed := session.printed ++ [↑document.indented] }) := by
  unfold perform
  rw [Procedure.run_ofExcept_bind]
  cases sortNumbers site.registry settings.limit algorithm numbers with
  | error fault => rfl
  | ok bench =>
    dsimp only
    rw [Procedure.run_ofExcept_bind]
    cases sortedDocument algorithm bench with
    | error cause => rfl
    | ok document => rfl

/-- What is drawn for a seed and a number that are not missing: the number is held against the
limit, then the seed is checked, then the number. Of several violated conditions the first in this
order is the one that is named. -/
theorem drawValues_chosen {settings : Settings} {given : Option GivenNumber} {seed : Int}
    (chosen : given.getD (some settings.seed) = some seed) (count : Int) :
    drawValues settings given (some count) =
      if settings.limit < count then .error (.precondition (.countBeyondLimit count settings.limit))
      else
        match Generator.ofSeed seed with
        | .error cause => .error (.precondition cause)
        | .ok generator => ((generator.take count).mapError .precondition).map Prod.fst := by
  by_cases beyond : settings.limit < count
  · have refused : checkedCount settings.limit (some count) =
        .error (.precondition (.countBeyondLimit count settings.limit)) := if_pos beyond
    rw [drawValues, refused, if_pos beyond]
  · have counted : checkedCount settings.limit (some count) = .ok count := if_neg beyond
    rw [drawValues, counted, chosen]
    exact (if_neg beyond).symm

/-- The line of a value that is drawn, in decimal or in hexadecimal. -/
def drawnLine (hexadecimal : Bool) (value : Nat) : Text :=
  if hexadecimal then Numeral.registerHex value else Numeral.decimal value

/-- The command that draws values prints each on a line of its own. All values are drawn before the
first is printed, so a failure has no output. -/
theorem Command.perform_draw (site : Site) (settings : Settings) (seed : Option GivenNumber)
    (count : GivenNumber) (hexadecimal : Bool) (session : Session) :
    ((draw seed count hexadecimal).perform site settings).run.run session =
      match drawValues settings seed count with
      | .error fault => (.error (fault.raised Numeral.usualLimit), session)
      | .ok values =>
        (.ok succeeded,
          { session with printed := session.printed ++ values.map (drawnLine hexadecimal) }) := by
  unfold perform
  rw [Procedure.run_ofExcept_bind]
  cases drawValues settings seed count with
  | error fault => rfl
  | ok values => cases hexadecimal <;> rfl

/-- A steady program is run when it is known and reported, and a number of values to show is given.
A missing number is no misuse here: it is met as a fault only after the program has run. -/
theorem Command.perform_run_iff {site : Site} {name : Text}
    (steady : ∀ spec, site.catalog.get name = .ok spec → spec.IsSteady) (settings : Settings)
    (shown : GivenNumber) (session : Session) :
    (((run name shown).perform site settings).run.run session).1 = .ok succeeded ↔
      (run name shown).Succeeds site settings := by
  unfold perform
  rw [Procedure.run_ofExcept_bind]
  cases found : site.catalog.get name with
  | error fault => simp [Succeeds, found]
  | ok spec =>
    have answers := spec.run_answer site.registry session
    rw [(steady spec found).answer_eq] at answers
    dsimp only
    rw [Procedure.run_bind]
    cases ran : (spec.run site.registry).run.run session with
    | mk outcome after =>
      rw [ran] at answers
      cases outcome with
      | error fault => simp [Succeeds, found, ← answers]
      | ok report =>
        cases shown with
        | none => exact iff_of_false (by rintro ⟨⟩) (by rintro ⟨⟨_, ⟨⟩⟩, _⟩)
        | some count => exact iff_of_true rfl ⟨⟨count, rfl⟩, spec, report, found, answers.symm⟩

/-- The command that verifies ends with an unknown name, or with the first fault of a program that
is no finding, or else with the summary. The exit code then says whether any program failed, and not
how many. -/
theorem Command.perform_verify (site : Site) (settings : Settings) (names : List Text)
    (session : Session) :
    ((verify names).perform site settings).run.run session =
      match chosenSpecs site.catalog names with
      | .error fault => (.error (fault.raised Numeral.usualLimit), session)
      | .ok specs =>
        match (specs.mapM (verifyOne site.registry)).run.run session with
        | (.error fault, after) => (.error fault, after)
        | (.ok failures, after) =>
          (.ok (if failures.count true = 0 then succeeded else failed),
            { after with printed :=
                after.printed ++ [↑(summaryLine (failures.count true) specs.length)] }) := by
  unfold perform
  rw [Procedure.run_ofExcept_bind]
  cases chosenSpecs site.catalog names with
  | error fault => rfl
  | ok specs =>
    dsimp only
    rw [Procedure.run_bind]
    cases (specs.mapM (verifyOne site.registry)).run.run session with
    | mk outcome after =>
      cases outcome with
      | error fault => rfl
      | ok failures => rfl

/-- Steady programs are verified without a failure when all of them are reported. -/
theorem Command.perform_verify_iff {site : Site} {names : List Text}
    (steady : ∀ specs, chosenSpecs site.catalog names = .ok specs → ∀ spec ∈ specs, spec.IsSteady)
    (settings : Settings) (session : Session) :
    (((verify names).perform site settings).run.run session).1 = .ok succeeded ↔
      (verify names).Succeeds site settings := by
  rw [perform_verify]
  cases chosen : chosenSpecs site.catalog names with
  | error fault => simp [Succeeds, chosen]
  | ok specs =>
    have answers := Procedure.run_mapM (fun spec member before =>
      verifyOne_answer (steady specs chosen spec member) site.registry before) session
    simp only [Succeeds, chosen, Except.ok.injEq, exists_eq_left', ← mapM_finding_iff, ← answers]
    cases (specs.mapM (verifyOne site.registry)).run.run session with
    | mk outcome after =>
      cases outcome with
      | error fault => simp
      | ok failures =>
        show Except.ok (if failures.count true = 0 then succeeded else failed) = _ ↔ _
        by_cases none : failures.count true = 0
        · simp [none]
        · simp [none, succeeded, failed]

/-- A command is carried out when it can be. This is one statement about all commands, by cases on
which one it is; that programs are steady matters for those that run programs. -/
theorem Command.perform_eq_succeeded_iff {site : Site}
    (steady : ∀ spec ∈ site.catalog.specs, spec.IsSteady) (settings : Settings)
    (command : Command) (session : Session) :
    ((command.perform site settings).run.run session).1 = .ok succeeded ↔
      command.Succeeds site settings := by
  cases command with
  | list => exact iff_of_true rfl trivial
  | run name shown =>
    exact perform_run_iff (fun spec found => steady spec (mem_specs_of_get found)) ..
  | draw seed count hexadecimal =>
    rw [perform_draw]
    cases drawn : drawValues settings seed count with
    | error fault => simp [Succeeds, drawn]
    | ok values => exact iff_of_true rfl ⟨values, drawn⟩
  | sort algorithm numbers =>
    rw [perform_sort]
    cases sorted : sortNumbers site.registry settings.limit algorithm numbers with
    | error fault => simp [Succeeds, sorted]
    | ok bench =>
      dsimp only
      cases written : sortedDocument algorithm bench with
      | error cause => simp [Succeeds, sorted, written]
      | ok document => exact iff_of_true rfl ⟨bench, document, sorted, written⟩
  | verify names =>
    exact perform_verify_iff (fun specs chosen spec member =>
      steady spec (mem_specs_of_chosen chosen spec member)) ..

/-- A request ends with code zero exactly when its command is carried out. The settings are already
loaded here, so what is left to fail is the command. -/
theorem Request.ends_succeeded_iff (site : Site) (settings : Settings) (request : Request) :
    (∃ ending, request.perform site settings = .ok ending ∧ ending.code = succeeded) ↔
      ((request.command.perform site settings).run.run { entries := [settingsEntry settings] }).1 =
        .ok succeeded := by
  unfold perform
  cases (request.command.perform site settings).run.run { entries := [settingsEntry settings] } with
  | mk outcome after =>
    cases outcome with
    | ok code => simp
    | error fault =>
      dsimp only
      cases fault <;> simp [faultEnding, succeeded, misused, failed]

end CommandLine

end SortBench
