import SortBench.Proofs.CommandLine.Endings
import SortBench.Proofs.Program.EndToEnd
import SortBench.Proofs.Service.Posted

/-!
# The limit

The settings have a largest number of values that are drawn or sorted on request. The service holds
every array that a request asks for against it, and refuses a longer one before anything is
computed. The command line does so for values that are drawn and for integers that are given. Where
it runs or verifies programs, the limit has no part in the ending: a program that can be reported is
reported, whatever its size.

A refusal names the number of values that were asked for. A number that a client posts was read from
decimal digits, so it can be written again, and so can the length of a list. The size that a program
declares is a number of the program text, of any size; where it has too many digits, the refusal
itself fails, and the client learns only of an internal error. The limit is no obstacle to the text:
it was read from the environment or from a file.
-/

namespace SortBench

open Numeral (IsShort)

/-- What an array is filled with: the input of a program, values that are drawn, or integers that
are given. These are all the arrays that either front end ever fills. -/
inductive Filling where
  /-- The input of a program. -/
  | program (spec : Spec)
  /-- Values drawn from the register. -/
  | drawn (seed count : Int)
  /-- Given integers. -/
  | given (numbers : List Int)

namespace Filling

/-- The number of values that are asked for, before any of them is there. It may be negative, or too
large to be met. -/
def size : Filling → Int
  | program spec => spec.size
  | drawn _ count => count
  | given numbers => numbers.length

/-- The values, unless they are refused. -/
def values : Filling → Except Precondition (List Value)
  | program spec => spec.input 0
  | drawn seed count =>
    match Generator.ofSeed seed with
    | .error cause => .error cause
    | .ok generator =>
      (generator.take count).map fun taken => taken.1.map fun (value : Nat) => .integer value
  | given numbers => .ok (numbers.map .integer)

/-- The status of the refusal of an array that is longer than the limit. A declared size with more
digits than are written has no refusal that could name it. -/
def refusalStatus : Filling → Nat
  | program spec => if IsShort spec.size then 400 else 500
  | drawn _ _ => 400
  | given _ => 400

/-- There are as many values as were asked for. So a bound on what is asked for is a bound on what
is there, and the other way round. -/
theorem length_of_values {filling : Filling} {values : List Value}
    (filled : filling.values = .ok values) : (values.length : Int) = filling.size := by
  cases filling with
  | program spec => exact Spec.length_of_input filled
  | drawn seed count =>
    simp only [Filling.values] at filled
    split at filled
    · cases filled
    case h_2 generator _ =>
      cases taken : generator.take count with
      | error cause =>
        rw [taken] at filled
        cases filled
      | ok result =>
        rw [taken] at filled
        cases filled
        rw [List.length_map]
        exact Generator.length_of_take taken
  | given numbers =>
    cases filled
    rw [List.length_map]
    rfl

end Filling

/-- The arrays that a command asks for. -/
inductive CommandLine.Command.AsksFor (site : Site) (settings : Settings) :
    Command → Filling → Prop where
  /-- The input of the program that is run. -/
  | run {name : Text} {shown : GivenNumber} {spec : Spec}
    (found : site.catalog.get name = .ok spec) :
    AsksFor site settings (.run name shown) (.program spec)
  /-- The values that are drawn. -/
  | draw {given : Option GivenNumber} {seed count : Int} {hexadecimal : Bool}
    (chosen : given.getD (some settings.seed) = some seed) :
    AsksFor site settings (.draw given (some count) hexadecimal) (.drawn seed count)
  /-- The integers that are sorted. -/
  | sort {algorithm : Text} {numbers : List Int} :
    AsksFor site settings (.sort algorithm numbers) (.given numbers)
  /-- The inputs of the programs that are verified. -/
  | verify {names : List Text} {specs : List Spec} {spec : Spec}
    (chosen : chosenSpecs site.catalog names = .ok specs) (member : spec ∈ specs) :
    AsksFor site settings (.verify names) (.program spec)

/-- The arrays that a request with a readable body asks for at an endpoint. -/
inductive Service.Endpoint.AsksFor (site : Site) (settings : Settings) (body : Text) :
    Endpoint → Filling → Prop where
  /-- The input of the program that is run. -/
  | run {name : Text} {shown : Option Int} {spec : Spec} (posted : readRun body = .ok shown)
    (found : site.catalog.find? name = some spec) :
    AsksFor site settings body (.run name) (.program spec)
  /-- The values that are drawn. -/
  | draw {request : DrawRequest} (posted : readDraw body = .ok request) :
    AsksFor site settings body .draw
      (.drawn (request.seed.getD settings.seed) request.count)
  /-- The integers that are sorted. -/
  | sort {request : SortRequest} (posted : readSort body = .ok request) :
    AsksFor site settings body .sort (.given request.values)

/-- The arrays that a request asks for, if it reaches an endpoint by its method. -/
def Service.Request.AsksFor (site : Site) (settings : Settings) (request : Request)
    (filling : Filling) : Prop :=
  ∃ endpoint, Endpoint.ofPath? request.path = some endpoint ∧ request.method = endpoint.method ∧
    endpoint.AsksFor site settings request.body filling

/-- The service refuses a request for an array that is longer than the limit. The three endpoints
that fill arrays make the same check before they do anything else, so the status depends on the
array alone. -/
theorem Service.refuses_beyond_limit {site : Site} {settings : Settings} {request : Request}
    {filling : Filling} (asks : request.AsksFor site settings filling)
    (beyond : settings.limit < filling.size) :
    (answer site settings request).status = filling.refusalStatus := by
  obtain ⟨endpoint, reached, method, asks⟩ := asks
  have refused : (endpoint.answer site settings request.body).status = filling.refusalStatus := by
    unfold Endpoint.answer answerPosted
    cases asks with
    | run posted found =>
      rw [posted]
      dsimp only [Filling.size] at beyond ⊢
      rw [answerRun, found]
      dsimp only
      rw [if_pos beyond]
      exact status_tooManyDeclared ..
    | draw posted =>
      rw [posted]
      dsimp only [Filling.size] at beyond ⊢
      rw [answerDraw, if_pos beyond, status_tooManyDeclared]
      exact if_pos (isShort_of_readDraw posted)
    | sort posted =>
      rw [posted]
      dsimp only [Filling.size] at beyond ⊢
      rw [answerSort, if_pos beyond]
      exact status_tooMany ..
  rw [answer, reached]
  dsimp only
  rw [if_pos (beq_iff_eq.mpr method), refused]

namespace CommandLine

/-- Values that are drawn are within the limit, and are those that were asked for. The command that
draws values checks their number itself. -/
theorem filled_of_drawValues {settings : Settings} {given : Option GivenNumber}
    {seed count : Int} {values : List Nat} (chosen : given.getD (some settings.seed) = some seed)
    (drawn : drawValues settings given (some count) = .ok values) :
    count ≤ settings.limit ∧
      (Filling.drawn seed count).values = .ok (values.map fun (value : Nat) => .integer value) := by
  rw [drawValues_chosen chosen] at drawn
  by_cases beyond : settings.limit < count
  · rw [if_pos beyond] at drawn
    cases drawn
  · rw [if_neg beyond] at drawn
    refine ⟨Int.not_lt.mp beyond, ?_⟩
    simp only [Filling.values]
    cases source : Generator.ofSeed seed with
    | error cause =>
      rw [source] at drawn
      cases drawn
    | ok generator =>
      rw [source] at drawn
      dsimp only at drawn ⊢
      cases taken : generator.take count with
      | error cause =>
        rw [taken] at drawn
        cases drawn
      | ok result =>
        rw [taken] at drawn
        cases drawn
        rfl

/-- When a program is reported, its input was there. Nothing is said of the limit, as nothing on the
way to a report looks at it. -/
theorem filled_of_answer {registry : Registry} {spec : Spec} {report : Report}
    (reported : spec.answer registry 0 = .ok report) :
    ∃ values, (Filling.program spec).values = .ok values := by
  obtain ⟨input, _, built, _⟩ := Spec.answer_eq_ok_iff.mp reported
  exact ⟨input, built⟩

/-- A command that can be carried out has every array that it asks for, and none of them is longer
than the limit unless it is the input of a program. -/
theorem Command.Succeeds.filled {site : Site} {settings : Settings} {command : Command}
    {filling : Filling} (succeeds : command.Succeeds site settings)
    (asks : command.AsksFor site settings filling) :
    (∃ values, filling.values = .ok values) ∧
      (filling.size ≤ settings.limit ∨ ∃ spec, filling = .program spec) := by
  cases asks with
  | run found =>
    obtain ⟨_, spec, report, again, reported⟩ := succeeds
    cases found.symm.trans again
    exact ⟨filled_of_answer reported, Or.inr ⟨_, rfl⟩⟩
  | verify chosen member =>
    obtain ⟨specs, again, reported⟩ := succeeds
    cases chosen.symm.trans again
    obtain ⟨report, reported⟩ := reported _ member
    exact ⟨filled_of_answer reported, Or.inr ⟨_, rfl⟩⟩
  | draw chosen =>
    obtain ⟨values, drawn⟩ := succeeds
    obtain ⟨within, filled⟩ := filled_of_drawValues chosen drawn
    exact ⟨⟨_, filled⟩, Or.inl within⟩
  | sort =>
    obtain ⟨bench, document, sorted, _⟩ := succeeds
    exact ⟨⟨_, rfl⟩, Or.inl (sortNumbers_eq_ok_iff.mp sorted).1⟩

end CommandLine

/-- Where the limit applies, whatever the site with its steady programs and the settings. The
service refuses a request for an array beyond the limit: as a bad request, unless a program declares
a size that has too many digits to be named, when the refusal is an internal error. On the command
line a request ends with code zero exactly when its command can be carried out, which for running
and verifying programs does not depend on the limit; and then every array that was asked for was
there, and was within the limit unless it was the input of a program. An array has as many values as
were asked for.

The two front ends therefore differ, and on one kind of array only: programs that the service
refuses for their size are run and verified on the command line.

Proof: the service makes one check at three places, before anything else. A request on the command
line ends with code zero exactly if its command succeeds, and what success asks of each command is
looked through for arrays. -/
theorem scope_of_limit (site : Site) (settings : Settings)
    (steady : ∀ spec ∈ site.catalog.specs, spec.IsSteady) :
    (∀ (request : Service.Request) filling, request.AsksFor site settings filling →
        settings.limit < filling.size →
        (Service.answer site settings request).status = filling.refusalStatus) ∧
      (∀ (request : CommandLine.Request),
        (∃ ending, request.perform site settings = .ok ending ∧
            ending.code = CommandLine.succeeded) ↔
          request.command.Succeeds site settings) ∧
      (∀ (request : CommandLine.Request) ending filling,
        request.perform site settings = .ok ending → ending.code = CommandLine.succeeded →
        request.command.AsksFor site settings filling →
        (∃ values, filling.values = .ok values) ∧
          (filling.size ≤ settings.limit ∨ ∃ spec, filling = .program spec)) ∧
      ∀ (filling : Filling) values, filling.values = .ok values →
        (values.length : Int) = filling.size := by
  have carriedOut (request : CommandLine.Request) :
      (∃ ending, request.perform site settings = .ok ending ∧
          ending.code = CommandLine.succeeded) ↔ request.command.Succeeds site settings :=
    (request.ends_succeeded_iff site settings).trans
      (request.command.perform_eq_succeeded_iff steady settings _)
  refine ⟨fun _ _ => Service.refuses_beyond_limit, carriedOut, ?_, ?_⟩
  · intro request ending filling ended code asks
    exact ((carriedOut request).mp ⟨ending, ended, code⟩).filled asks
  · exact fun _ _ => Filling.length_of_values

theorem Catalog.reference_isSteady : ∀ spec ∈ reference.specs, spec.IsSteady := by
  unfold Spec.IsSteady
  decide

/-- The short literal of the reference programs is reported. -/
theorem Spec.exists_report_shortLiteral :
    ∃ report, shortLiteral.answer .builtIn 0 = .ok report := by
  have steady : shortLiteral.IsSteady := rfl
  have short : ∀ number ∈ shortLiteral.given [4, 6, 2, 7, 8], IsShort number := by decide
  obtain ⟨_, refused, _⟩ | ⟨_, exhausted, _⟩ | ⟨_, _, long, _⟩ | ⟨_, _, _, report, ran, _⟩ :=
    run_integers_cases (show shortLiteral.literal = Catalog.literal [4, 6, 2, 7, 8] from rfl) {}
  · cases refused
  · exact absurd exhausted (not_givesUp_bubble rfl _)
  · exact absurd short long
  · rw [run_answer, steady.answer_eq] at ran
    exact ⟨report, ran⟩

/-- With a limit of three, the service refuses to run the short literal, which has five values; on
the command line it is run. -/
theorem scope_of_limit_three :
    (Service.answer {} (.limited 3) ⟨"POST", "/programs/bubblesort/run", ""⟩).status = 400 ∧
      ∃ ending, CommandLine.Request.perform {} (.limited 3)
          ⟨none, none, .run "bubblesort" (some 10)⟩ = .ok ending ∧
        ending.code = CommandLine.succeeded := by
  obtain ⟨refused, carriedOut, _⟩ :=
    scope_of_limit {} (.limited 3) Catalog.reference_isSteady
  refine ⟨refused _ (.program Spec.shortLiteral) ⟨.run "bubblesort", rfl, rfl, ?_⟩ (by decide), ?_⟩
  · exact .run (show Service.readRun "" = .ok none from rfl) rfl
  · obtain ⟨report, reported⟩ := Spec.exists_report_shortLiteral
    exact (carriedOut _).mpr ⟨⟨10, rfl⟩, Spec.shortLiteral, report, rfl, reported⟩

/-- With the limit set to three, the command line runs and verifies the short literal, which has
five values, and ends with code zero. -/
theorem limit_exceeded :
    Settings.ofEnvironment [(Settings.limitName, "3")] = .ok (.limited 3) ∧
      ∀ command ∈ [CommandLine.Command.run "bubblesort" (some 10), .verify ["bubblesort"]],
        (∃ ending, CommandLine.Request.perform {} (.limited 3) ⟨none, none, command⟩ =
            .ok ending ∧ ending.code = CommandLine.succeeded) ∧
          ∃ filling values, command.AsksFor {} (.limited 3) filling ∧
            filling.values = .ok values ∧ (Settings.limited 3).limit < values.length := by
  refine ⟨rfl, ?_⟩
  obtain ⟨report, reported⟩ := Spec.exists_report_shortLiteral
  have found : Catalog.reference.get "bubblesort" = .ok Spec.shortLiteral := rfl
  have chosen : CommandLine.chosenSpecs Catalog.reference ["bubblesort"] =
      .ok [Spec.shortLiteral] := rfl
  have carriedOut {command : CommandLine.Command}
      (succeeds : command.Succeeds {} (.limited 3)) :
      ∃ ending, CommandLine.Request.perform {} (.limited 3) ⟨none, none, command⟩ =
        .ok ending ∧ ending.code = CommandLine.succeeded :=
    (CommandLine.Request.ends_succeeded_iff ..).mpr
      ((CommandLine.Command.perform_eq_succeeded_iff Catalog.reference_isSteady ..).mpr succeeds)
  have longer : ∃ values, (Filling.program Spec.shortLiteral).values = .ok values ∧
      (Settings.limited 3).limit < values.length := ⟨_, rfl, by decide⟩
  obtain ⟨values, filled, beyond⟩ := longer
  simp only [List.forall_mem_cons]
  refine ⟨⟨carriedOut ⟨⟨10, rfl⟩, Spec.shortLiteral, report, found, reported⟩, ?_⟩,
    ⟨carriedOut ⟨[Spec.shortLiteral], chosen, ?_⟩, ?_⟩, by simp⟩
  · exact ⟨_, values, .run found, filled, beyond⟩
  · exact List.forall_mem_singleton.mpr ⟨report, reported⟩
  · exact ⟨_, values, .verify chosen (List.mem_singleton_self _), filled, beyond⟩

end SortBench
