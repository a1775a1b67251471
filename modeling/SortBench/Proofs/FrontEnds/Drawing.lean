import SortBench.Proofs.CommandLine.Arguments
import SortBench.Proofs.CommandLine.Outcomes
import SortBench.Proofs.Service.Posted
import SortBench.Proofs.Settings.Loading

/-!
# Drawing values by either front end

The command line and the service draw the same values and refuse the same requests, each checking by
itself first the limit, then the seed, then the number. A request has one more way to fail: an
integer with more digits than are read. Then the service cannot read the body, and the command line
refuses the argument. No such request could have been met, since a limit that was loaded is short.

The service answers with the final register. Whoever goes on from there draws what would have been
drawn at once.
-/

namespace SortBench

open Numeral (IsShort)

/-- The limit of an environment is short, since it was read from a text. -/
theorem Settings.isShort_of_readLimit {environment : Texts} {limit : Int}
    (read : readLimit environment = .ok limit) : IsShort limit := by
  unfold readLimit at read
  dsimp only at read
  generalize (environment.lookup limitName).getD "" = text at read
  split at read
  case h_1 => cases read
  case h_2 number found =>
    have short : IsShort number := by
      by_cases empty : text.isEmpty = true
      · rw [if_pos empty] at found
        cases found
        exact Numeral.isShort_of_lt (by decide)
      · rw [if_neg empty] at found
        cases decimal : Numeral.readDecimal text with
        | error misread =>
          rw [decimal] at found
          cases found
        | ok value =>
          rw [decimal] at found
          cases found
          exact Numeral.isShort_of_readDecimal decimal
    split at read
    · cases read
    · cases read
      exact short

/-- A limit that was loaded is short, whether it was set or is the default. Counts that are within
it can therefore be named in a refusal. -/
theorem Settings.isShort_limit {environment : Texts} {files : Files} {chosen : Option Text}
    {settings : Settings} (loaded : load environment files chosen = .ok settings) :
    IsShort settings.limit := by
  obtain ⟨filled, found⟩ := exists_ofEnvironment_of_loadBy loaded
  unfold ofEnvironment at found
  split at found
  case h_1 => cases found
  case h_2 =>
    split at found
    case h_1 => cases found
    case h_2 limit read =>
      split at found
      · cases found
      · cases found
        exact isShort_of_readLimit read

theorem Settings.chosen_seed (settings : Settings) (seed : Option Int) :
    (seed.map some).getD (some settings.seed) = some (seed.getD settings.seed) := by
  cases seed with
  | none => rfl
  | some seed => rfl

namespace Service

open Json
open CommandLine (drawValues_chosen)

/-- A reply lists values and a final register. Other members of its document are left open. -/
def Reply.Draws (reply : Reply) (values : List Nat) (register : Nat) : Prop :=
  reply.status = 200 ∧ ∃ document, reply.body = .document document ∧
    document.member? "values" = some (.ofIntegers (values.map (Nat.cast : Nat → Int))) ∧
    document.member? "register" = some (.integer register)

/-- The reply with values that were drawn lists them and the final register. -/
theorem Reply.draws_ok (seed count : Int) (values : List Nat) (register : Nat) :
    (Reply.ok
      (.object
        [("seed", .integer seed), ("count", .integer count),
          ("values", .ofIntegers (values.map fun (value : Nat) => (value : Int))),
          ("register", .integer register)])).Draws values register := by
  unfold Reply.ok Reply.ofDocument
  rw [if_pos]
  · exact ⟨rfl, _, rfl, rfl, rfl⟩
  · simp [Document.isPlain, allMembersPlain, Text.string?_ofString, isPlain_ofIntegers]

namespace DrawRequest

/-- A body posts a request: it is the compact text of the request, or is read as the request. The
first is what a client sends that writes its requests plainly, the second is any body at all that
the service understands. -/
def IsPostedAs (request : DrawRequest) (body : Text) : Prop :=
  body = request.body ∨ readDraw body = .ok request

/-- A request can be met: its number is within the limit and not negative, and its seed, or else the
default seed, is in its range. Both front ends are measured against this one condition. -/
structure IsAcceptable (request : DrawRequest) (settings : Settings) : Prop where
  /-- The number is within the limit. -/
  within : request.count ≤ settings.limit
  /-- The seed is in its range. -/
  seeded : 1 ≤ request.seed.getD settings.seed ∧ request.seed.getD settings.seed ≤ 65535
  /-- The number is not negative. -/
  counted : 0 ≤ request.count

variable {request : DrawRequest} {settings : Settings}

theorem isShort_iff (request : DrawRequest) :
    request.IsShort ↔ (∀ number ∈ request.seed, Numeral.IsShort number) ∧
      Numeral.IsShort request.count := by
  unfold IsShort figures
  cases request.seed with
  | none => simp
  | some seed => simp

/-- Where the limit is short, a request that can be met is. The seed is bounded by the register and
the number by the limit. -/
theorem IsAcceptable.isShort (acceptable : request.IsAcceptable settings)
    (short : Numeral.IsShort settings.limit) : request.IsShort := by
  obtain ⟨within, seeded, counted⟩ := acceptable
  rw [isShort_iff]
  constructor
  · intro seed given
    have chosen : request.seed = some seed := given
    rw [chosen, Option.getD_some] at seeded
    exact Numeral.isShort_of_lt (by omega)
  · have natural : (request.count.toNat : Int) = request.count := Int.toNat_of_nonneg counted
    rw [← natural]
    exact short.of_le (natural.trans_le within)

end DrawRequest

variable {settings : Settings} {request : DrawRequest}

/-- A request that can be met is met by both front ends, from one generator. It is the same
generator because both make it from the seed that was given or else from the settings. -/
theorem drawn_of_isAcceptable (acceptable : request.IsAcceptable settings) :
    ∃ generator : Generator, (generator.register : Int) = request.seed.getD settings.seed ∧
      CommandLine.drawValues settings (request.seed.map some) (some request.count) =
        .ok (generator.draw request.count.toNat).1 ∧
      (answerDraw settings request).Draws (generator.draw request.count.toNat).1
        (generator.draw request.count.toNat).2.register := by
  obtain ⟨within, seeded, counted⟩ := acceptable
  obtain ⟨zero, _⟩ | ⟨_, outside, _⟩ | ⟨generator, _, _, started, register⟩ :=
    Generator.ofSeed_cases (request.seed.getD settings.seed)
  · omega
  · omega
  · have taken : generator.take request.count = .ok (generator.draw request.count.toNat) :=
      if_neg (by omega)
    refine ⟨generator, register, ?_, ?_⟩
    · rw [drawValues_chosen (settings.chosen_seed request.seed), if_neg (by omega), started]
      dsimp only
      rw [taken]
      rfl
    · unfold answerDraw
      dsimp only
      rw [if_neg (by omega), started]
      dsimp only
      rw [taken]
      exact Reply.draws_ok ..

/-- A request that cannot be met is refused by both front ends. If its number is short, so are all
integers that the text of the refusal names, and the service makes it a bad request. -/
theorem refused_of_not_isAcceptable (unacceptable : ¬ request.IsAcceptable settings) :
    (∃ cause, CommandLine.drawValues settings (request.seed.map some) (some request.count) =
        .error (.precondition cause) ∧
        (Numeral.IsShort request.count → ∀ number ∈ cause.numbers, Numeral.IsShort number)) ∧
      (Numeral.IsShort request.count → (answerDraw settings request).status = 400) := by
  unfold answerDraw
  dsimp only
  rw [drawValues_chosen (settings.chosen_seed request.seed)]
  by_cases beyond : settings.limit < request.count
  · rw [if_pos beyond, if_pos beyond, status_tooManyDeclared]
    exact ⟨⟨_, rfl, fun short => List.forall_mem_singleton.mpr short⟩, fun short => if_pos short⟩
  · rw [if_neg beyond, if_neg beyond]
    obtain ⟨_, refused⟩ | ⟨_, _, refused⟩ | ⟨generator, nonzero, inside, started, _⟩ :=
      Generator.ofSeed_cases (request.seed.getD settings.seed)
    · rw [refused]
      exact ⟨⟨_, rfl, fun _ => nofun⟩, fun _ => status_replyToFault_precondition nofun nofun⟩
    · rw [refused]
      exact ⟨⟨_, rfl, fun _ => nofun⟩, fun _ => status_replyToFault_precondition nofun nofun⟩
    · have negative : request.count < 0 := by
        apply Int.not_le.mp
        intro counted
        exact unacceptable ⟨by omega, by omega, counted⟩
      have refused : generator.take request.count = .error (.negativeCount request.count) :=
        if_pos negative
      rw [started]
      dsimp only
      rw [refused]
      have named (short : Numeral.IsShort request.count) :
          ∀ number ∈ (Precondition.negativeCount request.count).numbers, Numeral.IsShort number :=
        List.forall_mem_singleton.mpr short
      exact ⟨⟨_, rfl, named⟩, fun short => status_replyToFault_precondition nofun (named short)⟩

/-- What is posted to draw values is answered by what it is read as. -/
theorem answer_draw (site : Site) (settings : Settings) (body : Text) :
    answer site settings ⟨"POST", "/lfsr", body⟩ =
      answerPosted (readDraw body) (answerDraw settings) :=
  rfl

/-- A request that can be met is, however it is posted. -/
theorem answer_isAcceptable (site : Site) (short : Numeral.IsShort settings.limit)
    (acceptable : request.IsAcceptable settings) {body : Text} (posted : request.IsPostedAs body) :
    answer site settings ⟨"POST", "/lfsr", body⟩ = answerDraw settings request := by
  have read : readDraw body = .ok request := by
    obtain rfl | read := posted
    -- What can be met is short, so its compact text is readable.
    · exact (readDraw_body request).1 (acceptable.isShort short)
    · exact read
  rw [answer_draw, read]
  rfl

/-- A request that cannot be met is a bad request, however it is posted. Where its integers are too
long to be read it is one already as a body, and so it is without the request being looked at. -/
theorem status_not_isAcceptable (site : Site) (unacceptable : ¬ request.IsAcceptable settings)
    {body : Text} (posted : request.IsPostedAs body) :
    (answer site settings ⟨"POST", "/lfsr", body⟩).status = 400 := by
  have refused := (refused_of_not_isAcceptable unacceptable).2
  rw [answer_draw]
  obtain rfl | read := posted
  -- A body that cannot be read has the status of one that is read and refused.
  · by_cases short : request.IsShort
    · rw [(readDraw_body request).1 short]
      exact refused (request.isShort_iff.mp short).2
    · rw [(readDraw_body request).2 short]
      exact status_unreadableBody
  -- What is read is short.
  · rw [read]
    exact refused (isShort_of_readDraw read)

/-- A number of values that is within the limit is answered with the successors of the seed, and the
final register is a seed again. The latter is what makes it possible to go on from a reply. -/
theorem answer_successors (site : Site) (short : Numeral.IsShort settings.limit) {seed : Int}
    (seeded : 1 ≤ seed ∧ seed ≤ 65535) {count : Nat} (within : count ≤ settings.limit) :
    ∃ (values : List Nat) (register : Nat),
      values.map (Nat.cast : Nat → Int) = Register.successors seed count ∧
      (register : Int) = Register.step^[count] seed ∧ (1 ≤ register ∧ register ≤ 65535) ∧
      ∀ body, DrawRequest.IsPostedAs ⟨some seed, count⟩ body →
        (answer site settings ⟨"POST", "/lfsr", body⟩).Draws values register := by
  have acceptable : DrawRequest.IsAcceptable ⟨some seed, count⟩ settings :=
    ⟨within, seeded, Int.natCast_nonneg count⟩
  obtain ⟨generator, register, _, draws⟩ := drawn_of_isAcceptable acceptable
  have started : (generator.register : Int) = seed := register
  refine ⟨(generator.draw count).1, (generator.draw count).2.register, ?_, ?_,
    ⟨(generator.draw count).2.positive, (generator.draw count).2.fits⟩, ?_⟩
  · rw [← started]
    exact generator.draw_eq_successors count
  · rw [← started]
    exact generator.register_draw count
  · intro body posted
    rw [answer_isAcceptable site short acceptable posted]
    exact draws

end Service

namespace CommandLine

/-- An ending lists values: its code is zero, its output has a line for each of them in the form
that was asked for, and the lines are read as the values again. -/
structure Ending.Lists (ending : Ending) (hexadecimal : Bool) (values : List Nat) : Prop where
  /-- The command was carried out. -/
  code : ending.code = succeeded
  /-- The values are the lines of the output. -/
  lines : ending.output.lines = values.map (drawnLine hexadecimal)
  /-- As literals, these are the values. -/
  readBack : ending.output.lines.mapM Numeral.readLiteral =
    .ok (values.map (Nat.cast : Nat → Int))

/-- An ending with the printed values lists them, if they are values of a register. -/
theorem Ending.lists_of_output (ending : Ending) {hexadecimal : Bool} {values : List Nat}
    (code : ending.code = succeeded) (output : ending.output = drawnOutput hexadecimal values)
    (fit : ∀ value ∈ values, value ≤ Register.top) : ending.Lists hexadecimal values := by
  have lines : ending.output.lines = values.map (drawnLine hexadecimal) := by
    rw [output, lines_drawnOutput]
  refine ⟨code, lines, ?_⟩
  rw [lines]
  exact mapM_readLiteral_drawnLine hexadecimal fit

variable {site : Site} {settings : Settings}
  (loaded : Settings.load site.environment site.files none = .ok settings)

include loaded

section

variable {arguments : List Text} {seed : Option GivenNumber} {count : GivenNumber}
  {hexadecimal : Bool}
  (asked : Request.ofArguments (Usage.lineWidth (site.environment.lookup Usage.columnsName))
    site.registry.names arguments = .ok ⟨none, none, .draw seed count hexadecimal⟩)

include asked

/-- Values that are asked for and drawn are printed. -/
theorem run_asked_drawn {values : List Nat} (drawn : drawValues settings seed count = .ok values) :
    ∃ ending, run site arguments = .ok ending ∧ ending.code = succeeded ∧
      ending.output = drawnOutput hexadecimal values := by
  obtain ⟨performed, ended, code, output⟩ := Request.perform_drawn site settings
    ⟨none, none, .draw seed count hexadecimal⟩ rfl drawn
  obtain ⟨ending, ran, sameCode, sameOutput⟩ := run_asked asked loaded ended
  exact ⟨ending, ran, sameCode.trans code, sameOutput.trans output⟩

/-- Values that are asked for and cannot be drawn are a misuse, if the integers that the text of the
refusal names are short. -/
theorem run_asked_undrawn {cause : Precondition}
    (refused : drawValues settings seed count = .error (.precondition cause))
    (short : ∀ number ∈ cause.numbers, IsShort number) :
    ∃ ending, run site arguments = .ok ending ∧ ending.code = misused ∧ ending.output = "" := by
  obtain ⟨performed, ended, code, output⟩ := Request.perform_undrawn site settings
    ⟨none, none, .draw seed count hexadecimal⟩ rfl refused short
  obtain ⟨ending, ran, sameCode, sameOutput⟩ := run_asked asked loaded ended
  exact ⟨ending, ran, sameCode.trans code, sameOutput.trans output⟩

end

/-- Register values that are drawn for short integers are listed. -/
theorem run_drawn {seed : Option Int} {count : Int}
    (short : (∀ number ∈ seed, IsShort number) ∧ IsShort count) {values : List Nat}
    (drawn : drawValues settings (seed.map some) (some count) = .ok values)
    (fit : ∀ value ∈ values, value ≤ Register.top) (hexadecimal : Bool) :
    ∃ ending, run site (drawArguments seed count hexadecimal) = .ok ending ∧
      ending.Lists hexadecimal values := by
  obtain ⟨ending, ran, code, output⟩ :=
    run_asked_drawn loaded ((ofArguments_draw _ _ seed count hexadecimal).1 short) drawn
  exact ⟨ending, ran, ending.lists_of_output code output fit⟩

/-- Integers for which no values can be drawn are a misuse, short or not. Those that are not short
are refused as arguments, before anything is drawn. -/
theorem run_undrawn {seed : Option Int} {count : Int} {cause : Precondition}
    (refused : drawValues settings (seed.map some) (some count) = .error (.precondition cause))
    (named : IsShort count → ∀ number ∈ cause.numbers, IsShort number) (hexadecimal : Bool) :
    ∃ ending, run site (drawArguments seed count hexadecimal) = .ok ending ∧
      ending.code = misused ∧ ending.output = "" := by
  by_cases short : (∀ number ∈ seed, IsShort number) ∧ IsShort count
  · exact run_asked_undrawn loaded ((ofArguments_draw _ _ seed count hexadecimal).1 short) refused
      (named short.2)
  · obtain ⟨line, stopped⟩ := (ofArguments_draw _ _ seed count hexadecimal).2 short
    exact run_refused stopped

end CommandLine

open Service (DrawRequest)

/-- Under settings that were loaded, whatever the site. A request to draw values that can be met is
met by both front ends: the service lists values, and the lines that the command prints, in either
form, are these values. A request that cannot be met is a bad request to one and a misuse of the
other, which prints nothing. And drawing can be resumed: values that are drawn from a seed, and then
from the register that came with them, are those drawn from the seed at once, with the same register
in the end.

Proof: by cases on whether the request can be met; both front ends then draw from one generator, or
find one and the same condition violated. Resuming is compared as integers, where what is drawn in
two parts are the successors of the seed. -/
theorem draws_alike {site : Site} {settings : Settings}
    (loaded : Settings.load site.environment site.files none = .ok settings) :
    (∀ (request : DrawRequest) (hexadecimal : Bool) (body : Text), request.IsPostedAs body →
        ∃ ending, CommandLine.run site
            (CommandLine.drawArguments request.seed request.count hexadecimal) = .ok ending ∧
          ((request.IsAcceptable settings ∧ ∃ values register,
              (Service.answer site settings ⟨"POST", "/lfsr", body⟩).Draws values register ∧
                ending.Lists hexadecimal values) ∨
            (¬ request.IsAcceptable settings ∧
              (Service.answer site settings ⟨"POST", "/lfsr", body⟩).status = 400 ∧
                ending.code = CommandLine.misused ∧ ending.output = ""))) ∧
      ∀ (seed : Int) (a b : Nat), 1 ≤ seed ∧ seed ≤ 65535 → ((a + b : Nat) : Int) ≤ settings.limit →
        ∃ (first second : List Nat) (register final : Nat),
          first.map (Nat.cast : Nat → Int) = Register.successors seed a ∧
          second.map (Nat.cast : Nat → Int) = Register.successors register b ∧
          (∀ body, DrawRequest.IsPostedAs ⟨some seed, a⟩ body →
            (Service.answer site settings ⟨"POST", "/lfsr", body⟩).Draws first register) ∧
          (∀ body, DrawRequest.IsPostedAs ⟨some register, b⟩ body →
            (Service.answer site settings ⟨"POST", "/lfsr", body⟩).Draws second final) ∧
          ∀ body, DrawRequest.IsPostedAs ⟨some seed, (a + b : Nat)⟩ body →
            (Service.answer site settings ⟨"POST", "/lfsr", body⟩).Draws (first ++ second)
              final := by
  have short : IsShort settings.limit := Settings.isShort_limit loaded
  constructor
  · intro request hexadecimal body posted
    by_cases acceptable : request.IsAcceptable settings
    · obtain ⟨generator, _, drawn, draws⟩ := Service.drawn_of_isAcceptable acceptable
      have readable := request.isShort_iff.mp (acceptable.isShort short)
      obtain ⟨ending, ran, lists⟩ :=
        CommandLine.run_drawn loaded readable drawn (generator.draw_le_top _) hexadecimal
      rw [Service.answer_isAcceptable site short acceptable posted]
      exact ⟨ending, ran, Or.inl ⟨acceptable, _, _, draws, lists⟩⟩
    · obtain ⟨⟨cause, refused, named⟩, _⟩ := Service.refused_of_not_isAcceptable acceptable
      obtain ⟨ending, ran, code, output⟩ :=
        CommandLine.run_undrawn loaded refused named hexadecimal
      have status := Service.status_not_isAcceptable site acceptable posted
      exact ⟨ending, ran, Or.inr ⟨acceptable, status, code, output⟩⟩
  · intro seed a b seeded within
    obtain ⟨first, register, firstValues, reached, again, answersFirst⟩ :=
      Service.answer_successors site short seeded (by omega : (a : Int) ≤ settings.limit)
    have reseeded : 1 ≤ (register : Int) ∧ (register : Int) ≤ 65535 := by omega
    obtain ⟨second, final, secondValues, ended, _, answersSecond⟩ :=
      Service.answer_successors site short reseeded (by omega : (b : Int) ≤ settings.limit)
    obtain ⟨together, last, values, endedTogether, _, answersTogether⟩ :=
      Service.answer_successors site short seeded within
    -- Both ways list the successors of the seed, so they are compared as integers.
    have distinct : Function.Injective (List.map (Nat.cast : Nat → Int)) :=
      List.map_injective_iff.mpr Nat.cast_injective
    have sameValues : together = first ++ second := by
      apply distinct
      rw [values, List.map_append, firstValues, secondValues, reached, Register.successors_add]
    have sameRegister : last = final := by
      apply Int.ofNat_inj.mp
      rw [endedTogether, ended, reached, ← Function.iterate_add_apply, Nat.add_comm]
    subst sameValues sameRegister
    exact ⟨first, second, register, last, firstValues, secondValues, answersFirst, answersSecond,
      answersTogether⟩

/-- With the limit set to five. Six values in hexadecimal are refused by both front ends; and two
values from the seed one, with the three that follow them, are the five from there. -/
theorem draws_alike_five :
    Settings.load [(Settings.limitName, "5")] [] none = .ok (.limited 5) ∧
      (∃ ending, CommandLine.run { environment := [(Settings.limitName, "5")] }
          (CommandLine.drawArguments (some 1) 6 true) = .ok ending ∧
        (Service.answer { environment := [(Settings.limitName, "5")] } (.limited 5)
          ⟨"POST", "/lfsr", DrawRequest.body ⟨some 1, 6⟩⟩).status = 400 ∧
        ending.code = CommandLine.misused ∧ ending.output = "") ∧
      ∃ (first second : List Nat) (register final : Nat),
        first.map (Nat.cast : Nat → Int) = Register.successors 1 2 ∧
        second.map (Nat.cast : Nat → Int) = Register.successors register 3 ∧
        (Service.answer { environment := [(Settings.limitName, "5")] } (.limited 5)
          ⟨"POST", "/lfsr", DrawRequest.body ⟨some 1, 5⟩⟩).Draws (first ++ second) final := by
  have loaded : Settings.load [(Settings.limitName, "5")] [] none = .ok (.limited 5) := rfl
  let site : Site := { environment := [(Settings.limitName, "5")] }
  obtain ⟨alike, resumed⟩ :=
    draws_alike (show Settings.load site.environment site.files none = .ok (.limited 5) from loaded)
  refine ⟨loaded, ?_, ?_⟩
  · obtain ⟨ending, ran, ⟨acceptable, _⟩ | ⟨_, refused⟩⟩ :=
      alike ⟨some 1, 6⟩ true _ (Or.inl rfl)
    · exact absurd acceptable.within (by decide)
    · exact ⟨ending, ran, refused⟩
  · obtain ⟨first, second, register, final, firstValues, secondValues, _, _, together⟩ :=
      resumed 1 2 3 (by decide) (by decide)
    exact ⟨first, second, register, final, firstValues, secondValues, together _ (Or.inl rfl)⟩

end SortBench
