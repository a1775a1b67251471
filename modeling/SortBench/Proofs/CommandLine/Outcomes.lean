import SortBench.Proofs.CommandLine.Endings
import SortBench.Proofs.Numeral.ReadBack
import SortBench.Proofs.Register.Courses

/-!
# Outcomes of the command line

What is left of a request once it was carried out: an exit code and what stands on standard output.
Notices and the log go elsewhere. A refused request and a violated condition leave no output, and
the values that were drawn are its lines, each of which is read back as its value.
-/

namespace SortBench

namespace Text

/-- The lines of symbols. A line end ends its line; after the last there is a line only if symbols
are left. -/
def splitLines : List Symbol → List (List Symbol)
  | [] => []
  | symbol :: rest =>
    if symbol = .character '\n' then [] :: splitLines rest
    else
      match splitLines rest with
      | [] => [[symbol]]
      | line :: lines => (symbol :: line) :: lines

/-- The lines of a text, as a reader of the output would take them apart. -/
def lines (text : Text) : List Text :=
  (splitLines text.symbols).map Text.mk

/-- A line that has its end is the first line, whatever comes after it. -/
theorem splitLines_append {line : List Symbol} (whole : .character '\n' ∉ line)
    (rest : List Symbol) :
    splitLines (line ++ .character '\n' :: rest) = line :: splitLines rest := by
  induction line with
  | nil => exact if_pos rfl
  | cons symbol line inductionHypothesis =>
    rw [List.mem_cons, not_or] at whole
    obtain ⟨differs, others⟩ := whole
    rw [List.cons_append, splitLines, if_neg (Ne.symm differs), inductionHypothesis others]

/-- Lines that were each ended by a line end are the lines of the text. No line may have a line end
of its own, or it would be read as two. -/
theorem lines_join {texts : List Text} (whole : ∀ text ∈ texts, .character '\n' ∉ text.symbols) :
    (join (texts.map (· ++ "\n"))).lines = texts := by
  unfold lines
  induction texts with
  | nil => rfl
  | cons text texts inductionHypothesis =>
    obtain ⟨first, others⟩ := List.forall_mem_cons.mp whole
    have symbols : (join ((text :: texts).map (· ++ "\n"))).symbols =
        text.symbols ++ .character '\n' :: (join (texts.map (· ++ "\n"))).symbols :=
      List.append_assoc ..
    rw [symbols, splitLines_append first, List.map_cons, inductionHypothesis others]

end Text

namespace CommandLine

open Numeral (IsShort)

/-- The line of a value has visible characters only, so it has neither blanks to be cut off nor an
end in the middle. -/
theorem exists_visible_drawnLine (hexadecimal : Bool) (value : Nat) :
    ∃ characters, drawnLine hexadecimal value = Text.ofChars characters ∧
      ∀ c ∈ characters, Text.IsVisible c := by
  unfold drawnLine
  cases hexadecimal with
  | false =>
    exact ⟨_, Text.ofString_ofList _, Numeral.isVisible_decimalChars value⟩
  | true =>
    refine ⟨_, Text.ofString_ofList _, ?_⟩
    simp only [List.forall_mem_cons]
    exact ⟨⟨by decide, by decide⟩, ⟨by decide, by decide⟩,
      (Numeral.spells_hexDigits 4 value).isVisible⟩

theorem lineEnd_notMem_drawnLine (hexadecimal : Bool) (value : Nat) :
    .character '\n' ∉ (drawnLine hexadecimal value).symbols := by
  obtain ⟨characters, written, visible⟩ := exists_visible_drawnLine hexadecimal value
  rw [written]
  intro member
  obtain ⟨c, found, same⟩ := List.mem_map.mp member
  cases same
  exact absurd (visible '\n' found).1 (by decide)

/-- The line of a register value is read as this value, in decimal and in hexadecimal alike: the
literal carries its own base. The bound on the value keeps it within four hexadecimal digits. -/
theorem readLiteral_drawnLine (hexadecimal : Bool) {value : Nat} (fits : value ≤ Register.top) :
    Numeral.readLiteral (drawnLine hexadecimal value) = .ok (value : Int) := by
  unfold drawnLine
  cases hexadecimal with
  | true => exact Numeral.readLiteral_registerHex value
  | false =>
    have short : IsShort (value : Int) := by
      apply Numeral.isShort_of_lt
      unfold Register.top at fits
      omega
    exact (Numeral.readLiteral_decimal value).trans (if_pos short)

/-- The lines of register values are read as these, so output can be given back as input without
loss. -/
theorem mapM_readLiteral_drawnLine (hexadecimal : Bool) {values : List Nat}
    (fit : ∀ value ∈ values, value ≤ Register.top) :
    (values.map (drawnLine hexadecimal)).mapM Numeral.readLiteral =
      .ok (values.map (Nat.cast : Nat → Int)) := by
  rw [mapM_eq_ok_iff, List.forall₂_map_left_iff, List.forall₂_map_right_iff,
    List.forall₂_same]
  exact fun value member => readLiteral_drawnLine hexadecimal (fit value member)

/-- What is printed of values that are drawn: each on a line of its own. -/
def drawnOutput (hexadecimal : Bool) (values : List Nat) : Text :=
  Text.join ((values.map (drawnLine hexadecimal)).map (· ++ "\n"))

/-- The lines of this output are those of the values, one for each and in their order. -/
theorem lines_drawnOutput (hexadecimal : Bool) (values : List Nat) :
    (drawnOutput hexadecimal values).lines = values.map (drawnLine hexadecimal) := by
  refine Text.lines_join ?_
  rw [List.forall_mem_map]
  exact fun value _ => lineEnd_notMem_drawnLine hexadecimal value

/-- The session in which a command starts. Its only entry is the one that records the settings. -/
def started (settings : Settings) : Session :=
  { entries := [settingsEntry settings] }

/-- What a request prints before its command fails is its output; the exit code is that of the
fault. Output is not taken back by a failure. -/
theorem Request.perform_error {site : Site} {settings : Settings} (request : Request)
    {fault : Fault} {after : Session} {code : Nat} {message : Text}
    (ran : (request.command.perform site settings).run.run (started settings) =
      (.error fault, after))
    (expected : faultEnding fault = some (code, message)) :
    ∃ ending, request.perform site settings = .ok ending ∧ ending.code = code ∧
      ending.output = after.output := by
  unfold started at ran
  unfold perform
  rw [ran]
  dsimp only
  rw [expected]
  exact ⟨_, rfl, rfl, rfl⟩

/-- What a request prints is its output; the exit code is what the command answers. -/
theorem Request.perform_ok {site : Site} {settings : Settings} (request : Request) {code : Nat}
    {after : Session}
    (ran : (request.command.perform site settings).run.run (started settings) = (.ok code, after)) :
    ∃ ending, request.perform site settings = .ok ending ∧ ending.code = code ∧
      ending.output = after.output := by
  unfold started at ran
  unfold perform
  rw [ran]
  exact ⟨_, rfl, rfl, rfl⟩

/-- Refused arguments end with the code of misuse, and nothing stands on standard output. The
settings are not even loaded then. -/
theorem run_refused {site : Site} {arguments : List Text} {line : Text}
    (refused : Request.ofArguments (Usage.lineWidth (site.environment.lookup Usage.columnsName))
      site.registry.names arguments = .error (.refused line)) :
    ∃ ending, run site arguments = .ok ending ∧ ending.code = misused ∧ ending.output = "" := by
  unfold run
  dsimp only
  rw [refused]
  exact ⟨_, rfl, rfl, rfl⟩

/-- A request whose settings cannot be loaded ends with the code of misuse, and nothing stands on
standard output. -/
theorem run_misconfigured {site : Site} {arguments : List Text} {request : Request}
    {fault : Settings.Fault}
    (asked : Request.ofArguments (Usage.lineWidth (site.environment.lookup Usage.columnsName))
      site.registry.names arguments = .ok request)
    (wrong : Settings.load site.environment site.files request.file = .error fault) :
    ∃ ending, run site arguments = .ok ending ∧ ending.code = misused ∧ ending.output = "" := by
  unfold run Request.carryOut
  dsimp only
  rw [asked]
  dsimp only
  rw [wrong]
  exact ⟨_, rfl, rfl, rfl⟩

/-- Arguments that ask for a request end with its code and its output. This and the two lemmas
before it are all the ways in which a run that ends can end. -/
theorem run_asked {site : Site} {settings : Settings} {arguments : List Text} {request : Request}
    (asked : Request.ofArguments (Usage.lineWidth (site.environment.lookup Usage.columnsName))
      site.registry.names arguments = .ok request)
    (loaded : Settings.load site.environment site.files request.file = .ok settings)
    {performed : Ending} (ended : request.perform site settings = .ok performed) :
    ∃ ending, run site arguments = .ok ending ∧ ending.code = performed.code ∧
      ending.output = performed.output := by
  unfold run Request.carryOut
  dsimp only
  rw [asked]
  dsimp only
  rw [loaded]
  dsimp only
  rw [ended]
  exact ⟨_, rfl, rfl, rfl⟩

/-- A fault that no command may end with is handed on. There is no exit code for it, which is how it
differs from every other failure. -/
theorem run_uncaught {site : Site} {settings : Settings} {arguments : List Text}
    {request : Request} {fault : Fault} {after : Session}
    (asked : Request.ofArguments (Usage.lineWidth (site.environment.lookup Usage.columnsName))
      site.registry.names arguments = .ok request)
    (loaded : Settings.load site.environment site.files request.file = .ok settings)
    (ran : (request.command.perform site settings).run.run (started settings) =
      (.error fault, after))
    (uncaught : faultEnding fault = none) : run site arguments = .error fault := by
  unfold started at ran
  unfold run Request.carryOut Request.perform
  dsimp only
  rw [asked]
  dsimp only
  rw [loaded]
  dsimp only
  rw [ran]
  dsimp only
  rw [uncaught]
  rfl

variable (site : Site) (settings : Settings) (request : Request)

/-- A command that failed before it printed anything ends with the code of its fault and without
output. -/
theorem Request.perform_failed {fault : Fault} {code : Nat} {message : Text}
    (failed : ∀ session, (request.command.perform site settings).run.run session =
      (.error fault, session))
    (expected : faultEnding fault = some (code, message)) :
    ∃ ending, request.perform site settings = .ok ending ∧ ending.code = code ∧
      ending.output = "" :=
  request.perform_error (failed (started settings)) expected

/-- Values that were drawn are printed, and the request ends with code zero. -/
theorem Request.perform_drawn {seed : Option GivenNumber} {count : GivenNumber}
    {hexadecimal : Bool} (asked : request.command = .draw seed count hexadecimal)
    {values : List Nat} (drawn : drawValues settings seed count = .ok values) :
    ∃ ending, request.perform site settings = .ok ending ∧ ending.code = succeeded ∧
      ending.output = drawnOutput hexadecimal values := by
  unfold perform
  rw [asked, Command.perform_draw, drawn]
  exact ⟨_, rfl, rfl, rfl⟩

/-- Values that cannot be drawn for a violated condition are a misuse, without output, if the
integers that the text of the condition names are short. Integers that were read from arguments
always are. -/
theorem Request.perform_undrawn {seed : Option GivenNumber} {count : GivenNumber}
    {hexadecimal : Bool} (asked : request.command = .draw seed count hexadecimal)
    {cause : Precondition}
    (refused : drawValues settings seed count = .error (.precondition cause))
    (short : ∀ number ∈ cause.numbers, Numeral.IsShort number) :
    ∃ ending, request.perform site settings = .ok ending ∧ ending.code = misused ∧
      ending.output = "" := by
  have failed : ∀ session, (request.command.perform site settings).run.run session =
      (.error (.precondition cause), session) := by
    intro session
    rw [asked, Command.perform_draw, refused]
    dsimp only
    rw [Fault.raised_of_short (show ∀ number ∈ (Fault.precondition cause).numbers, _ from short)]
  exact request.perform_failed site settings failed rfl

end CommandLine

end SortBench
