import SortBench.Proofs.CommandLine.Arguments

/-!
# Seeds on the command line

The seed of a request to draw values may be any text that is attached to its name. It is read as a
literal, and refused if it is none. Only the separator is not looked at: it is taken away, and a
seed counts as given although there is none.
-/

namespace SortBench.CommandLine

open Numeral (IsShort)

/-- The arguments that ask for values from a seed that is written in some way. The text of the seed
is attached to its name and may be anything. -/
def seedArguments (text : Text) (count : Int) (hexadecimal : Bool) : List Text :=
  "lfsr" :: ("--seed=" ++ text) :: (drawArguments none count hexadecimal).tail

/-- Put nothing in the place of a seed. This is not the same as to leave the seed out, for which the
settings have a value. -/
def DrawDraft.withoutSeed (draft : DrawDraft) : Except Refusal DrawDraft :=
  .ok { draft with seed := some none }

/-- The separator puts nothing in the place of a seed. It is taken away as a separator before the
parameter is given its value, and then no value is left. -/
theorem does_separator (width : Nat) :
    (drawGrammar width).Does ("--seed=" ++ separator) DrawDraft.withoutSeed := by
  have nothing : attachedValue separator.symbols = none := by decide
  have does := does_attachedSeed width (show separator.symbols ≠ [] by decide)
  rwa [nothing] at does

/-- These arguments mean no parameter of a request, whatever the text of the seed is. -/
theorem exists_role_of_seedArguments (width : Nat) (algorithms : List Text) (value : Text)
    (count : Int) (hexadecimal : Bool) :
    ∀ text ∈ (seedArguments value count hexadecimal).tail,
      ∃ role, (grammar width algorithms).role text = .ok role :=
  List.forall_mem_cons.mpr ⟨exists_role_of_unnamed rfl,
    exists_role_of_drawArguments width algorithms none count hexadecimal⟩

/-- An act that does not refuse is followed by the number and the form, and the number is then
refused if it is not short. -/
theorem foldlM_seedActs {act : DrawDraft → Except Refusal DrawDraft} {seed : GivenNumber}
    (acted : act {} = .ok { seed := some seed }) (count : Int) (hexadecimal : Bool) :
    (IsShort count →
        (act :: drawActs none count hexadecimal).foldlM (fun draft act => act draft) {} =
          .ok { seed := some seed, count := some count, hexadecimal }) ∧
      (¬ IsShort count → ∃ message,
        (act :: drawActs none count hexadecimal).foldlM (fun draft act => act draft) {} =
          .error (.value message)) := by
  have first : (act :: drawActs none count hexadecimal).foldlM (fun draft act => act draft) {} =
      (act {}).bind fun draft =>
        (drawActs none count hexadecimal).foldlM (fun draft act => act draft) draft :=
    List.foldlM_cons
  rw [first, acted]
  exact foldlM_drawActs_none count hexadecimal (some seed)

/-- A seed that is read as a literal is asked for together with a short number, and any other text
than the separator is refused. A refusal may be for the seed or for the number; which of them it is
makes no difference to the exit code. -/
theorem ofArguments_seed (width : Nat) (algorithms : List Text) {text : Text}
    (filled : text.symbols ≠ []) (apart : text ≠ separator) (count : Int) (hexadecimal : Bool) :
    (∀ seed, Numeral.readLiteral text = .ok seed → IsShort count →
        Request.ofArguments width algorithms (seedArguments text count hexadecimal) =
          .ok ⟨none, none, .draw (some (some seed)) (some count) hexadecimal⟩) ∧
      ((∀ seed, Numeral.readLiteral text = .ok seed → ¬ IsShort count) → ∃ line,
        Request.ofArguments width algorithms (seedArguments text count hexadecimal) =
          .error (.refused line)) := by
  obtain ⟨accepted, refused⟩ := ofArguments_acts width algorithms
    (.cons (does_seed width filled apart) (does_drawActs width none count hexadecimal))
    (exists_role_of_seedArguments width algorithms text count hexadecimal)
  cases reads : Numeral.readLiteral text with
  | ok seed =>
    have acted : DrawDraft.withSeed text {} = .ok { seed := some (some seed) } := by
      simp only [DrawDraft.withSeed, readGiven, readSeed, readNumber, reads]
      rfl
    obtain ⟨filledIn, unfilled⟩ := foldlM_seedActs acted count hexadecimal
    constructor
    · rintro _ ⟨⟩ short
      exact accepted _ (filledIn short)
    · intro long
      obtain ⟨message, stopped⟩ := unfilled (long seed rfl)
      exact refused message stopped
  | error misread =>
    refine ⟨fun _ denoted => absurd denoted (by simp), fun _ => ?_⟩
    have stopped : DrawDraft.withSeed text {} =
        .error (.value ("invalid <lambda> value: " ++ Text.quoted text)) := by
      simp only [DrawDraft.withSeed, readGiven, readSeed, readNumber, reads]
      rfl
    refine refused ("invalid <lambda> value: " ++ Text.quoted text) ?_
    rw [List.foldlM_cons, stopped]
    rfl

/-- The separator in the place of a seed asks for values from a seed that is missing. The request is
accepted as it stands, and what is missing is noticed only when the values are drawn. -/
theorem ofArguments_separator (width : Nat) (algorithms : List Text) (count : Int)
    (hexadecimal : Bool) :
    (IsShort count →
        Request.ofArguments width algorithms (seedArguments separator count hexadecimal) =
          .ok ⟨none, none, .draw (some none) (some count) hexadecimal⟩) ∧
      (¬ IsShort count → ∃ line,
        Request.ofArguments width algorithms (seedArguments separator count hexadecimal) =
          .error (.refused line)) := by
  obtain ⟨accepted, refused⟩ := ofArguments_acts width algorithms
    (.cons (does_separator width) (does_drawActs width none count hexadecimal))
    (exists_role_of_seedArguments width algorithms separator count hexadecimal)
  have acted : DrawDraft.withoutSeed {} = .ok { seed := some none } := rfl
  obtain ⟨filledIn, unfilled⟩ := foldlM_seedActs acted count hexadecimal
  constructor
  · exact fun short => accepted _ (filledIn short)
  · intro long
    obtain ⟨message, stopped⟩ := unfilled long
    exact refused message stopped

end SortBench.CommandLine
