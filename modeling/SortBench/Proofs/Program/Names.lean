import SortBench.Program.Algorithm
import SortBench.Program.Spec

/-!
# Names of sources and algorithms

Programs name their source and their algorithm by a text that nobody has checked. A text is a
known name exactly when it is that string, symbol for symbol; every other text, also one with
half of a surrogate pair in it, is unknown.
-/

namespace SortBench

namespace Text

theorem mapM_char?_eq_some {symbols : List Symbol} {characters : List Char}
    (read : symbols.mapM Symbol.char? = some characters) :
    symbols = characters.map .character := by
  induction symbols generalizing characters with
  | nil =>
    obtain rfl : [] = characters := Option.some.inj read
    rfl
  | cons first rest inductionHypothesis =>
    rw [List.mapM_cons] at read
    obtain ⟨c, found, read⟩ := Option.bind_eq_some_iff.mp read
    obtain ⟨others, readOthers, read⟩ := Option.bind_eq_some_iff.mp read
    obtain rfl : c :: others = characters := Option.some.inj read
    cases first with
    | half unit => simp [Symbol.char?] at found
    | character d =>
      obtain rfl : d = c := Option.some.inj found
      rw [inductionHypothesis readOthers, List.map_cons]

/-- A text is a string exactly when it is the text of the string. Names are compared as texts and
looked up as strings, and this is the step between the two. -/
theorem string?_eq_some_iff {text : Text} {content : String} :
    text.string? = some content ↔ text = ofString content := by
  constructor
  · intro read
    obtain ⟨characters, all, rfl⟩ := Option.map_eq_some_iff.mp read
    cases text
    simp only [ofString, ofChars, String.toList_ofList, mk.injEq]
    exact mapM_char?_eq_some all
  · rintro rfl
    exact string?_ofString content

end Text

/-- A source is known by two names only. -/
theorem Source.ofName?_cases (name : Text) :
    (name = "literal" ∧ Source.ofName? name = some .literal) ∨
      (name = "lfsr" ∧ Source.ofName? name = some .register) ∨
        (name ≠ "literal" ∧ name ≠ "lfsr" ∧ Source.ofName? name = none) := by
  unfold Source.ofName?
  split
  case h_1 read => exact Or.inl ⟨Text.string?_eq_some_iff.mp read, rfl⟩
  case h_2 read => exact Or.inr (Or.inl ⟨Text.string?_eq_some_iff.mp read, rfl⟩)
  case h_3 notLiteral notRegister =>
    refine Or.inr (Or.inr ⟨?_, ?_, rfl⟩)
    · rintro rfl
      exact notLiteral (Text.string?_ofString _)
    · rintro rfl
      exact notRegister (Text.string?_ofString _)

/-- Three algorithms are built in, and no others. Statements about every built-in algorithm are
proved by these cases. -/
theorem Registry.builtIn_cases (name : Text) :
    (name = "bubble" ∧ builtIn.find? name = some Algorithm.bubble) ∨
      (name = "quick" ∧ builtIn.find? name = some Algorithm.quick) ∨
        (name = "quick_iterative" ∧ builtIn.find? name = some Algorithm.quickIterative) ∨
          (name ∉ builtIn.entries.map Prod.fst ∧ builtIn.find? name = none) := by
  by_cases bubble : name = "bubble"
  · subst bubble
    exact Or.inl ⟨rfl, rfl⟩
  by_cases quick : name = "quick"
  · subst quick
    exact Or.inr (Or.inl ⟨rfl, rfl⟩)
  by_cases quickIterative : name = "quick_iterative"
  · subst quickIterative
    exact Or.inr (Or.inr (Or.inl ⟨rfl, rfl⟩))
  refine Or.inr (Or.inr (Or.inr ⟨?_, ?_⟩))
  · simp [builtIn, bubble, quick, quickIterative]
  · simp [find?, builtIn, List.lookup_cons, beq_false_of_ne, bubble, quick, quickIterative]

end SortBench
