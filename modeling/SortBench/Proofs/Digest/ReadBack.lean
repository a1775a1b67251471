import SortBench.Proofs.Digest.Conversion
import SortBench.Proofs.Digest.Distinct

/-!
# Canonical texts are read back

A canonical text is a list of decimal numerals: it stands in square brackets, and it is cut at its
commas. Read in this way it gives back the integers that it was written of, in their order, however
many there are and however large they are. So the texts of two lists are one text exactly when the
values of the lists convert to the same integers, one by one.
-/

namespace SortBench

namespace Numeral

/-- The number that a run of decimal digits stands for. There is at least one digit. -/
def natural? (characters : List Char) : Option Nat :=
  if characters = [] then none else (characters.mapM (digit? 10)).map (ofDigits 10)

/-- The integer that a decimal numeral with an optional sign stands for. This reader is written for
the proof and shares nothing with the one that reads arguments; in particular it has no limit. -/
def integer? (characters : List Char) : Option Int :=
  (natural? (splitSign characters).2).map (signed (splitSign characters).1)

theorem mapM_digit?_of_forall₂ {base : Nat} {characters : List Char} {digits : List Nat}
    (paired : List.Forall₂ (fun c digit => digit? base c = some digit) characters digits) :
    characters.mapM (digit? base) = some digits := by
  induction paired with
  | nil => rfl
  | cons read _ inductionHypothesis =>
    rw [List.mapM_cons, read, inductionHypothesis]
    rfl

/-- A run stands for the number that it spells. -/
theorem natural?_of_spells {characters : List Char} {number : Nat} (some : characters ≠ [])
    (run : Spells 10 characters number) : natural? characters = .some number := by
  obtain ⟨digits, paired, rfl⟩ := run
  rw [natural?, if_neg some, mapM_digit?_of_forall₂ paired]
  rfl

/-- A written integer stands for itself, however large it is. -/
theorem integer?_decimalChars (number : Int) : integer? (decimalChars number) = some number := by
  have magnitude : natural? (decimalDigits number.natAbs) = some number.natAbs :=
    natural?_of_spells Nat.toDigits_ne_nil (spells_decimalDigits number.natAbs)
  rw [integer?, splitSign_decimalChars, magnitude, Option.map_some, signed_natAbs]

end Numeral

namespace Canonical

open Numeral (IsShort decimalChars integer?)

/-- What stands between an opening bracket at the front and a closing one at the end. -/
def unbracketed? : List Char → Option (List Char)
  | '[' :: rest => if rest.getLast? = some ']' then some rest.dropLast else none
  | _ => none

/-- The integers of a list of numerals with commas between them; of no text there are none. -/
def separated? (inner : List Char) : Option (List Int) :=
  if inner = [] then some [] else (inner.splitOn ',').mapM integer?

/-- The integers of a bracketed list of numerals with commas between them. -/
def read? (text : List Char) : Option (List Int) :=
  (unbracketed? text).bind separated?

theorem mapM_integer?_decimalChars (numbers : List Int) :
    (numbers.map decimalChars).mapM integer? = some numbers := by
  induction numbers with
  | nil => rfl
  | cons number rest inductionHypothesis =>
    rw [List.map_cons, List.mapM_cons, Numeral.integer?_decimalChars, inductionHypothesis]
    rfl

/-- Numerals with commas between them are read back, and nothing between the brackets is read as no
integers. -/
theorem separated?_joined (numbers : List Int) : separated? (joined numbers) = some numbers := by
  by_cases nothing : numbers = []
  · subst nothing
    rfl
  · rw [separated?, if_neg (mt joined_eq_nil_iff.mp nothing), splitOn_joined nothing,
      mapM_integer?_decimalChars]

/-- A canonical text is read back as the list that it was made of, and as no other. Whether the text
is ever written, for want of digits, is a separate question: this holds for integers of any size,
since it is about characters and not about what a runtime gives out. -/
theorem read?_chars (numbers : List Int) : read? (chars numbers) = some numbers := by
  have inner : unbracketed? (chars numbers) = some (joined numbers) := by
    simp [chars, unbracketed?]
  rw [read?, inner, Option.bind_some, separated?_joined]

/-- A list has a canonical text if its values convert to short integers, and it is that of these. -/
theorem text_eq_ok_iff {values : List Value} {written : String} :
    text values = .ok written ↔
      ∃ numbers, values.map Value.toInteger = numbers.map .ok ∧
        (∀ number ∈ numbers, IsShort number) ∧ written = String.ofList (chars numbers) := by
  have converted (numbers : List Int) :
      integers values = .ok numbers ↔ values.map Value.toInteger = numbers.map .ok := by
    rw [integers_eq_ok_iff, ← List.forall₂_eq_eq_eq, List.forall₂_map_left_iff,
      List.forall₂_map_right_iff]
  simp only [← converted]
  unfold text
  constructor
  · intro wrote
    cases characters : writtenChars values with
    | error fault =>
      rw [characters] at wrote
      cases wrote
    | ok characters =>
      obtain ⟨numbers, read, short, rfl⟩ := writtenChars_eq_ok_iff.mp characters
      rw [characters] at wrote
      exact ⟨numbers, read, short, (Except.ok.inj wrote).symm⟩
  · rintro ⟨numbers, read, short, rfl⟩
    rw [writtenChars_eq_ok_iff.mpr ⟨numbers, read, short, rfl⟩]
    rfl

/-- The canonical text is an injective encoding wherever there is one. Every list of short integers,
however many, has one; it consists of visible ASCII characters and is read back as the list. A list
with an integer that is not short has none, for that reason. And two lists of values that have
canonical texts have the same one exactly when their values convert to the same integers, one by
one, whatever their spelling.

Proof: cut at its commas, the text without its brackets is the numerals of the integers, since there
is no comma in a numeral; and a numeral tells its integer. -/
theorem text_readBack :
    (∀ numbers : List Int,
        ((∀ number ∈ numbers, IsShort number) →
          ∃ written, text (numbers.map .integer) = .ok written ∧
            (∀ c ∈ written.toList, Text.IsVisible c) ∧ read? written.toList = some numbers) ∧
        ((∃ number ∈ numbers, ¬ IsShort number) →
          text (numbers.map .integer) = .error (.unwritten Numeral.mostDigits))) ∧
      ∀ (left right : List Value) (first second : String),
        text left = .ok first → text right = .ok second →
          (first = second ↔ left.map Value.toInteger = right.map Value.toInteger) := by
  constructor
  · intro numbers
    constructor
    · intro short
      have wrote : text (numbers.map .integer) = .ok (String.ofList (chars numbers)) := by
        rw [text, writtenChars_integer, if_pos short]
        rfl
      refine ⟨_, wrote, ?_, ?_⟩
      · rw [String.toList_ofList]
        exact isVisible_chars numbers
      · rw [String.toList_ofList]
        exact read?_chars numbers
    · rintro ⟨number, member, long⟩
      rw [text, writtenChars_integer, if_neg fun short => long (short number member)]
      rfl
  · intro left right first second wroteFirst wroteSecond
    obtain ⟨numbers, leftNumbers, _, rfl⟩ := text_eq_ok_iff.mp wroteFirst
    obtain ⟨others, rightNumbers, _, rfl⟩ := text_eq_ok_iff.mp wroteSecond
    rw [leftNumbers, rightNumbers, String.ofList_inj, chars_injective.eq_iff]
    exact (List.map_injective_iff.mpr fun _ _ => Except.ok.inj).eq_iff.symm

/-- An integer of one digit more than is written has no canonical text. -/
theorem text_unwritten :
    text [.integer (10 ^ 4300)] = .error (.unwritten 4300) ∧
      ∀ written, text [.integer (10 ^ 4300)] ≠ .ok written := by
  have refused : text ([10 ^ 4300].map .integer) = .error (.unwritten 4300) := by
    rw [text, writtenChars_integer, if_neg]
    · rfl
    · exact fun short => Numeral.not_isShort_pow (short _ (List.mem_singleton_self _))
  exact ⟨refused, fun written wrote => nomatch refused.symm.trans wrote⟩

/-- Three spellings of one list, and one of another list. -/
theorem text_readBack_spellings :
    text [.boolean true, .text " -07 ", .real (.finite false 5 (-1))] = .ok "[1,-7,2]" ∧
      text [.integer 1, .integer (-7), .integer 2] = .ok "[1,-7,2]" ∧
      text [.integer 17, .integer (-2)] = .ok "[17,-2]" ∧
      [Value.boolean true, .text " -07 ", .real (.finite false 5 (-1))].map Value.toInteger =
        [Value.integer 1, .integer (-7), .integer 2].map Value.toInteger ∧
      [Value.integer 1, .integer (-7), .integer 2].map Value.toInteger ≠
        [Value.integer 17, .integer (-2)].map Value.toInteger := by
  have spelled : text [.boolean true, .text " -07 ", .real (.finite false 5 (-1))] =
      .ok "[1,-7,2]" := rfl
  have plain : text [.integer 1, .integer (-7), .integer 2] = .ok "[1,-7,2]" := rfl
  have other : text [.integer 17, .integer (-2)] = .ok "[17,-2]" := rfl
  refine ⟨spelled, plain, other, ?_, ?_⟩
  · exact (text_readBack.2 _ _ _ _ spelled plain).mp rfl
  · exact mt (text_readBack.2 _ _ _ _ plain other).mpr (by decide)

end Canonical

end SortBench
