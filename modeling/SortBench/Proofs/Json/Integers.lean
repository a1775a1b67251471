import Mathlib.Data.List.TakeWhile
import SortBench.Json.Reader
import SortBench.Proofs.Numeral.ReadBack

/-!
# Integers in documents are read back

An integer in decimal is read as itself where a number or a name is read, if it has no more digits
than are read. Reading stops where the integer ends, because what stands after it, a comma, a
closing bracket or nothing, cannot be in a number.
-/

namespace SortBench.Json

open Text (Symbol)
open Numeral (IsShort decimalChars decimalDigits isDigit_decimalDigits)

/-- What stands after a document that is read does not continue a number. Of all documents only a
number has no end of its own. -/
def Stops (rest : List Symbol) : Prop :=
  ∀ symbol ∈ rest.head?, symbol.isIn isNumberChar = false

/-- The digits of a number are read as its whole part, and nothing is left. -/
theorem readMagnitude_decimalDigits (number : Nat) :
    readMagnitude (decimalDigits number) = some (⟨decimalDigits number, [], none⟩, []) := by
  have whole : readWhole (decimalDigits number) = (decimalDigits number, []) := by
    obtain rfl | positive := Nat.eq_zero_or_pos number
    · rfl
    · unfold readWhole
      split
      case h_1 rest written =>
        have front := Numeral.decimalDigits_head? positive
        rw [written] at front
        exact absurd rfl front
      case h_2 =>
        have digits := isDigit_decimalDigits number
        unfold Binary64.spanDigits
        rw [List.takeWhile_eq_self_iff.mpr digits, List.dropWhile_eq_nil_iff.mpr digits]
  unfold readMagnitude
  rw [whole]
  split
  case h_1 empty =>
    exact absurd (congrArg Prod.fst empty) Nat.toDigits_ne_nil
  case h_2 written =>
    cases written
    rfl

theorem digitsValue_decimalDigits (number : Nat) :
    Binary64.digitsValue (decimalDigits number) = number := by
  obtain ⟨digits, paired, value⟩ := Numeral.spells_decimalDigits number
  have read : (decimalDigits number).filterMap (Numeral.digit? 10) = digits := by
    clear value
    generalize decimalDigits number = characters at paired
    induction paired with
    | nil => rfl
    | cons first _ inductionHypothesis =>
      rw [List.filterMap_cons_some first, inductionHypothesis]
  unfold Binary64.digitsValue
  rw [read, value]

/-- An integer begins with a minus sign or a digit, so it is taken for no other kind of document. -/
theorem exists_decimalChars (number : Int) :
    ∃ c rest, decimalChars number = c :: rest ∧ (c = '-' ∨ c.isDigit = true) := by
  have digits : decimalDigits number.natAbs ≠ [] := Nat.toDigits_ne_nil
  obtain ⟨c, rest, written⟩ := List.exists_cons_of_ne_nil digits
  unfold decimalChars
  split
  · exact ⟨'-', _, rfl, Or.inl rfl⟩
  · refine ⟨c, rest, written, Or.inr ?_⟩
    exact isDigit_decimalDigits number.natAbs c (by simp [written])

/-- No name stands for what an integer begins with. -/
theorem readName_decimalChars (number : Int) (rest : List Symbol) :
    readName names ((decimalChars number).map Symbol.character ++ rest) = none := by
  obtain ⟨c, others, written⟩ :=
    List.exists_cons_of_ne_nil (show decimalDigits number.natAbs ≠ [] from Nat.toDigits_ne_nil)
  have digit : c.isDigit = true := by
    apply isDigit_decimalDigits number.natAbs
    rw [written]
    exact List.mem_cons_self
  have noLetter : ∀ letter ∈ ['n', 't', 'f', 'N', 'I', '-'], letter ≠ c := by
    have each : ∀ letter ∈ ['n', 't', 'f', 'N', 'I', '-'], letter.isDigit = false := by simp
    rintro letter member rfl
    exact absurd digit (by simp [each letter member])
  unfold decimalChars
  rw [written]
  split
  · simp_all [readName, names, Text.ofString, Text.ofChars]
  · simp_all [readName, names, Text.ofString, Text.ofChars]

/-- A minus sign stands in front of the negative integers only, and the rest are the digits of the
magnitude. -/
theorem sign_decimalChars (number : Int) :
    ((decimalChars number).head? == some '-') = decide (number < 0) ∧
      (decimalChars number).drop (if number < 0 then 1 else 0) =
        decimalDigits number.natAbs := by
  unfold decimalChars
  by_cases negative : number < 0
  · simp [negative]
  · rw [if_neg negative, if_neg negative]
    refine ⟨?_, rfl⟩
    rw [decide_eq_false negative, beq_eq_false_iff_ne]
    intro front
    have digit := isDigit_decimalDigits number.natAbs '-' (List.mem_of_mem_head? front)
    cases digit

/-- A written integer is read as itself, if it is short, and refused otherwise. The number of digits
is what is refused, as it is counted while the text is read. -/
theorem readScalar_decimalChars (number : Int) {rest : List Symbol} (stops : Stops rest) :
    readScalar ((decimalChars number).map Symbol.character ++ rest) =
      if IsShort number then .ok (.integer number, rest) else .error .excessive := by
  have inside : ∀ c ∈ decimalChars number, isNumberChar c = true := by
    have digits : ∀ c ∈ decimalDigits number.natAbs, isNumberChar c = true := by
      intro c member
      simp [isNumberChar, isDigit_decimalDigits number.natAbs c member]
    unfold decimalChars
    split
    · exact List.forall_mem_cons.mpr ⟨rfl, digits⟩
    · exact digits
  have nothing : rest.takeWhile (Symbol.isIn isNumberChar) = [] := by
    cases rest with
    | nil => rfl
    | cons symbol others => exact List.takeWhile_cons_of_neg (by simp [stops symbol rfl])
  have run : (((decimalChars number).map Symbol.character ++ rest).takeWhile
      (Symbol.isIn isNumberChar)).map Symbol.legible = decimalChars number := by
    rw [List.takeWhile_append_of_pos, nothing, List.append_nil, List.map_map]
    · exact List.map_id _
    · intro symbol member
      obtain ⟨c, found, rfl⟩ := List.mem_map.mp member
      exact inside c found
  obtain ⟨sign, unsigned⟩ := sign_decimalChars number
  have body : (if decide (number < 0) = true then (decimalChars number).drop 1
      else decimalChars number) = decimalDigits number.natAbs := by
    rw [← unsigned]
    by_cases negative : number < 0 <;> simp [negative]
  have after : ((decimalChars number).map Symbol.character ++ rest).drop
      ((decimalChars number).length - 0) = rest := by
    simp
  unfold readScalar
  rw [readName_decimalChars]
  dsimp only
  unfold readNumber
  rw [run]
  dsimp only
  rw [sign, body, readMagnitude_decimalDigits]
  dsimp only
  unfold Magnitude.document?
  simp only [List.isEmpty_nil, Option.isNone_none, Bool.and_self, if_true, List.length_nil, after,
    digitsValue_decimalDigits, Numeral.signed_natAbs]
  by_cases short : IsShort number
  · rw [if_pos short, if_neg (Nat.not_lt.mpr short)]
  · rw [if_neg short, if_pos (Nat.lt_of_not_le short)]

end SortBench.Json
