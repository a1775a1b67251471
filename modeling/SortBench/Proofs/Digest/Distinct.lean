import Mathlib.Data.List.Basic
import SortBench.Digest.Canonical
import SortBench.Proofs.Numeral.ReadBack

/-!
# Distinct lists have distinct canonical texts

The canonical text of a list of integers tells the list: without its brackets, and cut at its
commas, it is the numerals of the integers, and a numeral tells its integer. All its characters
are ASCII, so its bytes tell it as well. What the digest cannot tell apart is therefore exactly
what SHA-256 cannot.
-/

namespace SortBench

namespace Numeral

/-- A numeral tells its integer. It is read back as this, so two integers with one numeral are
one. -/
theorem decimalChars_injective : Function.Injective decimalChars := by
  intro left right same
  have split := congrArg splitSign same
  rw [splitSign_decimalChars, splitSign_decimalChars, Prod.mk.injEq] at split
  obtain ⟨sign, digits⟩ := split
  have run := spells_decimalDigits left.natAbs
  rw [digits] at run
  have magnitude : left.natAbs = right.natAbs := run.unique (spells_decimalDigits right.natAbs)
  rw [← signed_natAbs left, ← signed_natAbs right, sign, magnitude]

/-- There is no comma in a numeral, so a comma always stands between two. -/
theorem comma_notMem_decimalChars (number : Int) : ',' ∉ decimalChars number := by
  have digits : ',' ∉ decimalDigits number.natAbs := by
    intro member
    obtain ⟨digit, read⟩ := (spells_decimalDigits number.natAbs).exists_digit? ',' member
    cases read
  unfold decimalChars
  split
  · intro member
    obtain sign | later := List.mem_cons.mp member
    · exact absurd sign (by decide)
    · exact digits later
  · exact digits

end Numeral

/-- Two messages collide: they differ, and their digests do not. Collisions exist, and only that a
particular pair is none can be assumed. -/
def Sha256.Collide (left right : List UInt8) : Prop :=
  left ≠ right ∧ hex left = hex right

namespace Canonical

open Numeral (decimalChars)

/-- Numerals with commas between them are cut at the commas. Of no numerals there is one empty part,
which is why the list must not be empty. -/
theorem splitOn_joined {numbers : List Int} (several : numbers ≠ []) :
    (joined numbers).splitOn ',' = numbers.map decimalChars := by
  apply List.splitOn_intercalate
  · intro numeral member
    obtain ⟨number, _, rfl⟩ := List.mem_map.mp member
    exact Numeral.comma_notMem_decimalChars number
  · simpa using several

/-- Only of no integers there is nothing to join. Without a comma nothing would be cut into one
empty numeral, and no numeral is empty. -/
theorem joined_eq_nil_iff {numbers : List Int} : joined numbers = [] ↔ numbers = [] := by
  constructor
  · intro nothing
    by_contra several
    have pieces := splitOn_joined several
    rw [nothing] at pieces
    cases numbers with
    | nil => exact several rfl
    | cons number rest =>
      rw [List.splitOn_nil, List.map_cons] at pieces
      exact Numeral.decimalChars_ne_nil number (List.cons.inj pieces).1.symm
  · rintro rfl
    rfl

/-- Numerals with commas between them tell their integers, and how many there are. -/
theorem joined_injective : Function.Injective joined := by
  intro left right same
  by_cases nothing : left = []
  · subst nothing
    exact (joined_eq_nil_iff.mp same.symm).symm
  · have several : right ≠ [] := by
      rintro rfl
      exact nothing (joined_eq_nil_iff.mp same)
    have pieces := congrArg (List.splitOn ',') same
    rw [splitOn_joined nothing, splitOn_joined several] at pieces
    exact Numeral.decimalChars_injective.list_map pieces

/-- The canonical characters of a list of integers tell the list. So a digest loses nothing before
the bytes are hashed. -/
theorem chars_injective : Function.Injective chars := by
  intro left right same
  have inner : joined left ++ [']'] = joined right ++ [']'] := (List.cons.inj same).2
  exact joined_injective (List.append_cancel_right inner)

/-- The canonical characters are visible, in particular they are ASCII, and each of them is one
byte. -/
theorem isVisible_chars (numbers : List Int) : ∀ c ∈ chars numbers, Text.IsVisible c := by
  have inner : ∀ c ∈ joined numbers, Text.IsVisible c := by
    unfold joined
    induction numbers with
    | nil => simp
    | cons number rest inductionHypothesis =>
      have numeral := Numeral.isVisible_decimalChars number
      cases rest with
      | nil => simpa using numeral
      | cons next others =>
        rw [List.map_cons, List.map_cons, List.intercalate_cons_cons]
        simp only [List.mem_append, List.mem_singleton]
        rintro c ((inside | rfl) | later)
        · exact numeral c inside
        · exact ⟨by decide, by decide⟩
        · exact inductionHypothesis c later
  unfold chars
  simp only [List.cons_append, List.forall_mem_cons, List.forall_mem_append]
  exact ⟨⟨by decide, by decide⟩, inner, ⟨by decide, by decide⟩, by simp⟩

/-- The bytes of a canonical text. Their digest is that of the list. -/
def bytes (numbers : List Int) : List UInt8 :=
  (chars numbers).map fun c => c.toNat.toUInt8

/-- The bytes of a canonical text tell its list of integers. -/
theorem bytes_injective : Function.Injective bytes := by
  have decoded (numbers : List Int) :
      (bytes numbers).map (fun byte => Char.ofNat byte.toNat) = chars numbers := by
    unfold bytes
    rw [List.map_map, List.map_congr_left (g := id), List.map_id]
    intro c member
    have below : c.toNat < 256 := by
      have visible := isVisible_chars numbers c member
      exact visible.2.trans (by decide)
    simp [Nat.mod_eq_of_lt below]
  intro left right same
  apply chars_injective
  rw [← decoded left, ← decoded right, same]

/-- Lists of integers whose canonical texts do not collide have one digest only if they are the
same. The condition is on these two texts alone, and not on the hash function as a whole. -/
theorem digestOfChars_eq_iff {left right : List Int}
    (apart : ¬ Sha256.Collide (bytes left) (bytes right)) :
    digestOfChars (chars left) = digestOfChars (chars right) ↔ left = right := by
  constructor
  · intro same
    by_contra distinct
    exact apart ⟨fun equal => distinct (bytes_injective equal), same⟩
  · rintro rfl
    rfl

end Canonical

end SortBench
