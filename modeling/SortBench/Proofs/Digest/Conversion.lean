import Mathlib.Data.List.Forall2
import SortBench.Digest.Canonical
import SortBench.Proofs.Value.Families

/-!
# Values that have a digest

A list has a digest exactly when each of its values converts to an integer and these integers are
short. The values that do not convert are the ones without a place in any order, keyed items,
infinities and unreadable texts; so a list with a value that is not a number has no digest. For a
list of integers the conversion changes nothing, whatever their size, but one that is not short is
still not written.
-/

namespace SortBench

/-- A list is answered when each of its items is, and the answers are theirs, one by one. An answer
to the whole list is thereby taken apart without going through the recursion again. -/
theorem mapM_eq_ok_iff {ε α β : Type} {f : α → Except ε β} {items : List α} {answers : List β} :
    items.mapM f = .ok answers ↔
      List.Forall₂ (fun item answer => f item = .ok answer) items answers := by
  induction items generalizing answers with
  | nil =>
    rw [List.forall₂_nil_left_iff]
    exact ⟨fun same => (Except.ok.inj same).symm, fun same => same ▸ rfl⟩
  | cons item rest inductionHypothesis =>
    rw [List.mapM_cons, List.forall₂_cons_left_iff]
    cases first : f item with
    | error cause => simp [bind, Except.bind]
    | ok answer =>
      cases others : rest.mapM f with
      | error cause => simp [bind, Except.bind, ← inductionHypothesis, others]
      | ok tail =>
        simp only [bind, Except.bind, pure, Except.pure, Except.ok.injEq, ← inductionHypothesis,
          others]
        simp [eq_comm]

/-- A value that converts to an integer is defined. What is not a number does not convert, which
keeps it out of every digest. -/
theorem Value.IsDefined.of_toInteger {value : Value} {number : Int}
    (converted : value.toInteger = .ok number) : value.IsDefined := by
  rintro label rfl
  simp [toInteger] at converted

namespace Canonical

open Numeral (IsShort)

theorem integers_eq_ok_iff {values : List Value} {numbers : List Int} :
    integers values = .ok numbers ↔
      List.Forall₂ (fun value number => value.toInteger = .ok number) values numbers :=
  mapM_eq_ok_iff

/-- The integers of a list of integers are these. -/
theorem integers_integer (numbers : List Int) :
    integers (numbers.map .integer) = .ok numbers := by
  rw [integers_eq_ok_iff, List.forall₂_map_left_iff]
  exact List.forall₂_same.mpr fun _ _ => rfl

/-- A list has canonical characters exactly when its values convert to short integers, and then they
are those of these integers. Converting and writing can each fail, and the integers are what they
have in common. -/
theorem writtenChars_eq_ok_iff {values : List Value} {characters : List Char} :
    writtenChars values = .ok characters ↔
      ∃ numbers, integers values = .ok numbers ∧ (∀ number ∈ numbers, IsShort number) ∧
        characters = chars numbers := by
  unfold writtenChars
  cases integers values with
  | error cause => simp
  | ok numbers =>
    dsimp only
    split
    case isTrue short => simpa [eq_comm] using fun _ => short
    case isFalse long => simpa using fun short _ => absurd short long

/-- The canonical characters of a list of integers are written exactly when all of them are short.
One integer that is too long leaves the whole list without. -/
theorem writtenChars_integer (numbers : List Int) :
    writtenChars (numbers.map .integer) =
      if ∀ number ∈ numbers, IsShort number then .ok (chars numbers)
      else .error (.unwritten Numeral.mostDigits) := by
  rw [writtenChars, integers_integer]

/-- A list has a digest exactly when its values convert to short integers, and then it is that of
their canonical characters. -/
theorem digest_eq_ok_iff {values : List Value} {code : String} :
    digest values = .ok code ↔
      ∃ numbers, integers values = .ok numbers ∧ (∀ number ∈ numbers, IsShort number) ∧
        code = digestOfChars (chars numbers) := by
  unfold digest
  constructor
  · intro digested
    cases written : writtenChars values with
    | error fault =>
      rw [written] at digested
      cases digested
    | ok characters =>
      rw [written] at digested
      obtain ⟨numbers, read, short, rfl⟩ := writtenChars_eq_ok_iff.mp written
      exact ⟨numbers, read, short, (Except.ok.inj digested).symm⟩
  · rintro ⟨numbers, read, short, rfl⟩
    rw [writtenChars_eq_ok_iff.mpr ⟨numbers, read, short, rfl⟩]
    rfl

/-- The digest of a list of short integers is that of their canonical characters. -/
theorem digest_integer {numbers : List Int} (short : ∀ number ∈ numbers, IsShort number) :
    digest (numbers.map .integer) = .ok (digestOfChars (chars numbers)) :=
  digest_eq_ok_iff.mpr ⟨numbers, integers_integer numbers, short, rfl⟩

/-- A list of integers one of which is not short has no digest, for that reason and no other. Where
it stands in the list makes no difference. -/
theorem digest_of_long {numbers : List Int} (long : ¬ ∀ number ∈ numbers, IsShort number) :
    digest (numbers.map .integer) = .error (.unwritten Numeral.mostDigits) := by
  rw [digest, writtenChars_integer, if_neg long]
  rfl

/-- Where a list of integers has a digest, all of them are short, and the digest is that of their
canonical characters. A report with a digest is therefore evidence of how long the integers are. -/
theorem eq_of_digest_integer {numbers : List Int} {code : String}
    (digested : digest (numbers.map .integer) = .ok code) :
    (∀ number ∈ numbers, IsShort number) ∧ code = digestOfChars (chars numbers) := by
  obtain ⟨others, read, short, rfl⟩ := digest_eq_ok_iff.mp digested
  obtain rfl : numbers = others := Except.ok.inj ((integers_integer numbers).symm.trans read)
  exact ⟨short, rfl⟩

/-- Every value of a list that has integers converts to one of them. -/
theorem exists_toInteger {values : List Value} {numbers : List Int}
    (read : integers values = .ok numbers) :
    ∀ value ∈ values, ∃ number ∈ numbers, value.toInteger = .ok number := by
  have paired := integers_eq_ok_iff.mp read
  clear read
  induction paired with
  | nil => simp
  | cons converted _ inductionHypothesis =>
    intro value member
    obtain rfl | later := List.mem_cons.mp member
    · exact ⟨_, List.mem_cons_self .., converted⟩
    · obtain ⟨number, found, others⟩ := inductionHypothesis value later
      exact ⟨number, List.mem_cons_of_mem _ found, others⟩

/-- Every value of a list that has a digest is defined. A program that reports a digest of its
output has left nothing undefined in it. -/
theorem isDefined_of_digest {values : List Value} {code : String}
    (digested : digest values = .ok code) : ∀ value ∈ values, value.IsDefined := by
  obtain ⟨numbers, read, _, _⟩ := digest_eq_ok_iff.mp digested
  intro value member
  obtain ⟨number, _, converted⟩ := exists_toInteger read value member
  exact .of_toInteger converted

end Canonical

end SortBench
