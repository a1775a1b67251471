import SortBench.Proofs.Json.ReadBack

/-!
# Documents that are read fit

Whatever the text: a document that is read is nested no deeper than is allowed, and its integers are
short. So reading never gives more than it could have given back, and whoever handles a document
that was posted need not ask for the digits of its integers again.

The proof is by induction on the fuel, for the three readings of documents, elements and members at
once. A list or an object is read with one level less than it may have; what was read before of it
already fits, and one more part is put in front.
-/

namespace SortBench.Json

open Text (Symbol)
open Numeral (IsShort)

/-- All documents of a list fit when each of them does. -/
theorem allFit_iff {levels : Nat} {elements : List Document} :
    allFit levels elements = true ↔ ∀ element ∈ elements, element.fits levels = true := by
  induction elements with
  | nil => simp [allFit]
  | cons element rest inductionHypothesis =>
    rw [allFit, Bool.and_eq_true, inductionHypothesis, List.forall_mem_cons]

theorem allMembersFit_iff {levels : Nat} {members : List (Text × Document)} :
    allMembersFit levels members = true ↔ ∀ member ∈ members, member.2.fits levels = true := by
  induction members with
  | nil => simp [allMembersFit]
  | cons member rest inductionHypothesis =>
    rw [allMembersFit, Bool.and_eq_true, inductionHypothesis, List.forall_mem_cons]

/-- What a reading gives fits, if it gives anything. A reading that fails gives nothing, so failures
need no attention below. -/
def GivesFitting (levels : Nat) (reading : Reading Document) : Prop :=
  ∀ document rest, reading = .ok (document, rest) → document.fits levels = true

/-- A number that is read fits: an integer with too many digits is refused as it is read, and a
number with a fraction has no limit. -/
theorem givesFitting_readNumber (levels : Nat) (text : List Symbol) :
    GivesFitting levels (readNumber text) := by
  intro document rest read
  unfold readNumber at read
  dsimp only at read
  split at read
  case h_1 => cases read
  case h_2 magnitude left _ =>
    split at read
    case h_1 => cases read
    case h_2 document given =>
      cases read
      unfold Magnitude.document? at given
      dsimp only at given
      split at given
      · split at given
        · cases given
        · rename_i few
          cases given
          rw [Document.fits]
          exact decide_eq_true (Numeral.isShort_signed (Nat.le_of_not_lt few) _)
      · cases given
        rfl

/-- What one of the names stands for fits. -/
theorem fits_readName {names : List (Text × Document)} {levels : Nat}
    (each : ∀ name ∈ names, name.2.fits levels = true) {text rest : List Symbol}
    {document : Document} (read : readName names text = some (document, rest)) :
    document.fits levels = true := by
  induction names with
  | nil => cases read
  | cons first others inductionHypothesis =>
    obtain ⟨fits, remaining⟩ := List.forall_mem_cons.mp each
    rw [readName] at read
    split at read
    · cases read
      exact fits
    · exact inductionHypothesis remaining read

/-- A number or a name that is read fits. -/
theorem givesFitting_readScalar (levels : Nat) (text : List Symbol) :
    GivesFitting levels (readScalar text) := by
  intro document rest read
  unfold readScalar at read
  split at read
  case h_1 found named =>
    cases read
    have each : ∀ name ∈ names, name.2.fits levels = true := by simp [names, Document.fits]
    exact fits_readName each named
  case h_2 => exact givesFitting_readNumber levels text document rest read

section

variable {fuel : Nat} (values : ∀ levels text, GivesFitting levels (readValue fuel levels text))

include values

/-- Elements that are read fit with those read before. The elements read before are an argument of
the reader, so the statement has to carry them along. -/
theorem givesFitting_readElements_succ
    (others : ∀ levels elements text, (∀ element ∈ elements, element.fits levels = true) →
      GivesFitting (levels + 1) (readElements fuel levels elements text))
    {levels : Nat} {elements : List Document}
    (before : ∀ element ∈ elements, element.fits levels = true) (text : List Symbol) :
    GivesFitting (levels + 1) (readElements (fuel + 1) levels elements text) := by
  intro document rest read
  rw [readElements] at read
  split at read
  case h_1 => cases read
  case h_2 element after found =>
    have all : ∀ part ∈ element :: elements, part.fits levels = true :=
      List.forall_mem_cons.mpr ⟨values levels text element after found, before⟩
    split at read
    · cases read
      rw [Document.fits, allFit_iff]
      exact fun element member => all element (List.mem_reverse.mp member)
    · exact others levels _ _ all document rest read
    · cases read

/-- Members that are read fit with those read before, of which one may be replaced. Of a repeated
name only the last document is kept, and to take one away harms nothing. -/
theorem givesFitting_readMembers_succ
    (others : ∀ levels members text, (∀ member ∈ members, member.2.fits levels = true) →
      GivesFitting (levels + 1) (readMembers fuel levels members text))
    {levels : Nat} {members : List (Text × Document)}
    (before : ∀ member ∈ members, member.2.fits levels = true) (text : List Symbol) :
    GivesFitting (levels + 1) (readMembers (fuel + 1) levels members text) := by
  intro document rest read
  unfold readMembers at read
  split at read
  case h_2 => cases read
  case h_1 =>
    split at read
    case h_1 => cases read
    case h_2 name after _ =>
      split at read
      case h_2 => cases read
      case h_1 =>
        split at read
        case h_1 => cases read
        case h_2 content after found =>
          have all : ∀ member ∈ putMember name content members, member.2.fits levels = true :=
            List.forall_mem_cons.mpr ⟨values levels _ content after found, fun member held =>
              before member (List.mem_of_mem_filter held)⟩
          dsimp only at read
          split at read
          · cases read
            rw [Document.fits, allMembersFit_iff]
            exact fun member held => all member (List.mem_reverse.mp held)
          · exact others levels _ _ all document rest read
          · cases read

end

/-- A document that is read fits, whatever it begins with. A list or an object begins with nothing
read of it yet, and has one level less for its parts. -/
theorem givesFitting_readValue_succ {fuel : Nat}
    (elements : ∀ levels elements text, (∀ element ∈ elements, element.fits levels = true) →
      GivesFitting (levels + 1) (readElements fuel levels elements text))
    (members : ∀ levels members text, (∀ member ∈ members, member.2.fits levels = true) →
      GivesFitting (levels + 1) (readMembers fuel levels members text))
    (levels : Nat) (text : List Symbol) : GivesFitting levels (readValue (fuel + 1) levels text) := by
  intro document rest read
  unfold readValue at read
  split at read
  · split at read
    · cases read
      rfl
    · cases read
  · split at read
    · cases read
    · split at read
      · cases read
        rfl
      · exact elements _ _ _ (by simp) document rest read
  · split at read
    · cases read
    · split at read
      · cases read
        rfl
      · exact members _ _ _ (by simp) document rest read
  · exact givesFitting_readScalar levels text document rest read

/-- What is read fits, be it a document, a list with elements before it, or an object with members
before it.

Proof: by induction on the fuel, for the three readers at once, since they call each other. Each
level of brackets takes one off the levels that are left, and a reading without any level left is
refused. -/
theorem givesFitting (fuel : Nat) :
    (∀ levels text, GivesFitting levels (readValue fuel levels text)) ∧
      (∀ levels elements text, (∀ element ∈ elements, element.fits levels = true) →
        GivesFitting (levels + 1) (readElements fuel levels elements text)) ∧
      ∀ levels members text, (∀ member ∈ members, member.2.fits levels = true) →
        GivesFitting (levels + 1) (readMembers fuel levels members text) := by
  induction fuel with
  | zero =>
    refine ⟨?_, ?_, ?_⟩
    · intro levels text document rest read
      rw [readValue] at read
      cases read
    · intro levels elements text before document rest read
      rw [readElements] at read
      cases read
    · intro levels members text before document rest read
      rw [readMembers] at read
      cases read
  | succ fuel inductionHypothesis =>
    obtain ⟨values, elements, members⟩ := inductionHypothesis
    refine ⟨fun levels text => givesFitting_readValue_succ elements members levels text,
      fun levels before text fit => givesFitting_readElements_succ values elements fit text,
      fun levels before text fit => givesFitting_readMembers_succ values members fit text⟩

/-- A document that is read fits. With the converse for written documents, what can be received is
exactly what fits. -/
theorem fits_of_readWithin {levels : Nat} {text : Text} {document : Document}
    (read : readWithin levels text = .ok document) : document.fits levels = true := by
  unfold readWithin at read
  split at read
  case h_1 => cases read
  case h_2 => cases read
  case h_3 found =>
    split at read
    · cases read
      exact (givesFitting _).1 levels _ _ _ found
    · cases read

end SortBench.Json
