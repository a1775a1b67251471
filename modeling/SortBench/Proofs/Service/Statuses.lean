import SortBench.Proofs.Fault.Raised
import SortBench.Service.Endpoints

/-!
# Statuses of replies

A reply with a document has the status that it was given, or else is an internal error. A refusal in
the words of a string can always be written, so it has its own status. That is so of the refusal of
too many values, whatever the numbers, and of every violated condition and every wrong result but
those that are stated in words from outside: where a text from outside is shown, it is quoted, and
quoted text is a string.
-/

namespace SortBench

theorem Text.ofString_append (first second : String) :
    ofString first ++ ofString second = ofString (first ++ second) := by
  show (⟨_ ++ _⟩ : Text) = _
  simp [ofString, ofChars]

/-- A violated condition that is not stated in words from outside has the words of a string, if it
has any. Words from outside may contain halves of surrogate pairs, which cannot be sent. -/
theorem Precondition.exists_string {cause : Precondition}
    (own : ∀ rule detail, cause ≠ .stated rule detail) {limit : Numeral.DigitLimit}
    {words : Text} (described : cause.message? limit = some words) :
    ∃ content : String, words = content := by
  have described : words ∈ cause.message? limit := described
  cases cause with
  | stated rule detail => exact absurd rfl (own rule detail)
  | _ =>
    simp only [message?, detail?, rule, Option.mem_def, Option.map_eq_some_iff,
      Option.bind_eq_bind, Option.bind_eq_some_iff, Option.pure_def, Option.some.injEq] at described
    simp only [Text.ofString_append] at described
    grind [Text.ofString_append]

/-- So has a violation that is not stated in words from outside. -/
theorem Violation.exists_string {cause : Violation}
    (own : ∀ rule detail, cause ≠ .stated rule detail) {limit : Numeral.DigitLimit}
    {words : Text} (described : cause.message? limit = some words) :
    ∃ content : String, words = content := by
  have described : words ∈ cause.message? limit := described
  cases cause with
  | stated rule detail => exact absurd rfl (own rule detail)
  | _ =>
    simp only [message?, detail?, rule, Option.mem_def, Option.map_eq_some_iff,
      Option.bind_eq_bind, Option.bind_eq_some_iff, Option.pure_def, Option.some.injEq] at described
    simp only [Text.ofString_append] at described
    grind [Text.ofString_append]

/-- Integers are documented as a list of integers. -/
theorem Value.documents_integers (numbers : List Int) :
    documents (numbers.map .integer) = .ofIntegers numbers := by
  simp [documents, Json.Document.ofIntegers, Function.comp_def, Value.document]

theorem Json.isPlain_ofIntegers (numbers : List Int) :
    (Document.ofIntegers numbers).isPlain = true := by
  unfold Document.ofIntegers
  rw [Document.isPlain]
  induction numbers with
  | nil => rfl
  | cons number others inductionHypothesis =>
    rw [List.map_cons, allPlain, inductionHypothesis]
    rfl

namespace Service

/-- A refusal in the words of a string can be written plainly and has the given status. Words that
cannot be written plainly would turn it into an internal error. -/
theorem Reply.status_detail (status : Nat) (reason : String) :
    (detail status (Text.ofString reason)).status = status := by
  unfold detail ofDocument
  rw [if_pos]
  simp [Json.Document.isPlain, Json.allMembersPlain, Text.string?_ofString]

/-- A refusal of too many values is a bad request, if their number is written. -/
theorem status_tooMany (size : String) (limit : Int) :
    (tooMany (some size) limit).status = 400 := by
  unfold tooMany
  dsimp only
  rw [Text.ofString_append, Text.ofString_append, Text.ofString_append]
  exact Reply.status_detail 400 _

/-- A refusal of more values than the limit that a request or a program declares is a bad request,
if their number is short, and otherwise an internal error. The number is put into the refusal
outside of anything that would catch the failure. -/
theorem status_tooManyDeclared (size limit : Int) :
    (tooManyDeclared size limit).status = if Numeral.IsShort size then 400 else 500 := by
  unfold tooManyDeclared Numeral.written?
  simp only [Numeral.isWritten_usualLimit]
  split
  case isTrue => exact status_tooMany ..
  case isFalse => rfl

/-- A body that cannot be read is a bad request. -/
theorem status_unreadableBody : Reply.unreadableBody.status = 400 :=
  Reply.status_detail 400 _

/-- A cause is raised with its text under the usual limit, if the integers that this names are
short. -/
theorem message?_message {fault : Fault}
    (short : ∀ number ∈ fault.numbers, Numeral.IsShort number) :
    fault.message? Numeral.usualLimit = some fault.message := by
  have described : (fault.message? Numeral.usualLimit).isSome = true :=
    fault.isSome_message?.mpr fun number member =>
      Numeral.isWritten_usualLimit.mpr (short number member)
  obtain ⟨words, found⟩ := Option.isSome_iff_exists.mp described
  rw [Fault.message, found, Option.getD_some]

/-- A violated condition is a bad request, if the integers that its text names are short. -/
theorem status_replyToFault_precondition {cause : Precondition}
    (own : ∀ rule detail, cause ≠ .stated rule detail)
    (short : ∀ number ∈ cause.numbers, Numeral.IsShort number) :
    (replyToFault (.precondition cause)).status = 400 := by
  have named : ∀ number ∈ Fault.numbers (.precondition cause), Numeral.IsShort number := short
  have described := message?_message named
  obtain ⟨content, words⟩ := Precondition.exists_string own described
  unfold replyToFault
  rw [Fault.raised_of_short named]
  show (Reply.detail 400 (Fault.precondition cause).message).status = 400
  rw [words]
  exact Reply.status_detail 400 content

/-- A request whose result is not what it should be cannot be processed, if the integers that the
text of the violation names are short. -/
theorem status_replyToFault_violation {cause : Violation}
    (own : ∀ rule detail, cause ≠ .stated rule detail)
    (short : ∀ number ∈ cause.numbers, Numeral.IsShort number) :
    (replyToFault (.violation cause)).status = 422 := by
  have named : ∀ number ∈ Fault.numbers (.violation cause), Numeral.IsShort number := short
  have described := message?_message named
  obtain ⟨content, words⟩ := Violation.exists_string own described
  unfold replyToFault
  rw [Fault.raised_of_short named]
  show (Reply.detail 422 (Fault.violation cause).message).status = 422
  rw [words]
  exact Reply.status_detail 422 content

/-- A request whose sort goes too deep cannot be processed. -/
theorem status_replyToFault_exhausted (text : String) :
    (replyToFault (.exhausted text)).status = 422 :=
  Reply.status_detail 422 _

end Service

end SortBench
