import SortBench.Binary64.Basic
import SortBench.Text.Basic

/-!
# Documents

A document is a JSON value. Integers are exact, and a number written with a fraction or an
exponent is a floating-point number. A string is any text, and an object keeps its members in
order.

A document is *plain* when it can be written without leaving JSON and UTF-8: its numbers are
finite, and no text in it, names of members included, holds half of a surrogate pair.
-/

namespace SortBench.Json

/-- A JSON value. -/
inductive Document where
  /-- The null value. -/
  | null
  /-- A truth value. -/
  | boolean (truth : Bool)
  /-- A number without fraction and exponent. -/
  | integer (number : Int)
  /-- A number with a fraction or an exponent, an infinity, or not a number. -/
  | real (number : Binary64)
  /-- A string. -/
  | text (content : Text)
  /-- A list of documents. -/
  | array (elements : List Document)
  /-- A list of named documents. -/
  | object (members : List (Text × Document))

/-- Whether a number is finite. -/
def isFinite : Binary64 → Bool
  | .finite _ _ _ => true
  | _ => false

mutual

/-- Whether a document is plain. -/
def Document.isPlain : Document → Bool
  | .null => true
  | .boolean _ => true
  | .integer _ => true
  | .real number => isFinite number
  | .text content => content.string?.isSome
  | .array elements => allPlain elements
  | .object members => allMembersPlain members

/-- Whether all documents of a list are plain. -/
def allPlain : List Document → Bool
  | [] => true
  | element :: rest => element.isPlain && allPlain rest

/-- Whether all named documents of a list and their names are plain. -/
def allMembersPlain : List (Text × Document) → Bool
  | [] => true
  | (name, member) :: rest => name.string?.isSome && member.isPlain && allMembersPlain rest

end

namespace Document

/-- The member of an object with the given name; of several the last. A document that is not
an object has no members. -/
def member? (name : Text) : Document → Option Document
  | object members => members.reverse.lookup name
  | _ => none

/-- A text, or null when there is none. -/
def ofText? : Option Text → Document
  | some content => text content
  | none => null

/-- A truth value, or null when there is none. -/
def ofTruth? : Option Bool → Document
  | some truth => boolean truth
  | none => null

/-- A list of integers. -/
def ofIntegers (numbers : List Int) : Document :=
  array (numbers.map integer)

/-- An object of named integers. -/
def ofFigures (figures : List (Text × Int)) : Document :=
  object (figures.map fun (name, figure) => (name, integer figure))

end Document

end SortBench.Json
