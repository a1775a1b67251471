import SortBench.Json.Document
import SortBench.Numeral.Lenient

/-!
# Fields of request bodies

The fields of a body are checked all together, and every defect is reported with its place, the path
from the body to the field, in the order of the fields and of the elements of a list. An integer may
be given as a truth value, as a floating-point number without fraction, or as a text that is read
leniently. Fields that nobody asks for do not count. A report of defects shows the documents that
have them, but no member whose name is hidden.

The program declares which fields there are and of which types. How they are then checked is the
work of the library pydantic in its lax mode, which this module follows for the three types that are
declared: integers, texts, and lists of integers. Other types of the library, its strict mode and
what it would do with hooks of its own are not modelled. The limit on digits is that of the readers
of integers: a document has none with more digits than are read, and a text with more is a defect.
-/

namespace SortBench.Service

open Json

/-- What is wrong with a field or a body. -/
inductive Defect where
  /-- It is no integer. -/
  | notInteger
  /-- It is a text that no integer can be read from. -/
  | unreadableInteger
  /-- It is a number with a fraction. -/
  | fractional
  /-- It stands for an integer beyond what is read. -/
  | oversized
  /-- It is no text. -/
  | notText
  /-- It is no list. -/
  | notList
  /-- It is not there. -/
  | missing
  /-- It is no object. -/
  | notObject
  /-- It is no document. -/
  | notDocument
  deriving DecidableEq, Repr

namespace Defect

/-- The short name of a defect. -/
def kind : Defect → String
  | notInteger => "int_type"
  | unreadableInteger => "int_parsing"
  | fractional => "int_from_float"
  | oversized => "int_parsing_size"
  | notText => "string_type"
  | notList => "list_type"
  | missing => "missing"
  | notObject => "model_attributes_type"
  | notDocument => "json_invalid"

/-- A defect in words. -/
def message : Defect → String
  | notInteger => "Input should be a valid integer"
  | unreadableInteger =>
    "Input should be a valid integer, unable to parse string as an integer"
  | fractional => "Input should be a valid integer, got a number with a fractional part"
  | oversized => "Unable to parse input string as an integer, exceeded maximum size"
  | notText => "Input should be a valid string"
  | notList => "Input should be a valid list"
  | missing => "Field required"
  | notObject => "Input should be a valid dictionary or object to extract fields from"
  | notDocument => "JSON decode error"

end Defect

/-- A step of the path to a place. -/
inductive Step where
  /-- To the member of a name. -/
  | member (name : Text)
  /-- To an element of a list or a character of a text. -/
  | element (index : Nat)
  deriving DecidableEq, Repr

/-- The document of a step. -/
def Step.document : Step → Document
  | member name => .text name
  | element index => .integer index

/-- A defect at a place below the body, with the document that has it. A missing field is a
defect of the object that should have it. -/
structure Objection where
  /-- What is wrong. -/
  defect : Defect
  /-- The path from the body. -/
  path : List Step
  /-- The document that has the defect. -/
  rejected : Document

/-- The document of an objection. -/
def Objection.document (objection : Objection) : Document :=
  .object
    [("type", .text objection.defect.kind),
      ("loc", .array (.text "body" :: objection.path.map Step.document)),
      ("msg", .text objection.defect.message)]

/-- How the names of members begin that replies do not show. -/
def hiddenStart : Text := "_sa"

mutual

/-- What a reply shows of a document: everything but the members with hidden names. -/
def disclosed : Document → Document
  | .array elements => .array (disclosedElements elements)
  | .object members => .object (disclosedMembers members)
  | document => document

/-- What a reply shows of a list of documents. -/
def disclosedElements : List Document → List Document
  | [] => []
  | element :: rest => disclosed element :: disclosedElements rest

/-- What a reply shows of a list of named documents. -/
def disclosedMembers : List (Text × Document) → List (Text × Document)
  | [] => []
  | (name, member) :: rest =>
    if name.beginsWith hiddenStart then disclosedMembers rest
    else (name, disclosed member) :: disclosedMembers rest

end

/-- A checked part of a body, or all objections to it. -/
abbrev Checked (α : Type) := Except (List Objection) α

/-- Two checked parts together. All objections are kept, those to the first part before those to the
second. -/
def Checked.pair {α β : Type} (first : Checked α) (second : Checked β) : Checked (α × β) :=
  match first, second with
  | .ok a, .ok b => .ok (a, b)
  | .error objections, .ok _ => .error objections
  | .ok _, .error objections => .error objections
  | .error objections, .error further => .error (objections ++ further)

/-- A list of checked parts together, with all objections in the order of the parts. -/
def Checked.list {α : Type} (parts : List (Checked α)) : Checked (List α) :=
  parts.foldr (fun part rest => (part.pair rest).map fun (a, more) => a :: more) (.ok [])

/-- One objection. -/
def object {α : Type} (defect : Defect) (path : List Step) (rejected : Document) : Checked α :=
  .error [⟨defect, path, rejected⟩]

/-- Whether an integer is below two to the sixty-third in magnitude. -/
def isInRange (number : Int) : Bool :=
  -0x8000000000000000 < number && number < 0x8000000000000000

/-- The integer of a floating-point number. -/
def integerOfReal : Binary64 → Except Defect Int
  | .nan _ => .error .notInteger
  | .infinite _ => .error .notInteger
  | .finite negative mantissa exponent =>
    let number := Binary64.truncated negative mantissa exponent
    let whole := 0 ≤ exponent || mantissa % Nat.pow 2 (-exponent).toNat == 0
    if !whole then .error .fractional
    else if isInRange number then .ok number
    else .error .oversized

/-- The integer of a text. -/
def integerOfText (content : Text) : Except Defect Int :=
  match Numeral.readLenient content with
  | .ok number => .ok number
  | .error .malformed => .error .unreadableInteger
  | .error (.tooLong _) => .error .oversized

/-- The integer of a document. What is none is told by kind, since a text, a number with a fraction
and anything else are different defects. -/
def integerOf : Document → Except Defect Int
  | .integer number => .ok number
  | .boolean truth => .ok (if truth then 1 else 0)
  | .real number => integerOfReal number
  | .text content => integerOfText content
  | _ => .error .notInteger

/-- An integer field. -/
def readInteger (path : List Step) (document : Document) : Checked Int :=
  match integerOf document with
  | .ok number => .ok number
  | .error defect => object defect path document

/-- A field that is a text. -/
def readText (path : List Step) : Document → Checked Text
  | .text content => .ok content
  | document => object .notText path document

/-- A field that is a list of integers. -/
def readIntegers (path : List Step) : Document → Checked (List Int)
  | .array elements =>
    Checked.list
      (elements.zipIdx.map fun (element, index) => readInteger (path ++ [.element index]) element)
  | document => object .notList path document

/-- A field that may be null. -/
def readOptional {α : Type} (read : Document → Checked α) : Document → Checked (Option α)
  | .null => .ok none
  | document => (read document).map some

/-- The field of a name; when it is not there, what is given for that case. Of the members of a body
only this one is looked at. -/
def field {α : Type} (name : Text) (absent : Checked α)
    (read : List Step → Document → Checked α) (document : Document) : Checked α :=
  match document.member? name with
  | some content => read [.member name] content
  | none => absent

/-- The field of a name, which must be there. -/
def requiredField {α : Type} (name : Text) (read : List Step → Document → Checked α)
    (document : Document) : Checked α :=
  field name (object .missing [.member name] document) read document

/-- A body that is an object. -/
def readObject {α : Type} (read : Document → Checked α) (document : Document) : Checked α :=
  match document with
  | .object members => read (.object members)
  | _ => object .notObject [] document

end SortBench.Service
