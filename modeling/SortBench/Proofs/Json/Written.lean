import SortBench.Proofs.Json.Integers
import SortBench.Proofs.Json.Strings

/-!
# Written documents

The characters of a document that is written without line breaks and spaces, part by part. Writing
appends them to what was written before, at any depth. The documents that can be read back are the
*exact* ones: no floating-point number is in them, their texts are strings, and the names of an
object are distinct. Each of them begins with a character that shows that a document follows.
-/

namespace SortBench.Json

open Numeral (decimalChars)

mutual

/-- The characters of a document without line breaks and spaces. Writers and readers are both
compared with this, so neither has to know of the other. -/
def Document.chars : Document → List Char
  | .null => "null".toList
  | .boolean truth => if truth then "true".toList else "false".toList
  | .integer number => decimalChars number
  | .real number => (realText number).toList
  | .text content => (stringText content).toList
  | .array [] => ['[', ']']
  | .array (first :: rest) => '[' :: first.chars ++ elementChars rest ++ [']']
  | .object [] => ['\x7b', '\x7d']
  | .object ((name, first) :: rest) =>
    '\x7b' :: (stringText name).toList ++ ':' :: first.chars ++ memberChars rest ++ ['\x7d']

/-- The characters of the elements of a list after its first. -/
def elementChars : List Document → List Char
  | [] => []
  | next :: rest => ',' :: next.chars ++ elementChars rest

/-- The characters of the members of an object after its first. -/
def memberChars : List (Text × Document) → List Char
  | [] => []
  | (name, next) :: rest =>
    ',' :: (stringText name).toList ++ ':' :: next.chars ++ memberChars rest

end

@[simp]
theorem lineBreak_compact (depth : Nat) : Layout.compact.lineBreak depth = "" :=
  rfl

@[simp]
theorem colon_compact : Layout.compact.colon = ":" :=
  rfl

mutual

/-- Writing appends the characters of a document, whatever the depth. The writer carries along what
it has written, which a recursion on documents alone would not. -/
theorem toList_write (depth : Nat) (written : String) (document : Document) :
    (document.write .compact depth written).toList = written.toList ++ document.chars := by
  match document with
  | .null => simp [Document.write, Document.chars]
  | .boolean truth => cases truth <;> simp [Document.write, Document.chars]
  | .integer number => simp [Document.write, Document.chars, Numeral.decimal]
  | .real number => simp [Document.write, Document.chars]
  | .text content => simp [Document.write, Document.chars]
  | .array [] => simp [Document.write, Document.chars]
  | .array (first :: rest) =>
    rw [Document.write, Document.chars]
    simp [toList_writeElements, toList_write]
  | .object [] => simp [Document.write, Document.chars]
  | .object ((name, first) :: rest) =>
    rw [Document.write, Document.chars]
    simp [toList_writeMembers, toList_write]

/-- Writing appends the characters of further elements. -/
theorem toList_writeElements (depth : Nat) (written : String) (elements : List Document) :
    (writeElements .compact depth written elements).toList =
      written.toList ++ elementChars elements := by
  match elements with
  | [] => simp [writeElements, elementChars]
  | next :: rest =>
    rw [writeElements, elementChars]
    simp [toList_writeElements, toList_write]

/-- Writing appends the characters of further members. -/
theorem toList_writeMembers (depth : Nat) (written : String)
    (members : List (Text × Document)) :
    (writeMembers .compact depth written members).toList =
      written.toList ++ memberChars members := by
  match members with
  | [] => simp [writeMembers, memberChars]
  | (name, next) :: rest =>
    rw [writeMembers, memberChars]
    simp [toList_writeMembers, toList_write]

end

/-- The compact text of a document has its characters. -/
theorem ofString_compact (document : Document) :
    Text.ofString document.compact = Text.ofChars document.chars := by
  unfold Text.ofString Document.compact
  rw [toList_write]
  rfl

/-- A document without floating-point numbers, whose texts are strings, and in which the names of an
object are distinct. -/
inductive Document.IsExact : Document → Prop where
  /-- The null value. -/
  | null : IsExact .null
  /-- A truth value. -/
  | boolean (truth : Bool) : IsExact (.boolean truth)
  /-- An integer. -/
  | integer (number : Int) : IsExact (.integer number)
  /-- A string of characters. -/
  | text (characters : List Char) : IsExact (.text (Text.ofChars characters))
  /-- A list of exact documents. -/
  | array {elements : List Document} (each : ∀ element ∈ elements, IsExact element) :
    IsExact (.array elements)
  /-- An object whose members are exact documents with distinct names. -/
  | object {members : List (Text × Document)} (distinct : (members.map Prod.fst).Nodup)
    (named : ∀ member ∈ members, ∃ characters, member.1 = Text.ofChars characters)
    (each : ∀ member ∈ members, IsExact member.2) : IsExact (.object members)

/-- Whether a document can begin with a character. -/
def canBegin (c : Char) : Bool :=
  c.isDigit || ['n', 't', 'f', '"', '[', '\x7b', '-'].contains c

/-- The characters of a string are these between quotes. -/
theorem Document.chars_text (characters : List Char) :
    chars (.text (Text.ofChars characters)) = quotedChars characters := by
  rw [chars, stringText_ofChars, String.toList_ofList]

/-- An exact document begins with a character that it can begin with. In particular it is not empty
and does not begin with a space, which a reader would skip. -/
theorem Document.IsExact.exists_begin {document : Document} (exact : document.IsExact) :
    ∃ c rest, document.chars = c :: rest ∧ canBegin c = true := by
  cases exact with
  | null => exact ⟨_, _, rfl, rfl⟩
  | boolean truth =>
    cases truth with
    | false => exact ⟨_, _, rfl, rfl⟩
    | true => exact ⟨_, _, rfl, rfl⟩
  | integer number =>
    obtain ⟨c, others, written, begins⟩ := exists_decimalChars number
    refine ⟨c, others, written, ?_⟩
    obtain rfl | digit := begins
    · rfl
    · simp [canBegin, digit]
  | text characters =>
    rw [chars_text]
    exact ⟨_, _, rfl, rfl⟩
  | @array elements each =>
    cases elements with
    | nil => exact ⟨_, _, rfl, rfl⟩
    | cons first others =>
      rw [chars]
      exact ⟨_, _, rfl, rfl⟩
  | @object members distinct named each =>
    cases members with
    | nil => exact ⟨_, _, rfl, rfl⟩
    | cons first others =>
      rw [chars]
      exact ⟨_, _, rfl, rfl⟩

end SortBench.Json
