import SortBench.Binary64.Shortest

/-!
# Values that are sorted

A value is a number of one of three kinds, a text, the absent value, or a keyed item: a key
with a tag. Truth values are numbers, one and zero, but are written as truth values. Items,
like values that are not a number, carry a label, since each occurrence is a value of its own:
moving it keeps the label, and no other occurrence has it.
-/

namespace SortBench

/-- An element of an array that is sorted. These are the kinds of values that can be given, from
outside or by an algorithm; values with comparisons of their own are not modelled. -/
inductive Value where
  /-- An integer of any size. -/
  | integer (number : Int)
  /-- A truth value, which counts as one or zero. -/
  | boolean (truth : Bool)
  /-- A floating-point number. -/
  | real (number : Binary64)
  /-- A text. -/
  | text (content : Text)
  /-- The absent value, which has no place in any order. -/
  | absent
  /-- An item that is compared by its key alone; the label tells one occurrence from
  another. -/
  | item (label : Nat) (key : Int) (tag : Text)
  deriving DecidableEq, Repr

namespace Value

/-- The name of the kind of a value, as messages give it. -/
def kind : Value → String
  | integer _ => "int"
  | boolean _ => "bool"
  | real _ => "float"
  | text _ => "str"
  | absent => "NoneType"
  | item _ _ _ => "Item"

/-- How messages show a value, if its integer, where it has one, is written under a limit. -/
def shown? (limit : Numeral.DigitLimit) : Value → Option String
  | integer number => Numeral.written? limit number
  | boolean truth => some (if truth then "True" else "False")
  | real number => some number.text
  | text content => some (Text.quoted content)
  | absent => some "None"
  | item _ key tag => do
    let key ← Numeral.written? limit key
    return "Item(" ++ key ++ ", " ++ Text.quoted tag ++ ")"

end Value

end SortBench
