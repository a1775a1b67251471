import SortBench.Json.Document
import SortBench.Value.Basic

/-!
# Values in documents

A value stands in a document as the JSON value of its kind. A keyed item stands as an object
of its key and its tag.
-/

namespace SortBench

/-- The document of a value. -/
def Value.document : Value → Json.Document
  | integer number => .integer number
  | boolean truth => .boolean truth
  | real number => .real number
  | text content => .text content
  | absent => .null
  | item _ key tag => .object [("key", .integer key), ("tag", .text tag)]

/-- The document of a list of values. -/
def Value.documents (values : List Value) : Json.Document :=
  .array (values.map document)

end SortBench
