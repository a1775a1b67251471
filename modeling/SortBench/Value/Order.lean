import SortBench.Sorting.Comparison
import SortBench.Value.Quantity

/-!
# Order of values

Numbers of all three kinds compare by quantity, texts by code points, and keyed items by
key. Any other pair has no order: the comparison is refused, and the refusal names the
operator and the kinds of the two values in the order in which they were compared.
-/

namespace SortBench

/-- The two comparisons that sorts and checks make. -/
inductive Operator where
  /-- Not greater. -/
  | notGreater
  /-- Greater. -/
  | greater
  deriving DecidableEq, Repr

/-- The sign of an operator in messages. -/
def Operator.sign : Operator → String
  | notGreater => "<="
  | greater => ">"

/-- A comparison of two values that have no order. -/
structure Clash where
  /-- The comparison that was tried. -/
  operator : Operator
  /-- The kind of the value on the left. -/
  left : String
  /-- The kind of the value on the right. -/
  right : String
  deriving DecidableEq, Repr

/-- The text of a refused comparison. -/
def Clash.message (clash : Clash) : String :=
  "'" ++ clash.operator.sign ++ "' not supported between instances of '" ++ clash.left ++
    "' and '" ++ clash.right ++ "'"

namespace Value

/-- Decide a comparison by quantity, by text or by key, or refuse it. Which of them is asked depends
on the kinds of the two values only. -/
def decide (operator : Operator) (byQuantity : Quantity → Quantity → Bool)
    (byText : Text → Text → Bool) (byKey : Int → Int → Bool) (a b : Value) :
    Except Clash Bool :=
  match a.quantity?, b.quantity? with
  | some p, some q => .ok (byQuantity p q)
  | _, _ =>
    match a, b with
    | text s, text t => .ok (byText s t)
    | item _ k _, item _ l _ => .ok (byKey k l)
    | _, _ => .error ⟨operator, a.kind, b.kind⟩

/-- Whether a value is not greater than another, if the two have an order. It is a question of its
own and not the denial of the other one: undefined values answer both with no. -/
def le? : Value → Value → Except Clash Bool :=
  decide .notGreater Quantity.le (fun s t => !(t < s)) (fun k l => k ≤ l)

/-- Whether a value is greater than another, if the two have an order. -/
def gt? : Value → Value → Except Clash Bool :=
  decide .greater Quantity.gt (fun s t => t < s) (fun k l => l < k)

/-- The comparisons of values, for the sorts. -/
def order : Sorting.Comparison Value Clash :=
  { le := le?, gt := gt? }

end Value

end SortBench
