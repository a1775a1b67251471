/-!
# White space

Two sets of characters count as space. A *blank* is any character that Unicode treats as
white space, including the four ASCII information separators. *Padding* is what may
surround a numeral: every blank except those four separators.
-/

namespace SortBench.Text

/-- A blank is a white-space character of Unicode or an ASCII information separator. -/
def isBlank (c : Char) : Bool :=
  let code := c.toNat
  (0x09 ≤ code && code ≤ 0x0D) || (0x1C ≤ code && code ≤ 0x20) || code == 0x85 ||
    code == 0xA0 || code == 0x1680 || (0x2000 ≤ code && code ≤ 0x200A) || code == 0x2028 ||
    code == 0x2029 || code == 0x202F || code == 0x205F || code == 0x3000

/-- Padding is a blank that may stand around a numeral; the information separators may not. -/
def isPadding (c : Char) : Bool :=
  isBlank c && !(0x1C ≤ c.toNat && c.toNat ≤ 0x1F)

/-- Drop the items of a class from the end of a list. -/
def dropEndWhile {α : Type} (drop : α → Bool) (text : List α) : List α :=
  (text.reverse.dropWhile drop).reverse

/-- Drop the items of a class from both ends of a list. -/
def trimWhile {α : Type} (drop : α → Bool) (text : List α) : List α :=
  dropEndWhile drop (text.dropWhile drop)

end SortBench.Text
