import SortBench.Text.Basic

/-!
# Encodings of a text

A text that is received as bytes is taken for UTF-8 unless its first bytes show another encoding:
a text that begins with ASCII characters has zero bytes at fixed places in UTF-16 and UTF-32.
With at least four bytes,

* two zero bytes in front mean UTF-32, one in front means UTF-16, the high byte first;
* after a byte that is not zero, three zero bytes mean UTF-32, and a zero byte otherwise means
  UTF-16, the low byte first.

Two bytes of which one is zero are UTF-16. Two halves of a surrogate pair, one directly after
the other, are a character in UTF-16, but not in UTF-32. Bytes that do not fill their last
unit, and units beyond the last code point, are no text.
-/

namespace SortBench.Text

/-- An encoding of text in bytes. -/
inductive Encoding where
  /-- UTF-8. -/
  | utf8
  /-- UTF-16, the high byte of a unit first or last. -/
  | utf16 (highFirst : Bool)
  /-- UTF-32, the high byte of a unit first or last. -/
  | utf32 (highFirst : Bool)
  deriving DecidableEq, Repr

namespace Encoding

/-- The encoding that the first bytes of a text show. -/
def detect : List UInt8 → Encoding
  | a :: b :: c :: d :: _ =>
    if a == 0 then if b == 0 then utf32 true else utf16 true
    else if b == 0 then if c == 0 && d == 0 then utf32 false else utf16 false
    else utf8
  | [a, b] =>
    if a == 0 then utf16 true
    else if b == 0 then utf16 false
    else utf8
  | _ => utf8

/-- The number that bytes stand for, given in their order. -/
def unitOf (highFirst : Bool) (bytes : List UInt8) : Nat :=
  (if highFirst then bytes else bytes.reverse).foldl (fun value byte => value * 0x100 + byte.toNat)
    0

/-- The units of two bytes. -/
def units16 (highFirst : Bool) : List UInt8 → Option (List Nat)
  | a :: b :: rest => (units16 highFirst rest).map (unitOf highFirst [a, b] :: ·)
  | [] => some []
  | _ => none

/-- The units of four bytes. -/
def units32 (highFirst : Bool) : List UInt8 → Option (List Nat)
  | a :: b :: c :: d :: rest =>
    (units32 highFirst rest).map (unitOf highFirst [a, b, c, d] :: ·)
  | [] => some []
  | _ => none

/-- The symbols of UTF-16 units. -/
def symbols16 : List Nat → List Symbol
  | [] => []
  | [unit] => [.ofNumber unit]
  | unit :: next :: rest =>
    if isHigh unit && isLow next then .ofNumber (ofPair unit next) :: symbols16 rest
    else .ofNumber unit :: symbols16 (next :: rest)

/-- The symbols of UTF-32 units. -/
def symbols32 (units : List Nat) : Option (List Symbol) :=
  if units.all (· ≤ 0x10FFFF) then some (units.map .ofNumber) else none

/-- The bytes of a symbol in UTF-8. Half of a surrogate pair has those of its number. -/
def bytesOf : Symbol → List UInt8
  | .character c => String.utf8EncodeChar c
  | .half unit =>
    [0xE0 + unit / 0x1000, 0x80 + unit / 0x40 % 0x40, 0x80 + unit % 0x40].map Nat.toUInt8

end Encoding

/-- The text that bytes stand for when they are the bytes of the given text in UTF-8. A byte
order mark in front of UTF-8 does not count. -/
def received (text : Text) : Option Text :=
  let bytes := text.symbols.flatMap Encoding.bytesOf
  match Encoding.detect bytes with
  | .utf8 =>
    match text.symbols with
    | .character '\ufeff' :: rest => some ⟨rest⟩
    | _ => some text
  | .utf16 highFirst => (Encoding.units16 highFirst bytes).map fun units =>
    ⟨Encoding.symbols16 units⟩
  | .utf32 highFirst => (Encoding.units32 highFirst bytes).bind fun units =>
    (Encoding.symbols32 units).map Text.mk

end SortBench.Text
