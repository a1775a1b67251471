import SortBench.Text.Quoted

/-!
# SHA-256

The digest of a sequence of bytes. The message is padded to whole blocks of 64 bytes: a set
bit, zeros, and the length in bits as a number of 64 bits. Each block is extended from 16 to
64 words and mixed into a state of eight words in as many rounds. The digest is the final
state in hexadecimal. Words have 32 bits, and all sums wrap.
-/

namespace SortBench.Sha256

/-- The words added in the rounds: the first 32 bits of the fractions of the cube roots of
the first 64 primes. -/
def roundConstants : List UInt32 :=
  [0x428a2f98, 0x71374491, 0xb5c0fbcf, 0xe9b5dba5, 0x3956c25b, 0x59f111f1, 0x923f82a4, 0xab1c5ed5,
   0xd807aa98, 0x12835b01, 0x243185be, 0x550c7dc3, 0x72be5d74, 0x80deb1fe, 0x9bdc06a7, 0xc19bf174,
   0xe49b69c1, 0xefbe4786, 0x0fc19dc6, 0x240ca1cc, 0x2de92c6f, 0x4a7484aa, 0x5cb0a9dc, 0x76f988da,
   0x983e5152, 0xa831c66d, 0xb00327c8, 0xbf597fc7, 0xc6e00bf3, 0xd5a79147, 0x06ca6351, 0x14292967,
   0x27b70a85, 0x2e1b2138, 0x4d2c6dfc, 0x53380d13, 0x650a7354, 0x766a0abb, 0x81c2c92e, 0x92722c85,
   0xa2bfe8a1, 0xa81a664b, 0xc24b8b70, 0xc76c51a3, 0xd192e819, 0xd6990624, 0xf40e3585, 0x106aa070,
   0x19a4c116, 0x1e376c08, 0x2748774c, 0x34b0bcb5, 0x391c0cb3, 0x4ed8aa4a, 0x5b9cca4f, 0x682e6ff3,
   0x748f82ee, 0x78a5636f, 0x84c87814, 0x8cc70208, 0x90befffa, 0xa4506ceb, 0xbef9a3f7, 0xc67178f2]

/-- The eight words that are carried from block to block. -/
structure State where
  /-- First word. -/
  a : UInt32
  /-- Second word. -/
  b : UInt32
  /-- Third word. -/
  c : UInt32
  /-- Fourth word. -/
  d : UInt32
  /-- Fifth word. -/
  e : UInt32
  /-- Sixth word. -/
  f : UInt32
  /-- Seventh word. -/
  g : UInt32
  /-- Eighth word. -/
  h : UInt32

namespace State

/-- The state before the first block: the first 32 bits of the fractions of the square roots
of the first eight primes. -/
def initial : State :=
  ⟨0x6a09e667, 0xbb67ae85, 0x3c6ef372, 0xa54ff53a, 0x510e527f, 0x9b05688c, 0x1f83d9ab, 0x5be0cd19⟩

/-- Add two states word by word. -/
def add (s t : State) : State :=
  ⟨s.a + t.a, s.b + t.b, s.c + t.c, s.d + t.d, s.e + t.e, s.f + t.f, s.g + t.g, s.h + t.h⟩

/-- The words of a state. -/
def words (s : State) : List UInt32 :=
  [s.a, s.b, s.c, s.d, s.e, s.f, s.g, s.h]

end State

/-- Rotate a word to the right. -/
def rotate (word count : UInt32) : UInt32 :=
  word >>> count ||| word <<< (32 - count)

/-- One round: mix a constant and a word of the schedule into the state. -/
def round (s : State) (constant word : UInt32) : State :=
  let choice := (s.e &&& s.f) ^^^ ((~~~s.e) &&& s.g)
  let majority := (s.a &&& s.b) ^^^ (s.a &&& s.c) ^^^ (s.b &&& s.c)
  let first :=
    s.h + (rotate s.e 6 ^^^ rotate s.e 11 ^^^ rotate s.e 25) + choice + constant + word
  let second := (rotate s.a 2 ^^^ rotate s.a 13 ^^^ rotate s.a 22) + majority
  ⟨first + second, s.a, s.b, s.c, s.d + first, s.e, s.f, s.g⟩

/-- Extend a schedule of at least 16 words by so many words. -/
def extend : (count : Nat) → Array UInt32 → Array UInt32
  | 0, words => words
  | count + 1, words =>
    let back (distance : Nat) := words.getD (words.size - distance) 0
    let far := back 15
    let near := back 2
    let low := rotate far 7 ^^^ rotate far 18 ^^^ far >>> 3
    let high := rotate near 17 ^^^ rotate near 19 ^^^ near >>> 10
    extend count (words.push (back 16 + low + back 7 + high))

/-- Mix a block of 16 words into the state. -/
def compress (state : State) (block : List UInt32) : State :=
  let schedule := (extend 48 block.toArray).toList
  let mixed :=
    (roundConstants.zip schedule).foldl (fun s (constant, word) => round s constant word) state
  state.add mixed

/-- The words of a sequence of bytes, the most significant byte of each first. -/
def wordsOfBytes : List UInt8 → List UInt32
  | first :: second :: third :: fourth :: rest =>
    (first.toUInt32 <<< 24 ||| second.toUInt32 <<< 16 ||| third.toUInt32 <<< 8 |||
      fourth.toUInt32) :: wordsOfBytes rest
  | _ => []

/-- The eight bytes of a number, the most significant first. -/
def lengthBytes (number : Nat) : List UInt8 :=
  [56, 48, 40, 32, 24, 16, 8, 0].map fun shift => (number >>> shift).toUInt8

/-- A message with its padding, which makes its length a multiple of 64. -/
def padded (message : List UInt8) : List UInt8 :=
  let zeros := (119 - message.length % 64) % 64
  message ++ 0x80 :: (List.replicate zeros 0 ++ lengthBytes (8 * message.length))

/-- Mix the first so many blocks of a sequence of bytes into the state. -/
def absorb : (blocks : Nat) → List UInt8 → State → State
  | 0, _, state => state
  | blocks + 1, bytes, state =>
    absorb blocks (bytes.drop 64) (compress state (wordsOfBytes (bytes.take 64)))

/-- The digest of a message in 64 lowercase hexadecimal digits. -/
def hex (message : List UInt8) : String :=
  let bytes := padded message
  let final := absorb (bytes.length / 64) bytes State.initial
  String.ofList (final.words.flatMap fun word => Text.hexDigits 8 word.toNat)

end SortBench.Sha256
