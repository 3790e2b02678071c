import Mathlib.Data.UInt

/-! SHA-256 over lists of bytes, evaluated block by block. -/

namespace Sha256

/-- The eight working words of the compression. -/
structure Words where
  a : UInt32
  b : UInt32
  c : UInt32
  d : UInt32
  e : UInt32
  f : UInt32
  g : UInt32
  h : UInt32
  deriving DecidableEq

/-- The first sixty-four primes. -/
def primes : List Nat :=
  [2, 3, 5, 7, 11, 13, 17, 19, 23, 29, 31, 37, 41, 43, 47, 53, 59, 61, 67, 71, 73, 79, 83, 89, 97,
    101, 103, 107, 109, 113, 127, 131, 137, 139, 149, 151, 157, 163, 167, 173, 179, 181, 191, 193,
    197, 199, 211, 223, 227, 229, 233, 239, 241, 251, 257, 263, 269, 271, 277, 281, 283, 293, 307,
    311]

/-- The root of a number, rounded down, found bit by bit from the highest. -/
def root (degree target : Nat) : (bits found : Nat) → Nat
  | 0, found => found
  | bits + 1, found =>
    if (found + 2 ^ bits) ^ degree ≤ target then root degree target bits (found + 2 ^ bits)
    else root degree target bits found

/-- The first thirty-two bits behind the point of a prime's root. -/
def rootBits (degree prime : Nat) : UInt32 :=
  .ofNat (root degree (prime * 2 ^ (32 * degree)) 40 0)

/-- The words a digest starts from, out of the square roots of the first eight primes. -/
def initial : Words where
  a := rootBits 2 2
  b := rootBits 2 3
  c := rootBits 2 5
  d := rootBits 2 7
  e := rootBits 2 11
  f := rootBits 2 13
  g := rootBits 2 17
  h := rootBits 2 19

/-- The constant added in each round, out of the cube root of its prime. -/
def constants : List UInt32 := primes.map (rootBits 3)

/-- Rotate a word to the right. -/
def rotateRight (word count : UInt32) : UInt32 := word >>> count ||| word <<< (32 - count)

/-- The first of the two mixings of the schedule. -/
def sigma0 (x : UInt32) : UInt32 := rotateRight x 7 ^^^ rotateRight x 18 ^^^ x >>> 3

/-- The second of the two mixings of the schedule. -/
def sigma1 (x : UInt32) : UInt32 := rotateRight x 17 ^^^ rotateRight x 19 ^^^ x >>> 10

/-- The schedule so far, newest word first, with as many words more as the count. -/
def extend : Nat → List UInt32 → List UInt32
  | 0, words => words
  | count + 1, words =>
    extend count ((sigma1 (words.getD 1 0) + words.getD 6 0 + sigma0 (words.getD 14 0)
      + words.getD 15 0) :: words)

/-- The words of a block, each four bytes, most significant first. -/
def wordsOf : List UInt8 → List UInt32
  | a :: b :: c :: d :: rest =>
    (a.toUInt32 <<< 24 ||| b.toUInt32 <<< 16 ||| c.toUInt32 <<< 8 ||| d.toUInt32) :: wordsOf rest
  | _ => []

/-- One round, with its constant and its scheduled word. -/
def round (s : Words) (constant word : UInt32) : Words :=
  let choice := (s.e &&& s.f) ^^^ (~~~s.e &&& s.g)
  let majority := (s.a &&& s.b) ^^^ (s.a &&& s.c) ^^^ (s.b &&& s.c)
  let one := s.h + (rotateRight s.e 6 ^^^ rotateRight s.e 11 ^^^ rotateRight s.e 25) + choice
    + constant + word
  let two := (rotateRight s.a 2 ^^^ rotateRight s.a 13 ^^^ rotateRight s.a 22) + majority
  { a := one + two, b := s.a, c := s.b, d := s.c, e := s.d + one, f := s.e, g := s.f, h := s.g }

/-- The rounds of one block. -/
def rounds : Words → List UInt32 → List UInt32 → Words
  | s, constant :: constants, word :: words => rounds (round s constant word) constants words
  | s, _, _ => s

/-- Fold one block of sixty-four bytes into the words. -/
def compress (s : Words) (block : List UInt8) : Words :=
  let t := rounds s constants (extend 48 (wordsOf block).reverse).reverse
  { a := s.a + t.a, b := s.b + t.b, c := s.c + t.c, d := s.d + t.d
    e := s.e + t.e, f := s.f + t.f, g := s.g + t.g, h := s.h + t.h }

/-- A number as eight bytes, most significant first. -/
def lengthBytes (n : Nat) : List UInt8 :=
  (List.range 8).map fun i => UInt8.ofNat (n / 256 ^ (7 - i))

/-- The message, a one bit, zeros, and the length in bits, in whole blocks. -/
def pad (message : List UInt8) : List UInt8 :=
  message ++ 0x80 :: List.replicate ((119 - message.length % 64) % 64) 0
    ++ lengthBytes (8 * message.length)

/-- Fold as many blocks as the count. -/
def fold : Nat → Words → List UInt8 → Words
  | 0, s, _ => s
  | count + 1, s, bytes => fold count (compress s (bytes.take 64)) (bytes.drop 64)

/-- A word as four bytes, most significant first. -/
def bytesOf (word : UInt32) : List UInt8 :=
  [(word >>> 24).toUInt8, (word >>> 16).toUInt8, (word >>> 8).toUInt8, word.toUInt8]

/-- The digest of a message, thirty-two bytes. -/
def digest (message : List UInt8) : List UInt8 :=
  let padded := pad message
  let s := fold (padded.length / 64) initial padded
  [s.a, s.b, s.c, s.d, s.e, s.f, s.g, s.h].flatMap bytesOf

/-- A digest takes thirty-two bytes. -/
@[simp] theorem length_digest (message : List UInt8) : (digest message).length = 32 := by
  -- Eight words of four bytes, whatever they are.
  simp [digest, bytesOf]

end Sha256
