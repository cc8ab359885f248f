import Stepwise.Text.Bytes
import Stepwise.Text.Digits

/-!
# Digests

The SHA-256 digest of a text, which tells programs apart.

The bytes of the text are padded to blocks of sixteen words. Each block is
mixed into eight registers in 64 rounds; the words that drive the rounds come
from a window of sixteen that starts with the block and moves on by one word a
round.

## Main results

* `length_pad`: padding fills the last block.
-/

namespace Stepwise.Text

/-- A word rotated to the right. -/
def rotate (x n : UInt32) : UInt32 := x >>> n ||| x <<< (32 - n)

/-- The eight registers. -/
structure Registers where
  a : UInt32
  b : UInt32
  c : UInt32
  d : UInt32
  e : UInt32
  f : UInt32
  g : UInt32
  h : UInt32
  deriving DecidableEq

namespace Registers

/-- The registers in front of the first block: the first bits of the square
roots of the first eight primes. -/
def start : Registers :=
  ⟨0x6a09e667, 0xbb67ae85, 0x3c6ef372, 0xa54ff53a, 0x510e527f, 0x9b05688c, 0x1f83d9ab,
    0x5be0cd19⟩

/-- One round, with its constant and its word. -/
def round (r : Registers) (constant word : UInt32) : Registers :=
  let spread := rotate r.e 6 ^^^ rotate r.e 11 ^^^ rotate r.e 25
  let choice := (r.e &&& r.f) ^^^ (~~~r.e &&& r.g)
  let first := r.h + spread + choice + constant + word
  let spread' := rotate r.a 2 ^^^ rotate r.a 13 ^^^ rotate r.a 22
  let majority := (r.a &&& r.b) ^^^ (r.a &&& r.c) ^^^ (r.b &&& r.c)
  ⟨first + (spread' + majority), r.a, r.b, r.c, r.d + first, r.e, r.f, r.g⟩

/-- Adds registers one by one. -/
def add (r s : Registers) : Registers :=
  ⟨r.a + s.a, r.b + s.b, r.c + s.c, r.d + s.d, r.e + s.e, r.f + s.f, r.g + s.g, r.h + s.h⟩

/-- The registers as a list. -/
def toList (r : Registers) : List UInt32 := [r.a, r.b, r.c, r.d, r.e, r.f, r.g, r.h]

end Registers

/-- The constants of the rounds: the first bits behind the point of the cube
roots of the first 64 primes. -/
def roundConstants : List UInt32 :=
  [0x428a2f98, 0x71374491, 0xb5c0fbcf, 0xe9b5dba5, 0x3956c25b, 0x59f111f1,
   0x923f82a4, 0xab1c5ed5, 0xd807aa98, 0x12835b01, 0x243185be, 0x550c7dc3,
   0x72be5d74, 0x80deb1fe, 0x9bdc06a7, 0xc19bf174, 0xe49b69c1, 0xefbe4786,
   0x0fc19dc6, 0x240ca1cc, 0x2de92c6f, 0x4a7484aa, 0x5cb0a9dc, 0x76f988da,
   0x983e5152, 0xa831c66d, 0xb00327c8, 0xbf597fc7, 0xc6e00bf3, 0xd5a79147,
   0x06ca6351, 0x14292967, 0x27b70a85, 0x2e1b2138, 0x4d2c6dfc, 0x53380d13,
   0x650a7354, 0x766a0abb, 0x81c2c92e, 0x92722c85, 0xa2bfe8a1, 0xa81a664b,
   0xc24b8b70, 0xc76c51a3, 0xd192e819, 0xd6990624, 0xf40e3585, 0x106aa070,
   0x19a4c116, 0x1e376c08, 0x2748774c, 0x34b0bcb5, 0x391c0cb3, 0x4ed8aa4a,
   0x5b9cca4f, 0x682e6ff3, 0x748f82ee, 0x78a5636f, 0x84c87814, 0x8cc70208,
   0x90befffa, 0xa4506ceb, 0xbef9a3f7, 0xc67178f2]

/-- A word of a window. -/
def wordAt (window : List UInt32) (n : Nat) : UInt32 := window.getD n 0

/-- The word that enters a window of sixteen. -/
def nextWord (window : List UInt32) : UInt32 :=
  let near := wordAt window 14
  let far := wordAt window 1
  (rotate near 17 ^^^ rotate near 19 ^^^ near >>> 10) + wordAt window 9 +
    (rotate far 7 ^^^ rotate far 18 ^^^ far >>> 3) + wordAt window 0

/-- The rounds with some constants, over a window. -/
def rounds : List UInt32 → (window : List UInt32) → Registers → Registers
  | [], _, r => r
  | constant :: constants, window, r =>
      rounds constants (window.tail ++ [nextWord window]) (r.round constant (wordAt window 0))

/-- Bytes as words, most significant byte first. -/
def toWords : List UInt8 → List UInt32
  | a :: b :: c :: d :: rest =>
      (a.toUInt32 <<< 24 ||| b.toUInt32 <<< 16 ||| c.toUInt32 <<< 8 ||| d.toUInt32) ::
        toWords rest
  | _ => []

/-- The last bytes of a number, most significant first. -/
def lastBytes : (count : Nat) → Nat → List UInt8
  | 0, _ => []
  | count + 1, n => UInt8.ofNat (n / Nat.pow 256 count) :: lastBytes count n

/-- How many bytes of padding are zero. -/
def zerosFor (length : Nat) : Nat := (119 - length % 64) % 64

/-- Bytes with a mark behind them, and then zeros and their number of bits, up
to the end of a block. -/
def pad (data : List UInt8) : List UInt8 :=
  data ++ 0x80 :: List.replicate (zerosFor data.length) 0 ++ lastBytes 8 (8 * data.length)

private theorem length_lastBytes (count n : Nat) : (lastBytes count n).length = count := by
  induction count with
  | zero => rfl
  | succ count ih => simp [lastBytes, ih]

theorem length_pad (data : List UInt8) : (pad data).length % 64 = 0 := by
  simp only [pad, List.length_append, List.length_cons, List.length_replicate,
    length_lastBytes, zerosFor]
  omega

/-- Mixes blocks of sixteen words into registers. -/
def mixBlocks : (blocks : Nat) → List UInt32 → Registers → Registers
  | 0, _, r => r
  | blocks + 1, words, r =>
      mixBlocks blocks (words.drop 16) (r.add (rounds roundConstants (words.take 16) r))

/-- The registers behind all bytes. -/
def digestRegisters (data : List UInt8) : Registers :=
  let words := toWords (pad data)
  mixBlocks (words.length / 16) words .start

/-- The digest of a text in hexadecimal digits. -/
def digest (t : List Char) : String :=
  String.ofList ((digestRegisters (bytes t)).toList.flatMap fun word => padded 8 word.toNat)

end Stepwise.Text
