import Mathlib.Analysis.SpecialFunctions.Pow.NthRootLemmas
import Mathlib.Data.List.Basic
import Mathlib.Data.Nat.ModEq

/-! # SHA-256

The hash of FIPS 180-4 on byte strings. The blocks of a message are absorbed one after the
other; what is absorbed of a message in parts is absorbed of the whole.
-/

namespace RvcOrchestrator.Foundation

namespace Sha256

abbrev Word := BitVec 32

/-! ## Functions and constants -/

def ch (x y z : Word) : Word := (x &&& y) ^^^ (~~~x &&& z)

def maj (x y z : Word) : Word := (x &&& y) ^^^ (x &&& z) ^^^ (y &&& z)

def bigSigma0 (x : Word) : Word := x.rotateRight 2 ^^^ x.rotateRight 13 ^^^ x.rotateRight 22

def bigSigma1 (x : Word) : Word := x.rotateRight 6 ^^^ x.rotateRight 11 ^^^ x.rotateRight 25

def smallSigma0 (x : Word) : Word := x.rotateRight 7 ^^^ x.rotateRight 18 ^^^ x >>> 3

def smallSigma1 (x : Word) : Word := x.rotateRight 17 ^^^ x.rotateRight 19 ^^^ x >>> 10

/-- Of the cube roots of the primes, as the standard lists them. -/
def roundConstants : List Word :=
  [0x428a2f98, 0x71374491, 0xb5c0fbcf, 0xe9b5dba5, 0x3956c25b, 0x59f111f1, 0x923f82a4, 0xab1c5ed5,
   0xd807aa98, 0x12835b01, 0x243185be, 0x550c7dc3, 0x72be5d74, 0x80deb1fe, 0x9bdc06a7, 0xc19bf174,
   0xe49b69c1, 0xefbe4786, 0x0fc19dc6, 0x240ca1cc, 0x2de92c6f, 0x4a7484aa, 0x5cb0a9dc, 0x76f988da,
   0x983e5152, 0xa831c66d, 0xb00327c8, 0xbf597fc7, 0xc6e00bf3, 0xd5a79147, 0x06ca6351, 0x14292967,
   0x27b70a85, 0x2e1b2138, 0x4d2c6dfc, 0x53380d13, 0x650a7354, 0x766a0abb, 0x81c2c92e, 0x92722c85,
   0xa2bfe8a1, 0xa81a664b, 0xc24b8b70, 0xc76c51a3, 0xd192e819, 0xd6990624, 0xf40e3585, 0x106aa070,
   0x19a4c116, 0x1e376c08, 0x2748774c, 0x34b0bcb5, 0x391c0cb3, 0x4ed8aa4a, 0x5b9cca4f, 0x682e6ff3,
   0x748f82ee, 0x78a5636f, 0x84c87814, 0x8cc70208, 0x90befffa, 0xa4506ceb, 0xbef9a3f7, 0xc67178f2]

structure HashValue where
  a : Word
  b : Word
  c : Word
  d : Word
  e : Word
  f : Word
  g : Word
  h : Word
deriving DecidableEq

namespace HashValue

def words (value : HashValue) : List Word :=
  [value.a, value.b, value.c, value.d, value.e, value.f, value.g, value.h]

def add (left right : HashValue) : HashValue where
  a := left.a + right.a
  b := left.b + right.b
  c := left.c + right.c
  d := left.d + right.d
  e := left.e + right.e
  f := left.f + right.f
  g := left.g + right.g
  h := left.h + right.h

/-- Of the square roots of the first eight primes. -/
def initial : HashValue where
  a := 0x6a09e667
  b := 0xbb67ae85
  c := 0x3c6ef372
  d := 0xa54ff53a
  e := 0x510e527f
  f := 0x9b05688c
  g := 0x1f83d9ab
  h := 0x5be0cd19

end HashValue

/-! ## Compression -/

def scheduleWord (schedule : List Word) : Word :=
  let word (back : Nat) := schedule.getD (schedule.length - back) 0
  smallSigma1 (word 2) + word 7 + smallSigma0 (word 15) + word 16

def extendSchedule : Nat → List Word → List Word
  | 0, schedule => schedule
  | count + 1, schedule => extendSchedule count (schedule ++ [scheduleWord schedule])

def schedule (block : List Word) : List Word := extendSchedule 48 block

def round (value : HashValue) (constant word : Word) : HashValue :=
  let first := value.h + bigSigma1 value.e + ch value.e value.f value.g + constant + word
  let second := bigSigma0 value.a + maj value.a value.b value.c
  { a := first + second
    b := value.a
    c := value.b
    d := value.c
    e := value.d + first
    f := value.e
    g := value.f
    h := value.g }

def rounds (value : HashValue) (pairs : List (Word × Word)) : HashValue :=
  pairs.foldl (fun value pair => round value pair.1 pair.2) value

def bigEndian (bytes : List UInt8) : Nat :=
  bytes.foldl (fun number byte => number * 256 + byte.toNat) 0

def blockWords (block : List UInt8) : List Word :=
  (List.range 16).map fun index => .ofNat 32 (bigEndian ((block.drop (index * 4)).take 4))

def compress (value : HashValue) (block : List UInt8) : HashValue :=
  value.add (rounds value (roundConstants.zip (schedule (blockWords block))))

/-! ## Messages -/

/-- A number in so many bytes, the highest first. -/
def numberBytes (count number : Nat) : List UInt8 :=
  (List.range count).map fun index => UInt8.ofNat (number / 256 ^ (count - 1 - index))

/-- What follows a message of so many bytes: a one bit, the least number of zero bits that fill
its last block up to the 64 bits of its length in bits. -/
def padding (length : Nat) : List UInt8 :=
  [0x80] ++ List.replicate ((119 - length % 64) % 64) 0 ++ numberBytes 8 (8 * length)

def absorbBlocks : Nat → HashValue → List UInt8 → HashValue × List UInt8
  | 0, value, bytes => (value, bytes)
  | count + 1, value, bytes =>
      absorbBlocks count (compress value (bytes.take 64)) (bytes.drop 64)

def absorb (value : HashValue) (bytes : List UInt8) : HashValue × List UInt8 :=
  absorbBlocks (bytes.length / 64) value bytes

def hash (message : List UInt8) : HashValue :=
  (absorb .initial (message ++ padding message.length)).1

def hexDigit (number : Nat) : Char := (number % 16).digitChar

def hex (value : HashValue) : String :=
  String.ofList <| value.words.flatMap fun word =>
    (numberBytes 4 word.toNat).flatMap fun byte =>
      [hexDigit (byte.toNat / 16), hexDigit byte.toNat]

def hexDigest (message : List UInt8) : String := hex (hash message)

def digest (message : List UInt8) : List UInt8 :=
  (hash message).words.flatMap fun word => numberBytes 4 word.toNat

def hmacHexDigest (key message : List UInt8) : String :=
  let short := if 64 < key.length then digest key else key
  let block := short ++ List.replicate (64 - short.length) 0
  hexDigest (block.map (· ^^^ 0x5c) ++ digest (block.map (· ^^^ 0x36) ++ message))

theorem hex_length (value : HashValue) : (hex value).length = 64 := by
  have word (number : Nat) : ((numberBytes 4 number).flatMap fun byte =>
      [hexDigit (byte.toNat / 16), hexDigit byte.toNat]).length = 8 := rfl
  simp [hex, HashValue.words, word]

/-! ## Absorbing in parts -/

theorem absorb_short (value : HashValue) {bytes : List UInt8} (short : bytes.length < 64) :
    absorb value bytes = (value, bytes) := by
  rw [absorb, Nat.div_eq_of_lt short]
  rfl

theorem absorb_block (value : HashValue) {bytes : List UInt8} (enough : 64 ≤ bytes.length) :
    absorb value bytes = absorb (compress value (bytes.take 64)) (bytes.drop 64) := by
  have count : bytes.length / 64 = (bytes.drop 64).length / 64 + 1 := by
    rw [List.length_drop]
    omega
  rw [absorb, count]
  rfl

/-- The bytes that are left do not fill a block. -/
theorem absorb_rest (value : HashValue) (bytes : List UInt8) :
    (absorb value bytes).2 = bytes.drop (bytes.length / 64 * 64) := by
  unfold absorb
  generalize count : bytes.length / 64 = blocks
  clear count
  induction blocks generalizing value bytes with
  | zero => rfl
  | succ blocks induction =>
      rw [absorbBlocks, induction, List.drop_drop]
      congr 1
      omega

theorem absorb_rest_length (value : HashValue) (bytes : List UInt8) :
    (absorb value bytes).2.length = bytes.length % 64 := by
  rw [absorb_rest, List.length_drop]
  omega

/-- What a message leaves is absorbed in front of what follows it. -/
theorem absorb_append (value : HashValue) (left right : List UInt8) :
    absorb value (left ++ right) =
      absorb (absorb value left).1 ((absorb value left).2 ++ right) := by
  generalize count : left.length / 64 = blocks
  induction blocks generalizing value left with
  | zero =>
      have short : absorb value left = (value, left) := absorb_short value (by omega)
      rw [short]
  | succ blocks induction =>
      have enough : 64 ≤ left.length := by omega
      have whole : 64 ≤ (left ++ right).length := by
        rw [List.length_append]
        omega
      rw [absorb_block value enough, absorb_block value whole,
        List.take_append_of_le_length enough, List.drop_append_of_le_length enough,
        induction _ _ (by rw [List.length_drop]; omega)]

end Sha256

end RvcOrchestrator.Foundation
