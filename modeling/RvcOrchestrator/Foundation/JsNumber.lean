import Mathlib.Tactic.Linarith

/-! # Whole numbers of JavaScript

Doubles that are integers. Sums are exact up to `2 ^ 53` and rounded to even above, and the
bitwise operators work on 32 bits.
-/

namespace RvcOrchestrator.Foundation

namespace JsNumber

def maxSafeInteger : Int := 2 ^ 53 - 1

/-- The double next to an integer below `2 ^ 54` in size. -/
def nearest (number : Int) : Int :=
  if number.natAbs ≤ 2 ^ 53 then number
  else if number % 4 = 3 then number + 1
  else if number % 4 = 1 then number - 1
  else number

def add (left right : Int) : Int := nearest (left + right)

/-- A number that need not be whole, finite ones by their value. -/
inductive Number where
  | finite (value : ℚ)
  | notFinite
deriving DecidableEq

/-- `Number.isSafeInteger`, with the integer. -/
def Number.safeInteger : Number → Option Int
  | .finite value =>
      if value.den = 1 ∧ (value.num.natAbs : Int) ≤ maxSafeInteger then some value.num else none
  | .notFinite => none

/-- `ToInt32` and `ToUint32`, which read the same bits. -/
def bits (number : Int) : BitVec 32 := .ofInt 32 number

def xor (left right : Int) : Int := (bits left ^^^ bits right).toInt

def and (left right : Int) : Int := (bits left &&& bits right).toInt

def or (left right : Int) : Int := (bits left ||| bits right).toInt

def not (number : Int) : Int := (~~~bits number).toInt

def shiftLeft (number : Int) (amount : Nat) : Int := (bits number <<< amount).toInt

/-- `>>>`, which is not negative. -/
def shiftRight (number : Int) (amount : Nat) : Int := (bits number >>> amount).toNat

theorem Number.safeInteger_le {number : Number} {integer : Int}
    (safe : number.safeInteger = some integer) : integer ≤ maxSafeInteger := by
  cases number with
  | notFinite => cases safe
  | finite value =>
      rw [Number.safeInteger] at safe
      split at safe
      · next small =>
          cases safe
          omega
      · cases safe

theorem nearest_safe {number : Int} (small : number.natAbs ≤ 2 ^ 53) : nearest number = number :=
  if_pos small

@[simp] theorem bits_xor (left right : Int) : bits (xor left right) = bits left ^^^ bits right :=
  BitVec.ofInt_toInt

@[simp] theorem bits_and (left right : Int) : bits (and left right) = bits left &&& bits right :=
  BitVec.ofInt_toInt

@[simp] theorem bits_or (left right : Int) : bits (or left right) = bits left ||| bits right :=
  BitVec.ofInt_toInt

@[simp] theorem bits_not (number : Int) : bits (not number) = ~~~bits number :=
  BitVec.ofInt_toInt

@[simp] theorem bits_shiftLeft (number : Int) (amount : Nat) :
    bits (shiftLeft number amount) = bits number <<< amount := BitVec.ofInt_toInt

@[simp] theorem bits_toNat (word : BitVec 32) : bits word.toNat = word := by
  rw [bits, BitVec.ofInt_natCast, BitVec.ofNat_toNat, BitVec.setWidth_eq]

@[simp] theorem bits_shiftRight (number : Int) (amount : Nat) :
    bits (shiftRight number amount) = bits number >>> amount := bits_toNat _

/-- A number that takes 32 bits, with a sign or without. -/
def Fits (number : Int) : Prop := -2 ^ 32 ≤ number ∧ number ≤ 2 ^ 32

theorem fits_toInt (word : BitVec 32) : Fits word.toInt := by
  have lower := BitVec.le_toInt word
  have upper := BitVec.toInt_lt (x := word)
  constructor <;> omega

theorem fits_toNat (word : BitVec 32) : Fits word.toNat := by
  have upper := word.isLt
  constructor <;> omega

/-- Sums of a few such numbers are exact, and their bits the sums of the bits. -/
theorem add_exact {left right : Int} (small : (left + right).natAbs ≤ 2 ^ 53) :
    add left right = left + right := nearest_safe small

theorem bits_add {left right : Int} (small : (left + right).natAbs ≤ 2 ^ 53) :
    bits (add left right) = bits left + bits right := by
  rw [add_exact small]
  exact BitVec.ofInt_add ..

section

variable {first second third fourth fifth : Int}

theorem bits_add_two (one : Fits first) (two : Fits second) :
    bits (add first second) = bits first + bits second := by
  unfold Fits at one two
  exact bits_add (by omega)

theorem bits_add_four (one : Fits first) (two : Fits second) (three : Fits third)
    (four : Fits fourth) :
    bits (add (add (add first second) third) fourth) =
      bits first + bits second + bits third + bits fourth := by
  unfold Fits at one two three four
  have pair : add first second = first + second := add_exact (by omega)
  have triple : add (first + second) third = first + second + third := add_exact (by omega)
  have pairBits : bits (first + second) = bits first + bits second := BitVec.ofInt_add ..
  have tripleBits : bits (first + second + third) = bits (first + second) + bits third :=
    BitVec.ofInt_add ..
  rw [pair, triple, bits_add (by omega), tripleBits, pairBits]

theorem bits_add_five (one : Fits first) (two : Fits second) (three : Fits third)
    (four : Fits fourth) (five : Fits fifth) :
    bits (add (add (add (add first second) third) fourth) fifth) =
      bits first + bits second + bits third + bits fourth + bits fifth := by
  have partBits := bits_add_four one two three four
  unfold Fits at one two three four five
  have pair : add first second = first + second := add_exact (by omega)
  have triple : add (first + second) third = first + second + third := add_exact (by omega)
  have part : add (first + second + third) fourth = first + second + third + fourth :=
    add_exact (by omega)
  rw [pair, triple, part] at partBits ⊢
  rw [bits_add (by omega), partBits]

end

end JsNumber

end RvcOrchestrator.Foundation
