import Mathlib.Data.Rat.Floor

/-! # Finite floats and their printed form

A finite double is represented by the decimal Python prints for it, the
shortest one that reads back as the same double. The double itself is recovered
by rounding, and only the few comparisons that see below the last printed digit
need it.
-/

namespace RvcOrchestrator.Foundation

/-- `± coefficient · 10 ^ exponent`, without trailing zeros. Shortest decimals
have at most seventeen digits. -/
structure PyFloat where
  negative : Bool
  coefficient : Nat
  exponent : Int
  normal : (coefficient = 0 ∧ exponent = 0) ∨
    (coefficient % 10 ≠ 0 ∧ coefficient < 10 ^ 17)
deriving DecidableEq

namespace PyFloat

def zero : PyFloat where
  negative := false
  coefficient := 0
  exponent := 0
  normal := .inl ⟨rfl, rfl⟩

def IsZero (x : PyFloat) : Prop := x.coefficient = 0

instance (x : PyFloat) : Decidable x.IsZero := inferInstanceAs (Decidable (x.coefficient = 0))

theorem exponent_eq_zero {x : PyFloat} (isZero : x.IsZero) : x.exponent = 0 := by
  rcases x.normal with ⟨-, exponent⟩ | ⟨notZero, -⟩
  · exact exponent
  · exact absurd (by rw [isZero]) notZero

theorem ext_of_isZero {x : PyFloat} (isZero : x.IsZero) (positive : x.negative = false) :
    x = zero := by
  obtain ⟨negative, coefficient, exponent, normal⟩ := x
  have exponentZero := exponent_eq_zero isZero
  simp only [IsZero] at isZero exponentZero positive
  subst isZero exponentZero positive
  rfl

/-- Python compares the two zeros as equal. -/
def unsignedZero (x : PyFloat) : PyFloat :=
  if x.IsZero then zero else x

@[simp] theorem unsignedZero_idem (x : PyFloat) :
    x.unsignedZero.unsignedZero = x.unsignedZero := by
  unfold unsignedZero
  by_cases isZero : x.IsZero
  · rw [if_pos isZero, ite_self]
  · rw [if_neg isZero, if_neg isZero]

/-! ## Values -/

/-- The printed decimal as a rational. It lies on the same side of every double
as the double it stands for. -/
def decimal (x : PyFloat) : ℚ :=
  let magnitude : ℚ :=
    if 0 ≤ x.exponent then (x.coefficient * 10 ^ x.exponent.toNat : Nat)
    else x.coefficient / (10 ^ (-x.exponent).toNat : Nat)
  if x.negative then -magnitude else magnitude

theorem decimal_of_isZero {x : PyFloat} (isZero : x.IsZero) : x.decimal = 0 := by
  unfold IsZero at isZero
  simp [decimal, isZero]

theorem decimal_unsignedZero (x : PyFloat) : x.unsignedZero.decimal = x.decimal := by
  unfold unsignedZero
  by_cases isZero : x.IsZero
  · rw [if_pos isZero, decimal_of_isZero isZero, decimal_of_isZero (x := zero) rfl]
  · rw [if_neg isZero]

/-- The exponent of the last bit of the double next to a positive fraction. -/
def lastBit (numerator denominator : Nat) : Int :=
  let estimate : Int := numerator.log2 - denominator.log2
  let reached := numerator * 2 ^ (-estimate).toNat ≥ denominator * 2 ^ estimate.toNat
  max ((if reached then estimate else estimate - 1) - 52) (-1074)

def roundHalfEven (numerator denominator : Nat) : Nat :=
  let quotient := numerator / denominator
  let twice := 2 * (numerator % denominator)
  if twice < denominator then quotient
  else if denominator < twice then quotient + 1
  else quotient + quotient % 2

/-- The double nearest to a non-negative fraction. -/
def nearestDouble (numerator denominator : Nat) : ℚ :=
  let bit := lastBit numerator denominator
  let steps := roundHalfEven (numerator * 2 ^ (-bit).toNat) (denominator * 2 ^ bit.toNat)
  (steps * 2 ^ bit.toNat : Nat) / (2 ^ (-bit).toNat : Nat)

def value (x : PyFloat) : ℚ :=
  let magnitude :=
    nearestDouble (x.coefficient * 10 ^ x.exponent.toNat) (10 ^ (-x.exponent).toNat)
  if x.negative then -magnitude else magnitude

/-! ## Printing -/

def digits (x : PyFloat) : List Char :=
  Nat.toDigits 10 x.coefficient

/-- The position of the decimal point, counted from the first digit. -/
def point (x : PyFloat) : Int :=
  x.digits.length + x.exponent

/-- At least two digits, with their sign. -/
def exponentText (exponent : Int) : List Char :=
  let magnitude := Nat.toDigits 10 exponent.natAbs
  (if exponent < 0 then '-' else '+') ::
    (List.replicate (2 - magnitude.length) '0' ++ magnitude)

/-- The digits with the point after the first one, if more follow. -/
def scientificDigits : List Char → List Char
  | digit :: next :: rest => digit :: '.' :: next :: rest
  | digits => digits

def magnitudeText (x : PyFloat) : List Char :=
  if -4 < x.point ∧ x.point ≤ 16 then
    if x.point ≤ 0 then
      '0' :: '.' :: (List.replicate (-x.point).toNat '0' ++ x.digits)
    else if x.exponent < 0 then
      x.digits.take x.point.toNat ++ '.' :: x.digits.drop x.point.toNat
    else
      x.digits ++ List.replicate x.exponent.toNat '0' ++ ['.', '0']
  else
    scientificDigits x.digits ++ 'e' :: exponentText (x.point - 1)

/-- Python's `float.__repr__` of a finite float. -/
def repr (x : PyFloat) : List Char :=
  if x.negative then '-' :: x.magnitudeText else x.magnitudeText

/-! ## Reading the text back -/

/-- Sign, digits without the point, and the power of ten they are scaled by. -/
def readExponent (text : List Char) : Int :=
  match text with
  | '-' :: magnitude => -(Nat.ofDigitChars 10 magnitude 0 : Int)
  | '+' :: magnitude => Nat.ofDigitChars 10 magnitude 0
  | _ => 0

def readMagnitude (text : List Char) : Nat × Int :=
  let mantissa := text.takeWhile (· ≠ 'e')
  let exponent := readExponent (text.dropWhile (· ≠ 'e')).tail
  let whole := mantissa.takeWhile (· ≠ '.')
  let fraction := (mantissa.dropWhile (· ≠ '.')).tail
  (Nat.ofDigitChars 10 (whole ++ fraction) 0, exponent - fraction.length)

theorem takeWhile_append_stop {stop : Char} {front : List Char} (free : stop ∉ front)
    (rest : List Char) :
    (front ++ stop :: rest).takeWhile (· ≠ stop) = front ∧
      ((front ++ stop :: rest).dropWhile (· ≠ stop)).tail = rest := by
  induction front with
  | nil => simp
  | cons head tail induction =>
      have different : head ≠ stop := fun equal => free (equal ▸ List.mem_cons_self)
      have rest := induction fun member => free (List.mem_cons_of_mem head member)
      simpa [different] using rest

theorem takeWhile_free {stop : Char} {text : List Char} (free : stop ∉ text) :
    text.takeWhile (· ≠ stop) = text ∧ text.dropWhile (· ≠ stop) = [] := by
  induction text with
  | nil => simp
  | cons head tail induction =>
      have different : head ≠ stop := fun equal => free (equal ▸ List.mem_cons_self)
      have rest := induction fun member => free (List.mem_cons_of_mem head member)
      simpa [different] using rest

theorem not_mem_digits {char : Char} (notDigit : char.isDigit = false) (x : PyFloat) :
    char ∉ x.digits := by
  intro member
  rw [Nat.isDigit_of_mem_toDigits (by decide) (by decide) member] at notDigit
  cases notDigit

@[simp] theorem ofDigitChars_digits (x : PyFloat) :
    Nat.ofDigitChars 10 x.digits 0 = x.coefficient :=
  Nat.ofDigitChars_ten_toDigits

theorem readExponent_exponentText (exponent : Int) :
    readExponent (exponentText exponent) = exponent := by
  have padded : ∀ count,
      Nat.ofDigitChars 10 (List.replicate count '0' ++ Nat.toDigits 10 exponent.natAbs) 0 =
        exponent.natAbs := by
    intro count
    rw [Nat.ofDigitChars_append, Nat.ofDigitChars_replicate_zero, Nat.mul_zero,
      Nat.ofDigitChars_ten_toDigits]
  unfold exponentText
  by_cases negative : exponent < 0
  · simp only [if_pos negative, readExponent, padded]
    omega
  · simp only [if_neg negative, readExponent, padded]
    omega

private theorem readMagnitude_positional (whole fraction : List Char) (wholeE : 'e' ∉ whole)
    (wholePoint : '.' ∉ whole) (fractionE : 'e' ∉ fraction) :
    readMagnitude (whole ++ '.' :: fraction) =
      (Nat.ofDigitChars 10 (whole ++ fraction) 0, -(fraction.length : Int)) := by
  have free : 'e' ∉ whole ++ '.' :: fraction := by simp [wholeE, fractionE]
  have split := takeWhile_append_stop wholePoint fraction
  simp only [readMagnitude]
  rw [(takeWhile_free free).1, (takeWhile_free free).2, split.1, split.2]
  simp [readExponent]

private theorem readMagnitude_scientific {mantissa : List Char} (mantissaE : 'e' ∉ mantissa)
    (exponent : Int) :
    readMagnitude (mantissa ++ 'e' :: exponentText exponent) =
      ((readMagnitude mantissa).1, exponent + (readMagnitude mantissa).2) := by
  have split := takeWhile_append_stop mantissaE (exponentText exponent)
  simp only [readMagnitude]
  rw [split.1, split.2, (takeWhile_free mantissaE).1, (takeWhile_free mantissaE).2,
    readExponent_exponentText]
  simp only [List.tail_nil, readExponent, Prod.mk.injEq, true_and]
  omega

/-- The printed text denotes the printed decimal. Positional texts of large
numbers carry the trailing zeros that the representation leaves out. -/
theorem readMagnitude_magnitudeText (x : PyFloat) :
    ∃ shift : Nat, readMagnitude x.magnitudeText =
      (x.coefficient * 10 ^ shift, x.exponent - shift) := by
  have noPoint : '.' ∉ x.digits := x.not_mem_digits (by decide)
  have noE : 'e' ∉ x.digits := x.not_mem_digits (by decide)
  unfold magnitudeText
  split
  · split
    · -- `0.000ddd`
      next range small =>
        refine ⟨0, ?_⟩
        have read := readMagnitude_positional ['0']
          (List.replicate (-x.point).toNat '0' ++ x.digits) (by decide) (by decide)
          (by simp [noE])
        simp only [List.cons_append, List.nil_append] at read
        rw [read]
        simp only [Nat.ofDigitChars_cons, Nat.ofDigitChars_append,
          Nat.ofDigitChars_replicate_zero, List.length_append, List.length_replicate,
          Char.reduceToNat, Nat.mul_zero, Nat.sub_self, Nat.zero_add, Nat.pow_zero, Nat.mul_one,
          Prod.mk.injEq, ofDigitChars_digits, true_and, point] at small ⊢
        omega
    · split
      · -- `ddd.ddd`
        next range large fractional =>
          refine ⟨0, ?_⟩
          rw [readMagnitude_positional _ _ (fun member => noE (List.mem_of_mem_take member))
            (fun member => noPoint (List.mem_of_mem_take member))
            (fun member => noE (List.mem_of_mem_drop member))]
          simp only [List.take_append_drop, ofDigitChars_digits, List.length_drop, Nat.pow_zero,
            Nat.mul_one, Prod.mk.injEq, true_and, point] at large ⊢
          omega
      · -- `ddd000.0`
        next range large integral =>
          refine ⟨x.exponent.toNat + 1, ?_⟩
          have read := readMagnitude_positional
            (x.digits ++ List.replicate x.exponent.toNat '0') ['0']
            (by simp [noE]) (by simp [noPoint]) (by decide)
          rw [read]
          simp only [Nat.ofDigitChars_append, ofDigitChars_digits,
            Nat.ofDigitChars_replicate_zero, Nat.ofDigitChars_cons, Nat.ofDigitChars_nil,
            Char.reduceToNat, Nat.sub_self, Nat.add_zero, List.length_cons, List.length_nil,
            Prod.mk.injEq]
          constructor
          · ring
          · omega
  · -- `d.ddde±xx`
    refine ⟨0, ?_⟩
    match shape : x.digits with
    | [] => exact absurd shape Nat.toDigits_ne_nil
    | [digit] =>
        rw [shape] at noE noPoint
        have read : readMagnitude [digit] = (x.coefficient, 0) := by
          simp only [readMagnitude]
          rw [(takeWhile_free noE).1, (takeWhile_free noE).2, (takeWhile_free noPoint).1,
            (takeWhile_free noPoint).2]
          simp [readExponent, ← shape]
        rw [scientificDigits, readMagnitude_scientific noE, read, point, shape]
        · simp
        · simp
    | digit :: next :: rest =>
        rw [shape] at noE noPoint
        simp only [List.mem_cons, not_or] at noE noPoint
        have free : 'e' ∉ digit :: '.' :: next :: rest := by
          simpa using noE
        have read : readMagnitude (digit :: '.' :: next :: rest) =
            (x.coefficient, -((rest.length + 1 : Nat) : Int)) := by
          have split := readMagnitude_positional [digit] (next :: rest)
            (by simpa using noE.1) (by simpa using noPoint.1) (by simpa using noE.2)
          simp only [List.cons_append, List.nil_append] at split
          rw [split, ← shape, ofDigitChars_digits, List.length_cons]
        rw [scientificDigits, readMagnitude_scientific free, read, point, shape]
        simp only [List.length_cons, Nat.pow_zero, Nat.mul_one, Prod.mk.injEq, true_and]
        omega

/-- Removing the trailing zeros is unambiguous. -/
private theorem eq_of_shifted {left right : PyFloat} {leftShift rightShift : Nat}
    (coefficients : left.coefficient * 10 ^ leftShift = right.coefficient * 10 ^ rightShift)
    (exponents : left.exponent - leftShift = right.exponent - rightShift) :
    left.coefficient = right.coefficient ∧ left.exponent = right.exponent := by
  have noLess : ∀ {x y : PyFloat} {k l : Nat}, x.coefficient * 10 ^ k = y.coefficient * 10 ^ l →
      x.exponent - k = y.exponent - l → ¬k < l := by
    intro x y k l coefficients exponents less
    have cancelled : x.coefficient = y.coefficient * 10 ^ (l - k) := by
      apply Nat.eq_of_mul_eq_mul_right (Nat.pow_pos (n := k) (show 0 < 10 by decide))
      rw [coefficients, Nat.mul_assoc, ← Nat.pow_add, Nat.sub_add_cancel less.le]
    have divisible : x.coefficient % 10 = 0 := by
      rw [cancelled, show l - k = (l - k - 1) + 1 by omega, Nat.pow_succ, ← Nat.mul_assoc]
      exact Nat.mul_mod_left _ 10
    rcases x.normal with ⟨xZero, xExponent⟩ | ⟨notDivisible, -⟩
    · have yZero : y.IsZero := by
        rw [xZero] at cancelled
        exact (Nat.mul_eq_zero.mp cancelled.symm).resolve_right (by positivity)
      have yExponent := exponent_eq_zero yZero
      omega
    · exact notDivisible divisible
  have same : leftShift = rightShift :=
    le_antisymm (not_lt.mp (noLess coefficients.symm exponents.symm))
      (not_lt.mp (noLess coefficients exponents))
  subst same
  exact ⟨Nat.eq_of_mul_eq_mul_right (Nat.pow_pos (by decide)) coefficients, by omega⟩

theorem digits_eq_cons (x : PyFloat) :
    ∃ digit rest, x.digits = digit :: rest ∧ digit.isDigit = true := by
  match shape : x.digits with
  | [] => exact absurd shape Nat.toDigits_ne_nil
  | digit :: rest =>
      have member : digit ∈ x.digits := shape ▸ List.mem_cons_self
      exact ⟨digit, rest, rfl, Nat.isDigit_of_mem_toDigits (by decide) (by decide) member⟩

/-- The magnitude starts with a digit. -/
theorem magnitudeText_eq_cons (x : PyFloat) :
    ∃ digit rest, x.magnitudeText = digit :: rest ∧ digit.isDigit = true := by
  obtain ⟨digit, rest, shape, isDigit⟩ := x.digits_eq_cons
  unfold magnitudeText
  split
  · split
    · exact ⟨'0', _, rfl, by decide⟩
    · split
      · next range large fractional =>
          obtain ⟨count, positive⟩ : ∃ count, x.point.toNat = count + 1 :=
            ⟨x.point.toNat - 1, by omega⟩
          exact ⟨digit, _, by rw [positive, shape, List.take_succ_cons, List.cons_append],
            isDigit⟩
      · exact ⟨digit, _, by rw [shape, List.cons_append, List.cons_append], isDigit⟩
  · rw [shape]
    match rest with
    | [] => exact ⟨digit, _, rfl, isDigit⟩
    | next :: rest => exact ⟨digit, _, rfl, isDigit⟩

theorem magnitudeText_head_ne_minus (x : PyFloat) (rest : List Char) :
    x.magnitudeText ≠ '-' :: rest := by
  obtain ⟨digit, others, shape, isDigit⟩ := x.magnitudeText_eq_cons
  intro equal
  rw [shape] at equal
  injection equal with minus
  exact absurd (minus ▸ isDigit) (by decide)

/-- The text of a float is told from the text of an integer by its point or its
exponent. -/
theorem point_or_exponent_mem_repr (x : PyFloat) : '.' ∈ x.repr ∨ 'e' ∈ x.repr := by
  have magnitude : '.' ∈ x.magnitudeText ∨ 'e' ∈ x.magnitudeText := by
    unfold magnitudeText
    split
    · split
      · exact .inl (by simp)
      · split <;> exact .inl (by simp)
    · exact .inr (by simp)
  unfold repr
  split
  · exact magnitude.imp (List.mem_cons_of_mem _) (List.mem_cons_of_mem _)
  · exact magnitude

def IsNumberChar (char : Char) : Prop :=
  char.isDigit = true ∨ char = '-' ∨ char = '+' ∨ char = '.' ∨ char = 'e'

instance (char : Char) : Decidable (IsNumberChar char) :=
  inferInstanceAs (Decidable (_ ∨ _))

theorem isNumberChar_of_mem_toDigits {char : Char} {number : Nat}
    (member : char ∈ Nat.toDigits 10 number) : IsNumberChar char :=
  .inl (Nat.isDigit_of_mem_toDigits (by decide) (by decide) member)

theorem isNumberChar_of_mem_repr {x : PyFloat} {char : Char} (member : char ∈ x.repr) :
    IsNumberChar char := by
  have digit : ∀ char ∈ x.digits, IsNumberChar char :=
    fun char member => isNumberChar_of_mem_toDigits member
  have zeros : ∀ {count char}, char ∈ List.replicate count '0' → IsNumberChar char := by
    intro count char member
    rw [List.eq_of_mem_replicate member]
    decide
  have exponent : ∀ {number char}, char ∈ exponentText number → IsNumberChar char := by
    intro number char member
    simp only [exponentText, List.mem_cons, List.mem_append] at member
    rcases member with rfl | padding | magnitude
    · split <;> decide
    · exact zeros padding
    · exact isNumberChar_of_mem_toDigits magnitude
  have scientific : ∀ {digits : List Char} {char}, (∀ char ∈ digits, IsNumberChar char) →
      char ∈ scientificDigits digits → IsNumberChar char := by
    intro digits char all member
    unfold scientificDigits at member
    split at member
    · simp only [List.mem_cons] at member all
      rcases member with rfl | rfl | rfl | rest
      · exact all _ (.inl rfl)
      · decide
      · exact all _ (.inr (.inl rfl))
      · exact all _ (.inr (.inr rest))
    · exact all _ member
  have magnitude : ∀ char ∈ x.magnitudeText, IsNumberChar char := by
    intro char member
    unfold magnitudeText at member
    split at member
    · split at member
      · simp only [List.mem_cons, List.mem_append] at member
        rcases member with rfl | rfl | padding | inDigits
        · decide
        · decide
        · exact zeros padding
        · exact digit _ inDigits
      · split at member
        · simp only [List.mem_cons, List.mem_append] at member
          rcases member with front | rfl | back
          · exact digit _ (List.mem_of_mem_take front)
          · decide
          · exact digit _ (List.mem_of_mem_drop back)
        · simp only [List.mem_cons, List.mem_append, List.not_mem_nil, or_false] at member
          rcases member with (inDigits | padding) | rfl | rfl
          · exact digit _ inDigits
          · exact zeros padding
          · decide
          · decide
    · simp only [List.mem_cons, List.mem_append] at member
      rcases member with front | rfl | back
      · exact scientific digit front
      · decide
      · exact exponent back
  unfold repr at member
  split at member
  · rcases List.mem_cons.mp member with rfl | rest
    · decide
    · exact magnitude char rest
  · exact magnitude char member

/-- Two floats with one text are one float. -/
theorem repr_injective : Function.Injective repr := by
  intro left right equal
  have signs : left.negative = right.negative ∧ left.magnitudeText = right.magnitudeText := by
    unfold repr at equal
    cases leftSign : left.negative <;> cases rightSign : right.negative <;>
      simp only [leftSign, rightSign, if_true, Bool.false_eq_true, if_false, List.cons.injEq,
        true_and] at equal ⊢
    · exact equal
    · exact absurd equal (left.magnitudeText_head_ne_minus _)
    · exact absurd equal.symm (right.magnitudeText_head_ne_minus _)
    · exact equal
  obtain ⟨leftShift, leftRead⟩ := left.readMagnitude_magnitudeText
  obtain ⟨rightShift, rightRead⟩ := right.readMagnitude_magnitudeText
  rw [signs.2, rightRead, Prod.mk.injEq] at leftRead
  obtain ⟨coefficients, exponents⟩ := eq_of_shifted leftRead.1.symm leftRead.2.symm
  obtain ⟨negative, coefficient, exponent, normal⟩ := left
  simp only at signs coefficients exponents
  obtain ⟨rfl, -⟩ := signs
  subst coefficients exponents
  rfl

end PyFloat

end RvcOrchestrator.Foundation
