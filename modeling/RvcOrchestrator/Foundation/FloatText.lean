import Mathlib.Data.List.TakeWhile
import Mathlib.Tactic.Positivity
import RvcOrchestrator.Foundation.Float

/-! # Floats from texts and sums

The double nearest to a decimal or to a sum, in the shortest form that reads back as it. A
number beyond the largest double becomes infinite.
-/

namespace RvcOrchestrator.Foundation

namespace PyFloat

/-! ## The shortest decimal -/

/-- The position of the decimal point of a positive fraction, counted from its first digit. -/
def decimalPoint (numerator denominator : Nat) : Int :=
  if denominator ≤ numerator then (Nat.toDigits 10 (numerator / denominator)).length
  else 1 - ((Nat.toDigits 10 ((denominator - 1) / numerator)).length : Int)

/-- The fraction rounded to so many digits, where that reads back as the double. -/
def candidate (negative : Bool) (numerator denominator : Nat) (digits : Nat) : Option PyFloat :=
  let last := decimalPoint numerator denominator - digits
  let rounded := roundHalfEven (numerator * 10 ^ (-last).toNat) (denominator * 10 ^ last.toNat)
  -- All digits may be nines that are rounded up.
  let coefficient := if rounded = 10 ^ digits then 1 else rounded
  let exponent := if rounded = 10 ^ digits then last + digits else last
  if normal : coefficient % 10 ≠ 0 ∧ coefficient < 10 ^ 17 then
    let result : PyFloat := ⟨negative, coefficient, exponent, .inr normal⟩
    if |result.value| = numerator / denominator then some result else none
  else none

def signedZero (negative : Bool) : PyFloat := ⟨negative, 0, 0, zero.normal⟩

def printed (negative : Bool) (double : ℚ) : PyFloat :=
  ((List.range' 1 17).findSome? (candidate negative double.num.natAbs double.den)).getD
    (signedZero negative)

def nearest (negative : Bool) (numerator denominator : Nat) : Option PyFloat :=
  let double := nearestDouble numerator denominator
  if 2 ^ 1024 ≤ double then none
  else if double = 0 then some (signedZero negative)
  else some (printed negative double)

def add (left right : PyFloat) : Option PyFloat :=
  let sum := left.value + right.value
  if sum = 0 then some (signedZero (left.negative && right.negative))
  else nearest (sum < 0) sum.num.natAbs sum.den

/-- `float` of an integer, which is refused where it would be infinite. -/
def ofNat (number : Nat) : Option PyFloat := nearest false number 1

/-! ## Reading a decimal -/

structure DecimalText where
  negative : Bool
  whole : List Char
  fraction : List Char
  exponent : Int

/-- `[+-]?` before digits. -/
def signed (text : List Char) : Bool × List Char :=
  match text with
  | '-' :: rest => (true, rest)
  | '+' :: rest => (false, rest)
  | rest => (false, rest)

def readPower : List Char → Option Int
  | [] => some 0
  | letter :: text =>
      let (negative, digits) := signed text
      if (letter = 'e' ∨ letter = 'E') ∧ digits ≠ [] ∧ digits.all Char.isDigit = true then
        some (if negative then -(Nat.ofDigitChars 10 digits 0 : Int)
          else Nat.ofDigitChars 10 digits 0)
      else none

/-- The decimals that `float` takes: digits with a point among them, and an exponent. -/
def readDecimal (text : List Char) : Option DecimalText :=
  let (negative, unsigned) := signed text
  let whole := unsigned.takeWhile Char.isDigit
  let afterWhole := unsigned.dropWhile Char.isDigit
  let point := afterWhole.head? = some '.'
  let fraction := if point then afterWhole.tail.takeWhile Char.isDigit else []
  let afterMantissa := if point then afterWhole.tail.dropWhile Char.isDigit else afterWhole
  if whole = [] ∧ fraction = [] then none
  else (readPower afterMantissa).map fun exponent => ⟨negative, whole, fraction, exponent⟩

/-- The double, unless it is infinite. Powers of ten far outside the range of doubles need not be
computed. -/
def DecimalText.double (text : DecimalText) : Option PyFloat :=
  let coefficient := Nat.ofDigitChars 10 (text.whole ++ text.fraction) 0
  let exponent := text.exponent - text.fraction.length
  let point : Int := (Nat.toDigits 10 coefficient).length + exponent
  if coefficient = 0 ∨ point < -400 then some (signedZero text.negative)
  else if 400 < point then none
  else
    nearest text.negative (coefficient * 10 ^ exponent.toNat) (10 ^ (-exponent).toNat)

/-! ## Infinite integers -/

theorem div_le_roundHalfEven (numerator denominator : Nat) :
    numerator / denominator ≤ roundHalfEven numerator denominator := by
  unfold roundHalfEven
  simp only
  split
  · exact le_refl _
  · split <;> omega

theorem roundHalfEven_le_succ (numerator denominator : Nat) :
    roundHalfEven numerator denominator ≤ numerator / denominator + 1 := by
  unfold roundHalfEven
  simp only
  split
  · omega
  · split <;> omega

theorem lastBit_whole {number : Nat} (some_ : number ≠ 0) :
    lastBit number 1 = (number.log2 : Int) - 52 := by
  have one : Nat.log2 1 = 0 := by decide
  have reached := Nat.log2_self_le some_
  unfold lastBit
  simp only [one]
  rw [if_pos]
  · omega
  · simpa using reached

theorem nearestDouble_short {number : Nat} (some_ : number ≠ 0) (short : number.log2 < 52) :
    nearestDouble number 1 = number := by
  have bit := lastBit_whole some_
  have upward : (lastBit number 1).toNat = 0 := by omega
  unfold nearestDouble roundHalfEven
  simp only [upward, pow_zero, Nat.mul_one, Nat.div_one, Nat.mod_one, Nat.mul_zero,
    Nat.lt_one_iff, if_true, Nat.cast_mul, Nat.cast_pow]
  rw [mul_div_assoc, div_self, mul_one]
  positivity

theorem nearestDouble_long {number : Nat} (some_ : number ≠ 0) (long : 52 ≤ number.log2) :
    nearestDouble number 1 =
      (roundHalfEven number (2 ^ (number.log2 - 52)) * 2 ^ (number.log2 - 52) : Nat) := by
  have bit := lastBit_whole some_
  have upward : (lastBit number 1).toNat = number.log2 - 52 := by omega
  have downward : (-lastBit number 1).toNat = 0 := by omega
  unfold nearestDouble
  simp only [upward, downward, pow_zero, Nat.mul_one, Nat.one_mul, Nat.cast_one, div_one]

/-- Rounding to an even number from below takes half a step. -/
theorem le_roundHalfEven_iff {number half top : Nat} (positive : 0 < half) (even : top % 2 = 0)
    (below : number < top * (2 * half)) :
    top ≤ roundHalfEven number (2 * half) ↔ top * (2 * half) - half ≤ number := by
  have split := Nat.div_add_mod number (2 * half)
  have remainder := Nat.mod_lt number (show 0 < 2 * half by omega)
  have quotient : number / (2 * half) < top := Nat.div_lt_of_lt_mul (by rwa [Nat.mul_comm])
  rcases Nat.lt_or_ge (number / (2 * half) + 1) top with far | near
  · have rounded := roundHalfEven_le_succ number (2 * half)
    have steps : 2 * half * (number / (2 * half) + 2) ≤ 2 * half * top :=
      Nat.mul_le_mul_left _ far
    rw [Nat.mul_add] at steps
    rw [Nat.mul_comm top]
    omega
  · obtain rfl : top = number / (2 * half) + 1 := by omega
    have total : (number / (2 * half) + 1) * (2 * half) =
        2 * half * (number / (2 * half)) + 2 * half := by
      ring
    rw [total]
    unfold roundHalfEven
    simp only
    split
    · omega
    · split <;> omega

/-- A number rounds up to a power of two when it lies within half a unit of it. -/
theorem pow_le_nearestDouble_iff {number exponent : Nat} (large : 54 ≤ exponent) :
    (2 ^ exponent : ℚ) ≤ nearestDouble number 1 ↔ 2 ^ exponent - 2 ^ (exponent - 54) ≤ number := by
  have unit : 2 ^ exponent = 2 ^ 54 * 2 ^ (exponent - 54) := by
    rw [← pow_add]
    congr 1
    omega
  have unitPositive : 0 < 2 ^ (exponent - 54) := Nat.two_pow_pos _
  rcases Nat.lt_or_ge number.log2 52 with short | long
  · have small : number < 2 ^ 52 := Nat.lt_of_lt_of_le Nat.lt_log2_self
      (Nat.pow_le_pow_right (by decide) short)
    have value : nearestDouble number 1 = number := by
      rcases Nat.eq_zero_or_pos number with rfl | positive
      · decide +kernel
      · exact nearestDouble_short (Nat.pos_iff_ne_zero.mp positive) short
    rw [value, ← Nat.cast_ofNat, ← Nat.cast_pow, Nat.cast_le]
    omega
  · have some_ : number ≠ 0 := by
      rintro rfl
      revert long
      decide
    have reached := Nat.log2_self_le some_
    have below : number < 2 ^ (number.log2 + 1) := Nat.lt_log2_self
    have restored : 2 ^ 52 * 2 ^ (number.log2 - 52) = 2 ^ number.log2 := by
      rw [← pow_add]
      congr 1
      omega
    have doubled : 2 ^ (number.log2 + 1) = 2 ^ 53 * 2 ^ (number.log2 - 52) := by
      rw [pow_succ, ← restored]
      ring
    rw [nearestDouble_long some_ long, ← Nat.cast_ofNat, ← Nat.cast_pow, Nat.cast_le]
    rcases Nat.lt_trichotomy (number.log2 + 1) exponent with less | exact_ | more
    · -- The number stays below the next power of two.
      have half : 2 * 2 ^ (number.log2 + 1) ≤ 2 ^ exponent := by
        rw [← pow_succ']
        exact Nat.pow_le_pow_right (by decide) less
      have rounded : roundHalfEven number (2 ^ (number.log2 - 52)) ≤ 2 ^ 53 := by
        refine le_trans (roundHalfEven_le_succ _ _) (Nat.div_lt_of_lt_mul ?_)
        rw [Nat.mul_comm, ← doubled]
        exact below
      have scaled := Nat.mul_le_mul_right (2 ^ (number.log2 - 52)) rounded
      rw [← doubled] at scaled
      omega
    · subst exact_
      have step : 2 ^ (number.log2 - 52) = 2 * 2 ^ (number.log2 + 1 - 54) := by
        rw [← pow_succ']
        congr 1
        omega
      rw [doubled, Nat.mul_le_mul_right_iff (Nat.two_pow_pos _), step]
      refine le_roundHalfEven_iff unitPositive (by decide) ?_
      rwa [← step, ← doubled]
    · have rounded : 2 ^ 52 ≤ roundHalfEven number (2 ^ (number.log2 - 52)) := by
        refine le_trans ?_ (div_le_roundHalfEven _ _)
        rw [Nat.le_div_iff_mul_le (Nat.two_pow_pos _), restored]
        exact reached
      have scaled := Nat.mul_le_mul_right (2 ^ (number.log2 - 52)) rounded
      rw [restored] at scaled
      have power : 2 ^ exponent ≤ 2 ^ number.log2 :=
        Nat.pow_le_pow_right (by decide) (by omega)
      omega

theorem ofNat_eq_none_iff {number : Nat} :
    ofNat number = none ↔ 2 ^ 1024 - 2 ^ 970 ≤ number := by
  rw [← pow_le_nearestDouble_iff (by decide : 54 ≤ 1024), ofNat, nearest]
  split
  · next above => exact iff_of_true rfl above
  · next below =>
      refine iff_of_false ?_ below
      split <;> simp

/-! ## Readable texts -/

def NoDigitFirst (text : List Char) : Prop := ∀ char ∈ text.head?, char.isDigit = false

theorem takeWhile_digits {digits rest : List Char} (numeric : ∀ char ∈ digits, char.isDigit = true)
    (ends : NoDigitFirst rest) : (digits ++ rest).takeWhile Char.isDigit = digits := by
  rw [List.takeWhile_append_of_pos numeric]
  cases rest with
  | nil => exact List.append_nil _
  | cons char rest => rw [List.takeWhile_cons_of_neg (by simp [ends char rfl]), List.append_nil]

theorem dropWhile_digits {digits rest : List Char} (numeric : ∀ char ∈ digits, char.isDigit = true)
    (ends : NoDigitFirst rest) : (digits ++ rest).dropWhile Char.isDigit = rest := by
  rw [List.dropWhile_append_of_pos numeric]
  cases rest with
  | nil => rfl
  | cons char rest => rw [List.dropWhile_cons_of_neg (by simp [ends char rfl])]

def IsSigns (text : List Char) : Prop := text = [] ∨ text = ['+'] ∨ text = ['-']

theorem signed_append {signs text : List Char} (optional : IsSigns signs)
    (unsigned : ∀ char ∈ text.head?, char ≠ '+' ∧ char ≠ '-') :
    (signed (signs ++ text)).2 = text := by
  rcases optional with rfl | rfl | rfl
  · cases text with
    | nil => rfl
    | cons char text =>
        have plain := unsigned char rfl
        rw [List.nil_append, signed]
        · intro rest same
          cases same
          exact plain.2 rfl
        · intro rest same
          cases same
          exact plain.1 rfl
  · rfl
  · rfl

theorem readDecimal_whole {text whole rest : List Char} (unsigned : (signed text).2 = whole ++ rest)
    (numeric : ∀ char ∈ whole, char.isDigit = true) (ends : NoDigitFirst rest)
    (noPoint : rest.head? ≠ some '.') :
    (readDecimal text).isSome = true ↔ whole ≠ [] ∧ (readPower rest).isSome = true := by
  unfold readDecimal
  simp only [unsigned, takeWhile_digits numeric ends, dropWhile_digits numeric ends, noPoint,
    if_false, and_true]
  split
  · next none_ => simp [none_]
  · next some_ => simp [some_]

theorem readDecimal_point {text whole fraction rest : List Char}
    (unsigned : (signed text).2 = whole ++ '.' :: (fraction ++ rest))
    (numeric : ∀ char ∈ whole, char.isDigit = true)
    (numericFraction : ∀ char ∈ fraction, char.isDigit = true) (ends : NoDigitFirst rest) :
    (readDecimal text).isSome = true ↔
      (whole ≠ [] ∨ fraction ≠ []) ∧ (readPower rest).isSome = true := by
  have pointEnds : NoDigitFirst ('.' :: (fraction ++ rest)) := by
    rintro _ ⟨⟩
    decide
  unfold readDecimal
  simp only [unsigned, takeWhile_digits numeric pointEnds, dropWhile_digits numeric pointEnds,
    List.head?_cons, if_true, List.tail_cons, takeWhile_digits numericFraction ends,
    dropWhile_digits numericFraction ends]
  split
  · next none_ => simp [none_]
  · next some_ =>
      rw [not_and_or] at some_
      simp [some_]

theorem ne_of_isDigit {char other : Char} (digit : char.isDigit = true)
    (none_ : other.isDigit = false) : char ≠ other := by
  rintro rfl
  rw [digit] at none_
  cases none_

theorem readPower_isSome {letter : Char} {signs digits : List Char}
    (exponent : letter = 'e' ∨ letter = 'E') (optional : IsSigns signs) (some_ : digits ≠ [])
    (numeric : ∀ char ∈ digits, char.isDigit = true) :
    (readPower (letter :: (signs ++ digits))).isSome = true := by
  have unsigned : (signed (signs ++ digits)).2 = digits := by
    apply signed_append optional
    intro char first
    have digit := numeric char (List.mem_of_mem_head? first)
    exact ⟨ne_of_isDigit digit (by decide), ne_of_isDigit digit (by decide)⟩
  unfold readPower
  simp only [unsigned]
  rw [if_pos ⟨exponent, some_, List.all_eq_true.mpr numeric⟩]
  rfl

theorem not_digit_of_head_dropWhile (text : List Char) :
    NoDigitFirst (text.dropWhile Char.isDigit) := by
  induction text with
  | nil => simp [NoDigitFirst]
  | cons char text induction =>
      rw [List.dropWhile_cons]
      split
      · exact induction
      · next other =>
          rintro _ ⟨⟩
          exact Bool.eq_false_iff.mpr other

theorem count_point_eq_zero {text : List Char} (numeric : ∀ char ∈ text, char.isDigit = true) :
    text.count '.' = 0 :=
  List.count_eq_zero_of_not_mem fun member => ne_of_isDigit (numeric _ member) (by decide) rfl

/-- Of digits and points, `float` takes those with a digit and at most one point. -/
theorem readDecimal_isSome_iff {signs body : List Char} (optional : IsSigns signs)
    (decimal : ∀ char ∈ body, char.isDigit = true ∨ char = '.') :
    (readDecimal (signs ++ body)).isSome = true ↔
      body.count '.' ≤ 1 ∧ ∃ char ∈ body, char.isDigit = true := by
  have unsigned : (signed (signs ++ body)).2 = body := by
    apply signed_append optional
    intro char first
    rcases decimal char (List.mem_of_mem_head? first) with digit | rfl
    · exact ⟨ne_of_isDigit digit (by decide), ne_of_isDigit digit (by decide)⟩
    · decide
  have numeric : ∀ text : List Char, ∀ char ∈ text.takeWhile Char.isDigit, char.isDigit = true :=
    fun text char member => List.mem_takeWhile_imp member
  -- What follows the first digits begins with a point.
  have pointed : ∀ {text : List Char} {char : Char} {rest : List Char},
      (∀ char ∈ text, char.isDigit = true ∨ char = '.') →
      text.dropWhile Char.isDigit = char :: rest → char = '.' := by
    intro text char rest decimal dropped
    have member : char ∈ text := by
      apply (List.dropWhile_suffix Char.isDigit).subset
      rw [dropped]
      exact List.mem_cons_self
    have other := not_digit_of_head_dropWhile text char (by rw [dropped]; rfl)
    rcases decimal char member with digit | point
    · rw [digit] at other
      cases other
    · exact point
  have parts := List.takeWhile_append_dropWhile (p := Char.isDigit) (l := body)
  cases rest : body.dropWhile Char.isDigit with
  | nil =>
      rw [rest, List.append_nil] at parts
      have allDigits : ∀ char ∈ body, char.isDigit = true := by
        rw [← parts]
        exact numeric body
      rw [@readDecimal_whole _ body [] (by rw [unsigned, List.append_nil]) allDigits
         (by simp [NoDigitFirst]) (by simp), count_point_eq_zero allDigits]
      constructor
      · rintro ⟨some_, -⟩
        rcases List.exists_mem_of_ne_nil _ some_ with ⟨char, member⟩
        exact ⟨Nat.zero_le _, char, member, allDigits char member⟩
      · rintro ⟨-, char, member, -⟩
        exact ⟨List.ne_nil_of_mem member, rfl⟩
  | cons char after =>
      obtain rfl := pointed decimal rest
      have fractionParts := List.takeWhile_append_dropWhile (p := Char.isDigit) (l := after)
      have decimalAfter : ∀ char ∈ after, char.isDigit = true ∨ char = '.' := by
        intro char member
        apply decimal
        rw [← parts, rest]
        exact List.mem_append_right _ (List.mem_cons_of_mem _ member)
      rw [readDecimal_point (by rw [unsigned, fractionParts, ← rest, parts]) (numeric body)
        (numeric after) (not_digit_of_head_dropWhile after)]
      have count : body.count '.' = (after.dropWhile Char.isDigit).count '.' + 1 := by
        conv_lhs => rw [← parts, rest, ← fractionParts]
        rw [List.count_append, List.count_cons_self, List.count_append,
          count_point_eq_zero (numeric body), count_point_eq_zero (numeric after)]
        omega
      rw [count]
      cases power : after.dropWhile Char.isDigit with
      | nil =>
          rw [power, List.append_nil] at fractionParts
          rw [rest] at parts
          constructor
          · rintro ⟨whole | fraction, -⟩
            · rcases List.exists_mem_of_ne_nil _ whole with ⟨char, member⟩
              exact ⟨le_refl _, char, by rw [← parts]; exact List.mem_append_left _ member,
                numeric body char member⟩
            · rcases List.exists_mem_of_ne_nil _ fraction with ⟨char, member⟩
              refine ⟨le_refl _, char, ?_, numeric after char member⟩
              rw [fractionParts] at member
              rw [← parts]
              exact List.mem_append_right _ (List.mem_cons_of_mem _ member)
          · rintro ⟨-, char, member, digit⟩
            refine ⟨?_, rfl⟩
            rw [← parts] at member
            rcases List.mem_append.mp member with inWhole | inRest
            · exact .inl (List.ne_nil_of_mem inWhole)
            · rcases List.mem_cons.mp inRest with rfl | inFraction
              · cases digit
              · rw [fractionParts]
                exact .inr (List.ne_nil_of_mem inFraction)
      | cons second more =>
          obtain rfl := pointed decimalAfter power
          rw [List.count_cons_self]
          refine iff_of_false ?_ (by omega)
          rintro ⟨-, power⟩
          revert power
          unfold readPower
          simp

end PyFloat

end RvcOrchestrator.Foundation
