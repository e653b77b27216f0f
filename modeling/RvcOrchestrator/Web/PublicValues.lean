import RvcOrchestrator.Foundation.JsNumber
import RvcOrchestrator.Contracts.JobDocument

/-! # Values that the web server lets through

The web server validates what it relays, in both directions, with the same few checks on
parsed documents.
-/

namespace RvcOrchestrator.Web

open RvcOrchestrator.Foundation RvcOrchestrator.Contracts
open RvcOrchestrator.Foundation.JsNumber (Number maxSafeInteger)

/-! ## Records -/

/-- A value of which nothing is known; `none` is `undefined`. -/
abbrev Unknown := Option Json

/-- `value.key`, where `JSON.parse` leaves one field for a key. -/
def property (value : Json) (key : String) : Unknown :=
  match value with
  | .object fields => fields.lookup key
  | _ => none

def record : Unknown → Option Json
  | some (.object fields) => some (.object fields)
  | _ => none

def hasExactKeys (value : Unknown) (keys : List String) : Bool :=
  match value with
  | some (.object fields) =>
      decide (fields.length = keys.length) && fields.all fun field => decide (field.1 ∈ keys)
  | _ => false

def exactRecord (value : Unknown) (keys : List String) : Unknown :=
  if hasExactKeys value keys then value else none

def isBoolean : Unknown → Bool
  | some (.bool _) => true
  | _ => false

def booleanOf : Unknown → Option Bool
  | some (.bool value) => some value
  | _ => none

def arrayOf : Unknown → Option (List Json)
  | some (.array items) => some items
  | _ => none

/-- `none` is `undefined`, `some none` is `null`. -/
def nullable {Value : Type} (read : Unknown → Option Value) (value : Unknown) :
    Option (Option Value) :=
  if value = some .null then some none else (read value).map some

def booleanFields (value : Json) (fields : List String) : Bool :=
  fields.all fun field => isBoolean (property value field)

/-! ## Numbers -/

/-- Doubles are compared as the decimals that are written for them. An integer that is no safe
one is rounded to one that is no safe one either. -/
def numberOf : Unknown → Option Number
  | some (.int value) => some (.finite value)
  | some (.float value) => some (.finite value.decimal)
  | _ => none

def integer (value : Unknown) (minimum maximum : Int) : Option Int :=
  ((numberOf value).bind Number.safeInteger).filter fun number =>
    minimum ≤ number && number ≤ maximum

def integerInRange (value : Unknown) (minimum maximum : Int) : Bool :=
  (integer value minimum maximum).isSome

def numberInRange (value : Unknown) (minimum maximum : ℚ) : Bool :=
  match numberOf value with
  | some (.finite number) => minimum ≤ number && number ≤ maximum
  | _ => false

def nullableInteger (value : Unknown) (minimum maximum : Int) : Option (Option Int) :=
  nullable (integer · minimum maximum) value

def integerArray (value : Unknown) (minimumLength maximumLength : Nat) (minimum maximum : Int) :
    Option (List Int) :=
  match value with
  | some (.array items) =>
      if items.length < minimumLength ∨ maximumLength < items.length then none
      else
        (items.mapM fun item => integer (some item) minimum maximum).filter fun parsed =>
          parsed.Nodup
  | _ => none

def validInferenceResampleRate (value : Unknown) : Bool :=
  integerInRange value 0 0 || integerInRange value 16000 192000

/-! ## Texts -/

def textOf : Unknown → Option String
  | some (.str text) => some text
  | _ => none

/-- `text.length`, which counts a character outside the basic plane twice. -/
def utf16Length (text : String) : Nat :=
  (text.toList.map fun char => if char.toNat < 0x10000 then 1 else 2).sum

def hasControlCharacter (text : String) : Bool :=
  text.toList.any fun char => char.toNat < 0x20 || char.toNat = 0x7F

def safePublicString (text : String) (maximumLength : Nat) : Bool :=
  1 ≤ utf16Length text && utf16Length text ≤ maximumLength && !hasControlCharacter text

/-- `/^[A-Za-z0-9][A-Za-z0-9_.-]{0,127}$/` is the pattern of the contract. -/
def safeIdentifier (value : Unknown) : Option String :=
  (textOf value).filter fun text => IsSafeName text

def isHexDigit (char : Char) : Bool := char.isDigit || ('a' ≤ char && char ≤ 'f')

def canonicalUuidShape : List (Char → Bool) :=
  let hyphen : Char → Bool := (· == '-')
  List.replicate 8 isHexDigit ++ hyphen :: List.replicate 4 isHexDigit ++
    hyphen :: (fun char => '1' ≤ char && char ≤ '5') :: List.replicate 3 isHexDigit ++
    hyphen :: (fun char => char ∈ ['8', '9', 'a', 'b']) :: List.replicate 3 isHexDigit ++
    hyphen :: List.replicate 12 isHexDigit

def fitsShape : List (Char → Bool) → List Char → Bool
  | [], [] => true
  | test :: tests, char :: chars => test char && fitsShape tests chars
  | _, _ => false

def canonicalUuidPattern (text : String) : Bool := fitsShape canonicalUuidShape text.toList

def canonicalUuid (value : Unknown) : Option String :=
  (textOf value).filter canonicalUuidPattern

def sha256Pattern (text : String) : Bool :=
  text.toList.length = 64 && text.toList.all isHexDigit

/-- The characters that `trim` removes. -/
def isJsSpace (char : Char) : Bool :=
  let code := char.toNat
  (9 ≤ code && code ≤ 13) || code = 32 || code = 0xA0 || code = 0x1680 ||
    (0x2000 ≤ code && code ≤ 0x200A) || code = 0x2028 || code = 0x2029 || code = 0x202F ||
    code = 0x205F || code = 0x3000 || code = 0xFEFF

def trim (text : String) : String :=
  String.ofList (((text.toList.dropWhile isJsSpace).reverse.dropWhile isJsSpace).reverse)

def stringArray (value : Unknown) (maximumLength maximumItemLength : Nat) :
    Option (List String) :=
  match value with
  | some (.array items) =>
      if maximumLength < items.length then none
      else
        (items.mapM fun item => (textOf (some item)).filter fun text =>
          safePublicString text maximumItemLength).filter fun parsed => parsed.Nodup
  | _ => none

/-- `none` is `undefined`, `some none` is `null`. -/
def nullableSafeRelativePath (value : Unknown) : Option (Option String) :=
  match value with
  | some .null => some none
  | some (.str text) =>
      if !safePublicString text 1024 then none
      else
        let normalized := text.toList.map fun char => if char = '\\' then '/' else char
        if normalized.head? = some '/' ∨ (normalized.splitOn '/').contains ['.', '.'] then none
        else some (some text)
  | _ => none

def safeArtifactFilename (value : Unknown) : Option String :=
  (textOf value).filter fun text =>
    safePublicString text 255 && text ≠ "." && text ≠ ".." && '/' ∉ text.toList &&
      '\\' ∉ text.toList

/-! ## What the checks say of dumped values -/

theorem property_cons (key name : String) (value : Json) (fields : List (String × Json)) :
    property (.object ((key, value) :: fields)) name =
      if name = key then some value else property (.object fields) name := by
  by_cases same : name = key
  · simp [property, same]
  · have different : (name == key) = false := beq_false_of_ne same
    simp [property, List.lookup_cons, same, different]

def orNull {Value : Type} (write : Value → Json) (value : Option Value) : Json :=
  value.elim .null write

theorem integer_int {number minimum maximum : Int} (low : -maxSafeInteger ≤ minimum)
    (high : maximum ≤ maxSafeInteger) :
    integer (some (.int number)) minimum maximum =
      if minimum ≤ number ∧ number ≤ maximum then some number else none := by
  have read : Number.safeInteger (.finite (number : ℚ)) =
      if (number.natAbs : Int) ≤ maxSafeInteger then some number else none := by
    simp [Number.safeInteger]
  rw [integer, numberOf, Option.bind_some, read]
  by_cases inside : minimum ≤ number ∧ number ≤ maximum
  · rw [if_pos inside, if_pos (by omega), Option.filter_some, if_pos (by simpa using inside)]
  · rw [if_neg inside]
    split
    · rw [Option.filter_some, if_neg (by simpa using inside)]
    · rfl

theorem integerInRange_int {number minimum maximum : Int} (low : -maxSafeInteger ≤ minimum)
    (high : maximum ≤ maxSafeInteger) :
    integerInRange (some (.int number)) minimum maximum = true ↔
      minimum ≤ number ∧ number ≤ maximum := by
  rw [integerInRange, integer_int low high]
  split
  · next inside => simp [inside]
  · next outside => simp [outside]

theorem numberInRange_float {number : PyFloat} {minimum maximum : ℚ} :
    numberInRange (some (.float number)) minimum maximum = true ↔
      minimum ≤ number.decimal ∧ number.decimal ≤ maximum := by
  simp [numberInRange, numberOf]

/-- Items that are read one by one are read if each fits. -/
theorem mapM_map {Value Result : Type} {write : Value → Json} {read : Json → Option Result}
    {result : Value → Result} {Fits : Value → Prop} [DecidablePred Fits] {values : List Value}
    (each : ∀ value ∈ values,
      read (write value) = if Fits value then some (result value) else none) :
    (values.map write).mapM read =
      if ∀ value ∈ values, Fits value then some (values.map result) else none := by
  induction values with
  | nil => rfl
  | cons value values induction =>
      rw [List.map_cons, List.mapM_cons, each value List.mem_cons_self,
        induction fun other member => each other (List.mem_cons_of_mem value member)]
      by_cases fits : Fits value
      · by_cases rest : ∀ other ∈ values, Fits other
        · rw [if_pos fits, if_pos rest, if_pos (List.forall_mem_cons.mpr ⟨fits, rest⟩)]
          rfl
        · rw [if_pos fits, if_neg rest, if_neg fun all => rest (List.forall_mem_cons.mp all).2]
          rfl
      · rw [if_neg fits, if_neg fun all => fits (List.forall_mem_cons.mp all).1]
        rfl

theorem integer_nat {number least : Nat} (low : least ≤ number) :
    integer (some (.int number)) least maxSafeInteger =
      if (number : Int) ≤ maxSafeInteger then some (number : Int) else none := by
  have lowest : -maxSafeInteger ≤ (least : Int) := by
    have positive : (0 : Int) ≤ maxSafeInteger := by decide
    omega
  rw [integer_int lowest le_rfl]
  congr 1
  simp [low]

/-- A value that may be absent is read if it is absent or fits. -/
theorem nullable_orNull {Value Result : Type} {write : Value → Json}
    {read : Unknown → Option Result} {result : Value → Result} {Fits : Value → Prop}
    [DecidablePred Fits] {value : Option Value} (notNull : ∀ given, write given ≠ .null)
    (each : ∀ given, value = some given →
      read (some (write given)) = if Fits given then some (result given) else none) :
    nullable read (some (orNull write value)) =
      if ∀ given ∈ value, Fits given then some (value.map result) else none := by
  cases value with
  | none => simp [nullable, orNull]
  | some given =>
      have present : some (write given) ≠ some Json.null := fun same =>
        notNull given (Option.some.inj same)
      rw [nullable, orNull, Option.elim_some, if_neg present, each given rfl]
      by_cases fits : Fits given
      · simp [fits]
      · simp [fits]

theorem canonicalUuid_str {text : String} (canonical : canonicalUuidPattern text = true) :
    canonicalUuid (some (.str text)) = some text := by
  rw [canonicalUuid, textOf, Option.filter_some, if_pos canonical]

theorem sha256Pattern_iff {text : String} : sha256Pattern text = true ↔ IsSha256 text := by
  simp only [sha256Pattern, IsSha256, isHexDigit, Bool.and_eq_true, decide_eq_true_eq,
    List.all_eq_true, Bool.or_eq_true]

theorem one_le_utf16Length {text : String} (some_ : text ≠ "") : 1 ≤ utf16Length text := by
  rcases chars : text.toList with _ | ⟨char, rest⟩
  · exact absurd (String.toList_inj.mp (chars.trans String.toList_empty.symm)) some_
  · rw [utf16Length, chars, List.map_cons, List.sum_cons]
    split <;> omega

theorem integerArray_ints {ids : List Int} {minimumLength maximumLength : Nat}
    {minimum maximum : Int} (low : -maxSafeInteger ≤ minimum)
    (high : maximum ≤ maxSafeInteger) :
    integerArray (some (.array (ids.map .int))) minimumLength maximumLength minimum maximum =
      if (minimumLength ≤ ids.length ∧ ids.length ≤ maximumLength) ∧
          (∀ id ∈ ids, minimum ≤ id ∧ id ≤ maximum) ∧ ids.Nodup then some ids
      else none := by
  rw [integerArray, mapM_map fun id _ => integer_int low high, List.length_map, List.map_id']
  by_cases length : minimumLength ≤ ids.length ∧ ids.length ≤ maximumLength
  · rw [if_neg (by omega)]
    by_cases inside : ∀ id ∈ ids, minimum ≤ id ∧ id ≤ maximum
    · rw [if_pos inside]
      by_cases distinct : ids.Nodup
      · rw [if_pos ⟨length, inside, distinct⟩, Option.filter_some, if_pos (decide_eq_true distinct)]
      · rw [if_neg fun all => distinct all.2.2, Option.filter_some,
          if_neg fun all => distinct (of_decide_eq_true all)]
    · rw [if_neg inside, if_neg fun all => inside all.2.1]
      rfl
  · rw [if_pos (by omega), if_neg fun all => length all.1]

theorem stringArray_texts {texts : List String} {maximumLength maximumItemLength : Nat} :
    stringArray (some (.array (texts.map .str))) maximumLength maximumItemLength =
      if texts.length ≤ maximumLength ∧
          (∀ text ∈ texts, safePublicString text maximumItemLength = true) ∧ texts.Nodup then
        some texts
      else none := by
  have each (text : String) : ((textOf (some (.str text))).filter fun text =>
      safePublicString text maximumItemLength) =
        if safePublicString text maximumItemLength = true then some text else none :=
    Option.filter_some ..
  rw [stringArray, mapM_map fun text _ => each text, List.length_map, List.map_id']
  by_cases length : texts.length ≤ maximumLength
  · rw [if_neg (by omega)]
    by_cases inside : ∀ text ∈ texts, safePublicString text maximumItemLength = true
    · rw [if_pos inside]
      by_cases distinct : texts.Nodup
      · rw [if_pos ⟨length, inside, distinct⟩, Option.filter_some, if_pos (decide_eq_true distinct)]
      · rw [if_neg fun all => distinct all.2.2, Option.filter_some,
          if_neg fun all => distinct (of_decide_eq_true all)]
    · rw [if_neg inside, if_neg fun all => inside all.2.1]
      rfl
  · rw [if_pos (by omega), if_neg fun all => length all.1]

end RvcOrchestrator.Web
