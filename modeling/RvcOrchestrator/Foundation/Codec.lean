import RvcOrchestrator.Foundation.Jsonb

/-! # Schemas

A codec is a schema's two directions together with what holds between them
across storage: a dumped value that is read back from a JSONB column validates
again, to the same value up to the sign of a zero. Codecs of records are built
from the codecs of their fields, so the law is proved once per combinator.
-/

namespace RvcOrchestrator.Foundation

/-- `value` carries the message of a validator the schema's author wrote; the
others are the schema language's own. -/
inductive ValidationError where
  | wrongType
  | missing (key : String)
  | extraForbidden
  | constraint
  | value (message : String)
deriving DecidableEq, Repr

structure Codec (Value : Type) where
  dump : Value → Json
  validate : Json → Except ValidationError Value
  /-- The value without the signs of its zeros. Two values are equal to Python if
  their normal forms are. -/
  normal : Value → Value
  keysNodup : ∀ value, (dump value).KeysNodup
  readBack : ∀ {value result}, (dump value).SmallFloats → Json.ReadBack (dump value) result →
    validate result = .ok (normal value)
  dump_normal : ∀ value, (dump (normal value)).mapFloats PyFloat.unsignedZero =
    (dump value).mapFloats PyFloat.unsignedZero

/-- Conversions of inputs that do not have the declared type, such as the text
`"3"` for an integer. They are the schema library's and are left open. -/
structure Lax where
  bool : Json → Option Bool
  int : Json → Option Int
  float : Json → Option PyFloat
  /-- Python's `int(text)`. -/
  parseInt : String → Option Int

def Lax.strict : Lax where
  bool _ := none
  int _ := none
  float _ := none
  parseInt _ := none

/-- The float that prints as a whole number. -/
def wholeFloat (number : Nat) : Option PyFloat :=
  let digits := Nat.toDigits 10 number
  let zeros := (digits.reverse.takeWhile (· = '0')).length
  if number = 0 then some PyFloat.zero
  else if normal : number / 10 ^ zeros % 10 ≠ 0 ∧ number / 10 ^ zeros < 10 ^ 17 then
    some ⟨false, number / 10 ^ zeros, zeros, .inr normal⟩
  else none

/-- Whole numbers stand for floats, and nothing else is converted. -/
def wholeLax : Lax where
  bool _ := none
  int _ := none
  float
    | .int (.ofNat number) => wholeFloat number
    | _ => none
  parseInt _ := none

namespace Codec

variable {Value Other : Type}

def orWrongType : Option Value → Except ValidationError Value
  | some value => .ok value
  | none => .error .wrongType

/-! ## Atoms -/

def bool (lax : Lax) : Codec Bool where
  dump := .bool
  validate
    | .bool value => .ok value
    | other => orWrongType (lax.bool other)
  normal := id
  keysNodup _ := trivial
  readBack _ readBack := by rw [readBack]; rfl
  dump_normal _ := rfl

def int (lax : Lax) : Codec Int where
  dump := .int
  validate
    | .int value => .ok value
    | other => orWrongType (lax.int other)
  normal := id
  keysNodup _ := trivial
  readBack _ readBack := by rw [readBack]; rfl
  dump_normal _ := rfl

/-- Text fields have no lax conversion from other JSON types. -/
def str : Codec String where
  dump := .str
  validate
    | .str value => .ok value
    | _ => .error .wrongType
  normal := id
  keysNodup _ := trivial
  readBack _ readBack := by rw [readBack]; rfl
  dump_normal _ := rfl

def float (lax : Lax) : Codec PyFloat where
  dump := .float
  validate
    | .float value => .ok value
    | other => orWrongType (lax.float other)
  normal := PyFloat.unsignedZero
  keysNodup _ := trivial
  readBack {value result} small readBack := by
    rw [Json.ReadBack, PyFloat.readBack_of_small small] at readBack
    rw [readBack]
  dump_normal value := by
    rw [Json.mapFloats, Json.mapFloats, PyFloat.unsignedZero_idem]

/-- Literals and enumerations, by their texts. -/
def enum [DecidableEq Value] (text : Value → String) (members : List Value)
    (complete : ∀ value, members.find? (fun member => text member = text value) = some value) :
    Codec Value where
  dump value := .str (text value)
  validate
    | .str written =>
        match members.find? fun member => text member = written with
        | some value => .ok value
        | none => .error .constraint
    | _ => .error .constraint
  normal := id
  keysNodup _ := trivial
  readBack {value result} _ readBack := by
    rw [readBack]
    simp only [complete value, id_eq]
  dump_normal _ := rfl

/-! ## Combinators -/

theorem Json.eq_null_of_readBack {document : Json} (readBack : Json.ReadBack document .null) :
    document = .null := by
  cases document with
  | null => rfl
  | float value =>
      rw [Json.ReadBack, PyFloat.readBack] at readBack
      split at readBack <;> cases readBack
  | array items =>
      rw [Json.ReadBack] at readBack
      obtain ⟨_, impossible, -⟩ := readBack
      cases impossible
  | object fields =>
      rw [Json.ReadBack] at readBack
      obtain ⟨_, _, impossible, -⟩ := readBack
      cases impossible
  | bool _ | int _ | str _ => cases readBack

def option (codec : Codec Value) (notNull : ∀ value, codec.dump value ≠ .null) :
    Codec (Option Value) where
  dump
    | none => .null
    | some value => codec.dump value
  validate
    | .null => .ok none
    | other => (codec.validate other).map some
  normal := Option.map codec.normal
  keysNodup
    | none => trivial
    | some value => codec.keysNodup value
  readBack {value result} small readBack := by
    cases value with
    | none => rw [readBack]; rfl
    | some value =>
        have found := codec.readBack small readBack
        have different : result ≠ .null := by
          rintro rfl
          exact notNull value (Json.eq_null_of_readBack readBack)
        cases result with
        | null => exact absurd rfl different
        | _ => simp only [found, Except.map, Option.map_some]
  dump_normal
    | none => rfl
    | some value => codec.dump_normal value

def dumpItems (codec : Codec Value) (values : List Value) : List Json :=
  values.map codec.dump

def validateItems (codec : Codec Value) : List Json → Except ValidationError (List Value)
  | [] => .ok []
  | item :: items =>
      match codec.validate item, validateItems codec items with
      | .ok value, .ok values => .ok (value :: values)
      | .error error, _ => .error error
      | _, .error error => .error error

def list (codec : Codec Value) : Codec (List Value) where
  dump values := .array (codec.dumpItems values)
  validate
    | .array items => codec.validateItems items
    | _ => .error .wrongType
  normal := List.map codec.normal
  keysNodup values := by
    rw [Json.KeysNodup]
    induction values with
    | nil => trivial
    | cons value values induction => exact ⟨codec.keysNodup value, induction⟩
  readBack {values result} small readBack := by
    rw [Json.ReadBack] at readBack
    obtain ⟨items, rfl, readBack⟩ := readBack
    rw [Json.SmallFloats] at small
    simp only
    induction values generalizing items with
    | nil =>
        rw [dumpItems, List.map_nil, Json.ReadBackItems] at readBack
        rw [readBack]
        rfl
    | cons value values induction =>
        rw [dumpItems, List.map_cons, Json.ReadBackItems] at readBack
        obtain ⟨item, others, rfl, itemBack, itemsBack⟩ := readBack
        simp only [validateItems, codec.readBack small.1 itemBack,
          induction small.2 others itemsBack, List.map_cons]
  dump_normal values := by
    rw [Json.mapFloats, Json.mapFloats]
    congr 1
    induction values with
    | nil => rfl
    | cons value values induction =>
        simp only [dumpItems, List.map_cons, Json.mapFloatsItems] at induction ⊢
        rw [codec.dump_normal value, induction]

theorem smallFloats_list (codec : Codec Value)
    (small : ∀ value, (codec.dump value).SmallFloats) (values : List Value) :
    (codec.list.dump values).SmallFloats := by
  simp only [list, Json.SmallFloats]
  induction values with
  | nil => trivial
  | cons value values induction => exact ⟨small value, induction⟩

theorem smallFloats_option (codec : Codec Value) (notNull : ∀ value, codec.dump value ≠ .null)
    (small : ∀ value, (codec.dump value).SmallFloats) (value : Option Value) :
    ((codec.option notNull).dump value).SmallFloats := by
  cases value with
  | none => trivial
  | some value => exact small value

/-- Values that pass a check after the schema's own validation. -/
def refine (codec : Codec Value) (check : Value → Except ValidationError Other)
    (forget : Other → Value) (normal : Other → Other)
    (normal_forget : ∀ other, codec.normal (forget other) = forget (normal other))
    (check_forget : ∀ other, check (forget other) = .ok other) : Codec Other where
  dump other := codec.dump (forget other)
  validate document := (codec.validate document).bind check
  normal := normal
  keysNodup other := codec.keysNodup (forget other)
  readBack {other result} small readBack := by
    rw [codec.readBack small readBack, normal_forget]
    exact check_forget (normal other)
  dump_normal other := by
    rw [← normal_forget]
    exact codec.dump_normal (forget other)

def restrict (codec : Codec Value) (Constraint : Value → Prop) [DecidablePred Constraint]
    (stable : ∀ value, Constraint value → Constraint (codec.normal value)) :
    Codec { value // Constraint value } :=
  codec.refine
    (fun value => if holds : Constraint value then .ok ⟨value, holds⟩ else .error .constraint)
    Subtype.val (fun value => ⟨codec.normal value.1, stable value.1 value.2⟩)
    (fun _ => rfl) fun value => dif_pos value.2

/-- Inputs that are rewritten before the schema sees them. -/
def before (codec : Codec Value) (prepare : Json → Except ValidationError Json)
    (prepare_readBack : ∀ value result, Json.ReadBack (codec.dump value) result →
      prepare result = .ok result) : Codec Value where
  dump := codec.dump
  validate document := (prepare document).bind codec.validate
  normal := codec.normal
  keysNodup := codec.keysNodup
  readBack {value result} small readBack := by
    rw [prepare_readBack value result readBack]
    exact codec.readBack small readBack
  dump_normal := codec.dump_normal

end Codec

/-! ## Records -/

/-- Some of the fields of a record. `lookup` gives the document's value of a
key. -/
structure Fields (Value : Type) where
  keys : List String
  dump : Value → List (String × Json)
  validate : (String → Option Json) → Except ValidationError Value
  normal : Value → Value
  keys_dump : ∀ value, (dump value).map Prod.fst = keys
  keysNodup : ∀ value, Json.KeysNodupFields (dump value)
  readBack : ∀ {value} {lookup : String → Option Json},
    Json.SmallFloatsFields (dump value) →
    (∀ key document, (key, document) ∈ dump value →
      ∃ result, lookup key = some result ∧ Json.ReadBack document result) →
    validate lookup = .ok (normal value)
  dump_normal : ∀ value, Json.mapFloatsFields PyFloat.unsignedZero (dump (normal value)) =
    Json.mapFloatsFields PyFloat.unsignedZero (dump value)

namespace Fields

variable {Value Other : Type}

def field (key : String) (codec : Codec Value) (default : Option Value) : Fields Value where
  keys := [key]
  dump value := [(key, codec.dump value)]
  validate lookup :=
    match lookup key with
    | some document => codec.validate document
    | none =>
        match default with
        | some value => .ok value
        | none => .error (.missing key)
  normal := codec.normal
  keys_dump _ := rfl
  keysNodup value := ⟨codec.keysNodup value, trivial⟩
  readBack {value lookup} small readBack := by
    obtain ⟨result, found, valueBack⟩ := readBack key (codec.dump value) List.mem_cons_self
    simp only [found]
    exact codec.readBack small.1 valueBack
  dump_normal value := by
    simp only [Json.mapFloatsFields, codec.dump_normal value]

theorem keysNodupFields_append {left right : List (String × Json)}
    (leftNodup : Json.KeysNodupFields left) (rightNodup : Json.KeysNodupFields right) :
    Json.KeysNodupFields (left ++ right) := by
  induction left with
  | nil => exact rightNodup
  | cons field left induction => exact ⟨leftNodup.1, induction leftNodup.2⟩

theorem smallFloatsFields_append {left right : List (String × Json)} :
    Json.SmallFloatsFields (left ++ right) ↔
      Json.SmallFloatsFields left ∧ Json.SmallFloatsFields right := by
  induction left with
  | nil => simp [Json.SmallFloatsFields]
  | cons field left induction =>
      obtain ⟨key, value⟩ := field
      simp [Json.SmallFloatsFields, induction, and_assoc]

def and (first : Fields Value) (second : Fields Other) : Fields (Value × Other) where
  keys := first.keys ++ second.keys
  dump value := first.dump value.1 ++ second.dump value.2
  validate lookup :=
    match first.validate lookup, second.validate lookup with
    | .ok left, .ok right => .ok (left, right)
    | .error error, _ => .error error
    | _, .error error => .error error
  normal value := (first.normal value.1, second.normal value.2)
  keys_dump value := by rw [List.map_append, first.keys_dump, second.keys_dump]
  keysNodup value := keysNodupFields_append (first.keysNodup value.1) (second.keysNodup value.2)
  readBack {value lookup} small readBack := by
    have parts := smallFloatsFields_append.mp small
    have left : first.validate lookup = .ok (first.normal value.1) :=
      first.readBack parts.1 fun key document member =>
        readBack key document (List.mem_append_left _ member)
    have right : second.validate lookup = .ok (second.normal value.2) :=
      second.readBack parts.2 fun key document member =>
        readBack key document (List.mem_append_right _ member)
    simp only [left, right]
  dump_normal value := by
    simp only [Json.mapFloatsFields_eq_map, List.map_append]
    rw [← Json.mapFloatsFields_eq_map, ← Json.mapFloatsFields_eq_map,
      ← Json.mapFloatsFields_eq_map, ← Json.mapFloatsFields_eq_map, first.dump_normal,
      second.dump_normal]

/-- A record with these fields and no others (`extra="forbid"`). -/
def record (fields : Fields Value) (nodup : fields.keys.Nodup) : Codec Value where
  dump value := .object (fields.dump value)
  validate
    | .object entries =>
        if entries.all fun entry => entry.1 ∈ fields.keys then
          fields.validate fun key => entries.lookup key
        else .error .extraForbidden
    | _ => .error .wrongType
  normal := fields.normal
  keysNodup value := by
    rw [Json.KeysNodup, fields.keys_dump]
    exact ⟨nodup, fields.keysNodup value⟩
  readBack {value result} small readBack := by
    have keys := fields.keys_dump value
    obtain ⟨entries, rfl, keysPerm, found⟩ := Json.readBack_object (keys ▸ nodup) readBack
    have known : entries.all (fun entry => entry.1 ∈ fields.keys) = true := by
      rw [List.all_eq_true]
      intro entry member
      rw [← keys]
      exact decide_eq_true (keysPerm.mem_iff.mp (List.mem_map.mpr ⟨entry, member, rfl⟩))
    simp only [known, if_true]
    exact fields.readBack small found
  dump_normal value := by
    rw [Json.mapFloats, Json.mapFloats, fields.dump_normal]

end Fields

end RvcOrchestrator.Foundation
