import Mathlib.Tactic.Positivity
import RvcOrchestrator.Foundation.Json

/-! # Documents in a JSONB column

PostgreSQL keeps a JSON number as an exact decimal and prints it without an
exponent, drops the sign of zero, and is free to reorder the keys of an object.
`ReadBack` relates a written document to every document a later read may
return.
-/

namespace RvcOrchestrator.Foundation

namespace PyFloat

/-- A decimal without a point is read as an integer. Python prints a float
without a point only in the exponent form it uses from `1e+16` on. -/
def readBack (x : PyFloat) : Json :=
  if 16 < x.point then
    .int (if x.negative then -(x.coefficient * 10 ^ x.exponent.toNat : Nat)
      else (x.coefficient * 10 ^ x.exponent.toNat : Nat))
  else
    .float x.unsignedZero

/-- The floats that a JSONB column returns as floats. -/
def Small (x : PyFloat) : Prop := x.point ≤ 16

instance (x : PyFloat) : Decidable x.Small := inferInstanceAs (Decidable (_ ≤ _))

/-- They are the ones below `1e16`. -/
theorem small_iff {x : PyFloat} (positive : 0 ≤ x.decimal) : x.Small ↔ x.decimal < 10 ^ 16 := by
  have magnitude : x.decimal < 10 ^ 16 ↔
      x.coefficient * 10 ^ x.exponent.toNat < 10 ^ 16 * 10 ^ (-x.exponent).toNat := by
    have same : x.decimal = ((x.coefficient * 10 ^ x.exponent.toNat : Nat) : ℚ) /
        (10 ^ (-x.exponent).toNat : Nat) := by
      by_cases isZero : x.IsZero
      · rw [decimal_of_isZero isZero, show x.coefficient = 0 from isZero]
        simp
      · have nonzero : 0 < x.coefficient := Nat.pos_of_ne_zero isZero
        have sign : x.negative = false := by
          by_contra negative
          rw [Bool.not_eq_false] at negative
          simp only [decimal, negative, if_true] at positive
          split at positive
          · have large : (0 : ℚ) < (x.coefficient * 10 ^ x.exponent.toNat : Nat) := by positivity
            linarith
          · have large : (0 : ℚ) < x.coefficient / (10 ^ (-x.exponent).toNat : Nat) := by
              positivity
            linarith
        simp only [decimal, sign, Bool.false_eq_true, if_false]
        split
        · next integral =>
            rw [show (-x.exponent).toNat = 0 by omega]
            simp
        · next fractional =>
            rw [show x.exponent.toNat = 0 by omega]
            simp
    rw [same, div_lt_iff₀ (by positivity)]
    exact_mod_cast Iff.rfl
  rw [magnitude, Small, point]
  have lengthPos : 0 < x.digits.length := Nat.length_toDigits_pos
  rcases lt_or_ge x.exponent 0 with fractional | integral
  · -- At most seventeen digits, and at least one of them after the point.
    have bound : x.coefficient < 10 ^ 17 := by
      rcases x.normal with ⟨zero, -⟩ | ⟨-, bound⟩
      · omega
      · exact bound
    have lengthBound : x.digits.length ≤ 17 :=
      (Nat.length_toDigits_le_iff (by decide) (by decide)).mpr bound
    refine iff_of_true (by omega) ?_
    obtain ⟨shift, shiftEq⟩ : ∃ shift, (-x.exponent).toNat = shift + 1 :=
      ⟨(-x.exponent).toNat - 1, by omega⟩
    rw [show x.exponent.toNat = 0 by omega, shiftEq, pow_zero, mul_one, pow_succ 10 shift]
    have powPos : 0 < 10 ^ shift := Nat.pow_pos (by decide)
    calc x.coefficient < 10 ^ 17 := bound
      _ = 10 ^ 16 * (1 * 10) := by norm_num
      _ ≤ 10 ^ 16 * (10 ^ shift * 10) := by gcongr; exact powPos
  · rw [show (-x.exponent).toNat = 0 by omega, pow_zero, mul_one]
    rcases lt_or_ge x.exponent 16 with below | above
    · have length := Nat.length_toDigits_le_iff (b := 10) (n := x.coefficient)
        (k := 16 - x.exponent.toNat) (by decide) (by omega)
      have split : 10 ^ 16 = 10 ^ (16 - x.exponent.toNat) * 10 ^ x.exponent.toNat := by
        rw [← pow_add]
        congr 1
        omega
      rw [split, Nat.mul_lt_mul_right (Nat.pow_pos (by decide)), ← length]
      change _ ↔ x.digits.length ≤ _
      omega
    · have nonzero : 0 < x.coefficient := by
        rcases x.normal with ⟨-, exponent⟩ | ⟨notDivisible, -⟩ <;> omega
      refine iff_of_false (by omega) (not_lt.mpr ?_)
      calc 10 ^ 16 ≤ 1 * 10 ^ x.exponent.toNat := by
            rw [one_mul]
            exact Nat.pow_le_pow_right (by decide) (by omega)
        _ ≤ x.coefficient * 10 ^ x.exponent.toNat := Nat.mul_le_mul_right _ nonzero

theorem readBack_of_small {x : PyFloat} (small : x.Small) :
    x.readBack = .float x.unsignedZero :=
  if_neg (not_lt.mpr small)

end PyFloat

namespace Json

/-! ## Traversals -/

mutual

def mapFloats (change : PyFloat → PyFloat) : Json → Json
  | array items => array (mapFloatsItems change items)
  | object fields => object (mapFloatsFields change fields)
  | float value => float (change value)
  | null => null
  | bool value => bool value
  | int value => int value
  | str value => str value

def mapFloatsItems (change : PyFloat → PyFloat) : List Json → List Json
  | [] => []
  | item :: items => mapFloats change item :: mapFloatsItems change items

def mapFloatsFields (change : PyFloat → PyFloat) :
    List (String × Json) → List (String × Json)
  | [] => []
  | (key, value) :: fields => (key, mapFloats change value) :: mapFloatsFields change fields

end

mutual

def SmallFloats : Json → Prop
  | array items => SmallFloatsItems items
  | object fields => SmallFloatsFields fields
  | float value => value.Small
  | null | bool _ | int _ | str _ => True

def SmallFloatsItems : List Json → Prop
  | [] => True
  | item :: items => SmallFloats item ∧ SmallFloatsItems items

def SmallFloatsFields : List (String × Json) → Prop
  | [] => True
  | (_, value) :: fields => SmallFloats value ∧ SmallFloatsFields fields

end

mutual

/-- A Python dict holds every key once. -/
def KeysNodup : Json → Prop
  | array items => KeysNodupItems items
  | object fields => (fields.map Prod.fst).Nodup ∧ KeysNodupFields fields
  | null | bool _ | int _ | float _ | str _ => True

def KeysNodupItems : List Json → Prop
  | [] => True
  | item :: items => KeysNodup item ∧ KeysNodupItems items

def KeysNodupFields : List (String × Json) → Prop
  | [] => True
  | (_, value) :: fields => KeysNodup value ∧ KeysNodupFields fields

end

/-! ## Reading back -/

mutual

def ReadBack : Json → Json → Prop
  | null, result => result = null
  | bool value, result => result = bool value
  | int value, result => result = int value
  | float value, result => result = value.readBack
  | str value, result => result = str value
  | array items, result => ∃ others, result = array others ∧ ReadBackItems items others
  | object fields, result => ∃ middle others, result = object others ∧
      ReadBackFields fields middle ∧ middle.Perm others

def ReadBackItems : List Json → List Json → Prop
  | [], results => results = []
  | item :: items, results => ∃ other others, results = other :: others ∧
      ReadBack item other ∧ ReadBackItems items others

def ReadBackFields : List (String × Json) → List (String × Json) → Prop
  | [], results => results = []
  | (key, value) :: fields, results => ∃ other others, results = (key, other) :: others ∧
      ReadBack value other ∧ ReadBackFields fields others

end

theorem sortFields_eq_map (fields : List (String × Json)) :
    sortFields fields = fields.map fun field => (field.1, sortKeys field.2) := by
  induction fields with
  | nil => rfl
  | cons field fields induction => rw [sortFields, induction, List.map_cons]

theorem mapFloatsFields_eq_map (change : PyFloat → PyFloat) (fields : List (String × Json)) :
    mapFloatsFields change fields =
      fields.map fun field => (field.1, mapFloats change field.2) := by
  induction fields with
  | nil => rfl
  | cons field fields induction => rw [mapFloatsFields, induction, List.map_cons]

/-- Sorting forgets the order in which distinct keys were given. -/
theorem insertionSort_eq_of_perm {left right : List (String × Json)} (perm : left.Perm right)
    (nodup : (left.map Prod.fst).Nodup) :
    left.insertionSort (fun a b => a.1 ≤ b.1) = right.insertionSort fun a b => a.1 ≤ b.1 := by
  have leftPerm := left.perm_insertionSort fun a b : String × Json => a.1 ≤ b.1
  have rightPerm := right.perm_insertionSort fun a b : String × Json => a.1 ≤ b.1
  have total : Std.Total fun a b : String × Json => a.1 ≤ b.1 := ⟨fun a b => le_total a.1 b.1⟩
  have trans : IsTrans (String × Json) fun a b => a.1 ≤ b.1 :=
    ⟨fun _ _ _ first second => le_trans first second⟩
  refine List.Perm.eq_of_pairwise ?_ (List.pairwise_insertionSort _ left)
    (List.pairwise_insertionSort _ right) (leftPerm.trans (perm.trans rightPerm.symm))
  intro a b aMember bMember aLe bLe
  have injective := List.inj_on_of_nodup_map nodup
  exact injective (leftPerm.mem_iff.mp aMember)
    (perm.mem_iff.mpr (rightPerm.mem_iff.mp bMember)) (le_antisymm aLe bLe)

mutual

/-- Up to the sign of zero, the canonical form of a document without large
floats survives storage. -/
theorem sortKeys_readBack : ∀ {document result : Json}, document.KeysNodup →
    document.SmallFloats → ReadBack document result →
    sortKeys (mapFloats PyFloat.unsignedZero document) =
      sortKeys (mapFloats PyFloat.unsignedZero result)
  | null, result, _, _, readBack => by rw [readBack]
  | bool _, result, _, _, readBack => by rw [readBack]
  | int _, result, _, _, readBack => by rw [readBack]
  | str _, result, _, _, readBack => by rw [readBack]
  | float value, result, _, small, readBack => by
      rw [ReadBack, PyFloat.readBack_of_small small] at readBack
      rw [readBack, mapFloats, mapFloats, PyFloat.unsignedZero_idem]
  | array items, result, nodup, small, readBack => by
      rw [ReadBack] at readBack
      obtain ⟨others, rfl, readBack⟩ := readBack
      rw [mapFloats, mapFloats, sortKeys, sortKeys, sortItems_readBack nodup small readBack]
  | object fields, result, nodup, small, readBack => by
      rw [ReadBack] at readBack
      obtain ⟨middle, others, rfl, readBack, perm⟩ := readBack
      rw [KeysNodup] at nodup
      obtain ⟨sameKeys, sameFields⟩ := sortFields_readBack nodup.2 small readBack
      rw [mapFloats, mapFloats, sortKeys, sortKeys, sameFields]
      congr 1
      apply insertionSort_eq_of_perm
      · simp only [sortFields_eq_map, mapFloatsFields_eq_map]
        exact (perm.map _).map _
      · simp only [sortFields_eq_map, mapFloatsFields_eq_map, List.map_map, Function.comp_def]
        rw [show (fun field : String × Json => field.1) = Prod.fst from rfl, ← sameKeys]
        exact nodup.1

theorem sortItems_readBack : ∀ {items results : List Json}, KeysNodupItems items →
    SmallFloatsItems items → ReadBackItems items results →
    sortItems (mapFloatsItems PyFloat.unsignedZero items) =
      sortItems (mapFloatsItems PyFloat.unsignedZero results)
  | [], results, _, _, readBack => by rw [readBack]
  | item :: items, results, nodup, small, readBack => by
      rw [ReadBackItems] at readBack
      obtain ⟨other, others, rfl, itemBack, itemsBack⟩ := readBack
      rw [mapFloatsItems, mapFloatsItems, sortItems, sortItems,
        sortKeys_readBack nodup.1 small.1 itemBack, sortItems_readBack nodup.2 small.2 itemsBack]

theorem sortFields_readBack : ∀ {fields results : List (String × Json)},
    KeysNodupFields fields → SmallFloatsFields fields → ReadBackFields fields results →
    fields.map Prod.fst = results.map Prod.fst ∧
      sortFields (mapFloatsFields PyFloat.unsignedZero fields) =
        sortFields (mapFloatsFields PyFloat.unsignedZero results)
  | [], results, _, _, readBack => by
      rw [ReadBackFields] at readBack
      rw [readBack]
      exact ⟨rfl, rfl⟩
  | (key, value) :: fields, results, nodup, small, readBack => by
      rw [ReadBackFields] at readBack
      obtain ⟨other, others, rfl, valueBack, fieldsBack⟩ := readBack
      obtain ⟨sameKeys, sameFields⟩ := sortFields_readBack nodup.2 small.2 fieldsBack
      constructor
      · rw [List.map_cons, List.map_cons, sameKeys]
      · rw [mapFloatsFields, mapFloatsFields, sortFields, sortFields,
          sortKeys_readBack nodup.1 small.1 valueBack, sameFields]

end

/-- Objects with one canonical form have values of one canonical form under
each key. -/
theorem sortKeys_field_eq {left right : List (String × Json)}
    (nodup : (right.map Prod.fst).Nodup)
    (equal : sortKeys (object left) = sortKeys (object right)) {key : String}
    {leftValue rightValue : Json} (leftMember : (key, leftValue) ∈ left)
    (rightMember : (key, rightValue) ∈ right) : sortKeys leftValue = sortKeys rightValue := by
  simp only [sortKeys, object.injEq] at equal
  have leftPerm := List.perm_insertionSort (fun a b : String × Json => a.1 ≤ b.1)
    (sortFields left)
  have rightPerm := List.perm_insertionSort (fun a b : String × Json => a.1 ≤ b.1)
    (sortFields right)
  have perm : (sortFields left).Perm (sortFields right) :=
    leftPerm.symm.trans (equal ▸ rightPerm)
  rw [sortFields_eq_map, sortFields_eq_map] at perm
  have member := perm.mem_iff.mp (List.mem_map.mpr ⟨(key, leftValue), leftMember, rfl⟩)
  rcases List.mem_map.mp member with ⟨⟨otherKey, other⟩, otherMember, same⟩
  injection same with sameKey sameValue
  have unique := List.inj_on_of_nodup_map nodup otherMember rightMember sameKey
  injection unique with _ sameOther
  rw [← sameValue, sameOther]

/-! ## One way to read back -/

mutual

/-- The document that comes back when no key moves. -/
def copy : Json → Json
  | array items => array (copyItems items)
  | object fields => object (copyFields fields)
  | float value => value.readBack
  | null => null
  | bool value => bool value
  | int value => int value
  | str value => str value

def copyItems : List Json → List Json
  | [] => []
  | item :: items => copy item :: copyItems items

def copyFields : List (String × Json) → List (String × Json)
  | [] => []
  | (key, value) :: fields => (key, copy value) :: copyFields fields

end

mutual

theorem readBack_copy : ∀ document : Json, ReadBack document (copy document)
  | null | bool _ | int _ | float _ | str _ => rfl
  | array items => ⟨copyItems items, rfl, readBackItems_copy items⟩
  | object fields => ⟨copyFields fields, copyFields fields, rfl, readBackFields_copy fields, .rfl⟩

theorem readBackItems_copy : ∀ items : List Json, ReadBackItems items (copyItems items)
  | [] => rfl
  | item :: items => ⟨copy item, copyItems items, rfl, readBack_copy item, readBackItems_copy items⟩

theorem readBackFields_copy : ∀ fields : List (String × Json),
    ReadBackFields fields (copyFields fields)
  | [] => rfl
  | (_, value) :: fields =>
      ⟨copy value, copyFields fields, rfl, readBack_copy value, readBackFields_copy fields⟩

end

theorem copyFields_mem {fields : List (String × Json)} {key : String} {value : Json}
    (member : (key, value) ∈ fields) : (key, copy value) ∈ copyFields fields := by
  induction fields with
  | nil => cases member
  | cons field fields induction =>
      rcases List.mem_cons.mp member with equal | member
      · rw [← equal]
        exact List.mem_cons_self
      · exact List.mem_cons_of_mem _ (induction member)

/-! ## Lookup -/

theorem lookup_eq_some_of_mem {fields : List (String × Json)}
    (nodup : (fields.map Prod.fst).Nodup) {key : String} {value : Json}
    (member : (key, value) ∈ fields) : fields.lookup key = some value := by
  induction fields with
  | nil => cases member
  | cons field fields induction =>
      have parts := List.nodup_cons.mp nodup
      rcases List.mem_cons.mp member with equal | member
      · rw [← equal, List.lookup_cons_self]
      · have different : (key == field.1) = false := by
          rw [beq_eq_false_iff_ne]
          intro equal
          exact parts.1 (equal ▸ List.mem_map.mpr ⟨(key, value), member, rfl⟩)
        rw [List.lookup_cons, different]
        exact induction parts.2 member

/-- Every written field is read back under its key. -/
theorem readBackFields_mem {fields results : List (String × Json)}
    (readBack : ReadBackFields fields results) {key : String} {value : Json}
    (member : (key, value) ∈ fields) : ∃ other, (key, other) ∈ results ∧ ReadBack value other := by
  induction fields generalizing results with
  | nil => cases member
  | cons field fields induction =>
      obtain ⟨fieldKey, fieldValue⟩ := field
      rw [ReadBackFields] at readBack
      obtain ⟨other, others, rfl, valueBack, fieldsBack⟩ := readBack
      rcases List.mem_cons.mp member with equal | member
      · injection equal with sameKey sameValue
        subst sameKey sameValue
        exact ⟨other, List.mem_cons_self, valueBack⟩
      · obtain ⟨found, foundMember, foundBack⟩ := induction fieldsBack member
        exact ⟨found, List.mem_cons_of_mem _ foundMember, foundBack⟩

theorem readBackFields_keys {fields results : List (String × Json)}
    (readBack : ReadBackFields fields results) :
    fields.map Prod.fst = results.map Prod.fst := by
  induction fields generalizing results with
  | nil =>
      rw [ReadBackFields] at readBack
      rw [readBack]
  | cons field fields induction =>
      obtain ⟨fieldKey, fieldValue⟩ := field
      rw [ReadBackFields] at readBack
      obtain ⟨other, others, rfl, -, fieldsBack⟩ := readBack
      rw [List.map_cons, List.map_cons, induction fieldsBack]

/-- An object comes back as an object with the same keys, under each of which
its value was read back. -/
theorem readBack_object {fields : List (String × Json)} {result : Json}
    (nodup : (fields.map Prod.fst).Nodup) (readBack : ReadBack (.object fields) result) :
    ∃ others, result = .object others ∧ (others.map Prod.fst).Perm (fields.map Prod.fst) ∧
      ∀ key value, (key, value) ∈ fields →
        ∃ other, others.lookup key = some other ∧ ReadBack value other := by
  rw [ReadBack] at readBack
  obtain ⟨middle, others, rfl, fieldsBack, perm⟩ := readBack
  have keys := readBackFields_keys fieldsBack
  have keysPerm : (others.map Prod.fst).Perm (fields.map Prod.fst) := by
    rw [keys]
    exact (perm.map Prod.fst).symm
  refine ⟨others, rfl, keysPerm, ?_⟩
  intro key value member
  obtain ⟨other, otherMember, valueBack⟩ := readBackFields_mem fieldsBack member
  exact ⟨other, lookup_eq_some_of_mem (keysPerm.nodup_iff.mpr nodup)
    (perm.mem_iff.mp otherMember), valueBack⟩

end Json

end RvcOrchestrator.Foundation
