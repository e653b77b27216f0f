import Mathlib.Data.List.Sort
import Mathlib.Data.String.Basic
import Mathlib.Tactic.IntervalCases
import RvcOrchestrator.Foundation.Float

/-! # JSON documents and their canonical text

Documents as Python holds them: integers and floats are different values. The
compact text with sorted keys determines the document up to the order of its
keys, which is what makes a digest of the text a digest of the document.
-/

namespace RvcOrchestrator.Foundation

inductive Json where
  | null
  | bool (value : Bool)
  | int (value : Int)
  | float (value : PyFloat)
  | str (value : String)
  | array (items : List Json)
  | object (fields : List (String × Json))

namespace Json

/-! ## Equality -/

mutual

def beq : Json → Json → Bool
  | null, null => true
  | bool left, bool right => left == right
  | int left, int right => left == right
  | float left, float right => left == right
  | str left, str right => left == right
  | array left, array right => beqItems left right
  | object left, object right => beqFields left right
  | _, _ => false

def beqItems : List Json → List Json → Bool
  | [], [] => true
  | left :: lefts, right :: rights => beq left right && beqItems lefts rights
  | _, _ => false

def beqFields : List (String × Json) → List (String × Json) → Bool
  | [], [] => true
  | (leftKey, left) :: lefts, (rightKey, right) :: rights =>
      leftKey == rightKey && beq left right && beqFields lefts rights
  | _, _ => false

end

mutual

theorem eq_of_beq : ∀ {left right : Json}, beq left right = true → left = right
  | null, right, equal => by cases right <;> simp_all [beq]
  | bool _, right, equal => by cases right <;> simp_all [beq]
  | int _, right, equal => by cases right <;> simp_all [beq]
  | float _, right, equal => by cases right <;> simp_all [beq]
  | str _, right, equal => by cases right <;> simp_all [beq]
  | array items, right, equal => by
      cases right with
      | array others =>
          rw [beq] at equal
          rw [eqItems_of_beq equal]
      | _ => simp [beq] at equal
  | object fields, right, equal => by
      cases right with
      | object others =>
          rw [beq] at equal
          rw [eqFields_of_beq equal]
      | _ => simp [beq] at equal

theorem eqItems_of_beq : ∀ {left right : List Json}, beqItems left right = true → left = right
  | [], right, equal => by cases right <;> simp_all [beqItems]
  | item :: items, right, equal => by
      cases right with
      | nil => simp [beqItems] at equal
      | cons other others =>
          rw [beqItems, Bool.and_eq_true] at equal
          rw [eq_of_beq equal.1, eqItems_of_beq equal.2]

theorem eqFields_of_beq : ∀ {left right : List (String × Json)},
    beqFields left right = true → left = right
  | [], right, equal => by cases right <;> simp_all [beqFields]
  | (key, value) :: fields, right, equal => by
      cases right with
      | nil => simp [beqFields] at equal
      | cons other others =>
          rw [beqFields, Bool.and_eq_true, Bool.and_eq_true, beq_iff_eq] at equal
          rw [eq_of_beq equal.1.2, eqFields_of_beq equal.2, equal.1.1]

end

mutual

theorem beq_refl : ∀ value : Json, beq value value = true
  | null => rfl
  | bool _ | int _ | float _ | str _ => by simp [beq]
  | array items => by rw [beq, beqItems_refl]
  | object fields => by rw [beq, beqFields_refl]

theorem beqItems_refl : ∀ items : List Json, beqItems items items = true
  | [] => rfl
  | item :: items => by rw [beqItems, beq_refl, beqItems_refl, Bool.and_self]

theorem beqFields_refl : ∀ fields : List (String × Json), beqFields fields fields = true
  | [] => rfl
  | (key, value) :: fields => by
      rw [beqFields, beq_refl, beqFields_refl, beq_self_eq_true, Bool.and_self, Bool.and_self]

end

instance : DecidableEq Json := fun left right =>
  decidable_of_iff (beq left right = true) ⟨eq_of_beq, fun equal => equal ▸ beq_refl left⟩

/-! ## Compact text -/

def intText (value : Int) : List Char :=
  if value < 0 then '-' :: Nat.toDigits 10 value.natAbs else Nat.toDigits 10 value.natAbs

def hexDigit (value : Nat) : Char :=
  if value < 10 then Char.ofNat (48 + value) else Char.ofNat (87 + value)

/-- Non-ASCII characters stay as they are (`ensure_ascii=False`). -/
def escapeChar (char : Char) : List Char :=
  if char = '"' then ['\\', '"']
  else if char = '\\' then ['\\', '\\']
  else if char.toNat = 8 then ['\\', 'b']
  else if char.toNat = 9 then ['\\', 't']
  else if char.toNat = 10 then ['\\', 'n']
  else if char.toNat = 12 then ['\\', 'f']
  else if char.toNat = 13 then ['\\', 'r']
  else if char.toNat < 32 then
    ['\\', 'u', '0', '0', hexDigit (char.toNat / 16), hexDigit (char.toNat % 16)]
  else [char]

def strText (value : String) : List Char :=
  '"' :: (value.toList.flatMap escapeChar ++ ['"'])

mutual

/-- `json.dumps` with the separators `,` and `:`. -/
def render : Json → List Char
  | null => ['n', 'u', 'l', 'l']
  | bool true => ['t', 'r', 'u', 'e']
  | bool false => ['f', 'a', 'l', 's', 'e']
  | int value => intText value
  | float value => value.repr
  | str value => strText value
  | array [] => ['[', ']']
  | array (item :: items) => '[' :: (render item ++ renderItems items)
  | object [] => ['{', '}']
  | object ((key, value) :: fields) =>
      '{' :: (strText key ++ ':' :: (render value ++ renderFields fields))

def renderItems : List Json → List Char
  | [] => [']']
  | item :: items => ',' :: (render item ++ renderItems items)

def renderFields : List (String × Json) → List Char
  | [] => ['}']
  | (key, value) :: fields =>
      ',' :: (strText key ++ ':' :: (render value ++ renderFields fields))

end

mutual

/-- `sort_keys=True`: every object in the order of its keys. -/
def sortKeys : Json → Json
  | array items => array (sortItems items)
  | object fields => object ((sortFields fields).insertionSort fun left right => left.1 ≤ right.1)
  | null => null
  | bool value => bool value
  | int value => int value
  | float value => float value
  | str value => str value

def sortItems : List Json → List Json
  | [] => []
  | item :: items => sortKeys item :: sortItems items

def sortFields : List (String × Json) → List (String × Json)
  | [] => []
  | (key, value) :: fields => (key, sortKeys value) :: sortFields fields

end

def dumps (document : Json) : String :=
  String.ofList (render (sortKeys document))

/-! ## Unique readability -/

def hexValue (char : Char) : Nat :=
  if char.isDigit then char.toNat - 48 else char.toNat - 87

def readChar : List Char → Option (Char × List Char)
  | '\\' :: 'u' :: _ :: _ :: high :: low :: rest =>
      some (Char.ofNat (16 * hexValue high + hexValue low), rest)
  | '\\' :: 'b' :: rest => some (Char.ofNat 8, rest)
  | '\\' :: 't' :: rest => some (Char.ofNat 9, rest)
  | '\\' :: 'n' :: rest => some (Char.ofNat 10, rest)
  | '\\' :: 'f' :: rest => some (Char.ofNat 12, rest)
  | '\\' :: 'r' :: rest => some (Char.ofNat 13, rest)
  | '\\' :: char :: rest => some (char, rest)
  | char :: rest => some (char, rest)
  | [] => none

theorem readChar_escapeChar (char : Char) (rest : List Char) :
    readChar (escapeChar char ++ rest) = some (char, rest) := by
  have control : ∀ code < 32, readChar (escapeChar (Char.ofNat code) ++ rest) =
      some (Char.ofNat code, rest) := by
    intro code small
    interval_cases code <;> rfl
  by_cases small : char.toNat < 32
  · have found := control char.toNat small
    rwa [Char.ofNat_toNat] at found
  · by_cases quote : char = '"'
    · subst quote
      rfl
    · by_cases backslash : char = '\\'
      · subst backslash
        rfl
      · have plain : escapeChar char = [char] := by
          unfold escapeChar
          rw [if_neg quote, if_neg backslash, if_neg (by omega), if_neg (by omega),
            if_neg (by omega), if_neg (by omega), if_neg (by omega), if_neg small]
        rw [plain, List.cons_append, List.nil_append]
        unfold readChar
        split <;> simp_all

/-- No escaped character starts with the closing quote. -/
theorem escapeChar_head_ne_quote (char : Char) (rest other : List Char) :
    escapeChar char ++ rest ≠ '"' :: other := by
  intro equal
  by_cases quote : char = '"'
  · subst quote
    cases equal
  · have read := readChar_escapeChar char rest
    rw [equal, show readChar ('"' :: other) = some ('"', other) from rfl, Option.some.injEq,
      Prod.mk.injEq] at read
    exact quote read.1.symm

private theorem escaped_injective : ∀ {left right leftRest rightRest : List Char},
    left.flatMap escapeChar ++ '"' :: leftRest = right.flatMap escapeChar ++ '"' :: rightRest →
    left = right ∧ leftRest = rightRest
  | [], [], _, _, equal => ⟨rfl, (List.cons.inj equal).2⟩
  | [], char :: right, _, _, equal => by
      rw [List.flatMap_cons, List.append_assoc] at equal
      exact absurd equal.symm (escapeChar_head_ne_quote char _ _)
  | char :: left, [], _, _, equal => by
      rw [List.flatMap_cons, List.append_assoc] at equal
      exact absurd equal (escapeChar_head_ne_quote char _ _)
  | leftChar :: left, rightChar :: right, _, _, equal => by
      rw [List.flatMap_cons, List.append_assoc, List.flatMap_cons, List.append_assoc] at equal
      have read := congrArg readChar equal
      rw [readChar_escapeChar, readChar_escapeChar, Option.some.injEq, Prod.mk.injEq] at read
      obtain ⟨sameTail, sameRest⟩ := escaped_injective read.2
      exact ⟨by rw [read.1, sameTail], sameRest⟩

theorem strText_injective {left right : String} {leftRest rightRest : List Char}
    (equal : strText left ++ leftRest = strText right ++ rightRest) :
    left = right ∧ leftRest = rightRest := by
  simp only [strText, List.cons_append, List.append_assoc, List.nil_append,
    List.cons.injEq, true_and] at equal
  obtain ⟨sameText, sameRest⟩ := escaped_injective equal
  exact ⟨String.toList_injective sameText, sameRest⟩

/-- What may follow a number: nothing, or a character no number contains. -/
def Stops (rest : List Char) : Prop :=
  ∀ char ∈ rest.head?, ¬PyFloat.IsNumberChar char

private theorem number_injective {left right leftRest rightRest : List Char}
    (leftNumber : ∀ char ∈ left, PyFloat.IsNumberChar char)
    (rightNumber : ∀ char ∈ right, PyFloat.IsNumberChar char)
    (leftStops : Stops leftRest) (rightStops : Stops rightRest)
    (equal : left ++ leftRest = right ++ rightRest) : left = right ∧ leftRest = rightRest := by
  have taken : ∀ {front rest : List Char}, (∀ char ∈ front, PyFloat.IsNumberChar char) →
      Stops rest → (front ++ rest).takeWhile (PyFloat.IsNumberChar ·) = front := by
    intro front rest number stops
    rw [List.takeWhile_append_of_pos (by simpa using number)]
    have nothing : rest.takeWhile (PyFloat.IsNumberChar ·) = [] := by
      cases rest with
      | nil => rfl
      | cons head tail =>
          exact List.takeWhile_cons_of_neg (by simpa using stops head rfl)
    rw [nothing, List.append_nil]
  have same : left = right := by
    rw [← taken leftNumber leftStops, equal, taken rightNumber rightStops]
  exact ⟨same, List.append_cancel_left (same ▸ equal)⟩

theorem isNumberChar_of_mem_intText {value : Int} {char : Char}
    (member : char ∈ intText value) : PyFloat.IsNumberChar char := by
  unfold intText at member
  split at member
  · rcases List.mem_cons.mp member with rfl | digit
    · decide
    · exact PyFloat.isNumberChar_of_mem_toDigits digit
  · exact PyFloat.isNumberChar_of_mem_toDigits member

private theorem not_mem_intText {char : Char} (notDigit : char.isDigit = false)
    (notMinus : char ≠ '-') (value : Int) : char ∉ intText value := by
  have notInDigits : char ∉ Nat.toDigits 10 value.natAbs := by
    intro member
    rw [Nat.isDigit_of_mem_toDigits (by decide) (by decide) member] at notDigit
    cases notDigit
  unfold intText
  split
  · simp [notMinus, notInDigits]
  · exact notInDigits

theorem intText_injective : Function.Injective intText := by
  have digitsInjective : ∀ {left right : Nat}, Nat.toDigits 10 left = Nat.toDigits 10 right →
      left = right := by
    intro left right equal
    have read := congrArg (fun text => Nat.ofDigitChars 10 text 0) equal
    simpa using read
  have notMinus : ∀ {value : Nat} {rest : List Char}, Nat.toDigits 10 value ≠ '-' :: rest := by
    intro value rest equal
    have member : '-' ∈ Nat.toDigits 10 value := equal ▸ List.mem_cons_self
    exact absurd (Nat.isDigit_of_mem_toDigits (by decide) (by decide) member) (by decide)
  intro left right equal
  unfold intText at equal
  split at equal <;> split at equal
  · have same := digitsInjective (List.cons.inj equal).2
    omega
  · exact absurd equal.symm notMinus
  · exact absurd equal notMinus
  · have same := digitsInjective equal
    omega

theorem intText_ne_repr (value : Int) (x : PyFloat) : intText value ≠ x.repr := by
  intro equal
  rcases x.point_or_exponent_mem_repr with point | exponent
  · exact not_mem_intText (by decide) (by decide) value (equal ▸ point)
  · exact not_mem_intText (by decide) (by decide) value (equal ▸ exponent)

/-- The first character of a text tells its kind. Both kinds of number share
one. -/
inductive Kind where
  | null
  | bool
  | number
  | str
  | array
  | object
deriving DecidableEq

def kind : Json → Kind
  | null => .null
  | bool _ => .bool
  | int _ | float _ => .number
  | str _ => .str
  | array _ => .array
  | object _ => .object

def kindOfHead (char : Char) : Option Kind :=
  if char.isDigit = true ∨ char = '-' then some .number
  else if char = 'n' then some .null
  else if char = 't' ∨ char = 'f' then some .bool
  else if char = '"' then some .str
  else if char = '[' then some .array
  else if char = '{' then some .object
  else none

theorem render_eq_cons (document : Json) :
    ∃ head rest, render document = head :: rest ∧ kindOfHead head = some document.kind := by
  match document with
  | null => exact ⟨_, _, rfl, rfl⟩
  | bool true => exact ⟨_, _, rfl, rfl⟩
  | bool false => exact ⟨_, _, rfl, rfl⟩
  | str value => exact ⟨_, _, rfl, rfl⟩
  | array [] => exact ⟨_, _, rfl, rfl⟩
  | array (item :: items) => exact ⟨_, _, rfl, rfl⟩
  | object [] => exact ⟨_, _, rfl, rfl⟩
  | object ((key, value) :: fields) => exact ⟨_, _, rfl, rfl⟩
  | int value =>
      simp only [render, intText]
      split
      · exact ⟨_, _, rfl, if_pos (.inr rfl)⟩
      · match shape : Nat.toDigits 10 value.natAbs with
        | [] => exact absurd shape Nat.toDigits_ne_nil
        | digit :: rest =>
            have member : digit ∈ Nat.toDigits 10 value.natAbs := shape ▸ List.mem_cons_self
            exact ⟨digit, rest, rfl,
              if_pos (.inl (Nat.isDigit_of_mem_toDigits (by decide) (by decide) member))⟩
  | float x =>
      obtain ⟨digit, rest, shape, isDigit⟩ := x.magnitudeText_eq_cons
      simp only [render, PyFloat.repr]
      split
      · exact ⟨_, _, rfl, if_pos (.inr rfl)⟩
      · exact ⟨digit, rest, shape, if_pos (.inl isDigit)⟩

private theorem kind_eq {left right : Json} {leftRest rightRest : List Char}
    (equal : render left ++ leftRest = render right ++ rightRest) : left.kind = right.kind := by
  obtain ⟨leftHead, leftTail, leftShape, leftKind⟩ := render_eq_cons left
  obtain ⟨rightHead, rightTail, rightShape, rightKind⟩ := render_eq_cons right
  rw [leftShape, rightShape, List.cons_append, List.cons_append] at equal
  rw [(List.cons.inj equal).1, rightKind] at leftKind
  exact (Option.some.inj leftKind).symm

private theorem stops_renderItems (items : List Json) (rest : List Char) :
    Stops (renderItems items ++ rest) := by
  cases items <;> simp [renderItems, Stops, PyFloat.IsNumberChar]

private theorem stops_renderFields (fields : List (String × Json)) (rest : List Char) :
    Stops (renderFields fields ++ rest) := by
  match fields with
  | [] => simp [renderFields, Stops, PyFloat.IsNumberChar]
  | (key, value) :: fields => simp [renderFields, Stops, PyFloat.IsNumberChar]

mutual

/-- A text can be cut in only one way into a document and what follows it. -/
theorem render_injective : ∀ {left right : Json} {leftRest rightRest : List Char},
    Stops leftRest → Stops rightRest → render left ++ leftRest = render right ++ rightRest →
    left = right ∧ leftRest = rightRest
  | null, right, leftRest, rightRest, leftStops, rightStops, equal => by
      have sameKind := kind_eq equal
      cases right <;> simp_all [kind, render]
  | bool value, right, leftRest, rightRest, leftStops, rightStops, equal => by
      have sameKind := kind_eq equal
      cases right with
      | bool other => cases value <;> cases other <;> simp_all [render]
      | _ => cases sameKind
  | int value, right, leftRest, rightRest, leftStops, rightStops, equal => by
      have sameKind := kind_eq equal
      cases right with
      | int other =>
          obtain ⟨same, rest⟩ := number_injective (fun _ => isNumberChar_of_mem_intText)
            (fun _ => isNumberChar_of_mem_intText) leftStops rightStops equal
          exact ⟨by rw [intText_injective same], rest⟩
      | float other =>
          obtain ⟨same, -⟩ := number_injective (fun _ => isNumberChar_of_mem_intText)
            (fun _ => PyFloat.isNumberChar_of_mem_repr) leftStops rightStops equal
          exact absurd same (intText_ne_repr value other)
      | _ => cases sameKind
  | float value, right, leftRest, rightRest, leftStops, rightStops, equal => by
      have sameKind := kind_eq equal
      cases right with
      | float other =>
          obtain ⟨same, rest⟩ := number_injective (fun _ => PyFloat.isNumberChar_of_mem_repr)
            (fun _ => PyFloat.isNumberChar_of_mem_repr) leftStops rightStops equal
          exact ⟨by rw [PyFloat.repr_injective same], rest⟩
      | int other =>
          obtain ⟨same, -⟩ := number_injective (fun _ => PyFloat.isNumberChar_of_mem_repr)
            (fun _ => isNumberChar_of_mem_intText) leftStops rightStops equal
          exact absurd same.symm (intText_ne_repr other value)
      | _ => cases sameKind
  | str value, right, leftRest, rightRest, leftStops, rightStops, equal => by
      have sameKind := kind_eq equal
      cases right with
      | str other =>
          obtain ⟨same, rest⟩ := strText_injective equal
          exact ⟨by rw [same], rest⟩
      | _ => cases sameKind
  | array [], right, leftRest, rightRest, leftStops, rightStops, equal => by
      have sameKind := kind_eq equal
      match right with
      | array [] => exact ⟨rfl, by simpa [render] using equal⟩
      | array (item :: items) =>
          obtain ⟨head, rest, shape, headKind⟩ := render_eq_cons item
          simp only [render, shape, List.cons_append, List.nil_append, List.cons.injEq,
            true_and] at equal
          rw [← equal.1] at headKind
          cases headKind
      | null | bool _ | int _ | float _ | str _ | object _ => cases sameKind
  | array (item :: items), right, leftRest, rightRest, leftStops, rightStops, equal => by
      have sameKind := kind_eq equal
      match right with
      | array [] =>
          obtain ⟨head, rest, shape, headKind⟩ := render_eq_cons item
          simp only [render, shape, List.cons_append, List.nil_append, List.cons.injEq,
            true_and] at equal
          rw [equal.1] at headKind
          cases headKind
      | array (other :: others) =>
          simp only [render, List.cons_append, List.append_assoc, List.cons.injEq,
            true_and] at equal
          obtain ⟨sameItem, equal⟩ := render_injective (stops_renderItems _ _)
            (stops_renderItems _ _) equal
          obtain ⟨sameItems, rest⟩ := renderItems_injective equal
          exact ⟨by rw [sameItem, sameItems], rest⟩
      | null | bool _ | int _ | float _ | str _ | object _ => cases sameKind
  | object [], right, leftRest, rightRest, leftStops, rightStops, equal => by
      have sameKind := kind_eq equal
      match right with
      | object [] => exact ⟨rfl, by simpa [render] using equal⟩
      | object ((key, value) :: fields) =>
          simp [render, strText] at equal
      | null | bool _ | int _ | float _ | str _ | array _ => cases sameKind
  | object ((key, value) :: fields), right, leftRest, rightRest, leftStops, rightStops, equal => by
      have sameKind := kind_eq equal
      match right with
      | object [] => simp [render, strText] at equal
      | object ((otherKey, other) :: others) =>
          simp only [render, List.cons_append, List.append_assoc, List.cons.injEq,
            true_and] at equal
          obtain ⟨sameKey, equal⟩ := strText_injective equal
          obtain ⟨sameValue, equal⟩ := render_injective (stops_renderFields _ _)
            (stops_renderFields _ _) (List.cons.inj equal).2
          obtain ⟨sameFields, rest⟩ := renderFields_injective equal
          exact ⟨by rw [sameKey, sameValue, sameFields], rest⟩
      | null | bool _ | int _ | float _ | str _ | array _ => cases sameKind

theorem renderItems_injective : ∀ {left right : List Json} {leftRest rightRest : List Char},
    renderItems left ++ leftRest = renderItems right ++ rightRest →
    left = right ∧ leftRest = rightRest
  | [], [], _, _, equal => ⟨rfl, by simpa [renderItems] using equal⟩
  | [], _ :: _, _, _, equal => by simp [renderItems] at equal
  | _ :: _, [], _, _, equal => by simp [renderItems] at equal
  | item :: items, other :: others, _, _, equal => by
      simp only [renderItems, List.cons_append, List.append_assoc, List.cons.injEq,
        true_and] at equal
      obtain ⟨sameItem, equal⟩ := render_injective (stops_renderItems _ _)
        (stops_renderItems _ _) equal
      obtain ⟨sameItems, rest⟩ := renderItems_injective equal
      exact ⟨by rw [sameItem, sameItems], rest⟩

theorem renderFields_injective : ∀ {left right : List (String × Json)}
    {leftRest rightRest : List Char},
    renderFields left ++ leftRest = renderFields right ++ rightRest →
    left = right ∧ leftRest = rightRest
  | [], [], _, _, equal => ⟨rfl, by simpa [renderFields] using equal⟩
  | [], (_, _) :: _, _, _, equal => by simp [renderFields] at equal
  | (_, _) :: _, [], _, _, equal => by simp [renderFields] at equal
  | (key, value) :: fields, (otherKey, other) :: others, _, _, equal => by
      simp only [renderFields, List.cons_append, List.append_assoc, List.cons.injEq,
        true_and] at equal
      obtain ⟨sameKey, equal⟩ := strText_injective equal
      obtain ⟨sameValue, equal⟩ := render_injective (stops_renderFields _ _)
        (stops_renderFields _ _) (List.cons.inj equal).2
      obtain ⟨sameFields, rest⟩ := renderFields_injective equal
      exact ⟨by rw [sameKey, sameValue, sameFields], rest⟩

end

/-- The canonical text determines the document up to the order of its keys. -/
theorem dumps_eq_iff {left right : Json} :
    dumps left = dumps right ↔ sortKeys left = sortKeys right := by
  constructor
  · intro equal
    have texts : render (sortKeys left) = render (sortKeys right) :=
      String.ofList_injective equal
    have stops : Stops [] := by simp [Stops]
    exact (render_injective stops stops (by rw [texts])).1
  · intro equal
    rw [dumps, dumps, equal]

end Json

end RvcOrchestrator.Foundation
