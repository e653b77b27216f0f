import RvcOrchestrator.Foundation.Json
import Mathlib.Data.List.DropRight

/-! # Texts of UUIDs

An identifier of 128 bits is written as 32 hexadecimal digits with four hyphens. The texts lie in
the order of the identifiers.
-/

namespace RvcOrchestrator.Foundation

/-! ## Digits -/

def hexDigits : Nat → Nat → List Char
  | 0, _ => []
  | count + 1, number => hexDigits count (number / 16) ++ [Json.hexDigit (number % 16)]

@[simp] theorem length_hexDigits (count number : Nat) :
    (hexDigits count number).length = count := by
  induction count generalizing number with
  | zero => rfl
  | succ count induction => rw [hexDigits, List.length_append, induction, List.length_singleton]

theorem hexDigit_lt_iff : ∀ left < 16, ∀ right < 16,
    Json.hexDigit left < Json.hexDigit right ↔ left < right := by
  decide

theorem hexDigit_mem : ∀ value < 16, Json.hexDigit value ∈ "0123456789abcdef".toList := by
  decide

theorem mem_hexDigits {count number : Nat} {digit : Char} (member : digit ∈ hexDigits count number) :
    digit ∈ "0123456789abcdef".toList := by
  induction count generalizing number with
  | zero => cases member
  | succ count induction =>
      rcases List.mem_append.mp member with front | last
      · exact induction front
      · rw [List.mem_singleton.mp last]
        exact hexDigit_mem _ (Nat.mod_lt _ (by decide))

/-- Texts that begin with stretches of one length are compared by these first. -/
theorem append_lt_append_iff {left right leftRest rightRest : List Char}
    (same : left.length = right.length) :
    left ++ leftRest < right ++ rightRest ↔
      left < right ∨ left = right ∧ leftRest < rightRest := by
  induction left generalizing right with
  | nil =>
      rw [List.length_nil] at same
      rw [List.eq_nil_of_length_eq_zero same.symm]
      simp
  | cons head tail induction =>
      cases right with
      | nil => cases same
      | cons other rest =>
          have shorter : tail.length = rest.length := Nat.succ.inj same
          rw [List.cons_append, List.cons_append, List.cons_lt_cons_iff, List.cons_lt_cons_iff,
            induction shorter, List.cons.injEq]
          tauto

theorem singleton_lt_iff {left right : Char} : [left] < [right] ↔ left < right := by
  simp [List.cons_lt_cons_iff]

theorem hexDigits_compare {count left right : Nat} (leftBound : left < 16 ^ count)
    (rightBound : right < 16 ^ count) :
    (hexDigits count left < hexDigits count right ↔ left < right) ∧
      (hexDigits count left = hexDigits count right → left = right) := by
  induction count generalizing left right with
  | zero =>
      rw [pow_zero, Nat.lt_one_iff] at leftBound rightBound
      subst leftBound rightBound
      simp [hexDigits]
  | succ count induction =>
      have leftFront : left / 16 < 16 ^ count := by
        rw [pow_succ] at leftBound
        omega
      have rightFront : right / 16 < 16 ^ count := by
        rw [pow_succ] at rightBound
        omega
      rcases induction leftFront rightFront with ⟨front, equal⟩
      have last := hexDigit_lt_iff (left % 16) (Nat.mod_lt _ (by decide)) (right % 16)
        (Nat.mod_lt _ (by decide))
      have lastBack := hexDigit_lt_iff (right % 16) (Nat.mod_lt _ (by decide)) (left % 16)
        (Nat.mod_lt _ (by decide))
      have frontSame : hexDigits count (left / 16) = hexDigits count (right / 16) ↔
          left / 16 = right / 16 := ⟨equal, fun same => by rw [same]⟩
      constructor
      · rw [hexDigits, hexDigits, append_lt_append_iff (by simp), singleton_lt_iff, front, last,
          frontSame]
        omega
      · rw [hexDigits, hexDigits]
        intro same
        rcases List.append_inj same (by simp) with ⟨sameFront, sameLast⟩
        have sameDigit := (List.cons.inj sameLast).1
        have notBelow : ¬left % 16 < right % 16 := fun below =>
          lt_irrefl _ (sameDigit ▸ last.mpr below)
        have notAbove : ¬right % 16 < left % 16 := fun above =>
          lt_irrefl _ (sameDigit ▸ lastBack.mpr above)
        have := equal sameFront
        omega

/-! ## Hyphens -/

def hyphenate : List Nat → List Char → List Char
  | [], text => text
  | count :: counts, text => text.take count ++ '-' :: hyphenate counts (text.drop count)

theorem hyphenate_lt_iff {counts : List Nat} {left right : List Char}
    (same : left.length = right.length) :
    hyphenate counts left < hyphenate counts right ↔ left < right := by
  induction counts generalizing left right with
  | nil => rfl
  | cons count counts induction =>
      have sameFront : (left.take count).length = (right.take count).length := by
        rw [List.length_take, List.length_take, same]
      have sameRest : (left.drop count).length = (right.drop count).length := by
        rw [List.length_drop, List.length_drop, same]
      rw [hyphenate, hyphenate, append_lt_append_iff sameFront, List.cons_lt_cons_iff,
        induction sameRest]
      conv_rhs => rw [← List.take_append_drop count left, ← List.take_append_drop count right,
        append_lt_append_iff sameFront]
      simp

theorem filter_hyphenate {counts : List Nat} {text : List Char} (plain : '-' ∉ text) :
    (hyphenate counts text).filter (· ≠ '-') = text := by
  induction counts generalizing text with
  | nil =>
      rw [hyphenate, List.filter_eq_self]
      intro char member
      rw [decide_eq_true_eq]
      rintro rfl
      exact plain member
  | cons count counts induction =>
      have frontPlain : (text.take count).filter (· ≠ '-') = text.take count := by
        rw [List.filter_eq_self]
        intro char member
        rw [decide_eq_true_eq]
        rintro rfl
        exact plain (List.mem_of_mem_take member)
      have restPlain : '-' ∉ text.drop count := fun member => plain (List.mem_of_mem_drop member)
      rw [hyphenate, List.filter_append, frontPlain, List.filter_cons_of_neg (by decide),
        induction restPlain, List.take_append_drop]

theorem mem_hyphenate {counts : List Nat} {text : List Char} {char : Char}
    (member : char ∈ hyphenate counts text) : char = '-' ∨ char ∈ text := by
  induction counts generalizing text with
  | nil => exact .inr member
  | cons count counts induction =>
      rw [hyphenate, List.mem_append, List.mem_cons] at member
      rcases member with front | hyphen | rest
      · exact .inr (List.mem_of_mem_take front)
      · exact .inl hyphen
      · exact (induction rest).imp_right List.mem_of_mem_drop

/-! ## Texts -/

def uuidText (identifier : Nat) : String :=
  String.ofList (hyphenate [8, 4, 4, 4] (hexDigits 32 identifier))

theorem uuidText_lt_iff {left right : Nat} (leftBound : left < 16 ^ 32)
    (rightBound : right < 16 ^ 32) : uuidText left < uuidText right ↔ left < right := by
  have same : (hexDigits 32 left).length = (hexDigits 32 right).length := by
    rw [length_hexDigits, length_hexDigits]
  have compared := (hexDigits_compare leftBound rightBound).1
  unfold uuidText
  generalize hexDigits 32 left = first at *
  generalize hexDigits 32 right = second at *
  rw [String.lt_iff_toList_lt, String.toList_ofList, String.toList_ofList,
    hyphenate_lt_iff same, compared]

theorem uuidText_injective {left right : Nat} (leftBound : left < 16 ^ 32)
    (rightBound : right < 16 ^ 32) (same : uuidText left = uuidText right) : left = right := by
  have below := uuidText_lt_iff leftBound rightBound
  have above := uuidText_lt_iff rightBound leftBound
  rw [same] at below above
  have notLess := lt_irrefl (uuidText right)
  rcases lt_trichotomy left right with less | equal | greater
  · exact absurd (below.mpr less) notLess
  · exact equal
  · exact absurd (above.mpr greater) notLess

/-! ## Reading a text -/

/-- `str.replace` with nothing: `skip` more characters belong to what is removed. -/
def removeAll (part : List Char) : Nat → List Char → List Char
  | _, [] => []
  | skip + 1, _ :: rest => removeAll part skip rest
  | 0, char :: rest =>
      if part.isPrefixOf (char :: rest) then removeAll part (part.length - 1) rest
      else char :: removeAll part 0 rest

def isNumberSpace (char : Char) : Bool :=
  char.toNat ∈ [9, 10, 11, 12, 13, 28, 29, 30, 31, 32]

def isHexDigit (char : Char) : Bool :=
  char.isDigit || 'a' ≤ char && char ≤ 'f' || 'A' ≤ char && char ≤ 'F'

def withoutSign : List Char → List Char
  | '+' :: rest | '-' :: rest => rest
  | rest => rest

def withoutHexPrefix : List Char → List Char
  | '0' :: 'x' :: '_' :: rest | '0' :: 'X' :: '_' :: rest => rest
  | '0' :: 'x' :: rest | '0' :: 'X' :: rest => rest
  | rest => rest

/-- The texts that `int` takes in base sixteen. Digits and spaces outside ASCII are left out. -/
def isHexNumber (text : List Char) : Bool :=
  let trimmed := (text.dropWhile isNumberSpace).rdropWhile isNumberSpace
  ((withoutHexPrefix (withoutSign trimmed)).splitOn '_').all fun group =>
    group ≠ [] && group.all isHexDigit

def isBrace (char : Char) : Bool := char = '{' || char = '}'

/-- The check of the constructor `UUID`. -/
def isUuid (text : String) : Bool :=
  let bare := removeAll "uuid:".toList 0 (removeAll "urn:".toList 0 text.toList)
  let digits := ((bare.dropWhile isBrace).rdropWhile isBrace).filter (· ≠ '-')
  digits.length = 32 && isHexNumber digits

theorem removeAll_of_notMem {part text : List Char} {mark : Char} (inPart : mark ∈ part)
    (absent : mark ∉ text) : removeAll part 0 text = text := by
  induction text with
  | nil => rfl
  | cons char rest induction =>
      have notHere : part.isPrefixOf (char :: rest) = false := by
        rw [Bool.eq_false_iff]
        intro isHere
        exact absent ((List.isPrefixOf_iff_prefix.mp isHere).subset inPart)
      rw [removeAll, notHere, if_neg (by decide), induction]
      exact fun member => absent (List.mem_cons_of_mem _ member)

theorem trim_of_forall {trims : Char → Bool} {text : List Char}
    (kept : ∀ char ∈ text, trims char = false) :
    (text.dropWhile trims).rdropWhile trims = text := by
  have front : text.dropWhile trims = text := by
    rw [List.dropWhile_eq_self_iff]
    intro some_ trimmed
    rw [kept _ (List.getElem_mem some_)] at trimmed
    cases trimmed
  rw [front, List.rdropWhile_eq_self_iff]
  intro some_ trimmed
  rw [kept _ (List.getLast_mem some_)] at trimmed
  cases trimmed

/-- What the check looks for in a text, but for hyphens. -/
theorem hexDigit_plain : ∀ digit ∈ "0123456789abcdef".toList,
    isNumberSpace digit = false ∧ isBrace digit = false ∧ isHexDigit digit = true ∧
      digit ∉ ['-', '+', 'x', 'X', '_', ':'] :=
  List.forall_iff_forall_mem.mp (by decide)

theorem withoutSign_of_notMem {text : List Char} (plus : '+' ∉ text) (minus : '-' ∉ text) :
    withoutSign text = text := by
  unfold withoutSign
  split
  · exact absurd List.mem_cons_self plus
  · exact absurd List.mem_cons_self minus
  · rfl

theorem withoutHexPrefix_of_notMem {text : List Char} (lower : 'x' ∉ text) (upper : 'X' ∉ text) :
    withoutHexPrefix text = text := by
  unfold withoutHexPrefix
  split <;> simp_all

theorem isHexNumber_hexDigits {count : Nat} (some_ : count ≠ 0) (number : Nat) :
    isHexNumber (hexDigits count number) = true := by
  have plain : ∀ digit ∈ hexDigits count number, _ := fun digit member =>
    hexDigit_plain digit (mem_hexDigits member)
  have absent : ∀ mark ∈ ['-', '+', 'x', 'X', '_', ':'], mark ∉ hexDigits count number :=
    fun mark listed member => (plain mark member).2.2.2 listed
  have notEmpty : hexDigits count number ≠ [] := by
    rw [← List.length_pos_iff, length_hexDigits]
    omega
  have whole : (hexDigits count number).splitOn '_' = [hexDigits count number] := by
    apply List.splitOnP_eq_singleton
    intro digit member
    rw [beq_eq_false_iff_ne]
    rintro rfl
    exact absent '_' (by decide) member
  rw [isHexNumber, trim_of_forall fun digit member => (plain digit member).1,
    withoutSign_of_notMem (absent _ (by decide)) (absent _ (by decide)),
    withoutHexPrefix_of_notMem (absent _ (by decide)) (absent _ (by decide)), whole]
  simp only [List.all_cons, List.all_nil, Bool.and_true, Bool.and_eq_true, decide_eq_true_eq,
    List.all_eq_true]
  exact ⟨notEmpty, fun digit member => (plain digit member).2.2.1⟩

theorem isUuid_uuidText (identifier : Nat) : isUuid (uuidText identifier) = true := by
  have plain : ∀ digit ∈ hexDigits 32 identifier, _ := fun digit member =>
    hexDigit_plain digit (mem_hexDigits member)
  have braces : ∀ char ∈ hyphenate [8, 4, 4, 4] (hexDigits 32 identifier), isBrace char = false := by
    intro char member
    rcases mem_hyphenate member with rfl | digit
    · rfl
    · exact (plain char digit).2.1
  have colon : ':' ∉ hyphenate [8, 4, 4, 4] (hexDigits 32 identifier) := by
    intro member
    rcases mem_hyphenate member with same | digit
    · exact absurd same (by decide)
    · exact (plain ':' digit).2.2.2 (by decide)
  have hyphens : '-' ∉ hexDigits 32 identifier := fun member =>
    (plain '-' member).2.2.2 (by decide)
  have text : (uuidText identifier).toList = hyphenate [8, 4, 4, 4] (hexDigits 32 identifier) :=
    String.toList_ofList
  rw [isUuid, text,
    removeAll_of_notMem (by decide : ':' ∈ "urn:".toList) colon,
    removeAll_of_notMem (by decide : ':' ∈ "uuid:".toList) colon,
    trim_of_forall braces, filter_hyphenate hyphens, length_hexDigits, isHexNumber_hexDigits]
  · rfl
  · decide

end RvcOrchestrator.Foundation
