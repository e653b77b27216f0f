import Mathlib.Tactic.Common

/-! # Decoding UTF-8 with replacement

The decoder reads one byte after the other. Bytes that do not become a character are replaced, the
longest beginning of a character by one replacement.
-/

namespace RvcOrchestrator.Foundation.Utf8

/-- A character of which the first bytes were read: how many are missing, what they are the digits
of, and the range of the next byte. -/
structure Unfinished where
  missing : Nat
  value : Nat
  low : Nat
  high : Nat
deriving DecidableEq

def replacement : Char := '\uFFFD'

def begin_ (byte : UInt8) : List Char × Option Unfinished :=
  let number := byte.toNat
  if number < 0x80 then ([Char.ofNat number], none)
  else if number < 0xC2 then ([replacement], none)
  else if number < 0xE0 then ([], some ⟨1, number - 0xC0, 0x80, 0xBF⟩)
  else if number < 0xF0 then
    -- Overlong forms and surrogates are no characters.
    ([], some ⟨2, number - 0xE0, if number = 0xE0 then 0xA0 else 0x80,
      if number = 0xED then 0x9F else 0xBF⟩)
  else if number < 0xF5 then
    ([], some ⟨3, number - 0xF0, if number = 0xF0 then 0x90 else 0x80,
      if number = 0xF4 then 0x8F else 0xBF⟩)
  else ([replacement], none)

def step : Option Unfinished → UInt8 → List Char × Option Unfinished
  | none, byte => begin_ byte
  | some unfinished, byte =>
      if unfinished.low ≤ byte.toNat ∧ byte.toNat ≤ unfinished.high then
        let value := 64 * unfinished.value + (byte.toNat - 0x80)
        if unfinished.missing = 1 then ([Char.ofNat value], none)
        else ([], some ⟨unfinished.missing - 1, value, 0x80, 0xBF⟩)
      else (replacement :: (begin_ byte).1, (begin_ byte).2)

def flush : Option Unfinished → List Char
  | none => []
  | some _ => [replacement]

def decodeFrom : Option Unfinished → List UInt8 → List Char
  | unfinished, [] => flush unfinished
  | unfinished, byte :: bytes =>
      (step unfinished byte).1 ++ decodeFrom (step unfinished byte).2 bytes

/-- `decode("utf-8", errors="replace")` -/
def decode (bytes : List UInt8) : List Char := decodeFrom none bytes

/-! ## Ends of lines -/

/-- A byte below 128 ends what is unfinished and is a character of its own. -/
theorem step_ascii (unfinished : Option Unfinished) {byte : UInt8} (ascii : byte.toNat < 0x80)
    (continues : ∀ some_ ∈ unfinished, 0x80 ≤ some_.low) :
    step unfinished byte = (flush unfinished ++ [Char.ofNat byte.toNat], none) := by
  have alone : begin_ byte = ([Char.ofNat byte.toNat], none) := if_pos ascii
  cases unfinished with
  | none => exact alone
  | some unfinished =>
      have low := continues unfinished rfl
      rw [step, if_neg (by omega), alone]
      rfl

def Continues (unfinished : Option Unfinished) : Prop :=
  ∀ some_ ∈ unfinished, 0x80 ≤ some_.low

theorem begin_continues (byte : UInt8) : Continues (begin_ byte).2 := by
  unfold begin_
  intro unfinished reached
  simp only at reached
  split at reached
  · cases reached
  split at reached
  · cases reached
  split at reached
  · cases reached
    exact Nat.le_refl _
  split at reached
  · cases reached
    dsimp only
    split <;> decide
  split at reached
  · cases reached
    dsimp only
    split <;> decide
  · cases reached

theorem step_continues (unfinished : Option Unfinished) (byte : UInt8) :
    Continues (step unfinished byte).2 := by
  cases unfinished with
  | none => exact begin_continues byte
  | some unfinished =>
      rw [step]
      split
      · dsimp only
        split
        · rintro _ ⟨⟩
        · rintro _ ⟨⟩
          exact Nat.le_refl _
      · exact begin_continues byte

theorem decodeFrom_ascii {unfinished : Option Unfinished} (continues : Continues unfinished)
    (bytes : List UInt8) {byte : UInt8} (ascii : byte.toNat < 0x80) (more : List UInt8) :
    decodeFrom unfinished (bytes ++ byte :: more) =
      decodeFrom unfinished bytes ++ Char.ofNat byte.toNat :: decode more := by
  induction bytes generalizing unfinished with
  | nil =>
      rw [List.nil_append, decodeFrom, decodeFrom, step_ascii unfinished ascii continues,
        List.append_assoc]
      rfl
  | cons first bytes induction =>
      rw [List.cons_append, decodeFrom, induction (step_continues unfinished first), decodeFrom,
        List.append_assoc]

/-- What stands before and after an ASCII character is decoded apart from each other. -/
theorem decode_ascii (bytes : List UInt8) {byte : UInt8} (ascii : byte.toNat < 0x80)
    (more : List UInt8) :
    decode (bytes ++ byte :: more) = decode bytes ++ Char.ofNat byte.toNat :: decode more :=
  decodeFrom_ascii (fun _ none_ => by cases none_) bytes ascii more

/-! ## Empty texts -/

theorem begin_progress (byte : UInt8) : (begin_ byte).1 ≠ [] ∨ (begin_ byte).2 ≠ none := by
  unfold begin_
  simp only
  split
  · exact .inl (List.cons_ne_nil _ _)
  split
  · exact .inl (List.cons_ne_nil _ _)
  split
  · exact .inr (Option.some_ne_none _)
  split
  · exact .inr (Option.some_ne_none _)
  split
  · exact .inr (Option.some_ne_none _)
  · exact .inl (List.cons_ne_nil _ _)

theorem step_progress (unfinished : Option Unfinished) (byte : UInt8) :
    (step unfinished byte).1 ≠ [] ∨ (step unfinished byte).2 ≠ none := by
  cases unfinished with
  | none => exact begin_progress byte
  | some unfinished =>
      rw [step]
      split
      · dsimp only
        split
        · exact .inl (List.cons_ne_nil _ _)
        · exact .inr (Option.some_ne_none _)
      · exact .inl (List.cons_ne_nil _ _)

theorem decodeFrom_unfinished {unfinished : Option Unfinished} (some_ : unfinished ≠ none)
    (bytes : List UInt8) : decodeFrom unfinished bytes ≠ [] := by
  induction bytes generalizing unfinished with
  | nil =>
      cases unfinished with
      | none => exact absurd rfl some_
      | some unfinished => exact List.cons_ne_nil _ _
  | cons byte bytes induction =>
      rw [decodeFrom]
      rcases step_progress unfinished byte with text | more
      · exact List.append_ne_nil_of_left_ne_nil text _
      · exact List.append_ne_nil_of_right_ne_nil _ (induction more)

theorem decode_eq_nil_iff {bytes : List UInt8} : decode bytes = [] ↔ bytes = [] := by
  constructor
  · intro empty
    cases bytes with
    | nil => rfl
    | cons byte bytes =>
        rw [decode, decodeFrom, List.append_eq_nil_iff] at empty
        rcases step_progress none byte with text | more
        · exact absurd empty.1 text
        · exact absurd empty.2 (decodeFrom_unfinished more bytes)
  · rintro rfl
    rfl

/-! ## Characters of one byte -/

def Large (unfinished : Option Unfinished) : Prop :=
  ∀ some_ ∈ unfinished,
    some_.missing = 1 ∧ 2 ≤ some_.value ∨
    some_.missing = 2 ∧ (1 ≤ some_.value ∨ 0xA0 ≤ some_.low) ∨
    some_.missing = 3 ∧ (1 ≤ some_.value ∨ 0x90 ≤ some_.low)

theorem begin_large (byte : UInt8) : Large (begin_ byte).2 := by
  unfold begin_
  intro unfinished reached
  simp only at reached
  split at reached
  · cases reached
  split at reached
  · cases reached
  split at reached
  · cases reached
    exact .inl ⟨rfl, by dsimp only; omega⟩
  split at reached
  · cases reached
    refine .inr (.inl ⟨rfl, ?_⟩)
    dsimp only
    split <;> omega
  split at reached
  · cases reached
    refine .inr (.inr ⟨rfl, ?_⟩)
    dsimp only
    split <;> omega
  · cases reached

theorem step_large {unfinished : Option Unfinished} (large : Large unfinished) (byte : UInt8) :
    Large (step unfinished byte).2 := by
  cases unfinished with
  | none => exact begin_large byte
  | some unfinished =>
      have size := large unfinished rfl
      rw [step]
      split
      · next inside =>
          dsimp only
          split
          · rintro _ ⟨⟩
          · rintro _ ⟨⟩
            dsimp only
            omega
      · exact begin_large byte

theorem toNat_ofNat (number : Nat) :
    (Char.ofNat number).toNat = if number.isValidChar then number else 0 := by
  by_cases valid : number.isValidChar
  · rw [if_pos valid, Char.ofNat, dif_pos valid]
    rfl
  · rw [if_neg valid, Char.ofNat, dif_neg valid]
    rfl

theorem small_of_mem_begin {byte : UInt8} {char : Char} (member : char ∈ (begin_ byte).1)
    (small : char.toNat < 0x80) :
    char.toNat = byte.toNat ∧ (begin_ byte).1.getLast? = some char := by
  have notReplacement : char ≠ replacement := by
    rintro rfl
    revert small
    decide
  unfold begin_ at member ⊢
  simp only at member ⊢
  split at member
  · next ascii =>
      rw [if_pos ascii]
      have same := List.mem_singleton.mp member
      have valid : byte.toNat.isValidChar := .inl (by omega)
      refine ⟨?_, by rw [same]; rfl⟩
      rw [same, toNat_ofNat, if_pos valid]
  split at member
  · exact absurd (List.mem_singleton.mp member) notReplacement
  split at member
  · cases member
  split at member
  · cases member
  split at member
  · cases member
  · exact absurd (List.mem_singleton.mp member) notReplacement

/-- The only characters of one byte that a byte brings are the one it is and NUL. -/
theorem small_of_mem_step {unfinished : Option Unfinished} (large : Large unfinished) {byte : UInt8}
    {char : Char} (member : char ∈ (step unfinished byte).1) (positive : 0 < char.toNat)
    (small : char.toNat < 0x80) :
    char.toNat = byte.toNat ∧ (step unfinished byte).1.getLast? = some char := by
  cases unfinished with
  | none => exact small_of_mem_begin member small
  | some unfinished =>
      have size := large unfinished rfl
      rw [step] at member ⊢
      split at member
      · next inside =>
          rw [if_pos inside]
          dsimp only at member ⊢
          split at member
          · have same := List.mem_singleton.mp member
            rw [same, toNat_ofNat] at positive small
            split at small
            · omega
            · next invalid =>
                rw [if_neg invalid] at positive
                omega
          · cases member
      · next outside =>
          rw [if_neg outside]
          dsimp only at member ⊢
          rcases List.mem_cons.mp member with same | later
          · rw [same] at small
            exact absurd small (by decide)
          · rcases small_of_mem_begin later small with ⟨same, last⟩
            refine ⟨same, ?_⟩
            rw [List.getLast?_cons, last]
            rfl

theorem mem_of_mem_decodeFrom {unfinished : Option Unfinished} (large : Large unfinished)
    {bytes : List UInt8} {char : Char} (member : char ∈ decodeFrom unfinished bytes)
    (positive : 0 < char.toNat) (small : char.toNat < 0x80) :
    ∃ byte ∈ bytes, char.toNat = byte.toNat := by
  have notReplacement : char ≠ replacement := by
    rintro rfl
    revert small
    decide
  induction bytes generalizing unfinished with
  | nil =>
      cases unfinished with
      | none => cases member
      | some unfinished => exact absurd (List.mem_singleton.mp member) notReplacement
  | cons byte bytes induction =>
      rw [decodeFrom] at member
      rcases List.mem_append.mp member with here | later
      · exact ⟨byte, List.mem_cons_self, (small_of_mem_step large here positive small).1⟩
      · rcases induction (step_large large byte) later with ⟨other, inBytes, same⟩
        exact ⟨other, List.mem_cons_of_mem _ inBytes, same⟩

/-- A character of one byte is one of the bytes. -/
theorem mem_of_mem_decode {bytes : List UInt8} {char : Char} (member : char ∈ decode bytes)
    (positive : 0 < char.toNat) (small : char.toNat < 0x80) :
    ∃ byte ∈ bytes, char.toNat = byte.toNat :=
  mem_of_mem_decodeFrom (fun _ none_ => by cases none_) member positive small

theorem getLast_of_getLast_decodeFrom {unfinished : Option Unfinished} (large : Large unfinished)
    {bytes : List UInt8} {char : Char} (last : (decodeFrom unfinished bytes).getLast? = some char)
    (positive : 0 < char.toNat) (small : char.toNat < 0x80) :
    ∃ byte, bytes.getLast? = some byte ∧ char.toNat = byte.toNat := by
  induction bytes generalizing unfinished with
  | nil =>
      cases unfinished with
      | none => cases last
      | some unfinished =>
          cases last
          exact absurd small (by decide)
  | cons byte bytes induction =>
      rw [decodeFrom, List.getLast?_append] at last
      cases later : (decodeFrom (step unfinished byte).2 bytes).getLast? with
      | none =>
          rw [later] at last
          have nothing := List.getLast?_eq_none_iff.mp later
          have ended : bytes = [] := by
            cases state : (step unfinished byte).2 with
            | none =>
                rw [state] at nothing
                exact decode_eq_nil_iff.mp nothing
            | some more =>
                rw [state] at nothing
                exact absurd nothing (decodeFrom_unfinished (Option.some_ne_none _) _)
          have here := List.mem_of_getLast? last
          exact ⟨byte, by rw [ended]; rfl, (small_of_mem_step large here positive small).1⟩
      | some other =>
          rw [later] at last
          cases last
          rcases induction (step_large large byte) later with ⟨found, lastByte, same⟩
          exact ⟨found, by rw [List.getLast?_cons, lastByte]; rfl, same⟩

theorem getLast_of_getLast_decode {bytes : List UInt8} {char : Char}
    (last : (decode bytes).getLast? = some char) (positive : 0 < char.toNat)
    (small : char.toNat < 0x80) :
    ∃ byte, bytes.getLast? = some byte ∧ char.toNat = byte.toNat :=
  getLast_of_getLast_decodeFrom (fun _ none_ => by cases none_) last positive small

end RvcOrchestrator.Foundation.Utf8
