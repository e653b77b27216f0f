import Mathlib.Data.List.DropRight

/-! # Base64 for addresses

Three bytes are written as four digits. The padding after the last digits may be left out, as
the length of the text tells how much of it there was.
-/

namespace RvcOrchestrator.Foundation

namespace Base64

/-! ## Digits -/

def digit (value : Nat) : Char :=
  if value < 26 then Char.ofNat (65 + value)
  else if value < 52 then Char.ofNat (71 + value)
  else if value < 62 then Char.ofNat (value - 4)
  else if value = 62 then '-'
  else '_'

/-- The digits of the usual alphabet are read as well. -/
def digitValue (char : Char) : Option Nat :=
  if 'A' ≤ char ∧ char ≤ 'Z' then some (char.toNat - 65)
  else if 'a' ≤ char ∧ char ≤ 'z' then some (char.toNat - 71)
  else if '0' ≤ char ∧ char ≤ '9' then some (char.toNat + 4)
  else if char = '-' ∨ char = '+' then some 62
  else if char = '_' ∨ char = '/' then some 63
  else none

theorem digitValue_digit : ∀ value < 64, digitValue (digit value) = some value := by
  decide

theorem digit_ne_padding {value : Nat} (small : value < 64) : digit value ≠ '=' := by
  intro same
  have read := digitValue_digit value small
  rw [same] at read
  cases read

/-! ## Texts -/

/-- `base64.urlsafe_b64encode` -/
def encode : List UInt8 → List Char
  | [] => []
  | [first] => [digit (first.toNat / 4), digit (first.toNat % 4 * 16), '=', '=']
  | [first, second] =>
      [digit (first.toNat / 4), digit (first.toNat % 4 * 16 + second.toNat / 16),
        digit (second.toNat % 16 * 4), '=']
  | first :: second :: third :: rest =>
      digit (first.toNat / 4) :: digit (first.toNat % 4 * 16 + second.toNat / 16) ::
        digit (second.toNat % 16 * 4 + third.toNat / 64) :: digit (third.toNat % 64) :: encode rest

/-- `base64.b64decode` with `validate`. Bits beyond the last byte are ignored. -/
def decode : List Char → Option (List UInt8)
  | [] => some []
  | [one, two, '=', '='] => do
      let high ← digitValue one
      let low ← digitValue two
      pure [UInt8.ofNat (high * 4 + low / 16)]
  | [one, two, three, '='] => do
      let high ← digitValue one
      let middle ← digitValue two
      let low ← digitValue three
      pure [UInt8.ofNat (high * 4 + middle / 16), UInt8.ofNat (middle % 16 * 16 + low / 4)]
  | one :: two :: three :: four :: rest => do
      let first ← digitValue one
      let second ← digitValue two
      let third ← digitValue three
      let fourth ← digitValue four
      let bytes ← decode rest
      pure (UInt8.ofNat (first * 4 + second / 16) :: UInt8.ofNat (second % 16 * 16 + third / 4) ::
        UInt8.ofNat (third % 4 * 64 + fourth) :: bytes)
  | _ => none

theorem decode_encode (bytes : List UInt8) : decode (encode bytes) = some bytes := by
  induction bytes using encode.induct with
  | case1 => rfl
  | case2 first =>
      have bound := first.toNat_lt
      have whole : first.toNat / 4 * 4 + first.toNat % 4 * 16 / 16 = first.toNat := by omega
      simp only [encode, decode]
      rw [digitValue_digit _ (by omega), digitValue_digit _ (by omega)]
      simp only [Option.bind_eq_bind, Option.bind_some, whole, UInt8.ofNat_toNat, Option.pure_def]
  | case3 first second =>
      have firstBound := first.toNat_lt
      have secondBound := second.toNat_lt
      have firstWhole : first.toNat / 4 * 4 + (first.toNat % 4 * 16 + second.toNat / 16) / 16 =
          first.toNat := by omega
      have secondWhole : (first.toNat % 4 * 16 + second.toNat / 16) % 16 * 16 +
          second.toNat % 16 * 4 / 4 = second.toNat := by omega
      have unpadded : digit (second.toNat % 16 * 4) ≠ '=' := digit_ne_padding (by omega)
      simp only [encode]
      rw [decode.eq_3 _ _ _ unpadded, digitValue_digit _ (by omega), digitValue_digit _ (by omega),
        digitValue_digit _ (by omega)]
      simp only [Option.bind_eq_bind, Option.bind_some, firstWhole, secondWhole, UInt8.ofNat_toNat,
        Option.pure_def]
  | case4 first second third rest induction =>
      have firstBound := first.toNat_lt
      have secondBound := second.toNat_lt
      have thirdBound := third.toNat_lt
      have firstWhole : first.toNat / 4 * 4 + (first.toNat % 4 * 16 + second.toNat / 16) / 16 =
          first.toNat := by omega
      have secondWhole : (first.toNat % 4 * 16 + second.toNat / 16) % 16 * 16 +
          (second.toNat % 16 * 4 + third.toNat / 64) / 4 = second.toNat := by omega
      have thirdWhole : (second.toNat % 16 * 4 + third.toNat / 64) % 4 * 64 + third.toNat % 64 =
          third.toNat := by omega
      have unpadded : digit (third.toNat % 64) ≠ '=' := digit_ne_padding (by omega)
      simp only [encode]
      rw [decode.eq_4 _ _ _ _ _ (by grind) (by grind), digitValue_digit _ (by omega),
        digitValue_digit _ (by omega), digitValue_digit _ (by omega),
        digitValue_digit _ (by omega), induction]
      simp only [Option.bind_eq_bind, Option.bind_some, firstWhole, secondWhole, thirdWhole,
        UInt8.ofNat_toNat, Option.pure_def]

/-! ## Without padding -/

def pad (text : List Char) : List Char :=
  text ++ List.replicate ((4 - text.length % 4) % 4) '='

theorem padding_notMem {values : List Nat} (small : ∀ value ∈ values, value < 64) :
    '=' ∉ values.map digit := by
  intro member
  rcases List.mem_map.mp member with ⟨value, inValues, same⟩
  exact digit_ne_padding (small value inValues) same

/-- The text ends with its padding. -/
theorem encode_eq_append (bytes : List UInt8) : ∃ body padding,
    encode bytes = body ++ List.replicate padding '=' ∧ '=' ∉ body ∧
      (body.length + padding) % 4 = 0 ∧ padding < 4 := by
  induction bytes using encode.induct with
  | case1 => exact ⟨[], 0, rfl, by simp, rfl, by decide⟩
  | case2 first =>
      have bound := first.toNat_lt
      refine ⟨[first.toNat / 4, first.toNat % 4 * 16].map digit, 2, rfl, ?_, by simp, by decide⟩
      apply padding_notMem
      simp only [List.mem_cons, List.not_mem_nil, or_false, forall_eq_or_imp, forall_eq]
      omega
  | case3 first second =>
      have firstBound := first.toNat_lt
      have secondBound := second.toNat_lt
      refine ⟨[first.toNat / 4, first.toNat % 4 * 16 + second.toNat / 16,
        second.toNat % 16 * 4].map digit, 1, rfl, ?_, by simp, by decide⟩
      apply padding_notMem
      simp only [List.mem_cons, List.not_mem_nil, or_false, forall_eq_or_imp, forall_eq]
      omega
  | case4 first second third rest induction =>
      have firstBound := first.toNat_lt
      have secondBound := second.toNat_lt
      have thirdBound := third.toNat_lt
      rcases induction with ⟨body, padding, written, unpadded, whole, few⟩
      have group : '=' ∉ [first.toNat / 4, first.toNat % 4 * 16 + second.toNat / 16,
          second.toNat % 16 * 4 + third.toNat / 64, third.toNat % 64].map digit := by
        apply padding_notMem
        simp only [List.mem_cons, List.not_mem_nil, or_false, forall_eq_or_imp, forall_eq]
        omega
      refine ⟨[first.toNat / 4, first.toNat % 4 * 16 + second.toNat / 16,
        second.toNat % 16 * 4 + third.toNat / 64, third.toNat % 64].map digit ++ body, padding,
        ?_, ?_, ?_, few⟩
      · rw [encode, written, List.append_assoc]
        rfl
      · rw [List.mem_append]
        rintro (inGroup | inBody)
        · exact group inGroup
        · exact unpadded inBody
      · rw [List.length_append, List.length_map]
        simp only [List.length_cons, List.length_nil]
        omega

theorem rdropWhile_padding {body : List Char} (unpadded : '=' ∉ body) (padding : Nat) :
    (body ++ List.replicate padding '=').rdropWhile (· = '=') = body := by
  induction padding with
  | zero =>
      rw [List.replicate_zero, List.append_nil, List.rdropWhile_eq_self_iff]
      intro some_ last
      exact unpadded (of_decide_eq_true last ▸ List.getLast_mem some_)
  | succ padding induction =>
      rw [List.replicate_succ', ← List.append_assoc, List.rdropWhile_concat_pos _ _ _ (by decide),
        induction]

theorem pad_strip (bytes : List UInt8) :
    pad ((encode bytes).rdropWhile (· = '=')) = encode bytes := by
  rcases encode_eq_append bytes with ⟨body, padding, written, unpadded, whole, few⟩
  rw [written, rdropWhile_padding unpadded, pad]
  congr 2
  omega

end Base64

end RvcOrchestrator.Foundation
