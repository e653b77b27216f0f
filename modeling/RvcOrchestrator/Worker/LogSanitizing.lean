import Mathlib.Data.String.Basic
import RvcOrchestrator.Foundation.Redaction

/-! # Sanitizing log lines

A line of a training log is made a bounded, single line of text without common forms of secrets
before it leaves the Worker.
-/

namespace RvcOrchestrator.Worker

open RvcOrchestrator.Foundation
open Pattern

/-! ## Characters -/

/-- What the Unicode tables of the standard library say. -/
structure UnicodeTables where
  /-- `unicodedata.normalize("NFC", …)` -/
  nfc : List Char → List Char
  /-- `\w` -/
  isWord : Char → Bool

/-- Category `Cc`. -/
def isControl (char : Char) : Bool :=
  char.toNat ≤ 0x1F || 0x7F ≤ char.toNat && char.toNat ≤ 0x9F

/-- The ranges of category `Cf`. -/
def formatRanges : List (Nat × Nat) :=
  [(0xAD, 0xAD), (0x600, 0x605), (0x61C, 0x61C), (0x6DD, 0x6DD), (0x70F, 0x70F), (0x890, 0x891),
    (0x8E2, 0x8E2), (0x180E, 0x180E), (0x200B, 0x200F), (0x202A, 0x202E), (0x2060, 0x2064),
    (0x2066, 0x206F), (0xFEFF, 0xFEFF), (0xFFF9, 0xFFFB), (0x110BD, 0x110BD), (0x110CD, 0x110CD),
    (0x13430, 0x13438), (0x1BCA0, 0x1BCA3), (0x1D173, 0x1D17A), (0xE0001, 0xE0001),
    (0xE0020, 0xE007F)]

def isFormat (char : Char) : Bool :=
  formatRanges.any fun range => range.1 ≤ char.toNat && char.toNat ≤ range.2

/-- Categories `Zl` and `Zp`. -/
def isLineSeparator (char : Char) : Bool := char.toNat = 0x2028 || char.toNat = 0x2029

/-! ## Patterns -/

/-- `_BEARER_SECRET` -/
def bearerSecret (isWord : Char → Bool) : Pattern := all
  [boundary isWord, anyCase "bearer", oneOrMore isSpace,
    oneOrMore fun char => isLetterAnyCase char || char.isDigit || char ∈ "._~+/=-".toList]

/-- `_SECRET_NAME`, when the case is ignored. -/
def secretName : Pattern := anyOf
  [anyCase "authorization", anyCase "token", anyCase "password", anyCase "secret",
    anyCase "credential",
    all [anyCase "api", maybe (one (· ∈ ['_', '-'])), anyCase "key"],
    all [anyCase "access", maybe (one (· ∈ ['_', '-'])), anyCase "key"],
    all [anyCase "private", maybe (one (· ∈ ['_', '-'])), anyCase "key"]]

/-- A value in quotation marks, or up to a space, comma or semicolon. -/
def secretValue : Pattern := anyOf
  [all [literal "\"", anyNumber (· ≠ '"'), literal "\""],
    all [literal "'", anyNumber (· ≠ '\''), literal "'"],
    oneOrMore fun char => !isSpace char && char ∉ [',', ';']]

/-- `_NAMED_SECRET` -/
def namedSecret (isWord : Char → Bool) : Pattern := all
  [boundary isWord, group "1" secretName,
    group "2" (all [anyNumber isSpace, one (· ∈ [':', '=']), anyNumber isSpace]), secretValue]

/-- `_CLI_SECRET` -/
def cliSecret : Pattern := all
  [group "1" (all [literal "--", secretName, choice (literal "=") (oneOrMore isSpace)]),
    secretValue]

def isTokenChar (char : Char) : Bool := char.isAlphanum || char = '_' || char = '-'

/-- `_RVC_WORKER_TOKEN` -/
def rvcWorkerToken (isWord : Char → Bool) : Pattern := all
  [boundary isWord, literal "rvcw_", run isTokenChar 8 none, boundary isWord]

/-- `_JWT` -/
def jwt : Pattern := all
  [look fun before _ => !before.any isTokenChar,
    run isTokenChar 8 none, literal ".", run isTokenChar 8 none, literal ".",
    run isTokenChar 8 none, look fun _ after => !after.any isTokenChar]

/-- `_URL_QUERY` -/
def urlQuery : Pattern := all
  [group "1" (all [anyCase "http", maybe (one (sameLetter 's')), literal "://",
      oneOrMore fun char => !isSpace char && char ∉ ['?', '#']]),
    literal "?", anyNumber fun char => !isSpace char && char ≠ '#']

def isPathChar (char : Char) : Bool := !isSpace char && char ∉ ['\'', '"', ';', ',']

/-- `_FILE_URI` -/
def fileUri (isWord : Char → Bool) : Pattern := all
  [boundary isWord, anyCase "file", literal ":///", oneOrMore isPathChar]

/-- `_ABSOLUTE_PATH` -/
def absolutePath : Pattern := all
  [look fun before _ => !before.any fun char => char.isAlphanum || char ∈ [':', '/'],
    literal "/", oneOrMore isPathChar]

/-! ## Sanitizing -/

/-- The replacement of a match: what some of its groups have matched, and a text. -/
def keeping (groups : List String) (text : String) (way : Way) : List Char :=
  groups.flatMap way.group ++ text.toList

structure Redaction where
  pattern : Pattern
  groups : List String
  replacement : String

def Redaction.apply (redaction : Redaction) (text : List Char) : List Char :=
  redaction.pattern.substitute (keeping redaction.groups redaction.replacement) text

/-- The substitutions in their order. `str.replace` of a value that is not empty is one, too. -/
def redactions (tables : UnicodeTables) (redactedValues : List String) : List Redaction :=
  [⟨urlQuery, ["1"], "?[REDACTED]"⟩, ⟨bearerSecret tables.isWord, [], "Bearer [REDACTED]"⟩,
    ⟨rvcWorkerToken tables.isWord, [], "[REDACTED]"⟩, ⟨jwt, [], "[REDACTED JWT]"⟩,
    ⟨namedSecret tables.isWord, ["1", "2"], "[REDACTED]"⟩, ⟨cliSecret, ["1"], "[REDACTED]"⟩,
    ⟨fileUri tables.isWord, [], "[LOCAL_PATH]"⟩] ++
    (redactedValues.filter (· ≠ "")).map (⟨literal ·, [], "[LOCAL_PATH]"⟩) ++
    [⟨absolutePath, [], "[LOCAL_PATH]"⟩]

def withoutControls (tables : UnicodeTables) (value : String) : List Char :=
  (tables.nfc value.toList).map fun char => if isControl char || isFormat char then ' ' else char

def sanitizedText (tables : UnicodeTables) (value : String) (redactedValues : List String) :
    String :=
  let redacted := (redactions tables redactedValues).foldl (fun text redaction =>
    redaction.apply text) (withoutControls tables value)
  String.ofList (Words.join (Words.split redacted))

def maxSanitizedLogBytes : Nat := 16 * 1024

def truncatedSuffix : String := "...[truncated]"

/-- Bytes are dropped at the end until the others are a text. -/
def longestText (encoded : List UInt8) : Nat → String
  | 0 => ""
  | length + 1 =>
      match String.fromUTF8? ⟨(encoded.take (length + 1)).toArray⟩ with
      | some text => text
      | none => longestText encoded length

def sanitizeTelemetryMessage (tables : UnicodeTables) (value : String)
    (redactedValues : List String) : String :=
  let normalized := sanitizedText tables value redactedValues
  let encoded := normalized.toUTF8.data.toList
  if encoded.length ≤ maxSanitizedLogBytes then normalized
  else
    longestText encoded (maxSanitizedLogBytes - truncatedSuffix.utf8ByteSize) ++ truncatedSuffix

/-- What the contract asks of the message of a log entry. -/
def isLogEntryMessage (message : String) : Bool := 1 ≤ message.length && message.length ≤ 32768

/-! ## Characters of the result -/

def Plain (char : Char) : Prop := isControl char = false ∧ isFormat char = false

instance : DecidablePred Plain := fun _ => inferInstanceAs (Decidable (_ ∧ _))

def insertedTexts : List String :=
  ["?[REDACTED]", "Bearer [REDACTED]", "[REDACTED]", "[REDACTED JWT]", "[LOCAL_PATH]",
    truncatedSuffix]

theorem plain_inserted {text : String} (inserted : text ∈ insertedTexts) {char : Char}
    (member : char ∈ text.toList) : Plain char ∧ isLineSeparator char = false := by
  have checked : insertedTexts.all (fun text => text.toList.all fun char =>
      decide (Plain char) && !isLineSeparator char) = true := by decide +kernel
  have one := List.all_eq_true.mp (List.all_eq_true.mp checked text inserted) char member
  rwa [Bool.and_eq_true, decide_eq_true_eq, Bool.not_eq_true'] at one

section

variable {tables : UnicodeTables} {value : String} {redactedValues : List String}

theorem plain_withoutControls : ∀ char ∈ withoutControls tables value, Plain char := by
  intro char member
  rcases List.mem_map.mp member with ⟨original, -, rfl⟩
  split
  · decide
  · next other =>
      rw [Bool.or_eq_true, not_or, Bool.not_eq_true, Bool.not_eq_true] at other
      exact other

theorem plain_apply {redaction : Redaction} {text : List Char}
    (plainText : ∀ char ∈ text, Plain char)
    (plainReplacement : ∀ char ∈ redaction.replacement.toList, Plain char) :
    ∀ char ∈ redaction.apply text, Plain char := by
  apply kept_of_mem_substitute _ plainText
  intro way matched taken char member
  rcases List.mem_append.mp member with member | member
  · rcases List.mem_flatMap.mp member with ⟨name, -, inside⟩
    exact taken char (mem_of_mem_group matched inside)
  · exact plainReplacement char member

theorem plain_replacement : ∀ redaction ∈ redactions tables redactedValues,
    ∀ char ∈ redaction.replacement.toList, Plain char := by
  intro redaction member char inside
  refine (plain_inserted ?_ inside).1
  rcases List.mem_append.mp member with member | member
  · rcases List.mem_append.mp member with member | member
    · simp only [List.mem_cons, List.not_mem_nil, or_false] at member
      rcases member with rfl | rfl | rfl | rfl | rfl | rfl | rfl <;> simp [insertedTexts]
    · rcases List.mem_map.mp member with ⟨secret, -, rfl⟩
      simp [insertedTexts]
  · rw [List.mem_singleton.mp member]
    simp [insertedTexts]

theorem plain_foldl {steps : List Redaction} {text : List Char}
    (plainText : ∀ char ∈ text, Plain char)
    (plainSteps : ∀ redaction ∈ steps, ∀ char ∈ redaction.replacement.toList, Plain char) :
    ∀ char ∈ steps.foldl (fun text redaction => redaction.apply text) text, Plain char := by
  induction steps generalizing text with
  | nil => exact plainText
  | cons redaction steps induction =>
      exact induction (plain_apply plainText (plainSteps redaction List.mem_cons_self))
        fun other member => plainSteps other (List.mem_cons_of_mem _ member)

/-- A character of the text before it is cut. -/
theorem mem_sanitizedText {char : Char}
    (member : char ∈ (sanitizedText tables value redactedValues).toList) :
    Plain char ∧ isLineSeparator char = false := by
  rw [sanitizedText, String.toList_ofList] at member
  rcases Words.mem_of_mem_join member with rfl | ⟨word, known, inside⟩
  · decide
  · have found := Words.mem_of_mem_split known inside
    refine ⟨plain_foldl plain_withoutControls plain_replacement char found.1, ?_⟩
    by_contra separator
    rw [Bool.not_eq_false, isLineSeparator, Bool.or_eq_true, decide_eq_true_eq,
      decide_eq_true_eq] at separator
    have space : isSpace char = true := by
      rcases separator with code | code <;> rw [isSpace, code] <;> decide
    rw [found.2] at space
    cases space

theorem sanitizedText_apart :
    (sanitizedText tables value redactedValues).toList.IsChain Words.Apart := by
  rw [sanitizedText, String.toList_ofList]
  apply (Words.isChain_join _).1
  intro word known
  refine ⟨Words.ne_nil_of_mem_split known, ?_⟩
  intro space
  have visible := (Words.mem_of_mem_split known space).2
  exact absurd visible (by decide)

end

/-! ## Cutting -/

theorem toByteArray_of_fromUTF8? {bytes : ByteArray} {text : String}
    (found : String.fromUTF8? bytes = some text) : text.toByteArray = bytes := by
  unfold String.fromUTF8? at found
  split at found
  · cases found
    rfl
  · cases found

/-- The bytes that are left are those of a beginning of the text. -/
theorem longestText_spec (text : String) (length : Nat) :
    (longestText text.toUTF8.data.toList length).toList <+: text.toList ∧
      (longestText text.toUTF8.data.toList length).utf8ByteSize ≤ length := by
  induction length with
  | zero => exact ⟨List.nil_prefix, le_refl 0⟩
  | succ length induction =>
      rw [longestText]
      split
      · next kept found =>
          have bytes := toByteArray_of_fromUTF8? found
          constructor
          · apply List.isPrefix_of_utf8Encode_append_eq_utf8Encode
              ⟨(text.toUTF8.data.toList.drop (length + 1)).toArray⟩
            rw [String.utf8Encode_toList, String.utf8Encode_toList, bytes]
            apply ByteArray.ext
            rw [ByteArray.data_append, List.append_toArray, List.take_append_drop]
            rfl
          · have size := congrArg ByteArray.size bytes
            rw [String.size_toByteArray] at size
            rw [size, ByteArray.size, List.size_toArray]
            exact List.length_take_le _ _
      · exact ⟨induction.1, induction.2.trans (Nat.le_succ length)⟩

theorem sanitizeTelemetryMessage_cases (tables : UnicodeTables) (value : String)
    (redactedValues : List String) :
    let text := sanitizedText tables value redactedValues
    let message := sanitizeTelemetryMessage tables value redactedValues
    text.utf8ByteSize ≤ maxSanitizedLogBytes ∧ message = text ∨
      maxSanitizedLogBytes < text.utf8ByteSize ∧ ∃ kept : String,
        kept.toList <+: text.toList ∧ message = kept ++ truncatedSuffix ∧
          message.utf8ByteSize ≤ maxSanitizedLogBytes := by
  intro text message
  have size : text.toUTF8.data.toList.length = text.utf8ByteSize := Array.length_toList
  by_cases fits : text.utf8ByteSize ≤ maxSanitizedLogBytes
  · refine Or.inl ⟨fits, ?_⟩
    exact if_pos (size ▸ fits)
  · have cut : message = longestText text.toUTF8.data.toList
        (maxSanitizedLogBytes - truncatedSuffix.utf8ByteSize) ++ truncatedSuffix :=
      if_neg (size ▸ fits)
    have spec := longestText_spec text (maxSanitizedLogBytes - truncatedSuffix.utf8ByteSize)
    refine Or.inr ⟨not_le.mp fits, _, spec.1, cut, ?_⟩
    have room : truncatedSuffix.utf8ByteSize ≤ maxSanitizedLogBytes := by decide +kernel
    rw [cut, String.utf8ByteSize_append]
    omega

theorem length_le_utf8ByteSize (text : String) : text.length ≤ text.utf8ByteSize := by
  rw [← String.ofList_toList (s := text), String.utf8ByteSize_ofList, String.length_ofList]
  induction text.toList with
  | nil => exact le_refl 0
  | cons char chars induction =>
      have positive := char.utf8Size_pos
      rw [List.length_cons, String.utf8Len_cons]
      omega

/-- A sanitized line is short, has no control, format or line separating characters and no adjacent
spaces, and is a message that the contract accepts unless it is empty. What has been cut begins as
the whole line would. -/
theorem sanitizeTelemetryMessage_valid (tables : UnicodeTables) (value : String)
    (redactedValues : List String) :
    let text := sanitizedText tables value redactedValues
    let message := sanitizeTelemetryMessage tables value redactedValues
    message.utf8ByteSize ≤ maxSanitizedLogBytes ∧
      (∀ char ∈ message.toList,
        isControl char = false ∧ isFormat char = false ∧ isLineSeparator char = false) ∧
      ¬[' ', ' '] <:+: message.toList ∧
      (message ≠ "" → isLogEntryMessage message = true) ∧
      (text.utf8ByteSize ≤ maxSanitizedLogBytes → message = text) ∧
      (maxSanitizedLogBytes < text.utf8ByteSize →
        ∃ kept : String, kept.toList <+: text.toList ∧ message = kept ++ truncatedSuffix) := by
  intro text message
  have suffixChars : ∀ char ∈ truncatedSuffix.toList,
      Plain char ∧ isLineSeparator char = false :=
    fun char member => plain_inserted (by simp [insertedTexts]) member
  have textChars : ∀ char ∈ text.toList, Plain char ∧ isLineSeparator char = false :=
    fun char member => mem_sanitizedText member
  have textApart : text.toList.IsChain Words.Apart := sanitizedText_apart
  have result : text.utf8ByteSize ≤ maxSanitizedLogBytes ∧ message = text ∨
      maxSanitizedLogBytes < text.utf8ByteSize ∧ ∃ kept : String,
        kept.toList <+: text.toList ∧ message = kept ++ truncatedSuffix ∧
          message.utf8ByteSize ≤ maxSanitizedLogBytes :=
    sanitizeTelemetryMessage_cases tables value redactedValues
  clear_value text message
  have valid : message.utf8ByteSize ≤ maxSanitizedLogBytes → message ≠ "" →
      isLogEntryMessage message = true := by
    intro short nonempty
    have length := length_le_utf8ByteSize message
    have positive : message.length ≠ 0 := by rwa [ne_eq, String.length_eq_zero_iff]
    rw [maxSanitizedLogBytes] at short
    rw [isLogEntryMessage, Bool.and_eq_true, decide_eq_true_eq, decide_eq_true_eq]
    omega
  rcases result with ⟨fits, rfl⟩ | ⟨long, kept, begins, rfl, short⟩
  · refine ⟨fits, ?_, Words.not_infix_of_isChain textApart, valid fits, fun _ => rfl, ?_⟩
    · intro char member
      have both := textChars char member
      exact ⟨both.1.1, both.1.2, both.2⟩
    · intro long
      exact absurd fits (not_le.mpr long)
  · refine ⟨short, ?_, ?_, valid short, ?_, fun _ => ⟨kept, begins, rfl⟩⟩
    · intro char member
      have both : Plain char ∧ isLineSeparator char = false := by
        rw [String.toList_append] at member
        rcases List.mem_append.mp member with member | member
        · exact textChars char (begins.subset member)
        · exact suffixChars char member
      exact ⟨both.1.1, both.1.2, both.2⟩
    · have keptApart : kept.toList.IsChain Words.Apart := List.IsChain.prefix textApart begins
      apply Words.not_infix_of_isChain
      rw [String.toList_append]
      refine List.isChain_append.mpr ⟨keptApart, Words.isChain_of_spaceless (by decide), ?_⟩
      rintro last - first isFirst ⟨-, rfl⟩
      exact absurd isFirst (by decide)
    · intro fits
      exact absurd fits (not_le.mpr long)

end RvcOrchestrator.Worker
