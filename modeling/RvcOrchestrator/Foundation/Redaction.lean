import Mathlib.Data.List.Chain
import RvcOrchestrator.Foundation.Pattern

/-! # Replacing parts of a text

Patterns that do not tell capital and small letters apart, what a substitution leaves of a text, and
texts as words with single spaces between them.
-/

namespace RvcOrchestrator.Foundation

namespace Pattern

/-! ## Letters of either case -/

/-- Whether a pattern's small letter stands for a character when the case is ignored. Four
characters beyond ASCII have an ASCII letter as their other case. -/
def sameLetter (letter char : Char) : Bool :=
  char = letter || char = letter.toUpper ||
    letter = 'i' && (char = '\u0130' || char = '\u0131') ||
    letter = 's' && char = '\u017F' || letter = 'k' && char = '\u212A'

def anyCase (text : String) : Pattern := all (text.toList.map fun letter => one (sameLetter letter))

def isLetterAnyCase (char : Char) : Bool :=
  char.isAlpha || char = '\u0130' || char = '\u0131' || char = '\u017F' || char = '\u212A'

/-- `\b` -/
def boundary (isWord : Char → Bool) : Pattern :=
  look fun before after => before.any isWord != after.any isWord

/-! ## What a substitution leaves -/

variable {pattern : Pattern} {text : List Char} {groups : List (String × List Char)}

theorem mem_of_mem_groups {name : String} {captured : List Char} {char : Char}
    (matched : pattern.Matches text groups) (member : (name, captured) ∈ groups)
    (inside : char ∈ captured) : char ∈ text := by
  induction pattern generalizing text groups with
  | empty => rw [matched.2] at member; cases member
  | run accepts least most => rw [matched.1] at member; cases member
  | look holds => rw [matched.2] at member; cases member
  | seq first second firstInduction secondInduction =>
      rcases matched with ⟨front, frontGroups, back, backGroups, rfl, rfl, inFirst, inSecond⟩
      rcases List.mem_append.mp member with member | member
      · exact List.mem_append_left _ (firstInduction inFirst member)
      · exact List.mem_append_right _ (secondInduction inSecond member)
  | choice first second firstInduction secondInduction =>
      rcases matched with inFirst | inSecond
      · exact firstInduction inFirst member
      · exact secondInduction inSecond member
  | group other inner induction =>
      rcases matched with ⟨innerGroups, rfl, inInner⟩
      rcases List.mem_cons.mp member with same | member
      · cases same
        exact inside
      · exact induction inInner member

theorem mem_of_mem_group {way : Way} {name : String} {char : Char}
    (matched : pattern.Matches way.taken way.groups) (inside : char ∈ way.group name) :
    char ∈ way.taken := by
  unfold Way.group at inside
  cases found : way.groups.lookup name with
  | none =>
      rw [found] at inside
      cases inside
  | some captured =>
      rw [found] at inside
      rcases List.lookup_eq_some_iff.mp found with ⟨front, back, split, -⟩
      have member : (name, captured) ∈ way.groups := by
        rw [split]
        exact List.mem_append_right _ List.mem_cons_self
      exact mem_of_mem_groups matched member inside

section

variable {replace : Way → List Char} {Kept : Char → Prop}

theorem kept_of_mem_substituteFrom
    (keeps : ∀ way, pattern.Matches way.taken way.groups →
      (∀ char ∈ way.taken, Kept char) → ∀ char ∈ replace way, Kept char)
    {skip : Nat} {before : Option Char} (kept : ∀ char ∈ text, Kept char) :
    ∀ char ∈ pattern.substituteFrom replace skip before text, Kept char := by
  induction text generalizing skip before with
  | nil => cases skip <;> exact kept
  | cons first text induction =>
      have rest : ∀ {skip before}, ∀ char ∈ pattern.substituteFrom replace skip before text,
          Kept char := induction fun char member => kept char (List.mem_cons_of_mem _ member)
      cases skip with
      | succ skip => exact rest
      | zero =>
          rw [substituteFrom]
          split
          · next way found =>
              have member := List.mem_of_mem_head? found
              have within : ∀ char ∈ way.taken, Kept char := by
                intro char taken
                apply kept
                rw [← taken_append_rest member]
                exact List.mem_append_left _ taken
              intro char inside
              rcases List.mem_append.mp inside with inside | inside
              · exact keeps way (matches_of_mem_ways member) within char inside
              · exact rest char inside
          · intro char inside
            rcases List.mem_cons.mp inside with rfl | inside
            · exact kept char List.mem_cons_self
            · exact rest char inside

/-- A substitution brings in only what its replacements consist of. -/
theorem kept_of_mem_substitute
    (keeps : ∀ way, pattern.Matches way.taken way.groups →
      (∀ char ∈ way.taken, Kept char) → ∀ char ∈ replace way, Kept char)
    (kept : ∀ char ∈ text, Kept char) :
    ∀ char ∈ pattern.substitute replace text, Kept char :=
  kept_of_mem_substituteFrom keeps kept

end

end Pattern

/-! ## Words -/

namespace Words

open Pattern

/-- `str.split` -/
def split (text : List Char) : List (List Char) :=
  (text.splitOnP isSpace).filter fun word => word ≠ []

/-- `" ".join` -/
def join : List (List Char) → List Char
  | [] => []
  | [word] => word
  | word :: next :: words => word ++ ' ' :: join (next :: words)

variable {text word : List Char} {words : List (List Char)}

theorem mem_of_mem_splitOnP (member : word ∈ text.splitOnP isSpace) {char : Char}
    (inside : char ∈ word) : char ∈ text ∧ isSpace char = false := by
  induction text generalizing word with
  | nil =>
      rw [List.splitOnP_nil, List.mem_singleton] at member
      rw [member] at inside
      cases inside
  | cons first text induction =>
      rw [List.splitOnP_cons_eq_if_modifyHead] at member
      split at member
      · rcases List.mem_cons.mp member with rfl | member
        · cases inside
        · have found := induction member inside
          exact ⟨List.mem_cons_of_mem _ found.1, found.2⟩
      · next visible =>
          cases parts : text.splitOnP isSpace with
          | nil => exact absurd parts (List.splitOnP_ne_nil _ _)
          | cons head tail =>
              rw [parts, List.modifyHead_cons] at member
              rw [parts] at induction
              rcases List.mem_cons.mp member with rfl | member
              · rcases List.mem_cons.mp inside with rfl | inside
                · exact ⟨List.mem_cons_self, by simpa using visible⟩
                · have found := induction List.mem_cons_self inside
                  exact ⟨List.mem_cons_of_mem _ found.1, found.2⟩
              · have found := induction (List.mem_cons_of_mem _ member) inside
                exact ⟨List.mem_cons_of_mem _ found.1, found.2⟩

theorem mem_of_mem_split (member : word ∈ split text) {char : Char} (inside : char ∈ word) :
    char ∈ text ∧ isSpace char = false :=
  mem_of_mem_splitOnP (List.mem_of_mem_filter member) inside

theorem ne_nil_of_mem_split (member : word ∈ split text) : word ≠ [] := by
  have kept := (List.mem_filter.mp member).2
  simpa using kept

def Apart (first second : Char) : Prop := ¬(first = ' ' ∧ second = ' ')

theorem isChain_of_spaceless (spaceless : ' ' ∉ word) : word.IsChain Apart := by
  apply List.IsChain.imp_of_mem_imp (R := fun _ _ => True) _ (by simp [List.isChain_iff_getElem])
  rintro first second one - - ⟨rfl, -⟩
  exact spaceless one

/-- Words without spaces have single spaces between them. -/
theorem isChain_join (whole : ∀ word ∈ words, word ≠ [] ∧ ' ' ∉ word) :
    (join words).IsChain Apart ∧ ∀ char ∈ (join words).head?, char ≠ ' ' := by
  have begins : ∀ {word rest : List Char}, word ≠ [] → ' ' ∉ word →
      ∀ char ∈ (word ++ rest).head?, char ≠ ' ' := by
    intro word rest nonempty spaceless char head
    cases word with
    | nil => exact absurd rfl nonempty
    | cons first word =>
        rw [List.cons_append, List.head?_cons, Option.mem_some_iff] at head
        rintro rfl
        exact spaceless (head ▸ List.mem_cons_self)
  induction words with
  | nil => exact ⟨List.IsChain.nil, fun _ none => by cases none⟩
  | cons word words induction =>
      have first := whole word List.mem_cons_self
      have rest := induction fun other member => whole other (List.mem_cons_of_mem _ member)
      cases words with
      | nil =>
          refine ⟨isChain_of_spaceless first.2, ?_⟩
          have head := @begins word [] first.1 first.2
          rwa [List.append_nil] at head
      | cons second words =>
          refine ⟨List.isChain_append.mpr ⟨isChain_of_spaceless first.2, ?_, ?_⟩,
            begins first.1 first.2⟩
          · rw [List.isChain_cons]
            refine ⟨?_, rest.1⟩
            rintro char head ⟨-, rfl⟩
            exact rest.2 ' ' head rfl
          · rintro last isLast char head ⟨rfl, -⟩
            exact first.2 (List.mem_of_mem_getLast? isLast)

/-- No two spaces are adjacent in a text. -/
theorem not_infix_of_isChain (chain : text.IsChain Apart) : ¬[' ', ' '] <:+: text := by
  intro adjacent
  have pair := chain.infix adjacent
  rw [List.isChain_cons_cons] at pair
  exact pair.1 ⟨rfl, rfl⟩

theorem mem_of_mem_join {char : Char} (member : char ∈ join words) :
    char = ' ' ∨ ∃ word ∈ words, char ∈ word := by
  induction words with
  | nil => cases member
  | cons word words induction =>
      cases words with
      | nil => exact Or.inr ⟨word, List.mem_cons_self, member⟩
      | cons second words =>
          rw [join] at member
          rcases List.mem_append.mp member with inside | inside
          · exact Or.inr ⟨word, List.mem_cons_self, inside⟩
          · rcases List.mem_cons.mp inside with rfl | inside
            · exact Or.inl rfl
            · rcases induction inside with rfl | ⟨other, known, inside⟩
              · exact Or.inl rfl
              · exact Or.inr ⟨other, List.mem_cons_of_mem _ known, inside⟩

end Words

end RvcOrchestrator.Foundation
