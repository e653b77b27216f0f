import Mathlib.Data.List.Basic
import Mathlib.Data.List.TakeWhile

/-! # Patterns of a backtracking matcher

A pattern can match the beginning of a text in several ways, and the matcher takes the one it
prefers: a repetition takes as many characters as it can, and an alternative comes before the
next one.
-/

namespace RvcOrchestrator.Foundation

inductive Pattern where
  | empty
  /-- Characters of a class, as many as possible, within the bounds. -/
  | run (accepts : Char → Bool) (least : Nat) (most : Option Nat)
  /-- A condition on the characters before and after this place. -/
  | look (holds : Option Char → Option Char → Bool)
  | seq (first second : Pattern)
  | choice (first second : Pattern)
  | group (name : String) (inner : Pattern)

namespace Pattern

/-- A way to match the beginning of a text, with what its groups match. -/
structure Way where
  taken : List Char
  rest : List Char
  groups : List (String × List Char)
deriving DecidableEq

def Way.group (way : Way) (name : String) : List Char := (way.groups.lookup name).getD []

/-! ## Building patterns -/

def one (accepts : Char → Bool) : Pattern := run accepts 1 (some 1)

def maybe (inner : Pattern) : Pattern := choice inner empty

def anyNumber (accepts : Char → Bool) : Pattern := run accepts 0 none

def oneOrMore (accepts : Char → Bool) : Pattern := run accepts 1 none

def all (patterns : List Pattern) : Pattern := patterns.foldr seq empty

def anyOf : List Pattern → Pattern
  | [] => empty
  | [pattern] => pattern
  | pattern :: patterns => choice pattern (anyOf patterns)

def literal (text : String) : Pattern := all (text.toList.map fun char => one (· = char))

/-- `\s` -/
def isSpace (char : Char) : Bool :=
  char.toNat ∈ [9, 10, 11, 12, 13, 28, 29, 30, 31, 32, 133, 160, 5760, 8232, 8233, 8239, 8287, 12288] ||
    8192 ≤ char.toNat && char.toNat ≤ 8202

/-! ## Matching -/

def runLength (accepts : Char → Bool) (most : Option Nat) (text : List Char) : Nat :=
  let length := (text.takeWhile accepts).length
  match most with
  | none => length
  | some most => min length most

/-- The ways to match, the preferred one first. -/
def ways : Pattern → Option Char → List Char → List Way
  | empty, _, text => [⟨[], text, []⟩]
  | run accepts least most, _, text =>
      (List.range' least (runLength accepts most text + 1 - least)).reverse.map fun length =>
        ⟨text.take length, text.drop length, []⟩
  | look holds, before, text => if holds before text.head? then [⟨[], text, []⟩] else []
  | seq first second, before, text =>
      (first.ways before text).flatMap fun front =>
        (second.ways (front.taken.getLast?.or before) front.rest).map fun back =>
          ⟨front.taken ++ back.taken, back.rest, front.groups ++ back.groups⟩
  | choice first second, before, text => first.ways before text ++ second.ways before text
  | group name inner, before, text =>
      (inner.ways before text).map fun way => { way with groups := (name, way.taken) :: way.groups }

def searchFrom (pattern : Pattern) : Option Char → List Char → Option Way
  | before, [] => (pattern.ways before []).head?
  | before, char :: text =>
      match (pattern.ways before (char :: text)).head? with
      | some way => way
      | none => searchFrom pattern (some char) text

def search (pattern : Pattern) (text : List Char) : Option Way := pattern.searchFrom none text

/-- Every match is replaced. The first `skip` characters of the text belong to one. -/
def substituteFrom (pattern : Pattern) (replace : Way → List Char) :
    Nat → Option Char → List Char → List Char
  | _, _, [] => []
  | skip + 1, _, char :: text => substituteFrom pattern replace skip (some char) text
  | 0, before, char :: text =>
      match (pattern.ways before (char :: text)).head? with
      | some way =>
          replace way ++ substituteFrom pattern replace (way.taken.length - 1) (some char) text
      | none => char :: substituteFrom pattern replace 0 (some char) text

/-- `re.sub` of a pattern that does not match nothing. -/
def substitute (pattern : Pattern) (replace : Way → List Char) (text : List Char) : List Char :=
  pattern.substituteFrom replace 0 none text

/-! ## What is matched -/

def Matches : Pattern → List Char → List (String × List Char) → Prop
  | empty, text, groups => text = [] ∧ groups = []
  | run accepts least most, text, groups =>
      groups = [] ∧ least ≤ text.length ∧ (∀ bound ∈ most, text.length ≤ bound) ∧
        ∀ char ∈ text, accepts char = true
  | look _, text, groups => text = [] ∧ groups = []
  | seq first second, text, groups => ∃ front frontGroups back backGroups,
      text = front ++ back ∧ groups = frontGroups ++ backGroups ∧
        first.Matches front frontGroups ∧ second.Matches back backGroups
  | choice first second, text, groups => first.Matches text groups ∨ second.Matches text groups
  | group name inner, text, groups => ∃ innerGroups,
      groups = (name, text) :: innerGroups ∧ inner.Matches text innerGroups

variable {pattern : Pattern} {before : Option Char} {text : List Char} {way : Way}

theorem runLength_le (accepts : Char → Bool) (most : Option Nat) (text : List Char) :
    runLength accepts most text ≤ (text.takeWhile accepts).length := by
  unfold runLength
  cases most with
  | none => exact le_refl _
  | some bound => exact Nat.min_le_left _ _

theorem runLength_le_bound (accepts : Char → Bool) {bound : Nat} (text : List Char) :
    runLength accepts (some bound) text ≤ bound :=
  Nat.min_le_right _ _

theorem accepts_of_mem_take {accepts : Char → Bool} {length : Nat}
    (short : length ≤ (text.takeWhile accepts).length) {char : Char}
    (member : char ∈ text.take length) : accepts char = true := by
  have inRun : char ∈ text.takeWhile accepts := by
    have prefix_ : text.take length <+: text.takeWhile accepts :=
      List.prefix_of_prefix_length_le (List.take_prefix _ _) (List.takeWhile_prefix _)
        (le_trans (List.length_take_le _ _) short)
    exact prefix_.subset member
  exact List.mem_takeWhile_imp inRun

theorem mem_run_iff {accepts : Char → Bool} {least : Nat} {most : Option Nat} :
    way ∈ (run accepts least most).ways before text ↔
      ∃ length, least ≤ length ∧ length ≤ runLength accepts most text ∧
        way = ⟨text.take length, text.drop length, []⟩ := by
  simp only [ways, List.mem_map, List.mem_reverse, List.mem_range'_1]
  constructor
  · rintro ⟨length, ⟨atLeast, below⟩, rfl⟩
    exact ⟨length, atLeast, by omega, rfl⟩
  · rintro ⟨length, atLeast, atMost, rfl⟩
    exact ⟨length, ⟨atLeast, by omega⟩, rfl⟩

theorem taken_append_rest (member : way ∈ pattern.ways before text) :
    way.taken ++ way.rest = text := by
  induction pattern generalizing before text way with
  | empty =>
      rw [List.mem_singleton.mp member, List.nil_append]
  | run accepts least most =>
      rcases mem_run_iff.mp member with ⟨length, -, -, rfl⟩
      exact List.take_append_drop length text
  | look holds =>
      rw [ways] at member
      split at member
      · rw [List.mem_singleton.mp member, List.nil_append]
      · cases member
  | seq first second firstInduction secondInduction =>
      rcases List.mem_flatMap.mp member with ⟨front, frontMember, backMember⟩
      rcases List.mem_map.mp backMember with ⟨back, inBack, rfl⟩
      rw [List.append_assoc, secondInduction inBack, firstInduction frontMember]
  | choice first second firstInduction secondInduction =>
      rcases List.mem_append.mp member with left | right
      · exact firstInduction left
      · exact secondInduction right
  | group name inner induction =>
      rcases List.mem_map.mp member with ⟨inside, inInner, rfl⟩
      exact (induction inInner :)

theorem matches_of_mem_ways (member : way ∈ pattern.ways before text) :
    pattern.Matches way.taken way.groups := by
  induction pattern generalizing before text way with
  | empty =>
      rw [List.mem_singleton.mp member]
      exact ⟨rfl, rfl⟩
  | run accepts least most =>
      rcases mem_run_iff.mp member with ⟨length, atLeast, atMost, rfl⟩
      have inRun : length ≤ (text.takeWhile accepts).length :=
        le_trans atMost (runLength_le _ _ _)
      have inText : length ≤ text.length :=
        le_trans inRun (List.takeWhile_prefix _).length_le
      refine ⟨rfl, ?_, ?_, fun char taken => accepts_of_mem_take inRun taken⟩
      · rwa [List.length_take, Nat.min_eq_left inText]
      · rintro bound rfl
        rw [List.length_take, Nat.min_eq_left inText]
        exact le_trans atMost (runLength_le_bound _ _)
  | look holds =>
      rw [ways] at member
      split at member
      · rw [List.mem_singleton.mp member]
        exact ⟨rfl, rfl⟩
      · cases member
  | seq first second firstInduction secondInduction =>
      rcases List.mem_flatMap.mp member with ⟨front, frontMember, backMember⟩
      rcases List.mem_map.mp backMember with ⟨back, inBack, rfl⟩
      exact ⟨_, _, _, _, rfl, rfl, firstInduction frontMember, secondInduction inBack⟩
  | choice first second firstInduction secondInduction =>
      rcases List.mem_append.mp member with left | right
      · exact .inl (firstInduction left)
      · exact .inr (secondInduction right)
  | group name inner induction =>
      rcases List.mem_map.mp member with ⟨way, inInner, rfl⟩
      exact ⟨way.groups, rfl, induction inInner⟩

/-- What is found stands somewhere in the text. -/
theorem searchFrom_eq_some (found : pattern.searchFrom before text = some way) :
    ∃ front previous, text = front ++ (way.taken ++ way.rest) ∧
      (pattern.ways previous (way.taken ++ way.rest)).head? = some way := by
  induction text generalizing before with
  | nil =>
      have member := List.mem_of_mem_head? found
      refine ⟨[], before, (taken_append_rest member).symm, ?_⟩
      rw [taken_append_rest member]
      exact found
  | cons char text induction =>
      rw [searchFrom] at found
      split at found
      · next here =>
          cases found
          have member := List.mem_of_mem_head? here
          refine ⟨[], before, (taken_append_rest member).symm, ?_⟩
          rw [taken_append_rest member]
          exact here
      · rcases induction found with ⟨front, previous, split, here⟩
        exact ⟨char :: front, previous, by rw [split]; rfl, here⟩

theorem matches_of_search (found : pattern.search text = some way) :
    pattern.Matches way.taken way.groups := by
  rcases searchFrom_eq_some found with ⟨_, _, -, here⟩
  exact matches_of_mem_ways (List.mem_of_mem_head? here)

/-! ## Groups -/

def groupless : Pattern → Bool
  | empty => true
  | run _ _ _ => true
  | look _ => true
  | seq first second => first.groupless && second.groupless
  | choice first second => first.groupless && second.groupless
  | group _ _ => false

variable {first second inner : Pattern} {name : String} {groups : List (String × List Char)}

theorem groups_eq_nil (plain : pattern.groupless = true) (matched : pattern.Matches text groups) :
    groups = [] := by
  induction pattern generalizing text groups with
  | empty => exact matched.2
  | run accepts least most => exact matched.1
  | look holds => exact matched.2
  | seq first second firstInduction secondInduction =>
      rw [groupless, Bool.and_eq_true] at plain
      rcases matched with ⟨_, _, _, _, -, rfl, inFirst, inSecond⟩
      rw [firstInduction plain.1 inFirst, secondInduction plain.2 inSecond, List.append_nil]
  | choice first second firstInduction secondInduction =>
      rw [groupless, Bool.and_eq_true] at plain
      rcases matched with inFirst | inSecond
      · exact firstInduction plain.1 inFirst
      · exact secondInduction plain.2 inSecond
  | group name inner induction => cases plain

theorem groupless_literal (text : String) : (literal text).groupless = true := by
  unfold literal
  induction text.toList with
  | nil => rfl
  | cons char chars induction => exact induction

theorem Matches.skip (matched : (seq first second).Matches text groups)
    (plain : first.groupless = true) : ∃ back, second.Matches back groups := by
  rcases matched with ⟨_, frontGroups, back, _, -, rfl, inFirst, inSecond⟩
  rw [groups_eq_nil plain inFirst]
  exact ⟨back, inSecond⟩

theorem Matches.capture (matched : (seq (group name inner) second).Matches text groups)
    (plain : inner.groupless = true) : ∃ captured back backGroups,
      groups = (name, captured) :: backGroups ∧ inner.Matches captured [] ∧
        second.Matches back backGroups := by
  rcases matched with ⟨captured, _, back, backGroups, -, rfl, ⟨innerGroups, rfl, inInner⟩, inSecond⟩
  obtain rfl := groups_eq_nil plain inInner
  exact ⟨captured, back, backGroups, rfl, inInner, inSecond⟩

theorem Matches.parts (matched : (seq first second).Matches text []) :
    ∃ front back, text = front ++ back ∧ first.Matches front [] ∧ second.Matches back [] := by
  rcases matched with ⟨front, _, back, _, rfl, groups, inFirst, inSecond⟩
  rcases List.append_eq_nil_iff.mp groups.symm with ⟨rfl, rfl⟩
  exact ⟨front, back, rfl, inFirst, inSecond⟩

theorem matches_anyNumber_iff {accepts : Char → Bool} :
    (anyNumber accepts).Matches text [] ↔ ∀ char ∈ text, accepts char = true := by
  simp [anyNumber, Matches]

theorem matches_one_iff {accepts : Char → Bool} :
    (one accepts).Matches text [] ↔ ∃ char, text = [char] ∧ accepts char = true := by
  constructor
  · rintro ⟨-, least, most, accepted⟩
    rcases List.length_eq_one_iff.mp (le_antisymm (most 1 rfl) least) with ⟨char, rfl⟩
    exact ⟨char, rfl, accepted char (List.mem_singleton_self char)⟩
  · rintro ⟨char, rfl, accepted⟩
    simp [one, Matches, accepted]

theorem eq_of_matches_literal {content : String} (matched : (literal content).Matches text []) :
    text = content.toList := by
  unfold literal at matched
  generalize content.toList = chars at matched ⊢
  induction chars generalizing text with
  | nil => exact matched.1
  | cons char chars induction =>
      rcases Matches.parts matched with ⟨_, back, rfl, inFirst, inRest⟩
      rcases matches_one_iff.mp inFirst with ⟨_, rfl, same⟩
      rw [induction inRest, of_decide_eq_true same]
      rfl

theorem matches_oneOrMore_iff {accepts : Char → Bool} :
    (oneOrMore accepts).Matches text [] ↔ text ≠ [] ∧ ∀ char ∈ text, accepts char = true := by
  simp [oneOrMore, Matches, Nat.one_le_iff_ne_zero]

/-! ## Texts in texts -/

/-- The pattern asks nothing of what stands around a match. -/
def lookless : Pattern → Bool
  | empty => true
  | run _ _ _ => true
  | look _ => false
  | seq first second => first.lookless && second.lookless
  | choice first second => first.lookless && second.lookless
  | group _ inner => inner.lookless

def Way.followedBy (way : Way) (more : List Char) : Way := { way with rest := way.rest ++ more }

theorem takeWhile_length_append (accepts : Char → Bool) (text more : List Char) :
    min ((text ++ more).takeWhile accepts).length text.length =
      (text.takeWhile accepts).length := by
  induction text with
  | nil => rw [List.length_nil, Nat.min_zero, List.takeWhile_nil, List.length_nil]
  | cons char text induction =>
      rw [List.cons_append, List.takeWhile_cons, List.takeWhile_cons]
      split
      · rw [List.length_cons, List.length_cons, List.length_cons, Nat.succ_min_succ, induction]
      · exact Nat.zero_min _

theorem runLength_le_length (accepts : Char → Bool) (most : Option Nat) (text : List Char) :
    runLength accepts most text ≤ text.length :=
  le_trans (runLength_le accepts most text) (List.takeWhile_prefix _).length_le

theorem runLength_append (accepts : Char → Bool) (most : Option Nat) (text more : List Char) :
    min (runLength accepts most (text ++ more)) text.length = runLength accepts most text := by
  have run := takeWhile_length_append accepts text more
  unfold runLength
  cases most with
  | none => exact run
  | some bound =>
      dsimp only
      omega

theorem filter_range' (least count bound : Nat) :
    (List.range' least count).filter (fun length => length ≤ bound) =
      List.range' least (min count (bound + 1 - least)) := by
  induction count generalizing least with
  | zero => simp
  | succ count induction =>
      rw [List.range'_succ, List.filter_cons]
      by_cases inside : least ≤ bound
      · have shorter : min (count + 1) (bound + 1 - least) =
            min count (bound + 1 - (least + 1)) + 1 := by
          omega
        rw [if_pos (decide_eq_true inside), induction, shorter, List.range'_succ]
      · have none_ : min (count + 1) (bound + 1 - least) = 0 := by omega
        have rest : min count (bound + 1 - (least + 1)) = 0 := by omega
        rw [if_neg (by simpa using inside), induction, none_, rest]
        rfl

theorem flatMap_filter_of_nil {Item Other : Type} {keeps : Item → Bool} {next : Item → List Other}
    {items : List Item} (idle : ∀ item ∈ items, keeps item = false → next item = []) :
    (items.filter keeps).flatMap next = items.flatMap next := by
  induction items with
  | nil => rfl
  | cons item items induction =>
      rcases List.forall_mem_cons.mp idle with ⟨here, later⟩
      rw [List.filter_cons, List.flatMap_cons]
      cases kept : keeps item with
      | true => rw [if_pos rfl, List.flatMap_cons, induction later]
      | false => rw [if_neg (by simp), here kept, induction later, List.nil_append]

/-- In a longer text the matches that stay in the text are those of the text. -/
theorem ways_append (plain : pattern.lookless = true) (before : Option Char)
    (text more : List Char) :
    (pattern.ways before (text ++ more)).filter (fun way => way.taken.length ≤ text.length) =
      (pattern.ways before text).map fun way => way.followedBy more := by
  induction pattern generalizing before text with
  | empty => simp [ways, Way.followedBy]
  | run accepts least most =>
      have longer := runLength_le_length accepts most (text ++ more)
      have shorter := runLength_le_length accepts most text
      have bounded := runLength_append accepts most text more
      have inside : ∀ length ∈
          (List.range' least (runLength accepts most (text ++ more) + 1 - least)).reverse,
          decide (((text ++ more).take length).length ≤ text.length) =
            decide (length ≤ text.length) := by
        intro length member
        rw [List.mem_reverse, List.mem_range'_1] at member
        rw [List.length_take, Nat.min_eq_left (by omega)]
      have counts : min (runLength accepts most (text ++ more) + 1 - least)
          (text.length + 1 - least) = runLength accepts most text + 1 - least := by
        omega
      have kept := List.filter_congr inside
      rw [List.filter_reverse (p := fun length => decide (length ≤ text.length)), filter_range',
        counts] at kept
      rw [ways, ways, List.filter_map, List.map_map]
      refine (congrArg (List.map _) kept).trans (List.map_congr_left ?_)
      intro length member
      rw [List.mem_reverse, List.mem_range'_1] at member
      have short : length ≤ text.length := by omega
      rw [Function.comp_apply, Way.followedBy, List.take_append_of_le_length short,
        List.drop_append_of_le_length short]
  | look holds => cases plain
  | seq first second firstInduction secondInduction =>
      rw [lookless, Bool.and_eq_true] at plain
      -- A match of the first pattern that leaves the text is in no match that stays in it.
      have idle : ∀ front ∈ first.ways before (text ++ more),
          decide (front.taken.length ≤ text.length) = false →
            ((second.ways (front.taken.getLast?.or before) front.rest).map fun back =>
              Way.mk (front.taken ++ back.taken) back.rest (front.groups ++ back.groups)).filter
                (fun way => way.taken.length ≤ text.length) = [] := by
        intro front _ leaves
        rw [List.filter_eq_nil_iff]
        intro way member
        rcases List.mem_map.mp member with ⟨back, -, rfl⟩
        have long := of_decide_eq_false leaves
        rw [decide_eq_true_eq, List.length_append]
        omega
      rw [ways, ways, List.filter_flatMap, List.map_flatMap, ← flatMap_filter_of_nil idle,
        firstInduction plain.1, List.flatMap_map]
      apply List.flatMap_congr
      intro front member
      have inText := congrArg List.length (taken_append_rest member)
      have inRest := secondInduction plain.2 (front.taken.getLast?.or before) front.rest
      rw [List.length_append] at inText
      have same : ((fun way : Way => decide (way.taken.length ≤ text.length)) ∘ fun back : Way =>
          Way.mk (front.taken ++ back.taken) back.rest (front.groups ++ back.groups)) =
          fun back : Way => decide (back.taken.length ≤ front.rest.length) := by
        funext back
        simp only [Function.comp_apply, List.length_append]
        congr 1
        exact propext (by omega)
      rw [Way.followedBy, List.filter_map]
      dsimp only
      rw [same, inRest, List.map_map, List.map_map]
      rfl
  | choice first second firstInduction secondInduction =>
      rw [lookless, Bool.and_eq_true] at plain
      rw [ways, ways, List.filter_append, List.map_append, firstInduction plain.1,
        secondInduction plain.2]
  | group name inner induction =>
      rw [ways, ways, List.map_map, List.filter_map]
      have inside := congrArg
        (List.map fun way : Way => { way with groups := (name, way.taken) :: way.groups })
        (induction plain before text)
      rw [List.map_map] at inside
      exact inside

theorem head_ways_append (plain : pattern.lookless = true) {more : List Char}
    (head : (pattern.ways before (text ++ more)).head? = some way)
    (inside : way.taken.length ≤ text.length) :
    ∃ here, (pattern.ways before text).head? = some here ∧ way = here.followedBy more := by
  have kept := ways_append plain before text more
  rcases List.head?_eq_some_iff.mp head with ⟨others, all⟩
  rw [all, List.filter_cons, if_pos (decide_eq_true inside)] at kept
  cases short : pattern.ways before text with
  | nil =>
      rw [short] at kept
      cases kept
  | cons here more_ =>
      rw [short, List.map_cons, List.cons.injEq] at kept
      exact ⟨here, rfl, kept.1⟩

theorem ways_eq_nil_of_append (plain : pattern.lookless = true) {more : List Char}
    (none_ : pattern.ways before (text ++ more) = []) : pattern.ways before text = [] := by
  have kept := ways_append plain before text more
  rw [none_, List.filter_nil] at kept
  exact List.map_eq_nil_iff.mp kept.symm

theorem ways_before (plain : pattern.lookless = true) (before other : Option Char)
    (text : List Char) : pattern.ways before text = pattern.ways other text := by
  induction pattern generalizing before other text with
  | empty => rfl
  | run accepts least most => rfl
  | look holds => cases plain
  | seq first second firstInduction secondInduction =>
      rw [lookless, Bool.and_eq_true] at plain
      rw [ways, ways, firstInduction plain.1 before other]
      apply List.flatMap_congr
      intro front _
      rw [secondInduction plain.2 _ (front.taken.getLast?.or other)]
  | choice first second firstInduction secondInduction =>
      rw [lookless, Bool.and_eq_true] at plain
      rw [ways, ways, firstInduction plain.1 before other, secondInduction plain.2 before other]
  | group name inner induction => rw [ways, ways, induction plain before other]

theorem searchFrom_before (plain : pattern.lookless = true) (before other : Option Char)
    (text : List Char) : pattern.searchFrom before text = pattern.searchFrom other text := by
  cases text with
  | nil => rw [searchFrom, searchFrom, ways_before plain before other]
  | cons char text => rw [searchFrom, searchFrom, ways_before plain before other]

/-! ## Pieces of texts -/

section

variable {separator : Char} {part rest : List Char}

/-- A pattern that is not found in a text is found in no part of it. -/
theorem searchFrom_parts_none (plain : pattern.lookless = true)
    (absent : pattern.searchFrom before (part ++ separator :: rest) = none) :
    pattern.searchFrom before part = none ∧ pattern.search rest = none := by
  induction part generalizing before with
  | nil =>
      rw [List.nil_append, searchFrom] at absent
      split at absent
      · cases absent
      · next none_ =>
          have nothing := @ways_eq_nil_of_append _ _ [] plain _ (List.head?_eq_none_iff.mp none_)
          rw [searchFrom, nothing]
          exact ⟨rfl, (searchFrom_before plain _ _ _).trans absent⟩
  | cons char part induction =>
      rw [List.cons_append, searchFrom] at absent
      split at absent
      · cases absent
      · next none_ =>
          have nothing := @ways_eq_nil_of_append _ _ (char :: part) plain _
            (List.head?_eq_none_iff.mp none_)
          rw [searchFrom, nothing]
          exact induction absent

/-- What a match takes without the separator it takes from the part before it. -/
theorem length_taken_le_part (member : way ∈ pattern.ways before (part ++ separator :: rest))
    (inside : separator ∉ way.taken) : way.taken.length ≤ part.length := by
  rcases List.append_eq_append_iff.mp (taken_append_rest member) with
    ⟨more, whole, -⟩ | ⟨more, taken, later⟩
  · rw [whole, List.length_append]
    exact Nat.le_add_right _ _
  · cases more with
    | nil => rw [taken, List.append_nil]
    | cons first more =>
        rw [List.cons_append, List.cons.injEq] at later
        refine absurd ?_ inside
        rw [taken, later.1]
        exact List.mem_append_right _ List.mem_cons_self

/-- A match without the separator is the first one of a part. -/
theorem searchFrom_parts_some (plain : pattern.lookless = true)
    (visible : ∀ groups, ¬pattern.Matches [] groups)
    (found : pattern.searchFrom before (part ++ separator :: rest) = some way)
    (inside : separator ∉ way.taken) :
    (∃ here, pattern.searchFrom before part = some here ∧ here.taken = way.taken ∧
      here.groups = way.groups) ∨
    pattern.searchFrom before part = none ∧ pattern.search rest = some way := by
  induction part generalizing before with
  | nil =>
      rw [List.nil_append, searchFrom] at found
      split at found
      · next here =>
          cases found
          have member := List.mem_of_mem_head? here
          have nothing := @length_taken_le_part _ _ _ _ [] _ member inside
          have matched := matches_of_mem_ways member
          rw [List.length_eq_zero_iff.mp (Nat.le_zero.mp nothing)] at matched
          exact absurd matched (visible _)
      · next none_ =>
          have nothing := @ways_eq_nil_of_append _ _ [] plain _ (List.head?_eq_none_iff.mp none_)
          rw [searchFrom, nothing]
          exact .inr ⟨rfl, (searchFrom_before plain _ _ _).trans found⟩
  | cons char part induction =>
      rw [List.cons_append, searchFrom] at found
      split at found
      · next here =>
          cases found
          have short := @length_taken_le_part _ _ _ _ (char :: part) _
            (List.mem_of_mem_head? here) inside
          rcases @head_ways_append _ _ (char :: part) _ plain _ here short with ⟨way, first, rfl⟩
          left
          rw [searchFrom, first]
          exact ⟨way, rfl, rfl, rfl⟩
      · next none_ =>
          have nothing := @ways_eq_nil_of_append _ _ (char :: part) plain _
            (List.head?_eq_none_iff.mp none_)
          rw [searchFrom, nothing]
          exact induction found

end

/-! ## Ends of matches -/

/-- Whatever the pattern matches ends with a character of the class. -/
def EndsIn (accepts : Char → Bool) (pattern : Pattern) : Prop :=
  ∀ text groups, pattern.Matches text groups → ∃ char ∈ text.getLast?, accepts char = true

section

variable {accepts : Char → Bool}

theorem endsIn_oneOrMore {class_ : Char → Bool}
    (accepted : ∀ char, class_ char = true → accepts char = true) :
    EndsIn accepts (oneOrMore class_) := by
  rintro text groups ⟨-, least, -, all⟩
  have some_ : text ≠ [] := List.length_pos_iff.mp least
  exact ⟨text.getLast some_, List.getLast?_eq_some_getLast some_,
    accepted _ (all _ (List.getLast_mem some_))⟩

theorem endsIn_group (ends : EndsIn accepts inner) : EndsIn accepts (group name inner) := by
  rintro text groups ⟨innerGroups, -, matched⟩
  exact ends text innerGroups matched

/-- Patterns one after the other end as the last one does. -/
theorem endsIn_all {patterns : List Pattern} {last : Pattern}
    (isLast : patterns.getLast? = some last) (ends : EndsIn accepts last) :
    EndsIn accepts (all patterns) := by
  induction patterns with
  | nil => cases isLast
  | cons pattern patterns induction =>
      cases patterns with
      | nil =>
          cases isLast
          rintro text groups ⟨front, frontGroups, back, _, rfl, -, matched, rfl, -⟩
          rw [List.append_nil]
          exact ends front frontGroups matched
      | cons second more =>
          rintro text groups ⟨front, _, back, backGroups, rfl, -, -, matched⟩
          rcases induction isLast back backGroups matched with ⟨char, lastChar, accepted⟩
          refine ⟨char, ?_, accepted⟩
          rw [List.getLast?_append, Option.mem_def.mp lastChar]
          rfl

theorem endsIn_literal {content : String} {last : Char}
    (ends : content.toList.getLast? = some last) (accepted : accepts last = true) :
    EndsIn accepts (literal content) := by
  intro text groups matched
  obtain rfl := groups_eq_nil (groupless_literal content) matched
  rw [eq_of_matches_literal matched]
  exact ⟨last, ends, accepted⟩

theorem EndsIn.visible (ends : EndsIn accepts pattern) (groups : List (String × List Char)) :
    ¬pattern.Matches [] groups := by
  intro matched
  rcases ends [] groups matched with ⟨_, last, -⟩
  cases last

end

end Pattern

end RvcOrchestrator.Foundation
