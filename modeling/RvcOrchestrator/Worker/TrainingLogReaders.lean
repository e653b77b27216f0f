import RvcOrchestrator.Worker.OutputChunks

/-! # The readers of the training log

The metrics recorded with the artifacts come from one look at `train.log` in text mode. The
observer and the collector read lines of bytes.
-/

namespace RvcOrchestrator.Worker

open RvcOrchestrator.Foundation
open Pattern

/-! ## Text mode -/

/-- Every end of a line becomes one LF. -/
def universalNewlines : List Char → List Char
  | [] => []
  | '\r' :: '\n' :: rest => '\n' :: universalNewlines rest
  | '\r' :: rest => '\n' :: universalNewlines rest
  | char :: rest => char :: universalNewlines rest

def textLines (text : List Char) : List (List Char) :=
  (cutLines '\n' text).1.map (fun line => line ++ ['\n']) ++
    if (cutLines '\n' text).2 = [] then [] else [(cutLines '\n' text).2]

def keepRecords (maxRecords : Nat) :
    List ParsedTrainingMetric → Nat → List ParsedTrainingMetric → List ParsedTrainingMetric × Nat
  | metrics, dropped, [] => (metrics, dropped)
  | metrics, dropped, metric :: parsed =>
      if maxRecords ≤ metrics.length then keepRecords maxRecords metrics (dropped + 1) parsed
      else keepRecords maxRecords (metrics ++ [metric]) dropped parsed

def parseLines (maxRecords : Nat) :
    TrainingLogParser → List ParsedTrainingMetric → Nat → List (List Char) →
      Except ObserverError (List ParsedTrainingMetric × Nat)
  | _, metrics, dropped, [] => .ok (metrics, dropped)
  | parser, metrics, dropped, line :: lines =>
      match parser.feed line with
      | (_, .error error) => .error (.parser error)
      | (parser, .ok parsed) =>
          let (metrics, dropped) := keepRecords maxRecords metrics dropped parsed
          parseLines maxRecords parser metrics dropped lines

/-- The file's size, where it can be inspected, and its bytes, where it can be read. -/
structure LogFile where
  size : Option Nat
  bytes : Option (List UInt8)

def parseTrainingLogBounded (file : LogFile) (maxBytes maxRecords : Nat) :
    Except ObserverError (List ParsedTrainingMetric × Nat × Option String) :=
  match file.size with
  | none => .error (.runner "cannot inspect RVC train.log")
  | some size =>
      if maxBytes < size then .ok ([], 0, some "train_log_size_limit")
      else
        match file.bytes with
        | none => .error (.runner "cannot read RVC train.log")
        | some bytes => do
            let (metrics, dropped) ← parseLines maxRecords .initial [] 0
              (textLines (universalNewlines (Utf8.decode bytes)))
            pure (metrics, dropped, none)

/-! ## Recognised lines -/

inductive LineKind where
  | trainEpoch
  | stepAndLr
  | losses
  | epochDone
deriving DecidableEq

/-- The patterns in the order in which they are tried. -/
def linePatterns : List (LineKind × Pattern) :=
  [(.trainEpoch, trainEpoch), (.stepAndLr, stepAndLr), (.losses, losses), (.epochDone, epochDone)]

def recognise (line : List Char) : Option (LineKind × Way) :=
  linePatterns.findSome? fun entry => (entry.2.search line).map fun way => (entry.1, way)

namespace TrainingLogParser

def take (parser : TrainingLogParser) :
    Option (LineKind × Way) → TrainingLogParser × Except ParserError (List ParsedTrainingMetric)
  | none => (parser, .ok [])
  | some (.trainEpoch, found) =>
      match intOf (found.group "epoch") with
      | .error error => (parser, .error error)
      | .ok epoch =>
          let parser := { parser with currentEpoch := some epoch }
          (parser, parser.epochMetrics epoch (found.group "percent"))
  | some (.stepAndLr, found) =>
      match intOf (found.group "step") with
      | .error error => (parser, .error error)
      | .ok step =>
          let parser := { parser with currentStep := some step }
          (parser, parser.stepMetrics step (found.group "lr"))
  | some (.losses, found) => (parser, parser.lossMetrics found)
  | some (.epochDone, found) =>
      match intOf (found.group "epoch") with
      | .error error => (parser, .error error)
      | .ok epoch =>
          let parser := { parser with currentEpoch := some epoch }
          (parser, parser.completedMetrics epoch)

theorem feed_eq_take (parser : TrainingLogParser) (line : List Char) :
    parser.feed line = parser.take (recognise line) := by
  unfold feed recognise linePatterns
  simp only [List.findSome?_cons, List.findSome?_nil]
  cases inEpoch : trainEpoch.search line with
  | some found => rfl
  | none =>
  cases inStep : stepAndLr.search line with
  | some found => rfl
  | none =>
  cases inLosses : losses.search line with
  | some found => rfl
  | none =>
  cases inDone : epochDone.search line with
  | some found => rfl
  | none => rfl

/-- Only the groups matter. -/
theorem take_congr (parser : TrainingLogParser) {kind : LineKind} {left right : Way}
    (same : left.groups = right.groups) :
    parser.take (some (kind, left)) = parser.take (some (kind, right)) := by
  have groups (name : String) : left.group name = right.group name := by
    rw [Way.group, Way.group, same]
  cases kind <;> simp only [take, lossMetrics, groups]

def feedAll : TrainingLogParser → List (List Char) →
    Except ParserError (TrainingLogParser × List ParsedTrainingMetric)
  | parser, [] => .ok (parser, [])
  | parser, line :: lines =>
      match parser.feed line with
      | (_, .error error) => .error error
      | (parser, .ok metrics) => do
          let (parser, more) ← feedAll parser lines
          pure (parser, metrics ++ more)

theorem feedAll_cons_unrecognised {line : List Char} (unrecognised : recognise line = none)
    (parser : TrainingLogParser) (lines : List (List Char)) :
    parser.feedAll (line :: lines) = parser.feedAll lines := by
  rw [feedAll, feed_eq_take, unrecognised]
  simp only [take, List.nil_append]
  cases parser.feedAll lines with
  | error error => rfl
  | ok after => rfl

theorem feedAll_unrecognised_append (parser : TrainingLogParser) {left : List (List Char)}
    (unrecognised : ∀ line ∈ left, recognise line = none) (right : List (List Char)) :
    parser.feedAll (left ++ right) = parser.feedAll right := by
  induction left with
  | nil => rfl
  | cons line left induction =>
      rcases List.forall_mem_cons.mp unrecognised with ⟨here, later⟩
      rw [List.cons_append, feedAll_cons_unrecognised here, induction later]

theorem feedAll_unrecognised {lines : List (List Char)}
    (unrecognised : ∀ line ∈ lines, recognise line = none) (parser : TrainingLogParser) :
    parser.feedAll lines = .ok (parser, []) := by
  rw [← List.append_nil lines, feedAll_unrecognised_append parser unrecognised]
  rfl

theorem feedAll_append (parser : TrainingLogParser) (left right : List (List Char)) :
    parser.feedAll (left ++ right) = (do
      let (parser, metrics) ← parser.feedAll left
      let (parser, more) ← parser.feedAll right
      pure (parser, metrics ++ more)) := by
  induction left generalizing parser with
  | nil =>
      change parser.feedAll right = (do
        let (parser, more) ← parser.feedAll right
        pure (parser, [] ++ more))
      simp
  | cons line left induction =>
      rw [List.cons_append, feedAll, feedAll]
      rcases parser.feed line with ⟨after, error | metrics⟩
      · rfl
      · simp [induction]

theorem feedAll_append_unrecognised (parser : TrainingLogParser) (left : List (List Char))
    {right : List (List Char)} (unrecognised : ∀ line ∈ right, recognise line = none) :
    parser.feedAll (left ++ right) = parser.feedAll left := by
  rw [feedAll_append]
  cases parser.feedAll left with
  | error error => rfl
  | ok after =>
      change (do
        let (parser, more) ← after.1.feedAll right
        pure (parser, after.2 ++ more)) = _
      rw [feedAll_unrecognised unrecognised]
      change Except.ok (after.1, after.2 ++ []) = _
      rw [List.append_nil]

/-- One line, as a list of lines. -/
theorem feedAll_single {line other : List Char} (same : ∀ parser : TrainingLogParser,
    parser.feed line = parser.feed other) (parser : TrainingLogParser) :
    parser.feedAll [line] = parser.feedAll [other] := by
  rw [feedAll, feedAll, same]

end TrainingLogParser

/-! ## Parts of lines -/

theorem linePatterns_lookless : ∀ entry ∈ linePatterns, entry.2.lookless = true := by
  simp only [linePatterns, List.forall_mem_cons]
  exact ⟨rfl, rfl, rfl, rfl, fun _ => List.not_mem_nil.elim⟩

/-- No match ends with the end of a line. -/
theorem linePatterns_end : ∀ entry ∈ linePatterns, EndsIn (fun char => char ≠ '\n') entry.2 := by
  have digit : ∀ char : Char, char.isDigit = true → decide (char ≠ '\n') = true := by
    rintro char digit
    rw [decide_eq_true_eq]
    rintro rfl
    cases digit
  have decimal : ∀ char : Char, isDecimal char = true → decide (char ≠ '\n') = true := by
    rintro char decimal
    rw [decide_eq_true_eq]
    rintro rfl
    cases decimal
  simp only [linePatterns, List.forall_mem_cons]
  refine ⟨?_, ?_, ?_, ?_, fun _ => List.not_mem_nil.elim⟩
  · exact endsIn_all rfl (@endsIn_literal _ _ ']' rfl (by decide))
  · exact endsIn_all rfl (@endsIn_literal _ _ ']' rfl (by decide))
  · exact endsIn_all rfl (endsIn_all rfl (endsIn_group (endsIn_all rfl (endsIn_oneOrMore decimal))))
  · exact endsIn_all rfl (endsIn_group (endsIn_oneOrMore digit))

theorem recognise_parts_none {part rest : List Char} {separator : Char}
    (unrecognised : recognise (part ++ separator :: rest) = none) :
    recognise part = none ∧ recognise rest = none := by
  unfold recognise at unrecognised ⊢
  rw [List.findSome?_eq_none_iff] at unrecognised
  rw [List.findSome?_eq_none_iff, List.findSome?_eq_none_iff, ← forall₂_and]
  intro entry member
  have absent := Option.map_eq_none_iff.mp (unrecognised entry member)
  rcases searchFrom_parts_none (linePatterns_lookless entry member) absent with ⟨inPart, inRest⟩
  exact ⟨by rw [search, inPart]; rfl, by rw [inRest]; rfl⟩

/-- What is found without a separator is found in the first part or in the rest. -/
theorem recognise_parts_some {part rest : List Char} {separator : Char} {kind : LineKind}
    {way : Way} (recognised : recognise (part ++ separator :: rest) = some (kind, way))
    (inside : separator ∉ way.taken) :
    (∃ here, recognise part = some (kind, here) ∧ here.groups = way.groups) ∨
      recognise rest = some (kind, way) := by
  have plain := linePatterns_lookless
  have ends := linePatterns_end
  unfold recognise at recognised ⊢
  generalize linePatterns = patterns at plain ends recognised ⊢
  induction patterns with
  | nil => cases recognised
  | cons entry others induction =>
      rcases List.forall_mem_cons.mp plain with ⟨plainHere, plainLater⟩
      rcases List.forall_mem_cons.mp ends with ⟨endsHere, endsLater⟩
      simp only [List.findSome?_cons] at recognised ⊢
      cases found : entry.2.search (part ++ separator :: rest) with
      | none =>
          rcases searchFrom_parts_none plainHere found with ⟨absent, inRest⟩
          have inPart : entry.2.search part = none := absent
          simp only [found, Option.map_none] at recognised
          simp only [inPart, inRest, Option.map_none]
          exact induction plainLater endsLater recognised
      | some foundWay =>
          simp only [found, Option.map_some, Option.some.injEq, Prod.mk.injEq] at recognised
          rcases recognised with ⟨rfl, rfl⟩
          rcases searchFrom_parts_some plainHere endsHere.visible found inside with
            ⟨here, present, -, groups⟩ | ⟨-, inRest⟩
          · have inPart : entry.2.search part = some here := present
            left
            simp only [inPart, Option.map_some]
            exact ⟨here, rfl, groups⟩
          · right
            simp only [inRest, Option.map_some]

theorem search_of_recognise {line : List Char} {kind : LineKind} {way : Way}
    (recognised : recognise line = some (kind, way)) :
    ∃ entry ∈ linePatterns, entry.2.search line = some way := by
  rcases List.exists_of_findSome?_eq_some recognised with ⟨entry, member, found⟩
  rcases Option.map_eq_some_iff.mp found with ⟨_, search, same⟩
  cases same
  exact ⟨entry, member, search⟩

/-- A match with the end of a line in it would end with that. -/
theorem newline_not_mem_taken {part : List Char} (plain : '\n' ∉ part) {kind : LineKind}
    {way : Way} (recognised : recognise (part ++ ['\n']) = some (kind, way)) :
    '\n' ∉ way.taken := by
  intro member
  rcases search_of_recognise recognised with ⟨entry, inPatterns, found⟩
  rcases searchFrom_eq_some found with ⟨front, _, whole, _⟩
  rcases linePatterns_end entry inPatterns _ _ (matches_of_search found) with ⟨last, isLast, solid⟩
  rcases List.eq_nil_or_concat way.rest with ended | ⟨rest, final, more⟩
  · rw [ended, List.append_nil] at whole
    have ends := congrArg List.getLast? whole
    rw [List.getLast?_append, List.getLast?_append, Option.mem_def.mp isLast] at ends
    cases ends
    exact absurd rfl (of_decide_eq_true solid)
  · rw [more, List.concat_eq_append, ← List.append_assoc, ← List.append_assoc] at whole
    refine plain ?_
    rw [(List.append_inj' whole rfl).1]
    exact List.mem_append_left _ (List.mem_append_right _ member)

theorem recognise_newline {part : List Char} (plain : '\n' ∉ part) :
    (recognise (part ++ ['\n'])).map (fun found => (found.1, found.2.groups)) =
      (recognise part).map fun found => (found.1, found.2.groups) := by
  cases recognised : recognise (part ++ ['\n']) with
  | none => rw [(recognise_parts_none recognised).1]
  | some found =>
      rcases recognise_parts_some recognised (newline_not_mem_taken plain recognised) with
        ⟨here, inPart, groups⟩ | nothing
      · rw [inPart, Option.map_some, Option.map_some, groups]
      · cases nothing

/-! ## Pieces between CRs -/

def pieces (line : List Char) : List (List Char) :=
  (cutLines '\r' line).1 ++ [(cutLines '\r' line).2]

theorem pieces_unfinished {line : List Char} (plain : '\r' ∉ line) : pieces line = [line] := by
  rw [pieces, cutLines_unfinished plain]
  rfl

theorem pieces_piece {piece : List Char} (plain : '\r' ∉ piece) (rest : List Char) :
    pieces (piece ++ '\r' :: rest) = piece :: pieces rest := by
  rw [pieces, cutLines_line plain]
  rfl

theorem mem_of_mem_piece {line piece : List Char} {char : Char} (member : piece ∈ pieces line)
    (inPiece : char ∈ piece) : char ∈ line := by
  induction line using lines_induction '\r' with
  | unfinished line plain =>
      rw [pieces_unfinished plain] at member
      rwa [← List.mem_singleton.mp member]
  | line first rest plain induction =>
      rw [pieces_piece plain] at member
      rcases List.mem_cons.mp member with rfl | later
      · exact List.mem_append_left _ inPiece
      · exact List.mem_append_right _ (List.mem_cons_of_mem _ (induction later))

/-- Pieces of a line are recognised as the line is: a match stays in one piece, and it is the only
piece with one. -/
def ReturnsHarmless (line : List Char) : Prop :=
  ∀ found ∈ recognise line,
    '\r' ∉ found.2.taken ∧ ((pieces line).countP fun piece => (recognise piece).isSome) ≤ 1

instance (line : List Char) : Decidable (ReturnsHarmless line) :=
  inferInstanceAs (Decidable (∀ found ∈ recognise line, _))

theorem pieces_unrecognised {line : List Char} (unrecognised : recognise line = none) :
    ∀ piece ∈ pieces line, recognise piece = none := by
  induction line using lines_induction '\r' with
  | unfinished line plain =>
      rw [pieces_unfinished plain]
      exact List.forall_mem_singleton.mpr unrecognised
  | line piece rest plain induction =>
      rcases recognise_parts_none unrecognised with ⟨here, later⟩
      rw [pieces_piece plain]
      exact List.forall_mem_cons.mpr ⟨here, induction later⟩

theorem pieces_recognised {line : List Char} {kind : LineKind} {way : Way}
    (recognised : recognise line = some (kind, way)) (inside : '\r' ∉ way.taken) :
    ∃ piece ∈ pieces line, ∃ here, recognise piece = some (kind, here) ∧
      here.groups = way.groups := by
  induction line using lines_induction '\r' with
  | unfinished line plain =>
      rw [pieces_unfinished plain]
      exact ⟨line, List.mem_singleton_self line, way, recognised, rfl⟩
  | line piece rest plain induction =>
      rw [pieces_piece plain]
      rcases recognise_parts_some recognised inside with ⟨here, inPiece, groups⟩ | inRest
      · exact ⟨piece, List.mem_cons_self, here, inPiece, groups⟩
      · rcases induction inRest with ⟨found, member, here, inPiece, groups⟩
        exact ⟨found, List.mem_cons_of_mem _ member, here, inPiece, groups⟩

namespace TrainingLogParser

/-- The pieces of a line bring what the line brings. -/
theorem feedAll_pieces {line : List Char} (harmless : ReturnsHarmless line)
    (parser : TrainingLogParser) : parser.feedAll (pieces line) = parser.feedAll [line] := by
  cases recognised : recognise line with
  | none =>
      rw [feedAll_unrecognised (pieces_unrecognised recognised),
        feedAll_unrecognised (List.forall_mem_singleton.mpr recognised)]
  | some found =>
      rcases harmless found recognised with ⟨inside, single⟩
      rcases pieces_recognised recognised inside with ⟨piece, member, here, inPiece, groups⟩
      rcases List.append_of_mem member with ⟨before, after, split⟩
      rw [split, List.countP_append, List.countP_cons_of_pos (by rw [inPiece]; rfl)] at single
      have none_ {others : List (List Char)}
          (count : (others.countP fun piece => (recognise piece).isSome) = 0) :
          ∀ other ∈ others, recognise other = none := by
        intro other inOthers
        exact Option.not_isSome_iff_eq_none.mp (List.countP_eq_zero.mp count other inOthers)
      have same (parser : TrainingLogParser) : parser.feed piece = parser.feed line := by
        rw [feed_eq_take, feed_eq_take, inPiece, recognised]
        exact parser.take_congr groups
      rw [split, feedAll_unrecognised_append parser (none_ (by omega)) (piece :: after),
        ← List.singleton_append, feedAll_append_unrecognised parser _ (none_ (by omega)),
        feedAll_single same]

theorem feedAll_append_congr {left left' right right' : List (List Char)}
    (sameLeft : ∀ parser : TrainingLogParser, parser.feedAll left = parser.feedAll left')
    (sameRight : ∀ parser : TrainingLogParser, parser.feedAll right = parser.feedAll right')
    (parser : TrainingLogParser) :
    parser.feedAll (left ++ right) = parser.feedAll (left' ++ right') := by
  rw [feedAll_append, feedAll_append, sameLeft]
  simp only [sameRight]

theorem feed_newline {line : List Char} (plain : '\n' ∉ line) (parser : TrainingLogParser) :
    parser.feed (line ++ ['\n']) = parser.feed line := by
  have same := recognise_newline plain
  rw [feed_eq_take, feed_eq_take]
  cases recognised : recognise line with
  | none =>
      rw [recognised, Option.map_none, Option.map_eq_none_iff] at same
      rw [same]
  | some found =>
      rw [recognised, Option.map_some, Option.map_eq_some_iff] at same
      rcases same with ⟨other, otherRecognised, groups⟩
      rw [Prod.mk.injEq] at groups
      rcases other with ⟨kind, way⟩
      rcases found with ⟨_, foundWay⟩
      rcases groups with ⟨rfl, groups⟩
      rw [otherRecognised]
      exact parser.take_congr groups

theorem feedAll_newlines {lines : List (List Char)} (plain : ∀ line ∈ lines, '\n' ∉ line)
    (parser : TrainingLogParser) :
    parser.feedAll (lines.map fun line => line ++ ['\n']) = parser.feedAll lines := by
  induction lines generalizing parser with
  | nil => rfl
  | cons line lines induction =>
      rcases List.forall_mem_cons.mp plain with ⟨here, later⟩
      rw [List.map_cons, feedAll, feedAll, feed_newline here]
      rcases parser.feed line with ⟨after, error | metrics⟩
      · rfl
      · simp only [induction later]

end TrainingLogParser

/-! ## Lines in text mode -/

def asNewline (char : Char) : Char := if char = '\r' then '\n' else char

theorem universalNewlines_return {rest : List Char} (apart : rest.head? ≠ some '\n') :
    universalNewlines ('\r' :: rest) = '\n' :: universalNewlines rest := by
  cases rest with
  | nil => rfl
  | cons char rest =>
      rw [universalNewlines]
      intro more same
      cases same
      exact apart rfl

theorem universalNewlines_other {char : Char} (other : char ≠ '\r') (rest : List Char) :
    universalNewlines (char :: rest) = char :: universalNewlines rest := by
  rw [universalNewlines]
  · intro _ same
    exact absurd same other
  · exact other

/-- Before an LF that is not the second half of an end of a line, every CR is one by itself. -/
theorem universalNewlines_append {line rest : List Char} (plain : '\n' ∉ line)
    (apart : line.getLast? ≠ some '\r' ∨ rest.head? ≠ some '\n') :
    universalNewlines (line ++ rest) = line.map asNewline ++ universalNewlines rest := by
  induction line with
  | nil => rfl
  | cons char line induction =>
      rw [List.mem_cons, not_or] at plain
      have later : line.getLast? ≠ some '\r' ∨ rest.head? ≠ some '\n' := by
        rcases apart with last | first
        · cases line with
          | nil => exact .inl (by simp)
          | cons second line => exact .inl last
        · exact .inr first
      by_cases return_ : char = '\r'
      · have next : (line ++ rest).head? ≠ some '\n' := by
          cases line with
          | nil =>
              rcases apart with last | first
              · exact absurd (by rw [return_]; rfl) last
              · exact first
          | cons second line =>
              intro same
              cases same
              exact plain.2 List.mem_cons_self
        rw [List.cons_append, return_, universalNewlines_return next, induction plain.2 later]
        rfl
      · rw [List.cons_append, universalNewlines_other return_, induction plain.2 later,
          List.map_cons, asNewline, if_neg return_]
        rfl

theorem cutLines_asNewline {line : List Char} (plain : '\n' ∉ line) :
    cutLines '\n' (line.map asNewline) = cutLines '\r' line := by
  induction line with
  | nil => rfl
  | cons char line induction =>
      rw [List.mem_cons, not_or] at plain
      rw [List.map_cons, cutLines, cutLines, induction plain.2]
      by_cases return_ : char = '\r'
      · rw [if_pos return_, asNewline, if_pos return_, if_pos rfl]
      · rw [if_neg return_, asNewline, if_neg return_, if_neg (Ne.symm plain.1)]

theorem textLines_line {line : List Char} (plain : '\n' ∉ line) (rest : List Char) :
    textLines (line.map asNewline ++ '\n' :: rest) =
      (pieces line).map (fun piece => piece ++ ['\n']) ++ textLines rest := by
  have unfinished := @not_mem_unfinished _ _ '\n' (line.map asNewline)
  rw [textLines, cutLines_append, cutLines_line unfinished, cutLines_asNewline plain, pieces,
    textLines]
  simp

theorem textLines_unfinished {line : List Char} (plain : '\n' ∉ line) :
    textLines (line.map asNewline) =
      (cutLines '\r' line).1.map (fun piece => piece ++ ['\n']) ++
        if (cutLines '\r' line).2 = [] then [] else [(cutLines '\r' line).2] := by
  rw [textLines, cutLines_asNewline plain]

/-! ## Text mode and lines of bytes -/

theorem newline_not_mem_decode {bytes : List UInt8} (plain : lineFeed ∉ bytes) :
    '\n' ∉ Utf8.decode bytes := by
  intro member
  rcases Utf8.mem_of_mem_decode member (by decide) (by decide) with ⟨byte, inBytes, same⟩
  have newline : byte = lineFeed := UInt8.toNat_inj.mp same.symm
  exact plain (newline ▸ inBytes)

theorem pieces_return (line : List Char) : pieces (line ++ ['\r']) = pieces line ++ [[]] := by
  have unfinished := @not_mem_unfinished _ _ '\r' line
  rw [pieces, cutLines_append, cutLines_line unfinished, pieces]
  rfl

theorem decode_return (line : List UInt8) :
    Utf8.decode (line ++ [carriageReturn]) = Utf8.decode line ++ ['\r'] :=
  Utf8.decode_ascii line (by decide) []

/-- CRs at the end of a line bring nothing. -/
theorem feedAll_pieces_stripReturns (line : List UInt8) (parser : TrainingLogParser) :
    parser.feedAll (pieces (Utf8.decode line)) =
      parser.feedAll (pieces (Utf8.decode (stripReturns line))) := by
  induction line using List.reverseRecOn with
  | nil => rfl
  | append_singleton line byte induction =>
      by_cases return_ : byte = carriageReturn
      · rw [return_, decode_return, pieces_return,
          TrainingLogParser.feedAll_append_unrecognised parser _
            (List.forall_mem_singleton.mpr rfl), induction,
          stripReturns_append (by rfl)]
      · rw [stripReturns, List.rdropWhile_concat_neg _ _ _ (by simpa using return_)]

/-- The lines in text mode that come from a line of bytes. -/
theorem textLines_decode {line : List UInt8} (plain : lineFeed ∉ line) (rest : List Char) :
    ∃ bytes, stripReturns bytes = stripReturns line ∧ lineFeed ∉ bytes ∧
      textLines (universalNewlines (Utf8.decode line ++ '\n' :: rest)) =
        (pieces (Utf8.decode bytes)).map (fun piece => piece ++ ['\n']) ++
          textLines (universalNewlines rest) := by
  rcases List.eq_nil_or_concat line with rfl | ⟨start, last, whole⟩
  · exact ⟨[], rfl, plain, textLines_line List.not_mem_nil _⟩
  rw [List.concat_eq_append] at whole
  by_cases return_ : last = carriageReturn
  · -- The last CR and the LF are one end of a line.
    rw [return_] at whole
    have plainStart : lineFeed ∉ start := by
      intro member
      exact plain (by rw [whole]; exact List.mem_append_left _ member)
    refine ⟨start, ?_, plainStart, ?_⟩
    · rw [whole, stripReturns_append (by rfl)]
    · rw [whole, decode_return, List.append_assoc, List.singleton_append,
        universalNewlines_append (newline_not_mem_decode plainStart) (.inr (by simp)),
        universalNewlines, textLines_line (newline_not_mem_decode plainStart)]
  · refine ⟨line, rfl, plain, ?_⟩
    have noReturn : (Utf8.decode line).getLast? ≠ some '\r' := by
      intro ends
      rcases Utf8.getLast_of_getLast_decode ends (by decide) (by decide) with
        ⟨byte, isLast, same⟩
      rw [whole, List.getLast?_concat] at isLast
      cases isLast
      exact return_ (UInt8.toNat_inj.mp same.symm)
    rw [universalNewlines_append (newline_not_mem_decode plain) (.inl noReturn),
      universalNewlines_other (by decide), textLines_line (newline_not_mem_decode plain)]

/-- Text mode brings what the lines of bytes bring. -/
theorem feedAll_textLines {content : List UInt8}
    (harmless : ∀ value ∈ streamValues content, ReturnsHarmless (decodeLine value))
    (parser : TrainingLogParser) :
    parser.feedAll (textLines (universalNewlines (Utf8.decode content))) =
      parser.feedAll ((streamValues content).map decodeLine) := by
  induction content using lines_induction lineFeed generalizing parser with
  | unfinished content plain =>
      have noNewline := newline_not_mem_decode plain
      have mapped : universalNewlines (Utf8.decode content) =
          (Utf8.decode content).map asNewline := by
        have whole := @universalNewlines_append (Utf8.decode content) [] noNewline (.inr (by simp))
        rwa [List.append_nil, universalNewlines, List.append_nil] at whole
      rw [streamValues_unfinished plain] at harmless ⊢
      rw [mapped, textLines_unfinished noNewline]
      split at harmless
      · next empty =>
          rw [empty]
          rfl
      · next some_ =>
          rw [if_neg some_, List.map_singleton,
            ← TrainingLogParser.feedAll_pieces (harmless content (List.mem_singleton_self content))]
          apply TrainingLogParser.feedAll_append_congr
          · intro parser
            apply TrainingLogParser.feedAll_newlines
            intro piece member inPiece
            exact noNewline (mem_of_mem_piece (List.mem_append_left _ member) inPiece)
          · intro parser
            split
            · next empty =>
                rw [decodeLine, empty]
                rfl
            · rfl
  | line line rest plain induction =>
      rw [streamValues_line plain] at harmless ⊢
      rcases List.forall_mem_cons.mp harmless with ⟨here, later⟩
      have decoded : Utf8.decode (line ++ lineFeed :: rest) =
          Utf8.decode line ++ '\n' :: Utf8.decode rest :=
        Utf8.decode_ascii line (by decide) rest
      rcases textLines_decode plain (Utf8.decode rest) with ⟨bytes, same, plainBytes, lines⟩
      rw [decoded, lines, List.map_cons]
      refine @TrainingLogParser.feedAll_append_congr _ [decodeLine (stripReturns line)] _ _ ?_
        (induction later) parser
      intro parser
      have noNewline : ∀ piece ∈ pieces (Utf8.decode bytes), '\n' ∉ piece :=
        fun piece member inPiece => newline_not_mem_decode plainBytes
          (mem_of_mem_piece member inPiece)
      rw [TrainingLogParser.feedAll_newlines noNewline, feedAll_pieces_stripReturns, same]
      exact TrainingLogParser.feedAll_pieces here parser

/-! ## The three readers -/

def stdoutMetrics (limits : CollectorLimits) (chunks : List (List UInt8)) :
    Except CollectorError (List ParsedTrainingMetric) :=
  match StreamingMetricCollector.collect limits "stdout" .initial chunks with
  | (_, some error) => .error error
  | (collector, none) => .ok collector.collection.metrics

def observedMetrics (limits : ObserverLimits) (view : LogView) :
    Except ObserverError (List ParsedTrainingMetric) := do
  let (_, events) ← TrainLogObserver.initial.readTrainLogEvents limits view true
  pure (events.flatMap TrainingEvent.metrics)

def boundedMetrics (content : List UInt8) (maxBytes maxRecords : Nat) :
    Except ObserverError (List ParsedTrainingMetric) := do
  let (metrics, _) ←
    parseTrainingLogBounded ⟨some content.length, some content⟩ maxBytes maxRecords
  pure metrics

def contentMetrics (content : List UInt8) : Except ParserError (List ParsedTrainingMetric) := do
  let (_, metrics) ← TrainingLogParser.initial.feedAll ((streamValues content).map decodeLine)
  pure metrics

/-- The content has no more metrics than there is room for. -/
def Fits (room : Nat) (content : List UInt8) : Prop :=
  ∀ metrics, contentMetrics content = .ok metrics → metrics.length ≤ room

def ShortLines (content : List UInt8) : Prop :=
  (∀ line ∈ (cutLines lineFeed content).1, line.length ≤ maxMetricLineBytes) ∧
    (cutLines lineFeed content).2.length ≤ maxMetricLineBytes

namespace Collection

variable {limits : CollectorLimits}

theorem accept_room (collection : Collection) {parsed : List ParsedTrainingMetric}
    (room : collection.metrics.length + parsed.length ≤ limits.maxRecords) :
    collection.accept limits parsed =
      ({ collection with metrics := collection.metrics ++ parsed }, parsed) := by
  induction parsed generalizing collection with
  | nil => simp [accept]
  | cons metric parsed induction =>
      rw [List.length_cons] at room
      rw [accept, if_neg (by omega), induction]
      · simp
      · rw [List.length_append, List.length_singleton]
        omega

theorem parser_accept (collection : Collection) (parsed : List ParsedTrainingMetric) :
    (collection.accept limits parsed).1.parser = collection.parser := by
  induction parsed generalizing collection with
  | nil => rfl
  | cons metric parsed induction =>
      rw [accept]
      split
      · exact induction _
      · exact induction _

theorem feedLine_error {collection : Collection} {value : List UInt8}
    (short : value.length ≤ maxMetricLineBytes) {parser : TrainingLogParser} {error : ParserError}
    (fed : collection.parser.feed (decodeLine value) = (parser, .error error)) :
    (collection.feedLine limits .stdout value).2 = some (.parser error) := by
  unfold feedLine
  rw [if_neg (Nat.not_lt.mpr short)]
  simp only [if_true, fed]

theorem feedLine_metrics {collection : Collection} {value : List UInt8}
    (short : value.length ≤ maxMetricLineBytes) {parser : TrainingLogParser}
    {parsed : List ParsedTrainingMetric}
    (fed : collection.parser.feed (decodeLine value) = (parser, .ok parsed)) :
    ∃ after, collection.feedLine limits .stdout value = (after, none) ∧ after.parser = parser ∧
      (collection.metrics.length + parsed.length ≤ limits.maxRecords →
        after.metrics = collection.metrics ++ parsed) := by
  have keeps (middle : Collection) (event : TrainingEvent) :
      (middle.record limits event).parser = middle.parser ∧
        (middle.record limits event).metrics = middle.metrics := by
    unfold record
    split <;> exact ⟨rfl, rfl⟩
  have parserKept := @parser_accept limits { collection with parser := parser } parsed
  unfold feedLine
  rw [if_neg (Nat.not_lt.mpr short)]
  simp only [if_true, fed]
  split
  · refine ⟨_, rfl, parserKept, fun room => ?_⟩
    rw [@accept_room limits { collection with parser := parser } parsed room]
    rfl
  · refine ⟨_, rfl, ?_, fun room => ?_⟩
    · rw [(keeps _ _).1]
      exact parserKept
    · rw [(keeps _ _).2, @accept_room limits { collection with parser := parser } parsed room]
      rfl

theorem feedLines_stdout {collection : Collection} {values : List (List UInt8)}
    (short : ∀ value ∈ values, value.length ≤ maxMetricLineBytes) :
    match collection.parser.feedAll (values.map decodeLine) with
    | .error error => (collection.feedLines limits .stdout values).2 = some (.parser error)
    | .ok (_, metrics) =>
        (collection.feedLines limits .stdout values).2 = none ∧
        (collection.metrics.length + metrics.length ≤ limits.maxRecords →
          (collection.feedLines limits .stdout values).1.metrics =
            collection.metrics ++ metrics) := by
  induction values generalizing collection with
  | nil => exact ⟨rfl, fun _ => (List.append_nil _).symm⟩
  | cons value values induction =>
      rcases List.forall_mem_cons.mp short with ⟨here, later⟩
      rw [List.map_cons, TrainingLogParser.feedAll, feedLines]
      rcases fed : collection.parser.feed (decodeLine value) with ⟨parser, error | parsed⟩
      · have failed := @feedLine_error limits _ _ here _ _ fed
        rcases one : collection.feedLine limits .stdout value with ⟨after, _ | other⟩
        · rw [one] at failed
          cases failed
        · rw [one] at failed
          exact failed
      · rcases @feedLine_metrics limits _ _ here _ _ fed with ⟨after, one, rfl, kept⟩
        have rest := @induction after later
        simp only [one]
        cases more : after.parser.feedAll (values.map decodeLine) with
        | error error =>
            rw [more] at rest
            exact rest
        | ok last =>
            rw [more] at rest
            refine ⟨rest.1, fun room => ?_⟩
            rw [List.length_append] at room
            rw [rest.2, kept (by omega), List.append_assoc]
            rw [kept (by omega), List.length_append]
            omega

end Collection

namespace MetricReading

variable {limits : ObserverLimits}

theorem trainLogLine_error {reading : MetricReading} {byteOffset : Nat} {raw : List UInt8}
    (short : raw.length ≤ maxMetricLineBytes) {parser : TrainingLogParser} {error : ParserError}
    (fed : reading.parser.feed (decodeLine raw) = (parser, .error error)) :
    reading.trainLogLine limits byteOffset raw = .error (.parser error) := by
  unfold trainLogLine
  rw [if_neg (Nat.not_lt.mpr short)]
  simp only
  split
  · next empty =>
      rw [empty] at fed
      cases fed
  · rw [fed]

theorem trainLogLine_metrics {reading : MetricReading} {byteOffset : Nat} {raw : List UInt8}
    (short : raw.length ≤ maxMetricLineBytes) {parser : TrainingLogParser}
    {parsed : List ParsedTrainingMetric}
    (fed : reading.parser.feed (decodeLine raw) = (parser, .ok parsed)) :
    ∃ after events, reading.trainLogLine limits byteOffset raw = .ok (after, events) ∧
      after.parser = parser ∧
      (reading.metricCount + parsed.length ≤ limits.maxMetricRecords →
        after.metricCount = reading.metricCount + parsed.length ∧
          events.flatMap TrainingEvent.metrics = parsed) := by
  unfold trainLogLine
  rw [if_neg (Nat.not_lt.mpr short)]
  simp only
  split
  · next empty =>
      rw [empty] at fed
      cases fed
      exact ⟨_, _, rfl, rfl, fun _ => ⟨rfl, rfl⟩⟩
  · rw [fed]
    refine ⟨_, _, rfl, rfl, fun room => ?_⟩
    have all : parsed.take (limits.maxMetricRecords - reading.metricCount) = parsed :=
      List.take_of_length_le (by omega)
    rw [all]
    exact ⟨rfl, List.append_nil _⟩

theorem readNumbered_metrics {reading : MetricReading} {lines : List (Nat × List UInt8)}
    (short : ∀ line ∈ lines, line.2.length ≤ maxMetricLineBytes) :
    match reading.parser.feedAll (lines.map fun line => decodeLine line.2) with
    | .error error => reading.readNumbered limits lines = .error (.parser error)
    | .ok (_, metrics) =>
        reading.metricCount + metrics.length ≤ limits.maxMetricRecords →
          ∃ after events, reading.readNumbered limits lines = .ok (after, events) ∧
            events.flatMap TrainingEvent.metrics = metrics := by
  induction lines generalizing reading with
  | nil => exact fun _ => ⟨_, _, rfl, rfl⟩
  | cons line lines induction =>
      rcases List.forall_mem_cons.mp short with ⟨here, later⟩
      rw [List.map_cons, TrainingLogParser.feedAll, readNumbered]
      rcases fed : reading.parser.feed (decodeLine line.2) with ⟨parser, error | parsed⟩
      · rw [@trainLogLine_error limits _ line.1 _ here _ _ fed]
        rfl
      · rcases @trainLogLine_metrics limits _ line.1 _ here _ _ fed with
          ⟨after, events, one, rfl, kept⟩
        have rest := @induction after later
        rw [one]
        simp only
        cases more : after.parser.feedAll (lines.map fun line => decodeLine line.2) with
        | error error =>
            rw [more] at rest
            change (after.readNumbered limits lines >>= fun later =>
              pure (later.1, events ++ later.2)) = _
            rw [rest]
            rfl
        | ok last =>
            rw [more] at rest
            intro room
            rw [List.length_append] at room
            rcases kept (by omega) with ⟨count, brought⟩
            rcases rest (by omega) with ⟨final, others, read, broughtLater⟩
            refine ⟨final, events ++ others, ?_, ?_⟩
            · change (after.readNumbered limits lines >>= fun later =>
                pure (later.1, events ++ later.2)) = _
              rw [read]
              rfl
            · rw [List.flatMap_append, brought, broughtLater]

end MetricReading

theorem keepRecords_room {maxRecords : Nat} {metrics parsed : List ParsedTrainingMetric}
    (dropped : Nat) (room : metrics.length + parsed.length ≤ maxRecords) :
    keepRecords maxRecords metrics dropped parsed = (metrics ++ parsed, dropped) := by
  induction parsed generalizing metrics with
  | nil => rw [keepRecords, List.append_nil]
  | cons metric parsed induction =>
      rw [List.length_cons] at room
      rw [keepRecords, if_neg (by omega), induction, List.append_assoc]
      · rfl
      · rw [List.length_append, List.length_singleton]
        omega

theorem parseLines_metrics {maxRecords : Nat} {parser : TrainingLogParser}
    {metrics : List ParsedTrainingMetric} {dropped : Nat} {lines : List (List Char)} :
    match parser.feedAll lines with
    | .error error => parseLines maxRecords parser metrics dropped lines = .error (.parser error)
    | .ok (_, brought) =>
        metrics.length + brought.length ≤ maxRecords →
          parseLines maxRecords parser metrics dropped lines = .ok (metrics ++ brought, dropped) := by
  induction lines generalizing parser metrics dropped with
  | nil =>
      intro _
      rw [parseLines, List.append_nil]
  | cons line lines induction =>
      rw [TrainingLogParser.feedAll, parseLines]
      rcases parser.feed line with ⟨after, error | parsed⟩
      · rfl
      · have rest (metrics : List ParsedTrainingMetric) (dropped : Nat) :=
          @induction after metrics dropped
        simp only
        cases more : after.feedAll lines with
        | error error =>
            rw [more] at rest
            exact rest _ _
        | ok last =>
            rw [more] at rest
            intro room
            rw [List.length_append] at room
            rw [keepRecords_room dropped (by omega), rest, List.append_assoc]
            rw [List.length_append]
            omega

/-! ## Agreement -/

theorem streamValues_short {content : List UInt8} (short : ShortLines content) :
    ∀ value ∈ streamValues content, value.length ≤ maxMetricLineBytes := by
  intro value member
  rcases List.mem_append.mp member with finished | unfinished
  · rcases List.mem_map.mp finished with ⟨line, inLines, rfl⟩
    exact le_trans (List.rdropWhile_prefix _ _).length_le (short.1 line inLines)
  · split at unfinished
    · cases unfinished
    · rw [List.mem_singleton.mp unfinished]
      exact short.2

/-- The unfinished line of a part of the content is the beginning of one of its lines. -/
theorem unbroken_of_shortLines {chunks : List (List UInt8)}
    (short : ShortLines chunks.flatten) : Unbroken [] chunks := by
  rintro before after rfl
  rw [List.flatten_append, ShortLines, cutLines_append] at short
  have plain := @not_mem_unfinished _ _ lineFeed before.flatten
  rw [List.nil_append]
  generalize (cutLines lineFeed before.flatten).2 = part at short plain ⊢
  rcases unfinished_or_line lineFeed after.flatten with absent | ⟨line, rest, split, absent⟩
  · rw [cutLines_unfinished (List.not_mem_append plain absent)] at short
    have whole := short.2
    rw [List.length_append] at whole
    omega
  · rw [split, ← List.append_assoc, cutLines_line (List.not_mem_append plain absent)] at short
    have whole := short.1 (part ++ line) (List.mem_append_right _ List.mem_cons_self)
    rw [List.length_append] at whole
    omega

theorem linesFrom_values (start : Nat) (content : List UInt8) :
    (linesFrom start content).map Prod.snd = streamValues content := by
  induction content using lines_induction lineFeed generalizing start with
  | unfinished content plain =>
      rw [linesFrom_unfinished start plain, streamValues_unfinished plain, unfinishedLine]
      split <;> rfl
  | line line rest plain induction =>
      rw [linesFrom_line start plain, streamValues_line plain, List.map_cons, induction]

theorem contentMetrics_error {content : List UInt8} {error : ParserError}
    (fed : TrainingLogParser.initial.feedAll ((streamValues content).map decodeLine) =
      .error error) : contentMetrics content = .error error := by
  rw [contentMetrics, fed]
  rfl

theorem contentMetrics_ok {content : List UInt8}
    {after : TrainingLogParser × List ParsedTrainingMetric}
    (fed : TrainingLogParser.initial.feedAll ((streamValues content).map decodeLine) =
      .ok after) : contentMetrics content = .ok after.2 := by
  rw [contentMetrics, fed]
  rfl

/-- The metrics of the standard output are those of the lines of bytes. -/
theorem stdoutMetrics_eq {limits : CollectorLimits} {chunks : List (List UInt8)}
    (short : ShortLines chunks.flatten) (fits : Fits limits.maxRecords chunks.flatten) :
    stdoutMetrics limits chunks = (contentMetrics chunks.flatten).mapError .parser := by
  have collected := @StreamingMetricCollector.collect_eq limits .stdout .initial (fun _ _ => rfl)
    chunks
  have values : fedValues (StreamingMetricCollector.initial.buffers .stdout) chunks =
      streamValues chunks.flatten :=
    fedValues_unbroken List.not_mem_nil (unbroken_of_shortLines short)
  have lines := @Collection.feedLines_stdout limits .initial _ (streamValues_short short)
  rw [values] at collected
  unfold stdoutMetrics
  rcases result : StreamingMetricCollector.collect limits "stdout" .initial chunks with
    ⟨collector, failure⟩
  have outcome : (collector.collection, failure) =
      Collection.initial.feedLines limits .stdout (streamValues chunks.flatten) :=
    (congrArg StreamingMetricCollector.collected result.symm).trans collected
  rw [show Collection.initial.parser = .initial from rfl] at lines
  cases fed : TrainingLogParser.initial.feedAll
      ((streamValues chunks.flatten).map decodeLine) with
  | error error =>
      rw [fed] at lines
      rw [contentMetrics_error fed]
      simp only [← outcome] at lines
      rw [lines]
      rfl
  | ok after =>
      rw [fed] at lines
      rw [contentMetrics_ok fed]
      simp only [← outcome] at lines
      have room := fits _ (contentMetrics_ok fed)
      rw [lines.1]
      exact congrArg Except.ok (lines.2 (by simpa [Collection.initial] using room))

theorem observedMetrics_eq {limits : ObserverLimits} {view : LogView} {content : List UInt8}
    {device inode : Nat} (within : content.length ≤ limits.maxTrainLogBytes)
    (shows : view.Shows content device inode 0 content.length) (short : ShortLines content)
    (fits : Fits limits.maxMetricRecords content) :
    observedMetrics limits view = (contentMetrics content).mapError .parser := by
  have followed := @TrainLogObserver.follow_eq limits .initial content device inode within [] view
    rfl shows
  have lines := @MetricReading.readNumbered_metrics limits .initial (linesFrom 0 content) (by
    intro line member
    apply streamValues_short short
    rw [← linesFrom_values 0 content]
    exact List.mem_map_of_mem member)
  have texts : ((linesFrom 0 content).map fun line => decodeLine line.2) =
      (streamValues content).map decodeLine := by
    rw [← linesFrom_values 0 content, List.map_map]
    rfl
  rw [texts, show MetricReading.initial.parser = .initial from rfl] at lines
  have events : observedMetrics limits view =
      (MetricReading.initial.readNumbered limits (linesFrom 0 content) >>= fun read =>
        pure (read.2.flatMap TrainingEvent.metrics)) := by
    have polled : observedMetrics limits view = (do
        let events ← TrainLogObserver.follow limits .initial [] view
        pure (events.flatMap TrainingEvent.metrics)) := by
      simp only [observedMetrics, TrainLogObserver.follow, bind_assoc, pure_bind]
    rw [polled, followed]
    simp only [bind_assoc, pure_bind]
    rfl
  rw [events]
  cases fed : TrainingLogParser.initial.feedAll ((streamValues content).map decodeLine) with
  | error error =>
      rw [fed] at lines
      rw [contentMetrics_error fed, lines]
      rfl
  | ok after =>
      rw [fed] at lines
      have room := fits _ (contentMetrics_ok fed)
      rcases lines (by simpa [MetricReading.initial] using room) with ⟨last, events, read, brought⟩
      rw [contentMetrics_ok fed, read, ← brought]
      rfl

theorem boundedMetrics_eq {content : List UInt8} {maxBytes maxRecords : Nat}
    (within : content.length ≤ maxBytes) (fits : Fits maxRecords content)
    (harmless : ∀ value ∈ streamValues content, ReturnsHarmless (decodeLine value)) :
    boundedMetrics content maxBytes maxRecords =
      (contentMetrics content).mapError .parser := by
  have lines := @parseLines_metrics maxRecords .initial [] 0
    (textLines (universalNewlines (Utf8.decode content)))
  rw [feedAll_textLines harmless] at lines
  simp only [boundedMetrics, parseTrainingLogBounded, if_neg (Nat.not_lt.mpr within)]
  cases fed : TrainingLogParser.initial.feedAll ((streamValues content).map decodeLine) with
  | error error =>
      rw [fed] at lines
      rw [contentMetrics_error fed, lines]
      rfl
  | ok after =>
      rw [fed] at lines
      rw [contentMetrics_ok fed, lines (by simpa using fits _ (contentMetrics_ok fed))]
      rfl

/-- The standard output, the observer and text mode bring the same metrics, or the same error of
the parser, of a content whose lines have no match across a CR and no second piece with a match. -/
theorem readers_agree {chunks : List (List UInt8)} {content : List UInt8}
    {collectorLimits : CollectorLimits} {observerLimits : ObserverLimits} {maxBytes maxRecords : Nat}
    {view : LogView} {device inode : Nat} (stream : chunks.flatten = content)
    (shows : view.Shows content device inode 0 content.length) (short : ShortLines content)
    (within : content.length ≤ observerLimits.maxTrainLogBytes ∧ content.length ≤ maxBytes)
    (fits : Fits collectorLimits.maxRecords content ∧
      Fits observerLimits.maxMetricRecords content ∧ Fits maxRecords content)
    (harmless : ∀ value ∈ streamValues content, ReturnsHarmless (decodeLine value)) :
    ∃ outcome : Except ParserError (List ParsedTrainingMetric),
      stdoutMetrics collectorLimits chunks = outcome.mapError .parser ∧
      observedMetrics observerLimits view = outcome.mapError .parser ∧
      boundedMetrics content maxBytes maxRecords = outcome.mapError .parser := by
  subst stream
  exact ⟨contentMetrics chunks.flatten, stdoutMetrics_eq short fits.1,
    observedMetrics_eq within.1 shows short fits.2.1,
    boundedMetrics_eq within.2 fits.2.2 harmless⟩

theorem fits_of_length {room count : Nat} {content : List UInt8}
    (length : (contentMetrics content).toOption.map List.length = some count)
    (enough : count ≤ room) : Fits room content := by
  intro metrics read
  rw [read] at length
  cases length
  exact enough

def progressLog : List UInt8 := "50%\rTrain Epoch: 1 [1.0%]\r\n".toUTF8.toList

theorem readers_agree_progressLog :
    ∃ outcome : Except ParserError (List ParsedTrainingMetric),
      stdoutMetrics ⟨10, true⟩ [progressLog] = outcome.mapError .parser ∧
      observedMetrics ⟨100, 10⟩ (TrainLogObserver.quietView progressLog) =
        outcome.mapError .parser ∧
      boundedMetrics progressLog 100 10 = outcome.mapError .parser := by
  have fits : Fits 10 progressLog := @fits_of_length 10 2 _ (by decide +kernel) (by decide)
  exact readers_agree (List.flatten_singleton) (TrainLogObserver.quietView_shows List.prefix_rfl
    (Nat.zero_le _)) ⟨by decide +kernel, by decide +kernel⟩ ⟨by decide +kernel, by decide +kernel⟩
    ⟨fits, fits, fits⟩ (by decide +kernel)

def twoEpochsLog : List UInt8 :=
  "Train Epoch: 1 [1.0%]\rTrain Epoch: 2 [2.0%]\n".toUTF8.toList

/-- Text mode brings the second epoch of a line, and the others do not. -/
theorem not_always_readers_agree :
    ¬∀ (chunks : List (List UInt8)) (content : List UInt8) (collectorLimits : CollectorLimits)
      (observerLimits : ObserverLimits) (maxBytes maxRecords : Nat) (view : LogView)
      (device inode : Nat), chunks.flatten = content →
      view.Shows content device inode 0 content.length → ShortLines content →
      content.length ≤ observerLimits.maxTrainLogBytes ∧ content.length ≤ maxBytes →
      Fits collectorLimits.maxRecords content ∧ Fits observerLimits.maxMetricRecords content ∧
        Fits maxRecords content →
      ∃ outcome : Except ParserError (List ParsedTrainingMetric),
        stdoutMetrics collectorLimits chunks = outcome.mapError .parser ∧
        observedMetrics observerLimits view = outcome.mapError .parser ∧
        boundedMetrics content maxBytes maxRecords = outcome.mapError .parser := by
  intro always
  have fits : Fits 10 twoEpochsLog := @fits_of_length 10 2 _ (by decide +kernel) (by decide)
  rcases always [twoEpochsLog] twoEpochsLog ⟨10, true⟩ ⟨100, 10⟩ 100 10
    (TrainLogObserver.quietView twoEpochsLog) 1 2 List.flatten_singleton
    (TrainLogObserver.quietView_shows List.prefix_rfl (Nat.zero_le _))
    ⟨by decide +kernel, by decide +kernel⟩ ⟨by decide +kernel, by decide +kernel⟩
    ⟨fits, fits, fits⟩ with ⟨outcome, stdout, -, bounded⟩
  have lengthStdout : (stdoutMetrics ⟨10, true⟩ [twoEpochsLog]).toOption.map List.length =
      some 2 := by
    decide +kernel
  have lengthBounded : (boundedMetrics twoEpochsLog 100 10).toOption.map List.length = some 4 := by
    decide +kernel
  rw [stdout] at lengthStdout
  rw [bounded] at lengthBounded
  cases outcome with
  | error error => cases lengthStdout
  | ok metrics =>
      have two : metrics.length = 2 := Option.some.inj lengthStdout
      have four : metrics.length = 4 := Option.some.inj lengthBounded
      omega

end RvcOrchestrator.Worker
