import RvcOrchestrator.Foundation.FloatText
import RvcOrchestrator.Foundation.Pattern
import RvcOrchestrator.Worker.TelemetrySession

/-! # Metrics in the training log

Lines of the training log that one of a few patterns recognises carry metrics. The parser
remembers the epoch and the step that later lines belong to.
-/

namespace RvcOrchestrator.Worker

open RvcOrchestrator.Foundation
open Pattern

/-! ## Patterns -/

def spaces : Pattern := anyNumber isSpace

def digits : Pattern := oneOrMore Char.isDigit

def isSign (char : Char) : Bool := char = '+' || char = '-'

def isDecimal (char : Char) : Bool := char.isDigit || char = '.'

/-- `_TRAIN_EPOCH` -/
def trainEpoch : Pattern := all
  [literal "Train Epoch:", spaces, group "epoch" digits, spaces, literal "[",
    group "percent" (oneOrMore isDecimal), literal "%]"]

/-- `_EPOCH_DONE` -/
def epochDone : Pattern := all
  [literal "====>", spaces, literal "Epoch:", spaces, group "epoch" digits]

def floatNumber : Pattern := all
  [maybe (one isSign),
    choice (all [digits, maybe (all [literal ".", anyNumber Char.isDigit])])
      (all [literal ".", digits]),
    maybe (all [one fun char => char = 'e' || char = 'E', maybe (one isSign), digits])]

/-- `_STEP_AND_LR` -/
def stepAndLr : Pattern := all
  [literal "[", spaces, group "step" digits, spaces, literal ",", spaces, group "lr" floatNumber,
    spaces, literal "]"]

def loss (name : String) : Pattern := all
  [literal (name ++ "="), group name (all [maybe (one isSign), oneOrMore isDecimal])]

/-- `_LOSSES` -/
def losses : Pattern := all
  [loss "loss_disc", literal ",", spaces, loss "loss_gen", literal ",", spaces, loss "loss_fm",
    literal ",", spaces, loss "loss_mel", literal ",", spaces, loss "loss_kl"]

/-! ## The parser -/

inductive ParserError where
  | metricParser (message : String)
  | value
  | overflow
deriving DecidableEq

/-- `int` of decimal digits, of which there are not to be more than 4300. -/
def intOf (text : List Char) : Except ParserError Nat :=
  if 4300 < text.length then .error .value else .ok (Nat.ofDigitChars 10 text 0)

/-- `float` of an integer. -/
def floatOfInt (number : Nat) : Except ParserError (Option PyFloat) :=
  match PyFloat.ofNat number with
  | none => .error .overflow
  | some float => .ok (some float)

/-- `float` of a text: nothing where it is infinite. -/
def floatOf (text : List Char) : Except ParserError (Option PyFloat) :=
  match PyFloat.readDecimal text with
  | none => .error .value
  | some decimal => .ok decimal.double

structure TrainingLogParser where
  currentEpoch : Option Nat
  currentStep : Option Nat
deriving DecidableEq

namespace TrainingLogParser

def initial : TrainingLogParser where
  currentEpoch := none
  currentStep := none

def metric (parser : TrainingLogParser) (key : String) (value : Option PyFloat) :
    Except ParserError ParsedTrainingMetric :=
  match value with
  | none => .error (.metricParser ("non-finite RVC metric rejected: " ++ key))
  | some value => .ok ⟨key, value, parser.currentEpoch, parser.currentStep⟩

/-- A sum that is infinite at some point stays so. -/
def total (addends : List (Option PyFloat)) : Option PyFloat :=
  match addends with
  | [] => some .zero
  | first :: rest => rest.foldl (fun sum addend => do (← sum).add (← addend)) first

def epochMetrics (parser : TrainingLogParser) (epoch : Nat) (percent : List Char) :
    Except ParserError (List ParsedTrainingMetric) := do
  let current ← parser.metric "current_epoch" (← floatOfInt epoch)
  let progress ← parser.metric "epoch_progress_percent" (← floatOf percent)
  pure [current, progress]

def stepMetrics (parser : TrainingLogParser) (step : Nat) (lr : List Char) :
    Except ParserError (List ParsedTrainingMetric) := do
  let current ← parser.metric "step" (← floatOfInt step)
  let learningRate ← parser.metric "learning_rate" (← floatOf lr)
  pure [current, learningRate]

def lossMetrics (parser : TrainingLogParser) (found : Way) :
    Except ParserError (List ParsedTrainingMetric) := do
  let lossDisc ← floatOf (found.group "loss_disc")
  let lossGen ← floatOf (found.group "loss_gen")
  let lossFm ← floatOf (found.group "loss_fm")
  let lossMel ← floatOf (found.group "loss_mel")
  let lossKl ← floatOf (found.group "loss_kl")
  [("loss_d_total", lossDisc), ("loss_g_adversarial", lossGen), ("loss_fm", lossFm),
    ("loss_mel", lossMel), ("loss_kl", lossKl),
    ("loss_g_total", total [lossGen, lossFm, lossMel, lossKl])].mapM fun entry =>
      parser.metric entry.1 entry.2

def completedMetrics (parser : TrainingLogParser) (epoch : Nat) :
    Except ParserError (List ParsedTrainingMetric) := do
  let completed ← parser.metric "epoch_completed" (← floatOfInt epoch)
  pure [completed]

def feed (parser : TrainingLogParser) (line : List Char) :
    TrainingLogParser × Except ParserError (List ParsedTrainingMetric) :=
  match trainEpoch.search line with
  | some found =>
      match intOf (found.group "epoch") with
      | .error error => (parser, .error error)
      | .ok epoch =>
          let parser := { parser with currentEpoch := some epoch }
          (parser, parser.epochMetrics epoch (found.group "percent"))
  | none =>
  match stepAndLr.search line with
  | some found =>
      match intOf (found.group "step") with
      | .error error => (parser, .error error)
      | .ok step =>
          let parser := { parser with currentStep := some step }
          (parser, parser.stepMetrics step (found.group "lr"))
  | none =>
  match losses.search line with
  | some found => (parser, parser.lossMetrics found)
  | none =>
  match epochDone.search line with
  | some found =>
      match intOf (found.group "epoch") with
      | .error error => (parser, .error error)
      | .ok epoch =>
          let parser := { parser with currentEpoch := some epoch }
          (parser, parser.completedMetrics epoch)
  | none => (parser, .ok [])

def after (parser : TrainingLogParser) (lines : List (List Char)) : TrainingLogParser :=
  lines.foldl (fun parser line => (parser.feed line).1) parser

end TrainingLogParser

/-! ## What the patterns capture -/

theorem digits_shape {text : List Char} (matched : digits.Matches text []) :
    text ≠ [] ∧ ∀ char ∈ text, char.isDigit = true :=
  matches_oneOrMore_iff.mp matched

theorem trainEpoch_captures {line : List Char} {found : Way}
    (matched : trainEpoch.search line = some found) :
    digits.Matches (found.group "epoch") [] ∧
      (oneOrMore isDecimal).Matches (found.group "percent") [] := by
  have shape := matches_of_search matched
  simp only [trainEpoch, all, List.foldr_cons, List.foldr_nil] at shape
  rcases shape.skip (groupless_literal _) with ⟨_, shape⟩
  rcases shape.skip rfl with ⟨_, shape⟩
  rcases shape.capture rfl with ⟨epoch, _, _, same, inEpoch, shape⟩
  rcases shape.skip rfl with ⟨_, shape⟩
  rcases shape.skip (groupless_literal _) with ⟨_, shape⟩
  rcases shape.capture rfl with ⟨percent, _, _, rfl, inPercent, -⟩
  simp only [Way.group, same]
  exact ⟨inEpoch, inPercent⟩

theorem stepAndLr_captures {line : List Char} {found : Way}
    (matched : stepAndLr.search line = some found) :
    digits.Matches (found.group "step") [] ∧ floatNumber.Matches (found.group "lr") [] := by
  have shape := matches_of_search matched
  simp only [stepAndLr, all, List.foldr_cons, List.foldr_nil] at shape
  rcases shape.skip (groupless_literal _) with ⟨_, shape⟩
  rcases shape.skip rfl with ⟨_, shape⟩
  rcases shape.capture rfl with ⟨step, _, _, same, inStep, shape⟩
  rcases shape.skip rfl with ⟨_, shape⟩
  rcases shape.skip (groupless_literal _) with ⟨_, shape⟩
  rcases shape.skip rfl with ⟨_, shape⟩
  rcases shape.capture rfl with ⟨lr, _, _, rfl, inLr, -⟩
  simp only [Way.group, same]
  exact ⟨inStep, inLr⟩

/-- A text of digits and points with an optional sign. -/
def signedDecimal : Pattern := all [maybe (one isSign), oneOrMore isDecimal]

theorem loss_captures {name : String} {rest : Pattern} {text : List Char}
    {groups : List (String × List Char)}
    (matched : (Pattern.seq (loss name) rest).Matches text groups) :
    ∃ captured back backGroups, groups = (name, captured) :: backGroups ∧
      signedDecimal.Matches captured [] ∧ rest.Matches back backGroups := by
  rcases matched with ⟨_, _, back, backGroups, -, rfl, shape, inRest⟩
  simp only [loss, all, List.foldr_cons, List.foldr_nil] at shape
  rcases shape.skip (groupless_literal _) with ⟨_, shape⟩
  rcases shape.capture rfl with ⟨captured, _, _, rfl, inLoss, shape⟩
  rw [groups_eq_nil rfl shape]
  exact ⟨captured, back, backGroups, rfl, inLoss, inRest⟩

def lossNames : List String := ["loss_disc", "loss_gen", "loss_fm", "loss_mel", "loss_kl"]

theorem losses_captures {line : List Char} {found : Way}
    (matched : losses.search line = some found) :
    ∀ name ∈ lossNames, signedDecimal.Matches (found.group name) [] := by
  have shape := matches_of_search matched
  simp only [losses, all, List.foldr_cons, List.foldr_nil] at shape
  rcases loss_captures shape with ⟨disc, _, _, same, inDisc, shape⟩
  rcases shape.skip (groupless_literal _) with ⟨_, shape⟩
  rcases shape.skip rfl with ⟨_, shape⟩
  rcases loss_captures shape with ⟨gen, _, _, rfl, inGen, shape⟩
  rcases shape.skip (groupless_literal _) with ⟨_, shape⟩
  rcases shape.skip rfl with ⟨_, shape⟩
  rcases loss_captures shape with ⟨fm, _, _, rfl, inFm, shape⟩
  rcases shape.skip (groupless_literal _) with ⟨_, shape⟩
  rcases shape.skip rfl with ⟨_, shape⟩
  rcases loss_captures shape with ⟨mel, _, _, rfl, inMel, shape⟩
  rcases shape.skip (groupless_literal _) with ⟨_, shape⟩
  rcases shape.skip rfl with ⟨_, shape⟩
  rcases loss_captures shape with ⟨kl, _, _, rfl, inKl, -⟩
  simp only [lossNames, List.forall_mem_cons, Way.group, same]
  exact ⟨inDisc, inGen, inFm, inMel, inKl, by simp⟩

/-! ## Readable captures -/

/-- The digits are an integer that `int` reads and that has a finite float. -/
def FitsInt (text : List Char) : Prop :=
  text.length ≤ 4300 ∧ Nat.ofDigitChars 10 text 0 < 2 ^ 1024 - 2 ^ 970

/-- There is a digit and not a second point. -/
def FitsFloat (text : List Char) : Prop :=
  text.count '.' ≤ 1 ∧ ∃ char ∈ text, char.isDigit = true

theorem isSigns_of_matches {text : List Char} (matched : (maybe (one isSign)).Matches text []) :
    PyFloat.IsSigns text := by
  rcases matched with sign | ⟨rfl, -⟩
  · rcases matches_one_iff.mp sign with ⟨char, rfl, accepted⟩
    simp only [isSign, Bool.or_eq_true, decide_eq_true_eq] at accepted
    rcases accepted with rfl | rfl
    · exact .inr (.inl rfl)
    · exact .inr (.inr rfl)
  · exact .inl rfl

theorem isDecimal_iff {char : Char} : isDecimal char = true ↔ char.isDigit = true ∨ char = '.' := by
  simp [isDecimal]

theorem fitsFloat_append_iff {signs body : List Char} (optional : PyFloat.IsSigns signs) :
    FitsFloat (signs ++ body) ↔ FitsFloat body := by
  rcases optional with rfl | rfl | rfl
  · rfl
  · simp [FitsFloat]
  · simp [FitsFloat]

theorem readDecimal_decimal_iff {text : List Char}
    (matched : (oneOrMore isDecimal).Matches text []) :
    (PyFloat.readDecimal text).isSome = true ↔ FitsFloat text := by
  have shape := (matches_oneOrMore_iff.mp matched).2
  exact PyFloat.readDecimal_isSome_iff (.inl rfl) fun char member =>
    isDecimal_iff.mp (shape char member)

theorem readDecimal_signedDecimal_iff {text : List Char} (matched : signedDecimal.Matches text []) :
    (PyFloat.readDecimal text).isSome = true ↔ FitsFloat text := by
  rcases Matches.parts matched with ⟨signs, _, rfl, inSigns, inRest⟩
  rcases Matches.parts inRest with ⟨body, _, rfl, inBody, rfl, -⟩
  have optional := isSigns_of_matches inSigns
  have shape := (matches_oneOrMore_iff.mp inBody).2
  rw [List.append_nil, fitsFloat_append_iff optional]
  exact PyFloat.readDecimal_isSome_iff optional fun char member =>
    isDecimal_iff.mp (shape char member)

/-- The exponent of a number is readable and not a part of its digits. -/
theorem power_readable {text : List Char}
    (matched : (maybe (all [one fun char => char = 'e' || char = 'E', maybe (one isSign),
      digits])).Matches text []) :
    (PyFloat.readPower text).isSome = true ∧ PyFloat.NoDigitFirst text ∧
      text.head? ≠ some '.' := by
  rcases matched with power | ⟨rfl, -⟩
  · rcases Matches.parts power with ⟨_, _, rfl, inLetter, rest⟩
    rcases Matches.parts rest with ⟨signs, _, rfl, inSigns, rest⟩
    rcases Matches.parts rest with ⟨number, _, rfl, inNumber, rfl, -⟩
    rcases matches_one_iff.mp inLetter with ⟨letter, rfl, exponent⟩
    have some_ := digits_shape inNumber
    simp only [Bool.or_eq_true, decide_eq_true_eq] at exponent
    refine ⟨?_, ?_, ?_⟩
    · rw [List.append_nil, List.singleton_append]
      exact PyFloat.readPower_isSome exponent (isSigns_of_matches inSigns) some_.1 some_.2
    · rintro _ ⟨⟩
      rcases exponent with rfl | rfl <;> decide
    · rcases exponent with rfl | rfl <;> simp
  · exact ⟨rfl, by simp [PyFloat.NoDigitFirst], by simp⟩

theorem readDecimal_floatNumber {text : List Char} (matched : floatNumber.Matches text []) :
    (PyFloat.readDecimal text).isSome = true := by
  rcases Matches.parts matched with ⟨signs, _, rfl, inSigns, rest⟩
  rcases Matches.parts rest with ⟨mantissa, _, rfl, inMantissa, rest⟩
  rcases Matches.parts rest with ⟨power, _, rfl, inPower, rfl, -⟩
  rw [List.append_nil]
  have optional := isSigns_of_matches inSigns
  rcases power_readable inPower with ⟨readable, ends, noPoint⟩
  have unsigned {text : List Char} (first : ∀ char ∈ text.head?, char.isDigit = true ∨ char = '.') :
      (PyFloat.signed (signs ++ text)).2 = text := by
    apply PyFloat.signed_append optional
    intro char isFirst
    rcases first char isFirst with digit | rfl
    · exact ⟨PyFloat.ne_of_isDigit digit (by decide), PyFloat.ne_of_isDigit digit (by decide)⟩
    · decide
  have firstDigit {number rest : List Char} (inNumber : digits.Matches number []) :
      ∀ char ∈ (number ++ rest).head?, char.isDigit = true ∨ char = '.' := by
    intro char isFirst
    rcases digits_shape inNumber with ⟨some_, numeric⟩
    rw [List.head?_append_of_ne_nil _ some_] at isFirst
    exact .inl (numeric char (List.mem_of_mem_head? isFirst))
  rcases inMantissa with withWhole | pointFirst
  · rcases Matches.parts withWhole with ⟨whole, _, rfl, inWhole, rest⟩
    rcases Matches.parts rest with ⟨fraction, _, rfl, inFraction, rfl, -⟩
    rw [List.append_nil, List.append_assoc]
    rcases digits_shape inWhole with ⟨some_, numeric⟩
    rcases inFraction with withPoint | ⟨rfl, -⟩
    · rcases Matches.parts withPoint with ⟨point, _, rfl, inPoint, rest⟩
      rcases Matches.parts rest with ⟨fraction, _, rfl, inFraction, rfl, -⟩
      obtain rfl := eq_of_matches_literal inPoint
      rw [List.append_nil]
      apply (PyFloat.readDecimal_point (unsigned (firstDigit inWhole)) numeric
        (matches_anyNumber_iff.mp inFraction) ends).mpr
      exact ⟨.inl some_, readable⟩
    · rw [List.nil_append]
      exact (PyFloat.readDecimal_whole (unsigned (firstDigit inWhole)) numeric ends noPoint).mpr
        ⟨some_, readable⟩
  · rcases Matches.parts pointFirst with ⟨point, _, rfl, inPoint, rest⟩
    rcases Matches.parts rest with ⟨fraction, _, rfl, inFraction, rfl, -⟩
    obtain rfl := eq_of_matches_literal inPoint
    rcases digits_shape inFraction with ⟨some_, numeric⟩
    rw [List.append_nil]
    refine (@PyFloat.readDecimal_point _ [] _ _ (unsigned ?_) (by simp) numeric ends).mpr
      ⟨.inr some_, readable⟩
    rintro _ ⟨⟩
    exact .inr rfl

/-! ## Expected outcomes -/

/-- The parser brings metrics whose keys the contract accepts, or it rejects a number. Their values
are finite, and their epochs and steps are not negative, by their types. -/
def Expected : Except ParserError (List ParsedTrainingMetric) → Prop
  | .ok metrics => ∀ metric ∈ metrics, metricKeyAccepted metric.key = true
  | .error error => ∃ message, error = .metricParser message

/-- The first pattern that recognises the line captures numbers that can be read. -/
def Convertible (line : List Char) : Prop :=
  match trainEpoch.search line with
  | some found => FitsInt (found.group "epoch") ∧ FitsFloat (found.group "percent")
  | none =>
  match stepAndLr.search line with
  | some found => FitsInt (found.group "step")
  | none =>
  match losses.search line with
  | some found => ∀ name ∈ lossNames, FitsFloat (found.group name)
  | none =>
  match epochDone.search line with
  | some found => FitsInt (found.group "epoch")
  | none => True

theorem floatOf_readable {text : List Char}
    (readable : (PyFloat.readDecimal text).isSome = true) :
    ∃ value, floatOf text = .ok value := by
  rcases Option.isSome_iff_exists.mp readable with ⟨decimal, read⟩
  exact ⟨decimal.double, by rw [floatOf, read]⟩

theorem floatOf_unreadable {text : List Char}
    (unreadable : ¬(PyFloat.readDecimal text).isSome = true) : floatOf text = .error .value := by
  rw [floatOf, Option.not_isSome_iff_eq_none.mp unreadable]

theorem floatOfInt_fits {number : Nat} (fits : number < 2 ^ 1024 - 2 ^ 970) :
    ∃ value, floatOfInt number = .ok (some value) := by
  unfold floatOfInt
  cases read : PyFloat.ofNat number with
  | none => exact absurd (PyFloat.ofNat_eq_none_iff.mp read) (Nat.not_le.mpr fits)
  | some value => exact ⟨value, rfl⟩

theorem floatOfInt_large {number : Nat} (large : ¬number < 2 ^ 1024 - 2 ^ 970) :
    floatOfInt number = .error .overflow := by
  rw [floatOfInt, PyFloat.ofNat_eq_none_iff.mpr (Nat.not_lt.mp large)]

theorem expected_ok {outcome : Except ParserError (List ParsedTrainingMetric)}
    {metrics : List ParsedTrainingMetric} (keys : List String) (result : outcome = .ok metrics)
    (named : metrics.map ParsedTrainingMetric.key = keys)
    (accepted : keys.all metricKeyAccepted = true) : Expected outcome := by
  rw [result]
  intro metric member
  apply List.all_eq_true.mp accepted
  rw [← named]
  exact List.mem_map_of_mem member

theorem expected_rejected {outcome : Except ParserError (List ParsedTrainingMetric)}
    {message : String} (result : outcome = .error (.metricParser message)) : Expected outcome := by
  rw [result]
  exact ⟨message, rfl⟩

theorem not_expected_value {outcome : Except ParserError (List ParsedTrainingMetric)}
    (result : outcome = .error .value) : ¬Expected outcome := by
  rw [result]
  rintro ⟨_, ⟨⟩⟩

theorem not_expected_overflow {outcome : Except ParserError (List ParsedTrainingMetric)}
    (result : outcome = .error .overflow) : ¬Expected outcome := by
  rw [result]
  rintro ⟨_, ⟨⟩⟩

namespace TrainingLogParser

variable (parser : TrainingLogParser)

theorem epochMetrics_expected_iff (epoch : Nat) {percent : List Char}
    (captured : (oneOrMore isDecimal).Matches percent []) :
    Expected (parser.epochMetrics epoch percent) ↔
      epoch < 2 ^ 1024 - 2 ^ 970 ∧ FitsFloat percent := by
  rw [← readDecimal_decimal_iff captured]
  unfold epochMetrics
  by_cases fits : epoch < 2 ^ 1024 - 2 ^ 970
  · rcases floatOfInt_fits fits with ⟨current, read⟩
    rw [read]
    by_cases readable : (PyFloat.readDecimal percent).isSome = true
    · rcases floatOf_readable readable with ⟨progress, readProgress⟩
      refine iff_of_true ?_ ⟨fits, readable⟩
      rw [readProgress]
      cases progress with
      | none => exact expected_rejected rfl
      | some progress => exact expected_ok ["current_epoch", "epoch_progress_percent"] rfl rfl (by decide)
    · refine iff_of_false ?_ fun both => readable both.2
      rw [floatOf_unreadable readable]
      exact not_expected_value rfl
  · refine iff_of_false ?_ fun both => fits both.1
    rw [floatOfInt_large fits]
    exact not_expected_overflow rfl

theorem stepMetrics_expected_iff (step : Nat) {lr : List Char}
    (captured : floatNumber.Matches lr []) :
    Expected (parser.stepMetrics step lr) ↔ step < 2 ^ 1024 - 2 ^ 970 := by
  unfold stepMetrics
  by_cases fits : step < 2 ^ 1024 - 2 ^ 970
  · rcases floatOfInt_fits fits with ⟨current, read⟩
    rcases floatOf_readable (readDecimal_floatNumber captured) with ⟨learningRate, readRate⟩
    refine iff_of_true ?_ fits
    rw [read, readRate]
    cases learningRate with
    | none => exact expected_rejected rfl
    | some learningRate => exact expected_ok ["step", "learning_rate"] rfl rfl (by decide)
  · refine iff_of_false ?_ fits
    rw [floatOfInt_large fits]
    exact not_expected_overflow rfl

theorem completedMetrics_expected_iff (epoch : Nat) :
    Expected (parser.completedMetrics epoch) ↔ epoch < 2 ^ 1024 - 2 ^ 970 := by
  unfold completedMetrics
  by_cases fits : epoch < 2 ^ 1024 - 2 ^ 970
  · rcases floatOfInt_fits fits with ⟨completed, read⟩
    refine iff_of_true ?_ fits
    rw [read]
    exact expected_ok ["epoch_completed"] rfl rfl (by decide)
  · refine iff_of_false ?_ fits
    rw [floatOfInt_large fits]
    exact not_expected_overflow rfl

theorem metric_expected (key : String) (value : Option PyFloat) :
    (∃ message, parser.metric key value = .error (.metricParser message)) ∨
      ∃ metric, parser.metric key value = .ok metric ∧ metric.key = key := by
  cases value with
  | none => exact .inl ⟨_, rfl⟩
  | some value => exact .inr ⟨_, rfl, rfl⟩

/-- Metrics are made of finite values under their keys, or one of the values is rejected. -/
theorem mapM_metric (entries : List (String × Option PyFloat)) :
    (∃ message, (entries.mapM fun entry => parser.metric entry.1 entry.2) =
        .error (.metricParser message)) ∨
      ∃ metrics, (entries.mapM fun entry => parser.metric entry.1 entry.2) = .ok metrics ∧
        metrics.map ParsedTrainingMetric.key = entries.map Prod.fst := by
  induction entries with
  | nil => exact .inr ⟨[], rfl, rfl⟩
  | cons entry entries induction =>
      rw [List.mapM_cons]
      rcases parser.metric_expected entry.1 entry.2 with ⟨message, rejected⟩ | ⟨metric, made, key⟩
      · exact .inl ⟨message, by rw [rejected]; rfl⟩
      · rw [made]
        rcases induction with ⟨message, rejected⟩ | ⟨metrics, more, keys⟩
        · exact .inl ⟨message, by rw [rejected]; rfl⟩
        · exact .inr ⟨metric :: metrics, by rw [more]; rfl, by simp [key, keys]⟩

theorem floatOf_loss {text : List Char} (captured : signedDecimal.Matches text []) :
    (¬FitsFloat text ∧ floatOf text = .error .value) ∨
      FitsFloat text ∧ ∃ value, floatOf text = .ok value := by
  rw [← readDecimal_signedDecimal_iff captured]
  by_cases readable : (PyFloat.readDecimal text).isSome = true
  · exact .inr ⟨readable, floatOf_readable readable⟩
  · exact .inl ⟨readable, floatOf_unreadable readable⟩

theorem lossMetrics_expected_iff {found : Way}
    (captured : ∀ name ∈ lossNames, signedDecimal.Matches (found.group name) []) :
    Expected (parser.lossMetrics found) ↔ ∀ name ∈ lossNames, FitsFloat (found.group name) := by
  simp only [lossNames, List.forall_mem_cons] at captured ⊢
  rcases captured with ⟨disc, gen, fm, mel, kl, -⟩
  unfold lossMetrics
  -- The conversions stop at the first number that cannot be read.
  rcases floatOf_loss disc with ⟨unfit, read⟩ | ⟨fitsDisc, lossDisc, read⟩
  · exact iff_of_false (not_expected_value (by rw [read]; rfl)) fun fits => unfit fits.1
  rw [read]
  rcases floatOf_loss gen with ⟨unfit, read⟩ | ⟨fitsGen, lossGen, read⟩
  · exact iff_of_false (not_expected_value (by rw [read]; rfl)) fun fits => unfit fits.2.1
  rw [read]
  rcases floatOf_loss fm with ⟨unfit, read⟩ | ⟨fitsFm, lossFm, read⟩
  · exact iff_of_false (not_expected_value (by rw [read]; rfl)) fun fits => unfit fits.2.2.1
  rw [read]
  rcases floatOf_loss mel with ⟨unfit, read⟩ | ⟨fitsMel, lossMel, read⟩
  · exact iff_of_false (not_expected_value (by rw [read]; rfl)) fun fits => unfit fits.2.2.2.1
  rw [read]
  rcases floatOf_loss kl with ⟨unfit, read⟩ | ⟨fitsKl, lossKl, read⟩
  · exact iff_of_false (not_expected_value (by rw [read]; rfl)) fun fits => unfit fits.2.2.2.2.1
  rw [read]
  refine iff_of_true ?_ ⟨fitsDisc, fitsGen, fitsFm, fitsMel, fitsKl, by simp⟩
  rcases parser.mapM_metric [("loss_d_total", lossDisc), ("loss_g_adversarial", lossGen),
      ("loss_fm", lossFm), ("loss_mel", lossMel), ("loss_kl", lossKl),
      ("loss_g_total", total [lossGen, lossFm, lossMel, lossKl])] with
    ⟨message, rejected⟩ | ⟨metrics, made, keys⟩
  · exact expected_rejected rejected
  · exact expected_ok ["loss_d_total", "loss_g_adversarial", "loss_fm", "loss_mel", "loss_kl",
      "loss_g_total"] made keys (by decide)

/-- Whatever the parser remembers, it fails in no unexpected way exactly on the convertible
lines. -/
theorem feed_expected_iff (line : List Char) :
    Expected (parser.feed line).2 ↔ Convertible line := by
  have refused {text : List Char} {error : ParserError} (read : intOf text = .error error) :
      ¬text.length ≤ 4300 ∧ error = .value := by
    unfold intOf at read
    split at read
    · next long =>
        cases read
        exact ⟨Nat.not_le.mpr long, rfl⟩
    · cases read
  have accepted {text : List Char} {number : Nat} (read : intOf text = .ok number) :
      FitsInt text ↔ number < 2 ^ 1024 - 2 ^ 970 := by
    unfold intOf at read
    split at read
    · cases read
    · next short =>
        cases read
        exact and_iff_right (Nat.not_lt.mp short)
  unfold feed Convertible
  cases inEpoch : trainEpoch.search line with
  | some found =>
      rcases trainEpoch_captures inEpoch with ⟨-, inPercent⟩
      cases read : intOf (found.group "epoch") with
      | error error =>
          rcases refused read with ⟨long, rfl⟩
          simp only [read]
          exact iff_of_false (not_expected_value rfl) fun fits => long fits.1.1
      | ok epoch =>
          simp only [read, accepted read]
          exact epochMetrics_expected_iff _ epoch inPercent
  | none =>
  cases inStep : stepAndLr.search line with
  | some found =>
      rcases stepAndLr_captures inStep with ⟨-, inLr⟩
      cases read : intOf (found.group "step") with
      | error error =>
          rcases refused read with ⟨long, rfl⟩
          simp only [read]
          exact iff_of_false (not_expected_value rfl) fun fits => long fits.1
      | ok step =>
          simp only [read, accepted read]
          exact stepMetrics_expected_iff _ step inLr
  | none =>
  cases inLosses : losses.search line with
  | some found => exact parser.lossMetrics_expected_iff (losses_captures inLosses)
  | none =>
  cases inDone : epochDone.search line with
  | some found =>
      cases read : intOf (found.group "epoch") with
      | error error =>
          rcases refused read with ⟨long, rfl⟩
          simp only [read]
          exact iff_of_false (not_expected_value rfl) fun fits => long fits.1
      | ok epoch =>
          simp only [read, accepted read]
          exact completedMetrics_expected_iff _ epoch
  | none => exact iff_of_true (expected_ok [] rfl rfl rfl) trivial

/-- After any lines, a line fails in no unexpected way exactly if it is convertible. -/
theorem after_expected_iff (lines : List (List Char)) (line : List Char) :
    Expected ((initial.after lines).feed line).2 ↔ Convertible line :=
  (initial.after lines).feed_expected_iff line

/-- Two points in the progress of an epoch are an unexpected error. -/
theorem not_always_expected :
    ¬∀ (lines : List (List Char)) (line : List Char),
      Expected ((initial.after lines).feed line).2 := by
  intro always
  refine not_expected_value ?_ (always [] "Train Epoch: 1 [1.2.3%]".toList)
  decide +kernel

end TrainingLogParser

end RvcOrchestrator.Worker
