import Mathlib.Data.List.DropRight
import RvcOrchestrator.Foundation.BoundedBody

/-! # Body limits

Four middlewares read the bodies of certain requests before anything else does, each up to its
limit, and hand a body that fits on in one piece.
-/

namespace RvcOrchestrator.Manager

open RvcOrchestrator.Foundation

structure HttpScope where
  http : Bool
  method : String
  path : List Char
  headers : List (List UInt8 × List UInt8)

inductive HttpMessage where
  | disconnect
  | request (body : List UInt8) (moreBody : Bool)
  | other
deriving DecidableEq

def HttpMessage.piece : HttpMessage → Piece UInt8
  | .disconnect => .closed
  | .request body moreBody => .chunk body !moreBody
  | .other => .skipped

inductive Served where
  /-- The application runs and is given these messages. -/
  | app (messages : List HttpMessage)
  | rejected (status : Nat) (detail : String)
  /-- An exception leaves the middlewares. -/
  | raised (exception : String)
  | gone
  | waiting
deriving DecidableEq

structure BodyLimit where
  applies : HttpScope → Bool
  maxBytes : Nat
  tooLarge : String
  /-- The answer to a body that is refused, or an exception. -/
  bodyError : List UInt8 → Except String (Option (Nat × String)) := fun _ => .ok none

/-! ## The declared length -/

/-- What `int` skips around an ASCII text, without the separators that `str.strip` also takes. -/
def isSpace (char : Char) : Bool := (9 ≤ char.toNat && char.toNat ≤ 13) || char = ' '

/-- The digits that `int` accepts, with single underscores between them. -/
def readDigits (text : List Char) : Option Nat :=
  let groups := text.splitOn '_'
  let digits := groups.flatten
  if groups.all (fun group => !group.isEmpty && group.all Char.isDigit) &&
      digits.length ≤ 4300 then
    some (digits.foldl (fun number digit => 10 * number + (digit.toNat - 48)) 0)
  else none

/-- `int` of an ASCII text. -/
def readInt (text : List Char) : Option Int :=
  match (text.dropWhile isSpace).rdropWhile isSpace with
  | '-' :: digits => (readDigits digits).map fun number => -(number : Int)
  | '+' :: digits => (readDigits digits).map (↑·)
  | digits => (readDigits digits).map (↑·)

def decodeAscii (bytes : List UInt8) : Option (List Char) :=
  if bytes.all (· < 128) then some (bytes.map fun byte => Char.ofNat byte.toNat) else none

def lower (bytes : List UInt8) : List UInt8 :=
  bytes.map fun byte => if 65 ≤ byte && byte ≤ 90 then byte + 32 else byte

/-- The last of several headers of one name counts. -/
def contentLength (scope : HttpScope) : Option (List UInt8) :=
  (scope.headers.reverse.find? fun header =>
    lower header.1 = "content-length".toUTF8.toList).map (·.2)

namespace BodyLimit

def declaredError (limit : BodyLimit) (scope : HttpScope) : Option (Nat × String) :=
  match contentLength scope with
  | none => none
  | some value =>
      match (decodeAscii value).bind readInt with
      | none => some (400, "invalid Content-Length")
      | some declared =>
          if declared < 0 then some (400, "invalid Content-Length")
          else if (limit.maxBytes : Int) < declared then some (413, limit.tooLarge)
          else none

/-! ## A request -/

/-- The body in one message, and then as many empty ones as the application asks for. -/
def replay (body : List UInt8) (calls : Nat) : List HttpMessage :=
  .request body false :: List.replicate calls (.request [] false)

def call (limit : BodyLimit) (calls : Nat) (scope : HttpScope)
    (app : List HttpMessage → Served) (messages : List HttpMessage) : Served :=
  if !limit.applies scope then app messages
  else match limit.declaredError scope with
    | some (status, detail) => .rejected status detail
    | none =>
        match readBounded limit.maxBytes (messages.map HttpMessage.piece) with
        | .going _ _ => .waiting
        | .closed => .gone
        | .tooLarge => .rejected 413 limit.tooLarge
        | .whole body =>
            match limit.bodyError body with
            | .error exception => .raised exception
            | .ok (some (status, detail)) => .rejected status detail
            | .ok none => app (replay body calls)

end BodyLimit

def requestBody (messages : List HttpMessage) : List UInt8 × Ending :=
  gathered (messages.map HttpMessage.piece)

/-! ## The four middlewares -/

structure BodyLimitSettings where
  apiPrefix : List Char
  sampleRegistrationJsonMaxBytes : Nat
  experimentJsonMaxBytes : Nat
  userLifecycleJsonMaxBytes : Nat
  workerTelemetryJsonMaxBytes : Nat

/-- `text[len(head):len(text) - len(tail)]` -/
def between (head tail text : List Char) : List Char :=
  (text.take (text.length - tail.length)).drop head.length

def isComponent (text : List Char) : Bool := !text.isEmpty && '/' ∉ text

def appliesToSample (root : List Char) (scope : HttpScope) : Bool :=
  scope.http && scope.method = "POST" &&
    (root ++ "/workers/jobs/".toList).isPrefixOf scope.path &&
    "/samples".toList.isSuffixOf scope.path &&
    isComponent (between (root ++ "/workers/jobs/".toList) "/samples".toList scope.path)

def appliesToExperiment (root : List Char) (scope : HttpScope) : Bool :=
  let collection := root ++ "/experiments".toList
  let remainder := scope.path.drop (collection.length + 1)
  let inside := (collection ++ ['/']).isPrefixOf scope.path
  scope.http &&
    if scope.method = "POST" then
      scope.path = collection || inside &&
        match remainder.splitOn '/' with
        | [experiment, registry, candidates] =>
            !experiment.isEmpty && registry = "model-registry".toList &&
              candidates = "candidates".toList
        | [experiment, registry, entries, entry, change] =>
            !experiment.isEmpty && registry = "model-registry".toList &&
              entries = "entries".toList && !entry.isEmpty &&
              (change = "promote".toList || change = "revoke".toList)
        | _ => false
    else scope.method = "PATCH" && inside && isComponent remainder

def appliesToUserLifecycle (root : List Char) (scope : HttpScope) : Bool :=
  let collection := root ++ "/admin/users".toList
  let remainder := scope.path.drop (collection.length + 1)
  scope.http &&
    (scope.method = "POST" && scope.path = collection ||
      (collection ++ ['/']).isPrefixOf scope.path &&
        (scope.method = "PATCH" && isComponent remainder ||
          scope.method = "POST" && "/password-reset".toList.isSuffixOf remainder &&
            isComponent (between [] "/password-reset".toList remainder)))

def appliesToWorkerTelemetry (root : List Char) (scope : HttpScope) : Bool :=
  let remainder := scope.path.drop (root ++ "/workers/jobs/".toList).length
  scope.http && scope.method = "POST" &&
    (root ++ "/workers/jobs/".toList).isPrefixOf scope.path &&
    !(remainder.takeWhile (· ≠ '/')).isEmpty && remainder.contains '/' &&
    ["status".toList, "logs".toList, "metrics".toList].contains
      (remainder.dropWhile (· ≠ '/')).tail

/-- `json.loads` of a body. `false` stands for the `UnicodeDecodeError` or `ValueError` that the
middleware catches, an error for any other exception, such as the `RecursionError` of a body that
is nested too deeply. -/
abbrev StrictJson := List UInt8 → Except String Bool

variable (settings : BodyLimitSettings) (strictJson : StrictJson)

/-- The middlewares of the application, outermost first. -/
def bodyLimits : List BodyLimit :=
  let root := settings.apiPrefix.rdropWhile (· = '/')
  [{ applies := appliesToWorkerTelemetry root
     maxBytes := settings.workerTelemetryJsonMaxBytes
     tooLarge := "worker telemetry request body is too large"
     bodyError := fun body =>
       (strictJson body).map fun strict =>
         if strict then none
         else some (422, "worker telemetry request body is not strict JSON") },
   { applies := appliesToUserLifecycle root
     maxBytes := settings.userLifecycleJsonMaxBytes
     tooLarge := "user lifecycle request body is too large" },
   { applies := appliesToExperiment root
     maxBytes := settings.experimentJsonMaxBytes
     tooLarge := "experiment request body is too large" },
   { applies := appliesToSample root
     maxBytes := settings.sampleRegistrationJsonMaxBytes
     tooLarge := "sample registration body is too large" }]

def serve (calls : Nat) (scope : HttpScope) (messages : List HttpMessage) : Served :=
  (bodyLimits settings strictJson).foldr (fun limit app => limit.call calls scope app) .app messages

/-! ## No request is limited twice -/

variable {settings : BodyLimitSettings} {strictJson : StrictJson} {scope : HttpScope}
  {root : List Char} {calls : Nat} {limit : BodyLimit} {messages : List HttpMessage}

theorem appliesToSample_path (applies : appliesToSample root scope = true) :
    root ++ "/workers/jobs/".toList <+: scope.path ∧ "/samples".toList <:+ scope.path := by
  simp only [appliesToSample, Bool.and_eq_true] at applies
  exact ⟨List.isPrefixOf_iff_prefix.mp applies.1.1.2, List.isSuffixOf_iff_suffix.mp applies.1.2⟩

theorem appliesToWorkerTelemetry_path (applies : appliesToWorkerTelemetry root scope = true) :
    root ++ "/workers/jobs/".toList <+: scope.path ∧
      ∃ operation ∈ ["status".toList, "logs".toList, "metrics".toList],
        operation <:+ scope.path := by
  simp only [appliesToWorkerTelemetry, Bool.and_eq_true, List.contains_iff_mem] at applies
  refine ⟨List.isPrefixOf_iff_prefix.mp applies.1.1.1.2, _, applies.2, ?_⟩
  exact (List.tail_suffix _).trans ((List.dropWhile_suffix _).trans (List.drop_suffix _ _))

theorem appliesToExperiment_path (applies : appliesToExperiment root scope = true) :
    root ++ "/experiments".toList <+: scope.path := by
  have inside : (root ++ "/experiments".toList ++ ['/']).isPrefixOf scope.path = true →
      root ++ "/experiments".toList <+: scope.path := fun inside =>
    (List.prefix_append _ _).trans (List.isPrefixOf_iff_prefix.mp inside)
  simp only [appliesToExperiment, Bool.and_eq_true] at applies
  rcases applies with ⟨_, applies⟩
  split at applies
  · rcases Bool.or_eq_true _ _ ▸ applies with same | below
    · exact of_decide_eq_true same ▸ List.prefix_rfl
    · exact inside (Bool.and_eq_true _ _ ▸ below).1
  · simp only [Bool.and_eq_true] at applies
    exact inside applies.1.2

theorem appliesToUserLifecycle_path (applies : appliesToUserLifecycle root scope = true) :
    root ++ "/admin/users".toList <+: scope.path := by
  simp only [appliesToUserLifecycle, Bool.and_eq_true, Bool.or_eq_true,
    decide_eq_true_eq] at applies
  rcases applies.2 with ⟨_, same⟩ | ⟨inside, _⟩
  · exact same ▸ List.prefix_rfl
  · exact (List.prefix_append _ _).trans (List.isPrefixOf_iff_prefix.mp inside)

/-- Of what two paths to one place go on with after the root, one begins with the other. -/
theorem heads_compare {head other path : List Char} (found : root ++ head <+: path)
    (also : root ++ other <+: path) : head <+: other ∨ other <+: head :=
  (List.prefix_or_prefix_of_prefix found also).imp (List.prefix_append_right_inj root).mp
    (List.prefix_append_right_inj root).mp

theorem telemetry_sample_apart (telemetry : appliesToWorkerTelemetry root scope = true)
    (sample : appliesToSample root scope = true) : False := by
  rcases appliesToWorkerTelemetry_path telemetry with ⟨_, operation, member, ends⟩
  -- None of the operations ends with another one.
  have compared := List.suffix_or_suffix_of_suffix ends (appliesToSample_path sample).2
  clear ends
  revert operation
  decide

/-- No two of the four middlewares limit the same request. -/
theorem bodyLimits_apart (settings : BodyLimitSettings) (strictJson : StrictJson)
    (scope : HttpScope) :
    (bodyLimits settings strictJson).Pairwise fun limit other =>
      ¬(limit.applies scope = true ∧ other.applies scope = true) := by
  simp only [bodyLimits, List.pairwise_cons, List.mem_cons, List.not_mem_nil, or_false,
    forall_eq_or_imp, forall_eq, IsEmpty.forall_iff, implies_true, List.Pairwise.nil, and_true]
  refine ⟨⟨?_, ?_, ?_⟩, ⟨?_, ?_⟩, ?_⟩
  · rintro ⟨telemetry, users⟩
    exact absurd (heads_compare (appliesToWorkerTelemetry_path telemetry).1
      (appliesToUserLifecycle_path users)) (by decide)
  · rintro ⟨telemetry, experiments⟩
    exact absurd (heads_compare (appliesToWorkerTelemetry_path telemetry).1
      (appliesToExperiment_path experiments)) (by decide)
  · rintro ⟨telemetry, sample⟩
    exact telemetry_sample_apart telemetry sample
  · rintro ⟨users, experiments⟩
    exact absurd (heads_compare (appliesToUserLifecycle_path users)
      (appliesToExperiment_path experiments)) (by decide)
  · rintro ⟨users, sample⟩
    exact absurd (heads_compare (appliesToUserLifecycle_path users)
      (appliesToSample_path sample).1) (by decide)
  · rintro ⟨experiments, sample⟩
    exact absurd (heads_compare (appliesToExperiment_path experiments)
      (appliesToSample_path sample).1) (by decide)

/-! ## What the application is given -/

theorem foldr_call_of_none {limits : List BodyLimit} {app : List HttpMessage → Served}
    (none : ∀ limit ∈ limits, limit.applies scope = false) :
    limits.foldr (fun limit app => limit.call calls scope app) app = app := by
  induction limits with
  | nil => rfl
  | cons limit limits induction =>
      funext messages
      rw [List.foldr_cons, induction fun other member => none other (List.mem_cons_of_mem _ member)]
      simp [BodyLimit.call, none limit List.mem_cons_self]

theorem foldr_call_of_applies {limits : List BodyLimit} {app : List HttpMessage → Served}
    (apart : limits.Pairwise fun limit other =>
      ¬(limit.applies scope = true ∧ other.applies scope = true))
    (member : limit ∈ limits) (applies : limit.applies scope = true) :
    limits.foldr (fun limit app => limit.call calls scope app) app =
      limit.call calls scope app := by
  induction limits with
  | nil => cases member
  | cons head limits induction =>
      rcases List.pairwise_cons.mp apart with ⟨alone, others⟩
      rw [List.foldr_cons]
      rcases List.mem_cons.mp member with rfl | later
      · rw [foldr_call_of_none fun other member =>
          Bool.eq_false_iff.mpr fun also => alone other member ⟨applies, also⟩]
      · rw [induction others later]
        funext messages
        have passes : head.applies scope = false :=
          Bool.eq_false_iff.mpr fun also => alone limit later ⟨also, applies⟩
        simp [BodyLimit.call, passes]

def BodyLimit.answer (limit : BodyLimit) (calls : Nat) (scope : HttpScope) :
    List UInt8 × Ending → Served
  | (body, ending) =>
      match limit.declaredError scope with
      | some (status, detail) => .rejected status detail
      | none =>
          if limit.maxBytes < body.length then .rejected 413 limit.tooLarge
          else match ending, limit.bodyError body with
            | .pending, _ => .waiting
            | .closed, _ => .gone
            | .complete, .error exception => .raised exception
            | .complete, .ok (some (status, detail)) => .rejected status detail
            | .complete, .ok none => .app (replay body calls)

theorem call_eq_answer (applies : limit.applies scope = true) :
    limit.call calls scope .app messages = limit.answer calls scope (requestBody messages) := by
  have meets := readBounded_meets limit.maxBytes (messages.map HttpMessage.piece)
  simp only [BodyLimit.call, BodyLimit.answer, requestBody, applies, Bool.not_true,
    Bool.false_eq_true, if_false]
  cases limit.declaredError scope with
  | some error => rfl
  | none =>
      cases read : readBounded limit.maxBytes (messages.map HttpMessage.piece) with
      | going chunks total =>
          rw [read] at meets
          simp only [meets.1, if_neg (Nat.not_lt.mpr meets.2.2.2)]
      | whole body =>
          rw [read] at meets
          simp only [meets.1, meets.2.1, if_neg (Nat.not_lt.mpr meets.2.2)]
          rcases limit.bodyError (gathered (messages.map HttpMessage.piece)).1 with
            exception | _ | ⟨status, detail⟩ <;> rfl
      | tooLarge =>
          rw [read] at meets
          exact (if_pos meets).symm
      | closed =>
          rw [read] at meets
          simp only [meets.1, if_neg (Nat.not_lt.mpr meets.2)]

/-- The four middlewares come to one limit at most, and what that one does with a request does not
depend on the messages in which its body arrives. -/
theorem serve_eq (settings : BodyLimitSettings) (strictJson : StrictJson) (calls : Nat)
    (scope : HttpScope) (messages : List HttpMessage) :
    serve settings strictJson calls scope messages =
      match (bodyLimits settings strictJson).find? (·.applies scope) with
      | none => .app messages
      | some limit => limit.answer calls scope (requestBody messages) := by
  cases found : (bodyLimits settings strictJson).find? (·.applies scope) with
  | none =>
      have passes : ∀ limit ∈ bodyLimits settings strictJson, limit.applies scope = false :=
        fun limit member => Bool.eq_false_iff.mpr (List.find?_eq_none.mp found limit member)
      rw [serve, foldr_call_of_none passes]
  | some limit =>
      have applies : limit.applies scope = true := by simpa using List.find?_some found
      rw [serve, foldr_call_of_applies (bodyLimits_apart settings strictJson scope)
        (List.mem_of_find?_eq_some found) applies, call_eq_answer applies]

end RvcOrchestrator.Manager
