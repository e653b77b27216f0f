import Mathlib.Data.List.Infix
import RvcOrchestrator.Foundation.Sha256
import RvcOrchestrator.Foundation.WindowCounters

/-! # Rate limits

A request is counted under its rule and the identity of its client before it reaches its handler.
The counters are kept by Redis, which removes each of them a window after its first request.
-/

namespace RvcOrchestrator.Manager

open RvcOrchestrator.Foundation

/-! ## Rules -/

abbrev RequestLimit := { requests : Nat // 1 ≤ requests }

structure RateLimitSettings where
  apiPrefix : String
  rateLimitEnabled : Bool
  defaultRequests : RequestLimit
  loginRequests : RequestLimit
  registerRequests : RequestLimit
  workerTokenRotationRequests : RequestLimit
  uploadRequests : RequestLimit
  finalizeRequests : RequestLimit
  sampleRequests : RequestLimit
  sampleDownloadRequests : RequestLimit
  jwtSecret : List UInt8

structure RateLimitRule where
  name : String
  requests : RequestLimit
  windowSeconds : Nat := 60

structure LimitedRequest where
  method : String
  path : String
  authorization : Option String
  clientHost : Option String
deriving DecidableEq

def startsWith (text head : String) : Bool := head.toList.isPrefixOf text.toList

def endsWith (text tail : String) : Bool := tail.toList.isSuffixOf text.toList

def contains (text part : String) : Bool := decide (part.toList <:+: text.toList)

/-- `_SAFE_RESOURCE_ID` -/
def isSafeResourceId (text : List Char) : Bool :=
  match text with
  | [] => false
  | first :: rest =>
      first.isAlphanum && rest.length ≤ 127 &&
        rest.all fun char => char.isAlphanum || char ∈ ['_', '.', '-']

def isSampleDownload (settings : RateLimitSettings) (path : String) : Bool :=
  let head := settings.apiPrefix ++ "/samples/"
  let suffix := path.toList.drop head.length
  startsWith path head && '/' ∈ suffix &&
    (suffix.dropWhile (· ≠ '/')).tail = "download".toList &&
    isSafeResourceId (suffix.takeWhile (· ≠ '/'))

def ruleForRequest (settings : RateLimitSettings) (request : LimitedRequest) :
    Option RateLimitRule :=
  let path := request.path
  let method := request.method.toUpper
  if !settings.rateLimitEnabled then none
  else if !startsWith path (settings.apiPrefix ++ "/") then none
  else if method = "POST" && path = settings.apiPrefix ++ "/auth/login" then
    some { name := "login", requests := settings.loginRequests }
  else if method = "POST" && (path = settings.apiPrefix ++ "/workers/register" ||
      path = settings.apiPrefix ++ "/workers/re-enroll") then
    some { name := "worker-register", requests := settings.registerRequests }
  else if method = "POST" &&
      startsWith path (settings.apiPrefix ++ "/workers/token-rotation/") then
    some { name := "worker-token-rotation", requests := settings.workerTokenRotationRequests }
  else if method = "POST" && startsWith path (settings.apiPrefix ++ "/workers/") &&
      endsWith path "/token/revoke" then
    some { name := "worker-token-rotation", requests := settings.workerTokenRotationRequests }
  else if method = "GET" && isSampleDownload settings path then
    some { name := "sample-download", requests := settings.sampleDownloadRequests }
  else if method = "POST" && (path = settings.apiPrefix ++ "/datasets/uploads/init" ||
      endsWith path "/artifact-uploads/init" || endsWith path "/item-uploads/init") then
    some { name := "upload-init", requests := settings.uploadRequests }
  else if method = "POST" && (contains path "/datasets/uploads/" && endsWith path "/finalize" ||
      contains path "/artifact-uploads/" && endsWith path "/finalize" ||
      contains path "/test-sets/" && endsWith path "/finalize") then
    some { name := "upload-finalize", requests := settings.finalizeRequests }
  else if method = "POST" && startsWith path (settings.apiPrefix ++ "/workers/jobs/") &&
      endsWith path "/samples" then
    some { name := "sample-register", requests := settings.sampleRequests }
  else some { name := "api", requests := settings.defaultRequests }

def requestRateLimitIdentity (request : LimitedRequest) : String :=
  match request.authorization with
  | some authorization =>
      if authorization = "" then "client:" ++ request.clientHost.getD "unknown"
      else "authorization:" ++ authorization
  | none => "client:" ++ request.clientHost.getD "unknown"

/-! ## The limiter -/

def limiterKey (secret : List UInt8) (identity : String) (rule : RateLimitRule) : String :=
  let text := "rate-limit\x1f" ++ rule.name ++ "\x1f" ++ identity
  "rvc:rate-limit:" ++ rule.name ++ ":" ++ Sha256.hmacHexDigest secret text.toUTF8.toList

/-- `_INCREMENT_SCRIPT`. The clock counts milliseconds, and the remaining time is rounded to
seconds. -/
def incrementScript (key : String) (window : Nat) (redis : WindowCounters String) :
    (Nat × Nat) × WindowCounters String :=
  let counter := WindowCounter.increment (1000 * window) redis.clock (redis.counters key)
  ((counter.count, (counter.deadline - redis.clock + 500) / 1000),
    { redis with counters := Function.update redis.counters key (some counter) })

structure RateLimitDecision where
  allowed : Bool
  limit : Nat
  remaining : Nat
  retryAfterSeconds : Nat
deriving DecidableEq

def rateLimitDecision (rule : RateLimitRule) (count ttl : Nat) : RateLimitDecision where
  allowed := count ≤ rule.requests.val
  limit := rule.requests
  remaining := rule.requests - count
  retryAfterSeconds := max 1 (if 0 < ttl then ttl else rule.windowSeconds)

inductive Passage where
  /-- The request reaches its handler. -/
  | handled (decision : Option RateLimitDecision)
  | refused (decision : RateLimitDecision)
deriving DecidableEq

def Passage.reachesHandler : Passage → Bool
  | .handled _ => true
  | .refused _ => false

structure ServedRequest where
  time : Nat
  request : LimitedRequest
  passage : Passage

/-- `request_context`, while Redis is available. -/
def requestContext (settings : RateLimitSettings) (redis : WindowCounters String)
    (arrival : Arrival LimitedRequest) : ServedRequest × WindowCounters String :=
  let redis := { redis with clock := redis.clock + arrival.delay }
  match ruleForRequest settings arrival.request with
  | none => (⟨redis.clock, arrival.request, .handled none⟩, redis)
  | some rule =>
      let key := limiterKey settings.jwtSecret (requestRateLimitIdentity arrival.request) rule
      let reply := incrementScript key rule.windowSeconds redis
      let decision := rateLimitDecision rule reply.1.1 reply.1.2
      (⟨redis.clock, arrival.request,
          if decision.allowed then .handled (some decision) else .refused decision⟩, reply.2)

/-- The requests of all clients, in the order in which the script is executed for them. -/
def serveRequests (settings : RateLimitSettings) :
    WindowCounters String → List (Arrival LimitedRequest) → List ServedRequest
  | _, [] => []
  | redis, arrival :: arrivals =>
      (requestContext settings redis arrival).1 ::
        serveRequests settings (requestContext settings redis arrival).2 arrivals

/-! ## Guarded routes -/

/-- The routes that a client without credentials may call. -/
inductive GuardedRoute where
  | login
  | registration
deriving DecidableEq

namespace GuardedRoute

variable (settings : RateLimitSettings)

def paths : GuardedRoute → List String
  | login => [settings.apiPrefix ++ "/auth/login"]
  | registration =>
      [settings.apiPrefix ++ "/workers/register", settings.apiPrefix ++ "/workers/re-enroll"]

def rule : GuardedRoute → RateLimitRule
  | login => { name := "login", requests := settings.loginRequests }
  | registration => { name := "worker-register", requests := settings.registerRequests }

def Targets (route : GuardedRoute) (request : LimitedRequest) : Prop :=
  request.method = "POST" ∧ request.path ∈ route.paths settings

instance (route : GuardedRoute) (request : LimitedRequest) :
    Decidable (route.Targets settings request) :=
  inferInstanceAs (Decidable (_ ∧ _))

def key (route : GuardedRoute) (host authorization : Option String) : String :=
  limiterKey settings.jwtSecret
    (requestRateLimitIdentity ⟨"POST", "", authorization, host⟩) (route.rule settings)

/-- The requests of the host to the route that pass the limiter in an interval. -/
def Passes (route : GuardedRoute) (host : Option String) (first last : Nat)
    (served : ServedRequest) : Prop :=
  first ≤ served.time ∧ served.time ≤ last ∧ served.request.clientHost = host ∧
    route.Targets settings served.request ∧ served.passage.reachesHandler = true

instance (route : GuardedRoute) (host : Option String) (first last : Nat)
    (served : ServedRequest) : Decidable (route.Passes settings host first last served) :=
  inferInstanceAs (Decidable (_ ∧ _ ∧ _ ∧ _ ∧ _))

/-- No interval within a window has more than twice the configured requests. -/
def Throttled (route : GuardedRoute) (host : Option String) (log : List ServedRequest) : Prop :=
  ∀ first last, last ≤ first + 1000 * (route.rule settings).windowSeconds →
    log.countP (route.Passes settings host first last ·) ≤ 2 * (route.rule settings).requests

/-- Whatever the host sends to the route has one of these headers. -/
def Sends (route : GuardedRoute) (host : Option String) (headers : Set (Option String))
    (arrivals : List (Arrival LimitedRequest)) : Prop :=
  ∀ arrival ∈ arrivals, arrival.request.clientHost = host →
    route.Targets settings arrival.request → arrival.request.authorization ∈ headers

/-! ### The counters of the limiter -/

def window : Nat := 60 * 1000

def requestKey (request : LimitedRequest) : Option String :=
  (ruleForRequest settings request).map
    (limiterKey settings.jwtSecret (requestRateLimitIdentity request))

def served (counted : CountedRequest LimitedRequest) : ServedRequest where
  time := counted.time
  request := counted.request
  passage :=
    match ruleForRequest settings counted.request, counted.counter with
    | some rule, some counter =>
        let decision := rateLimitDecision rule counter.count
          ((counter.deadline - counted.time + 500) / 1000)
        if decision.allowed then .handled (some decision) else .refused decision
    | _, _ => .handled none

variable {settings}

theorem windowSeconds_of_rule {request : LimitedRequest} {rule : RateLimitRule}
    (found : ruleForRequest settings request = some rule) : rule.windowSeconds = 60 := by
  simp only [ruleForRequest] at found
  repeat' split at found
  all_goals cases found
  all_goals rfl

theorem requestContext_eq (redis : WindowCounters String) (arrival : Arrival LimitedRequest) :
    requestContext settings redis arrival =
      (served settings (WindowCounters.serve window (requestKey settings) redis arrival).1,
        (WindowCounters.serve window (requestKey settings) redis arrival).2) := by
  unfold requestContext WindowCounters.serve requestKey
  cases found : ruleForRequest settings arrival.request with
  | none => simp [served, found]
  | some rule =>
      have seconds := windowSeconds_of_rule found
      simp [served, found, incrementScript, seconds, WindowCounters.counted, WindowCounters.arrive,
        window]

/-- The limiter counts arrivals. -/
theorem serveRequests_eq (redis : WindowCounters String)
    (arrivals : List (Arrival LimitedRequest)) :
    serveRequests settings redis arrivals =
      (WindowCounters.serveAll window (requestKey settings) redis arrivals).map
        (served settings) := by
  induction arrivals generalizing redis with
  | nil => rfl
  | cons arrival arrivals induction =>
      rw [serveRequests, WindowCounters.serveAll, List.map_cons, requestContext_eq, induction]

theorem startsWith_append (head rest part : String) :
    startsWith (head ++ rest) (head ++ part) = startsWith rest part := by
  rw [startsWith, startsWith, String.toList_append, String.toList_append, Bool.eq_iff_iff,
    List.isPrefixOf_iff_prefix, List.isPrefixOf_iff_prefix, List.prefix_append_right_inj]

theorem rule_of_targets (enabled : settings.rateLimitEnabled = true) {route : GuardedRoute}
    {request : LimitedRequest} (targets : route.Targets settings request) :
    ruleForRequest settings request = some (route.rule settings) := by
  rcases request with ⟨method, path, authorization, host⟩
  rcases targets with ⟨post, named⟩
  have upper : method.toUpper = "POST" := by
    rw [show method = "POST" from post]
    decide +kernel
  have slash : ∀ rest ∈ ["/auth/login", "/workers/register", "/workers/re-enroll"],
      startsWith rest "/" = true := by decide +kernel
  cases route with
  | login =>
      have path : path = settings.apiPrefix ++ "/auth/login" := List.mem_singleton.mp named
      subst path
      simp [ruleForRequest, enabled, upper, startsWith_append, slash, rule]
  | registration =>
      have path : path = settings.apiPrefix ++ "/workers/register" ∨
          path = settings.apiPrefix ++ "/workers/re-enroll" := List.mem_pair.mp named
      rcases path with rfl | rfl
      · simp [ruleForRequest, enabled, upper, startsWith_append, slash, rule]
      · simp [ruleForRequest, enabled, upper, startsWith_append, slash, rule]

theorem requestKey_of_targets (enabled : settings.rateLimitEnabled = true) {route : GuardedRoute}
    {request : LimitedRequest} (targets : route.Targets settings request) :
    requestKey settings request =
      some (route.key settings request.clientHost request.authorization) := by
  rw [requestKey, rule_of_targets enabled targets]
  rfl

/-- A request to a guarded route passes exactly if its counter is within the limit. -/
theorem reachesHandler_served_iff (enabled : settings.rateLimitEnabled = true)
    {route : GuardedRoute} {counted : CountedRequest LimitedRequest}
    (targets : route.Targets settings counted.request) :
    (served settings counted).passage.reachesHandler = true ↔
      ∀ counter ∈ counted.counter, counter.count ≤ (route.rule settings).requests.val := by
  rw [served, rule_of_targets enabled targets]
  cases counted.counter with
  | none => simp [Passage.reachesHandler]
  | some counter =>
      simp only [Option.mem_some_iff, forall_eq', rateLimitDecision]
      by_cases allowed : counter.count ≤ (route.rule settings).requests.val
      · simp [allowed, Passage.reachesHandler]
      · simp [allowed, Passage.reachesHandler]

/-- Whatever passes has been admitted by the counter of its header. -/
theorem admitted_of_passes (enabled : settings.rateLimitEnabled = true) {route : GuardedRoute}
    {host : Option String} {first last : Nat} {counted : CountedRequest LimitedRequest}
    (passes : route.Passes settings host first last (served settings counted)) :
    WindowCounters.Admitted (requestKey settings) (route.rule settings).requests first last
      (route.key settings host counted.request.authorization) counted := by
  rcases passes with ⟨begun, ended, sameHost, targets, handled⟩
  refine ⟨?_, begun, ended, (reachesHandler_served_iff enabled targets).mp handled⟩
  have keyed : requestKey settings counted.request = _ := requestKey_of_targets enabled targets
  rw [keyed, ← sameHost]
  rfl

theorem window_eq (route : GuardedRoute) :
    1000 * (route.rule settings).windowSeconds = window := by
  cases route <;> rfl

/-! ### Throttling -/

/-- With one counter for all its headers, the host is throttled. -/
theorem throttled_of_oneKey (enabled : settings.rateLimitEnabled = true) (route : GuardedRoute)
    (host : Option String) {headers : Set (Option String)}
    (oneKey : ∀ first ∈ headers, ∀ second ∈ headers,
      route.key settings host first = route.key settings host second)
    (arrivals : List (Arrival LimitedRequest))
    (sends : route.Sends settings host headers arrivals) :
    route.Throttled settings host
      (serveRequests settings WindowCounters.start arrivals) := by
  intro first last short
  have allowed : ∀ counted ∈ WindowCounters.serveAll window (requestKey settings)
      WindowCounters.start arrivals,
      route.Passes settings host first last (served settings counted) →
        counted.request.authorization ∈ headers := by
    intro counted member passes
    have arrived : counted.request ∈ arrivals.map Arrival.request := by
      rw [← WindowCounters.map_request_serveAll (requestKey settings) WindowCounters.start
        arrivals]
      exact List.mem_map_of_mem member
    rcases List.mem_map.mp arrived with ⟨arrival, sent, same⟩
    rw [← same]
    apply sends arrival sent
    · rw [same]
      exact passes.2.2.1
    · rw [same]
      exact passes.2.2.2.1
  rw [window_eq] at short
  rw [serveRequests_eq, List.countP_map]
  by_cases some_ : ∃ counted ∈ WindowCounters.serveAll window (requestKey settings)
      WindowCounters.start arrivals,
      route.Passes settings host first last (served settings counted)
  · rcases some_ with ⟨sample, sampled, passes⟩
    have bound := @WindowCounters.admitted_le _ _ _ window (route.rule settings).requests first last
      (by decide) short (requestKey settings)
      (route.key settings host sample.request.authorization) arrivals
    refine le_trans (List.countP_mono_left ?_) bound
    intro counted member counts
    have other := of_decide_eq_true counts
    rw [decide_eq_true_eq, oneKey _ (allowed sample sampled passes) _
      (allowed counted member other)]
    exact admitted_of_passes enabled other
  · have none : List.countP
        ((fun log => decide (route.Passes settings host first last log)) ∘ served settings)
        (WindowCounters.serveAll window (requestKey settings) WindowCounters.start arrivals) =
          0 := by
      apply List.countP_eq_zero.mpr
      intro counted member counts
      exact some_ ⟨counted, member, of_decide_eq_true counts⟩
    rw [none]
    exact Nat.zero_le _

def request (settings : RateLimitSettings) (host authorization : Option String) :
    GuardedRoute → LimitedRequest
  | .login => ⟨"POST", settings.apiPrefix ++ "/auth/login", authorization, host⟩
  | .registration => ⟨"POST", settings.apiPrefix ++ "/workers/register", authorization, host⟩

theorem targets_request (route : GuardedRoute) (host authorization : Option String) :
    route.Targets settings (route.request settings host authorization) := by
  cases route
  · exact ⟨rfl, List.mem_singleton_self _⟩
  · exact ⟨rfl, List.mem_cons_self⟩

theorem key_request (enabled : settings.rateLimitEnabled = true) (route : GuardedRoute)
    (host authorization : Option String) :
    requestKey settings (route.request settings host authorization) =
      some (route.key settings host authorization) := by
  rw [requestKey_of_targets enabled (route.targets_request host authorization)]
  cases route <;> rfl

/-- With two counters a host is not throttled. -/
theorem not_throttled_of_twoKeys (enabled : settings.rateLimitEnabled = true)
    (route : GuardedRoute) (host : Option String) {first second : Option String}
    (different : route.key settings host first ≠ route.key settings host second) :
    ¬route.Throttled settings host
      (serveRequests settings WindowCounters.start
        (WindowCounters.excess (route.rule settings).requests window
          (route.request settings host first) (route.request settings host second))) := by
  intro throttled
  have all := @WindowCounters.serveAll_excess _ _ _ window _ (requestKey settings) _ _ _ _
    (route.rule settings).requests.property
    (route.key_request enabled host first) (route.key_request enabled host second) different
  have bound := throttled 0 window (by rw [window_eq, Nat.zero_add])
  rw [serveRequests_eq, List.countP_map, List.countP_eq_length.mpr] at bound
  · have length := congrArg List.length (@WindowCounters.map_request_serveAll _ _ _ window
      (requestKey settings) WindowCounters.start
      (WindowCounters.excess (route.rule settings).requests window
        (route.request settings host first) (route.request settings host second)))
    rw [List.length_map, List.length_map, WindowCounters.excess_length] at length
    omega
  · intro counted member
    rcases all counted member with ⟨early, isOne, within⟩
    have targets : route.Targets settings counted.request := by
      rcases isOne with same | same <;> rw [same] <;> exact route.targets_request host _
    have sameHost : counted.request.clientHost = host := by
      rcases isOne with same | same <;> rw [same] <;> cases route <;> rfl
    exact decide_eq_true ⟨Nat.zero_le _, early, sameHost, targets,
      (reachesHandler_served_iff enabled targets).mpr within⟩

theorem sends_excess (route : GuardedRoute) (host : Option String)
    {headers : Set (Option String)} {first second : Option String} (limit : Nat)
    (one : first ∈ headers) (two : second ∈ headers) :
    route.Sends settings host headers
      (WindowCounters.excess limit window
        (route.request settings host first) (route.request settings host second)) := by
  intro arrival member _ _
  rcases WindowCounters.request_of_mem_excess member with same | same
  · rw [same]
    cases route <;> exact one
  · rw [same]
    cases route <;> exact two

end GuardedRoute

/-- A host is throttled on a guarded route, whatever it and everyone else sends, exactly if all the
authorization headers that it may send there belong to one counter. -/
theorem throttled_iff (settings : RateLimitSettings) (enabled : settings.rateLimitEnabled = true)
    (route : GuardedRoute) (host : Option String) (headers : Set (Option String)) :
    (∀ arrivals, route.Sends settings host headers arrivals →
      route.Throttled settings host (serveRequests settings WindowCounters.start arrivals)) ↔
      ∀ first ∈ headers, ∀ second ∈ headers,
        route.key settings host first = route.key settings host second := by
  constructor
  · intro throttled first one second two
    by_contra different
    exact GuardedRoute.not_throttled_of_twoKeys enabled route host different
      (throttled _ (route.sends_excess host _ one two))
  · intro oneKey
    exact route.throttled_of_oneKey enabled host oneKey

/-- The default settings of the limiter, with a login limit of one. -/
def strictSettings : RateLimitSettings where
  apiPrefix := "/api/v1"
  rateLimitEnabled := true
  defaultRequests := ⟨600, by decide⟩
  loginRequests := ⟨1, by decide⟩
  registerRequests := ⟨10, by decide⟩
  workerTokenRotationRequests := ⟨6, by decide⟩
  uploadRequests := ⟨120, by decide⟩
  finalizeRequests := ⟨30, by decide⟩
  sampleRequests := ⟨30, by decide⟩
  sampleDownloadRequests := ⟨60, by decide⟩
  jwtSecret := "0123456789abcdef0123456789abcdef".toUTF8.toList

theorem throttled_withoutHeader :
    strictSettings.rateLimitEnabled = true ∧
      ∀ arrivals, GuardedRoute.login.Sends strictSettings (some "10.0.0.1") {none} arrivals →
        GuardedRoute.login.Throttled strictSettings (some "10.0.0.1")
          (serveRequests strictSettings WindowCounters.start arrivals) :=
  ⟨rfl, (throttled_iff strictSettings rfl .login (some "10.0.0.1") {none}).mpr
    (by rintro first rfl second rfl; rfl)⟩

/-- Three logins at the same time, one without a header and two with headers. -/
theorem not_always_throttled :
    ¬∀ (settings : RateLimitSettings) (route : GuardedRoute) (host : Option String)
      (arrivals : List (Arrival LimitedRequest)), settings.rateLimitEnabled = true →
      route.Throttled settings host
        (serveRequests settings WindowCounters.start arrivals) := by
  intro always
  have bounded := always strictSettings .login (some "10.0.0.1")
    ([none, some "a", some "b"].map fun header =>
      ⟨0, GuardedRoute.login.request strictSettings (some "10.0.0.1") header⟩) rfl 0 0
    (Nat.zero_le _)
  revert bounded
  decide +kernel

end RvcOrchestrator.Manager
