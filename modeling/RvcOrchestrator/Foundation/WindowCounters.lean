import Mathlib.Data.List.Count

/-! # Counters that expire

Every key has a counter, which appears with the first arrival and disappears after a window. A
limit on the counters admits only so many arrivals of a key in any interval of that length, wherever
the interval begins.
-/

namespace RvcOrchestrator.Foundation

/-- A counter disappears at its deadline. -/
structure WindowCounter where
  count : Nat
  deadline : Nat
deriving DecidableEq

namespace WindowCounter

def live (now : Nat) : Option WindowCounter → Option WindowCounter
  | none => none
  | some counter => if now < counter.deadline then some counter else none

def increment (window now : Nat) (counter : Option WindowCounter) : WindowCounter :=
  match live now counter with
  | none => ⟨1, now + window⟩
  | some counter => { counter with count := counter.count + 1 }

theorem increment_cases (window now : Nat) (counter : Option WindowCounter) :
    (∃ old, counter = some old ∧ now < old.deadline ∧
      increment window now counter = ⟨old.count + 1, old.deadline⟩) ∨
    ((∀ old, counter = some old → old.deadline ≤ now) ∧
      increment window now counter = ⟨1, now + window⟩) := by
  cases counter with
  | none => exact Or.inr ⟨fun _ same => (Option.some_ne_none _ same.symm).elim, rfl⟩
  | some old =>
      by_cases alive : now < old.deadline
      · refine Or.inl ⟨old, rfl, alive, ?_⟩
        rw [increment, live, if_pos alive]
      · refine Or.inr ⟨?_, ?_⟩
        · intro other same
          rw [← Option.some.inj same]
          exact Nat.le_of_not_lt alive
        · rw [increment, live, if_neg alive]

end WindowCounter

/-! ## Arrivals -/

structure Arrival (Request : Type) where
  /-- So much later than the arrival before it. -/
  delay : Nat
  request : Request

structure CountedRequest (Request : Type) where
  time : Nat
  request : Request
  counter : Option WindowCounter

structure WindowCounters (Key : Type) where
  clock : Nat
  counters : Key → Option WindowCounter

namespace WindowCounters

variable {Key Request : Type} [DecidableEq Key]

def start : WindowCounters Key := ⟨0, fun _ => none⟩

section

variable (window : Nat) (keyOf : Request → Option Key)

def counted (state : WindowCounters Key) (key : Key) (delay : Nat) : WindowCounter :=
  WindowCounter.increment window (state.clock + delay) (state.counters key)

def arrive (state : WindowCounters Key) (key : Key) (delay : Nat) : WindowCounters Key where
  clock := state.clock + delay
  counters := Function.update state.counters key (some (counted window state key delay))

def serve (state : WindowCounters Key) (arrival : Arrival Request) :
    CountedRequest Request × WindowCounters Key :=
  let now := state.clock + arrival.delay
  match keyOf arrival.request with
  | none => (⟨now, arrival.request, none⟩, { state with clock := now })
  | some key =>
      (⟨now, arrival.request, some (counted window state key arrival.delay)⟩,
        arrive window state key arrival.delay)

def serveAll : WindowCounters Key → List (Arrival Request) → List (CountedRequest Request)
  | _, [] => []
  | state, arrival :: arrivals =>
      (serve window keyOf state arrival).1 ::
        serveAll (serve window keyOf state arrival).2 arrivals

end

def Admitted (keyOf : Request → Option Key) (limit first last : Nat) (key : Key)
    (counted : CountedRequest Request) : Prop :=
  keyOf counted.request = some key ∧ first ≤ counted.time ∧ counted.time ≤ last ∧
    ∀ counter ∈ counted.counter, counter.count ≤ limit

instance (keyOf : Request → Option Key) (limit first last : Nat) (key : Key)
    (counted : CountedRequest Request) : Decidable (Admitted keyOf limit first last key counted) :=
  inferInstanceAs (Decidable (_ ∧ _ ∧ _ ∧ _))

/-! ## Intervals -/

/-- What the counter of a key says about the arrivals admitted since the interval has begun. Those
of two counters are admitted at most, as the second one outlives the interval. -/
structure Spent (window limit first : Nat) (counter : Option WindowCounter) (admitted : Nat) :
    Prop where
  unused : counter = none → admitted = 0
  expired : ∀ current, counter = some current → current.deadline ≤ first → admitted = 0
  one : ∀ current, counter = some current → current.deadline ≤ first + window →
    admitted ≤ min current.count limit
  two : ∀ current, counter = some current → admitted ≤ limit + min current.count limit

variable {window limit first last now admitted : Nat} {counter : Option WindowCounter}

theorem Spent.le (spent : Spent window limit first counter admitted) : admitted ≤ 2 * limit := by
  cases counter with
  | none =>
      rw [spent.unused rfl]
      exact Nat.zero_le _
  | some current =>
      have two := spent.two current rfl
      omega

theorem Spent.increment (spent : Spent window limit first counter admitted)
    (positive : 0 < window) (inside : now ≤ first + window) :
    Spent window limit first (some (WindowCounter.increment window now counter))
      (admitted + if first ≤ now ∧ (WindowCounter.increment window now counter).count ≤ limit
        then 1 else 0) := by
  rcases WindowCounter.increment_cases window now counter with
    ⟨old, rfl, alive, incremented⟩ | ⟨gone, incremented⟩
  · have expired := spent.expired old rfl
    have one := spent.one old rfl
    have two := spent.two old rfl
    rw [incremented]
    refine ⟨fun nothing => (Option.some_ne_none _ nothing).elim, ?_, ?_, ?_⟩
    all_goals
      rintro current same
      cases same
      simp only
      split <;> omega
  · have before : admitted ≤ limit ∧ (now ≤ first → admitted = 0) := by
      cases counter with
      | none =>
          rw [spent.unused rfl]
          exact ⟨Nat.zero_le _, fun _ => rfl⟩
      | some old =>
          have deadline := gone old rfl
          have expired := spent.expired old rfl
          have one := spent.one old rfl
          omega
    rw [incremented]
    refine ⟨fun nothing => (Option.some_ne_none _ nothing).elim, ?_, ?_, ?_⟩
    all_goals
      rintro current same
      cases same
      simp only
      split <;> omega

section

variable {keyOf : Request → Option Key} {key : Key} {state : WindowCounters Key}
  {arrival : Arrival Request}

@[simp] theorem counters_arrive_self (delay : Nat) :
    (arrive window state key delay).counters key = some (counted window state key delay) :=
  Function.update_self ..

theorem counters_arrive_of_ne {other : Key} (different : other ≠ key) (delay : Nat) :
    (arrive window state key delay).counters other = state.counters other :=
  Function.update_of_ne different ..

theorem serve_of_key (keyed : keyOf arrival.request = some key) :
    serve window keyOf state arrival =
      (⟨state.clock + arrival.delay, arrival.request,
          some (counted window state key arrival.delay)⟩,
        arrive window state key arrival.delay) := by
  rw [serve, keyed]

/-- Another arrival leaves the counter alone. -/
theorem serve_of_other (other : keyOf arrival.request ≠ some key) :
    (serve window keyOf state arrival).1.request = arrival.request ∧
      (serve window keyOf state arrival).2.clock = state.clock + arrival.delay ∧
      (serve window keyOf state arrival).2.counters key = state.counters key := by
  rw [serve]
  cases keyed : keyOf arrival.request with
  | none => exact ⟨rfl, rfl, rfl⟩
  | some found =>
      refine ⟨rfl, rfl, counters_arrive_of_ne ?_ _⟩
      rintro rfl
      exact other keyed

theorem countP_serveAll_le (positive : 0 < window) (short : last ≤ first + window)
    (arrivals : List (Arrival Request)) (bound : admitted ≤ 2 * limit)
    (spent : state.clock ≤ last → Spent window limit first (state.counters key) admitted) :
    admitted + (serveAll window keyOf state arrivals).countP
      (Admitted keyOf limit first last key ·) ≤ 2 * limit := by
  induction arrivals generalizing state admitted with
  | nil => exact bound
  | cons arrival arrivals induction =>
      rw [serveAll, List.countP_cons]
      by_cases keyed : keyOf arrival.request = some key
      · rw [serve_of_key keyed]
        by_cases inside : state.clock + arrival.delay ≤ last
        · have next := (spent (by omega)).increment positive (Nat.le_trans inside short)
          have same : Admitted keyOf limit first last key
              ⟨state.clock + arrival.delay, arrival.request,
                some (counted window state key arrival.delay)⟩ ↔
              first ≤ state.clock + arrival.delay ∧
                (counted window state key arrival.delay).count ≤ limit := by
            simp [Admitted, keyed, inside]
          have rest := @induction _ (arrive window state key arrival.delay) next.le (by
            intro _
            rw [counters_arrive_self]
            exact next)
          simp only [decide_eq_true_eq, same]
          unfold counted at rest ⊢
          omega
        · have late : ¬Admitted keyOf limit first last key
              ⟨state.clock + arrival.delay, arrival.request,
                some (counted window state key arrival.delay)⟩ :=
            fun admitted => inside admitted.2.2.1
          rw [if_neg (by simpa using late)]
          exact @induction _ _ bound fun early => absurd early inside
      · have unchanged := @serve_of_other _ _ _ window keyOf key state arrival keyed
        have skipped : ¬Admitted keyOf limit first last key
            (serve window keyOf state arrival).1 := by
          intro admitted
          apply keyed
          rw [← unchanged.1]
          exact admitted.1
        rw [if_neg (by simpa using skipped)]
        apply @induction _ _ bound
        intro early
        rw [unchanged.2.1] at early
        rw [unchanged.2.2]
        exact spent (by omega)

end

/-- In an interval that is not longer than the window, a key is admitted at most twice the limit. -/
theorem admitted_le (positive : 0 < window) (short : last ≤ first + window)
    (keyOf : Request → Option Key) (key : Key) (arrivals : List (Arrival Request)) :
    (serveAll window keyOf start arrivals).countP (Admitted keyOf limit first last key ·) ≤
      2 * limit := by
  have counted := @countP_serveAll_le Key Request _ window limit first last 0 keyOf key start
    positive short arrivals (Nat.zero_le _)
    fun _ => ⟨fun _ => rfl, fun _ same => (Option.some_ne_none _ same.symm).elim,
      fun _ same => (Option.some_ne_none _ same.symm).elim,
      fun _ same => (Option.some_ne_none _ same.symm).elim⟩
  rwa [Nat.zero_add] at counted

/-- Every arrival is served, in the order of arrival. -/
theorem map_request_serveAll (keyOf : Request → Option Key) (state : WindowCounters Key)
    (arrivals : List (Arrival Request)) :
    (serveAll window keyOf state arrivals).map CountedRequest.request =
      arrivals.map Arrival.request := by
  induction arrivals generalizing state with
  | nil => rfl
  | cons arrival arrivals induction =>
      have same : (serve window keyOf state arrival).1.request = arrival.request := by
        rw [serve]
        cases keyOf arrival.request <;> rfl
      rw [serveAll, List.map_cons, List.map_cons, induction, same]

/-! ## Bursts -/

def burst (request : Request) : Nat → Nat → List (Arrival Request)
  | 0, _ => []
  | count + 1, delay => ⟨delay, request⟩ :: burst request count 0

def after (window : Nat) (keyOf : Request → Option Key) (state : WindowCounters Key)
    (arrivals : List (Arrival Request)) : WindowCounters Key :=
  arrivals.foldl (fun state arrival => (serve window keyOf state arrival).2) state

def Timely (window : Nat) (state : WindowCounters Key) : Prop :=
  ∀ key counter, state.counters key = some counter → counter.deadline ≤ state.clock + window

section

variable {keyOf : Request → Option Key} {key : Key} {state : WindowCounters Key}
  {request : Request}

theorem serveAll_append (first second : List (Arrival Request)) :
    serveAll window keyOf state (first ++ second) =
      serveAll window keyOf state first ++
        serveAll window keyOf (after window keyOf state first) second := by
  induction first generalizing state with
  | nil => rfl
  | cons arrival first induction =>
      rw [List.cons_append, serveAll, serveAll, induction]
      rfl

theorem timely_serve (arrival : Arrival Request) (timely : Timely window state) :
    Timely window (serve window keyOf state arrival).2 := by
  have later : Timely window { state with clock := state.clock + arrival.delay } :=
    fun key counter found => Nat.le_trans (timely key counter found) (by simp only; omega)
  rw [serve]
  cases keyOf arrival.request with
  | none => exact later
  | some key =>
      intro other counter found
      by_cases same : other = key
      · subst same
        rw [counters_arrive_self, Option.some.injEq] at found
        subst found
        rcases WindowCounter.increment_cases window (state.clock + arrival.delay)
            (state.counters other) with ⟨old, known, -, incremented⟩ | ⟨-, incremented⟩
        · rw [counted, incremented]
          exact later other old known
        · rw [counted, incremented]
          exact Nat.le_refl _
      · rw [counters_arrive_of_ne same] at found
        exact later other counter found

/-- A burst within the limit is admitted if its counter has room for it, or disappears before. -/
theorem serveAll_burst (keyed : keyOf request = some key) (count delay : Nat)
    (fits : count ≤ limit)
    (room : ∀ counter, state.counters key = some counter →
      state.clock + delay < counter.deadline → counter.count + count ≤ limit) :
    ∀ service ∈ serveAll window keyOf state (burst request count delay),
      service.time = state.clock + delay ∧ service.request = request ∧
        ∀ counter ∈ service.counter, counter.count ≤ limit := by
  induction count generalizing delay state with
  | zero =>
      intro service member
      cases member
  | succ count induction =>
      have bound : (counted window state key delay).count + count ≤ limit := by
        unfold counted
        rcases WindowCounter.increment_cases window (state.clock + delay) (state.counters key) with
          ⟨old, known, alive, incremented⟩ | ⟨-, incremented⟩
        · have enough := room old known alive
          rw [incremented]
          simp only
          omega
        · rw [incremented]
          simp only
          omega
      intro service member
      rw [burst, serveAll, @serve_of_key _ _ _ window keyOf key state ⟨delay, request⟩ keyed]
        at member
      rcases List.mem_cons.mp member with rfl | member
      · refine ⟨rfl, rfl, ?_⟩
        intro counter current
        rw [← Option.mem_some_iff.mp current]
        exact Nat.le_trans (Nat.le_add_right _ _) bound
      · refine @induction (arrive window state key delay) 0 (by omega) ?_ service member
        intro counter found _
        rw [counters_arrive_self, Option.some.injEq] at found
        rw [← found]
        exact bound

/-- What a burst leaves behind. -/
theorem after_burst (keyed : keyOf request = some key) (count : Nat)
    (timely : Timely window state) :
    (after window keyOf state (burst request count 0)).clock = state.clock ∧
      (∀ other, other ≠ key →
        (after window keyOf state (burst request count 0)).counters other =
          state.counters other) ∧
      Timely window (after window keyOf state (burst request count 0)) := by
  induction count generalizing state with
  | zero => exact ⟨rfl, fun _ _ => rfl, timely⟩
  | succ count induction =>
      have served : (serve window keyOf state ⟨0, request⟩).2 = arrive window state key 0 := by
        rw [@serve_of_key _ _ _ window keyOf key state ⟨0, request⟩ keyed]
      have first : after window keyOf state (burst request (count + 1) 0) =
          after window keyOf (arrive window state key 0) (burst request count 0) := by
        rw [← served]
        rfl
      have begun := @timely_serve _ _ _ window keyOf state ⟨0, request⟩ timely
      rw [served] at begun
      have rest := induction begun
      rw [first]
      refine ⟨rest.1, ?_, rest.2.2⟩
      intro other different
      rw [rest.2.1 other different]
      exact counters_arrive_of_ne different 0

end

section

variable {keyOf : Request → Option Key} {first second : Key} {one another : Request}

/-- Two bursts that are a window apart, and a request with another key between them. -/
def excess (limit window : Nat) (one another : Request) : List (Arrival Request) :=
  burst one limit 0 ++ (burst another 1 0 ++ burst one limit window)

theorem request_of_mem_burst {arrival : Arrival Request} {count delay : Nat}
    (member : arrival ∈ burst one count delay) : arrival.request = one := by
  induction count generalizing delay with
  | zero => cases member
  | succ count induction =>
      rcases List.mem_cons.mp member with rfl | member
      · rfl
      · exact induction member

theorem request_of_mem_excess {arrival : Arrival Request}
    (member : arrival ∈ excess limit window one another) :
    arrival.request = one ∨ arrival.request = another := by
  rcases List.mem_append.mp member with member | member
  · exact Or.inl (request_of_mem_burst member)
  · rcases List.mem_append.mp member with member | member
    · exact Or.inr (request_of_mem_burst member)
    · exact Or.inl (request_of_mem_burst member)

theorem excess_length : (excess limit window one another).length = 2 * limit + 1 := by
  have length : ∀ (request : Request) count delay,
      (burst request count delay).length = count := by
    intro request count
    induction count with
    | zero => exact fun _ => rfl
    | succ count induction =>
        intro delay
        rw [burst, List.length_cons, induction]
  rw [excess, List.length_append, List.length_append, length, length, length]
  omega

/-- All of them are admitted within one window. -/
theorem serveAll_excess (positive : 0 < limit) (keyedOne : keyOf one = some first)
    (keyedAnother : keyOf another = some second) (different : first ≠ second) :
    ∀ service ∈ serveAll window keyOf start (excess limit window one another),
      service.time ≤ window ∧ (service.request = one ∨ service.request = another) ∧
        ∀ counter ∈ service.counter, counter.count ≤ limit := by
  have begun : Timely window (start : WindowCounters Key) := by
    intro key counter found
    cases found
  have left := @after_burst _ _ _ window keyOf first start one keyedOne limit begun
  have between := after_burst keyedAnother 1 left.2.2
  rw [excess, serveAll_append, serveAll_append]
  intro service member
  rcases List.mem_append.mp member with member | member
  · have served := serveAll_burst keyedOne limit 0 (Nat.le_refl limit)
      (by intro counter found; cases found) service member
    refine ⟨?_, Or.inl served.2.1, served.2.2⟩
    rw [served.1]
    exact Nat.zero_le window
  · rcases List.mem_append.mp member with member | member
    · have served := serveAll_burst keyedAnother 1 0 positive
        (by
          intro counter found
          rw [left.2.1 second different.symm] at found
          cases found) service member
      refine ⟨?_, Or.inr served.2.1, served.2.2⟩
      rw [served.1, left.1]
      exact Nat.zero_le window
    · have elapsed : (after window keyOf (after window keyOf start (burst one limit 0))
          (burst another 1 0)).clock + window = window := by
        rw [between.1, left.1]
        exact Nat.zero_add window
      have served := serveAll_burst keyedOne limit window (Nat.le_refl limit)
        (by
          intro counter found alive
          have deadline := between.2.2 first counter found
          rw [between.1, left.1] at deadline alive
          omega) service member
      refine ⟨?_, Or.inl served.2.1, served.2.2⟩
      rw [served.1]
      exact Nat.le_of_eq elapsed

end

end WindowCounters

end RvcOrchestrator.Foundation
