import FleetGate.Cache.Machine
import FleetGate.Proofs.Cache.Store
import Mathlib.Data.List.Induction

/-! # The moves of a cache

Says once what an atomic step can do: `step_move` sorts every step into one of the moves of `Move`,
each with the conditions under which it happens. An invariant of the cache is then checked move by
move, and `run_log_induction` carries it through a whole run.

The state of a cache forgets which construction a value came from and how often one was started. The
log of a run keeps that: a milestone for every caller that comes in, every flight that is launched,
and the start and the end of every construction.
-/

namespace FleetGate

/-- What is worth remembering of a step. -/
inductive Milestone (J V : Type) where
  /-- A caller came in with a key, and a job for the case that nothing is there. -/
  | asked (caller : Nat) (key : CacheKey) (job : J)
  /-- A flight was registered that will carry out the job of a caller. -/
  | launched (caller flight : Nat) (key : CacheKey) (job : J)
  /-- The construction of a flight was started. -/
  | started (flight : Nat) (key : CacheKey) (job : J)
  /-- The construction of a flight came to its end. -/
  | ended (flight : Nat) (key : CacheKey) (outcome : FleetResult V)

namespace Milestone

variable {J V : Type}

/-- Whether a construction was started. -/
def isStart : Milestone J V → Bool
  | started _ _ _ => true
  | _ => false

end Milestone

namespace CacheMachine

variable {W J V : Type}

/-- The number, key and phase of a caller. -/
abbrev CallerAt (m : CacheMachine W J V) (i : Nat) (key : CacheKey) (phase : CallerPhase J V) :
    Prop :=
  m.callers[i]? = some ⟨key, phase⟩

/-- The number, key and phase of a flight. -/
abbrev FlightAt (m : CacheMachine W J V) (f : Nat) (key : CacheKey) (phase : FlightPhase J V) :
    Prop :=
  m.flights[f]? = some ⟨key, phase⟩

/-- What is worth remembering of a step from a state. -/
def milestone? (w : Workshop W J V) (m : CacheMachine W J V) :
    CacheEvent W J → Option (Milestone J V)
  | .arrive key job => some (.asked m.callers.length key job)
  | .join i =>
    match m.callers[i]? with
    | some ⟨key, .joining job⟩ =>
      if Keyed.has key m.registered then none
      else some (.launched i m.flights.length key job)
    | _ => none
  | .drive i =>
    match m.callerPhase? i with
    | some (.polling f) =>
      match m.flights[f]? with
      | some ⟨key, .missed job⟩ => some (.started f key job)
      | some ⟨key, .making job _⟩ =>
        match (w.advance m.now job m.world).1 with
        | .finished outcome => some (.ended f key outcome)
        | _ => none
      | _ => none
    | _ => none
  | _ => none

/-- Only one who comes in asks. -/
theorem arrive_of_asked {w : Workshop W J V} {m : CacheMachine W J V} {event : CacheEvent W J}
    {i : Nat} {key : CacheKey} {job : J} (h : m.milestone? w event = some (.asked i key job)) :
    event = .arrive key job := by
  cases event with
  | arrive _ _ =>
      cases h
      rfl
  | join _ | drive _ =>
      simp only [milestone?] at h
      repeat' split at h
      all_goals cases h
  | _ => cases h

/-- What is worth remembering of a run. -/
def log (w : Workshop W J V) (m : CacheMachine W J V) :
    List (CacheEvent W J) → List (Milestone J V)
  | [] => []
  | event :: rest => (m.milestone? w event).toList ++ (m.step w event).log w rest

/-- What an atomic step can do, with what is remembered of it. -/
inductive Move (w : Workshop W J V) (m : CacheMachine W J V) :
    Option (Milestone J V) → CacheMachine W J V → Prop
  | idle : Move w m none m
  -- Callers
  | turnAway {key job} (closed : m.closed = true) :
      Move w m (some (.asked m.callers.length key job))
        { m with callers := m.callers ++ [⟨key, .returned (.error .closed)⟩] }
  | enter {key job} (opened : m.closed = false) :
      Move w m (some (.asked m.callers.length key job))
        { m with callers := m.callers ++ [⟨key, .looking job⟩] }
  | hit {i key job e} (caller : m.CallerAt i key (.looking job))
      (live : m.store.live? key m.now = some e) :
      Move w m none
        ({ m with store := m.store.touched key m.now }.setCaller i (.returned (.ok e.value)))
  | seek {i key job} (caller : m.CallerAt i key (.looking job))
      (gone : m.store.live? key m.now = none) :
      Move w m none (m.setCaller i (.joining job))
  | board {i key job f} (caller : m.CallerAt i key (.joining job))
      (found : Keyed.get? key m.registered = some f) :
      Move w m none (m.setCaller i (.waiting f))
  | launch {i key job} (caller : m.CallerAt i key (.joining job))
      (free : Keyed.get? key m.registered = none) :
      Move w m (some (.launched i m.flights.length key job))
        ({ m with
          flights := m.flights ++ [Flight.mk key (.unstarted job)]
          registered := m.registered ++ [(key, m.flights.length)] }.setCaller i
            (.waiting m.flights.length))
  | dismiss {i key f} (caller : m.CallerAt i key (.waiting f))
      (closed : m.closed = true) :
      Move w m none (m.setCaller i (.returned (.error .closed)))
  | poll {i key f} (caller : m.CallerAt i key (.waiting f))
      (opened : m.closed = false) :
      Move w m none (m.setCaller i (.polling f))
  | rest {i key f} (caller : m.CallerAt i key (.polling f)) :
      Move w m none (m.setCaller i (.waiting f))
  | drop {i key phase} (caller : m.CallerAt i key phase)
      (pending : (∃ job, phase = .looking job) ∨ ∃ f, phase = .waiting f) :
      Move w m none (m.setCaller i .dropped)
  -- Flights, for a caller that polls them
  | reuse {i own f key job e} (caller : m.CallerAt i own (.polling f))
      (flight : m.FlightAt f key (.unstarted job))
      (live : m.store.live? key m.now = some e) :
      Move w m none
        ({ m with store := m.store.touched key m.now }.setFlight f (.settled (.ok e.value)))
  | miss {i own f key job} (caller : m.CallerAt i own (.polling f))
      (flight : m.FlightAt f key (.unstarted job))
      (gone : m.store.live? key m.now = none) :
      Move w m none (m.setFlight f (.missed job))
  | start {i own f key job} (caller : m.CallerAt i own (.polling f))
      (flight : m.FlightAt f key (.missed job)) :
      Move w m (some (.started f key job))
        ({ m with store := m.store.countMiss }.setFlight f (.making job none))
  | work {i own f key job wake? job' world} (caller : m.CallerAt i own (.polling f))
      (flight : m.FlightAt f key (.making job wake?))
      (advance : w.advance m.now job m.world = (.working job', world)) :
      Move w m none ({ m with world }.setFlight f (.making job' none))
  | stall {i own f key job wake? job' next? world}
      (caller : m.CallerAt i own (.polling f))
      (flight : m.FlightAt f key (.making job wake?))
      (advance : w.advance m.now job m.world = (.waiting job' next?, world)) :
      Move w m none (({ m with world }.setFlight f (.making job' next?)).setCaller i (.waiting f))
  | build {i own f key job wake? value world} (caller : m.CallerAt i own (.polling f))
      (flight : m.FlightAt f key (.making job wake?))
      (advance : w.advance m.now job m.world = (.finished (.ok value), world)) :
      Move w m (some (.ended f key (.ok value))) ({ m with world }.setFlight f (.made value))
  | fail {i own f key job wake? error world} (caller : m.CallerAt i own (.polling f))
      (flight : m.FlightAt f key (.making job wake?))
      (advance : w.advance m.now job m.world = (.finished (.error error), world)) :
      Move w m (some (.ended f key (.error error)))
        ({ m with world }.setFlight f (.settled (.error error)))
  | discard {i own f key value} (caller : m.CallerAt i own (.polling f))
      (flight : m.FlightAt f key (.made value)) (closed : m.closed = true) :
      Move w m none (m.setFlight f (.settled (.error .closed)))
  | store {i own f key value} (caller : m.CallerAt i own (.polling f))
      (flight : m.FlightAt f key (.made value)) (opened : m.closed = false) :
      Move w m none
        ({ m with store := m.store.insert key value m.now }.setFlight f (.settled (.ok value)))
  | leave {i own f key outcome} (caller : m.CallerAt i own (.polling f))
      (flight : m.FlightAt f key (.settled outcome)) :
      Move w m none
        ({ m with registered := Keyed.erase key m.registered }.setFlight f (.finished outcome))
  | deliver {i own f key outcome} (caller : m.CallerAt i own (.polling f))
      (flight : m.FlightAt f key (.finished outcome)) :
      Move w m none (m.setCaller i (.returned outcome))
  -- The store and the sweeper
  | purge (test : CacheKey × CacheEntry V → Bool) (sweeper : Sweeper) :
      Move w m none { m with store := (m.store.keep test).2, sweeper }
  | retire (sweeper : Sweeper) : Move w m none { m with sweeper }
  -- Closers
  | close :
      Move w m none
        { m with closers := m.closers ++ [if m.closed then .done else .signalling] }
  | signal {i} (closer : m.closers[i]? = some .signalling) :
      Move w m none { m with closed := true, closers := m.closers.set i .taking }
  | claim {i} (closer : m.closers[i]? = some .taking) (sweeper : Sweeper) :
      Move w m none { m with sweeper, closers := m.closers.set i .awaiting }
  | proceed {i phase} (closer : m.closers[i]? = some phase)
      (before : phase = .taking ∨ phase = .awaiting) :
      Move w m none { m with closers := m.closers.set i .clearing }
  | clear {i} (closer : m.closers[i]? = some .clearing) :
      Move w m none { m with store := m.store.clear, closers := m.closers.set i .forgetting }
  | forget {i} (closer : m.closers[i]? = some .forgetting) :
      Move w m none { m with registered := [], closers := m.closers.set i .done }
  -- Everything around
  | pass (milliseconds : Nat) : Move w m none { m with now := m.now + milliseconds }
  | outside (world : W) : Move w m none { m with world }

/-! ## Sorting steps -/

theorem callerAt_of_phase {m : CacheMachine W J V} {i : Nat} {phase : CallerPhase J V}
    (h : m.callerPhase? i = some phase) : ∃ key, m.CallerAt i key phase := by
  obtain ⟨c, hc, rfl⟩ := Option.map_eq_some_iff.mp h
  exact ⟨c.key, hc⟩

theorem look_move (w : Workshop W J V) (m : CacheMachine W J V) (i : Nat) :
    Move w m none (m.look i) := by
  rw [look]
  split
  · rename_i key job caller
    cases live : m.store.live? key m.now with
    | some e =>
        rw [CacheStore.lookup_of_live live]
        exact .hit caller live
    | none =>
        rw [CacheStore.lookup_of_not_live live]
        exact .seek caller live
  · exact .idle

theorem join_move (w : Workshop W J V) (m : CacheMachine W J V) (i : Nat) :
    Move w m (m.milestone? w (.join i)) (m.join i) := by
  cases caller : m.callers[i]? with
  | none =>
      simp only [join, milestone?, caller]
      exact .idle
  | some c =>
      obtain ⟨key, phase⟩ := c
      cases phase with
      | joining job =>
          cases found : Keyed.get? key m.registered with
          | some f =>
              simp only [join, milestone?, caller, found, Keyed.has, Option.isSome_some, if_true]
              exact .board caller found
          | none =>
              simp only [join, milestone?, caller, found, Keyed.has, Option.isSome_none]
              exact .launch caller found
      | looking _ | waiting _ | polling _ | returned _ | dropped =>
          simp only [join, milestone?, caller]
          exact .idle

theorem poll_move (w : Workshop W J V) (m : CacheMachine W J V) (i : Nat) :
    Move w m none (m.poll i) := by
  rw [poll]
  split
  · rename_i f phase
    obtain ⟨key, caller⟩ := callerAt_of_phase phase
    cases closed : m.closed with
    | true => exact .dismiss caller closed
    | false => exact .poll caller closed
  · exact .idle

/-- One step of a flight, by the stage it has reached. -/
theorem drive_flight_move (w : Workshop W J V) {m : CacheMachine W J V} {i f : Nat}
    {key : CacheKey} {stage : FlightPhase J V} (phase : m.callerPhase? i = some (.polling f))
    (flight : m.FlightAt f key stage) :
    Move w m (m.milestone? w (.drive i)) (m.drive w i) := by
  obtain ⟨own, caller⟩ := callerAt_of_phase phase
  simp only [FlightAt] at flight
  simp only [drive, milestone?, phase, flight]
  cases stage with
  | unstarted job =>
      cases live : m.store.live? key m.now with
      | some e =>
          simp only [CacheStore.lookup_of_live live]
          exact .reuse caller flight live
      | none =>
          simp only [CacheStore.lookup_of_not_live live]
          exact .miss caller flight live
  | missed job => exact .start caller flight
  | making job wake? =>
      rcases advance : w.advance m.now job m.world with ⟨progress, world⟩
      simp only [advance]
      rcases progress with job' | ⟨job', next?⟩ | ⟨error⟩ | ⟨value⟩
      · exact .work caller flight advance
      · exact .stall caller flight advance
      · exact .fail caller flight advance
      · exact .build caller flight advance
  | made value =>
      by_cases closed : m.closed = true
      · simp only [if_pos closed]
        exact .discard caller flight closed
      · simp only [if_neg closed]
        exact .store caller flight (by simpa using closed)
  | settled outcome => exact .leave caller flight
  | finished outcome => exact .deliver caller flight

theorem drive_move (w : Workshop W J V) (m : CacheMachine W J V) (i : Nat) :
    Move w m (m.milestone? w (.drive i)) (m.drive w i) := by
  cases phase : m.callerPhase? i with
  | none =>
      simp only [drive, milestone?, phase]
      exact .idle
  | some p =>
      cases p with
      | polling f =>
          cases flight : m.flights[f]? with
          | none =>
              simp only [drive, milestone?, phase, flight]
              exact .idle
          | some x =>
              obtain ⟨key, stage⟩ := x
              exact drive_flight_move w phase flight
      | looking _ | joining _ | waiting _ | returned _ | dropped =>
          simp only [drive, milestone?, phase]
          exact .idle

theorem rest_move (w : Workshop W J V) (m : CacheMachine W J V) (i : Nat) :
    Move w m none (m.rest i) := by
  rw [CacheMachine.rest]
  split
  · rename_i f phase
    obtain ⟨key, caller⟩ := callerAt_of_phase phase
    split
    · exact .rest caller
    · exact .rest caller
    · exact .idle
  · exact .idle

theorem drop_move (w : Workshop W J V) (m : CacheMachine W J V) (i : Nat) :
    Move w m none (m.drop i) := by
  rw [CacheMachine.drop]
  split
  · rename_i job phase
    obtain ⟨key, caller⟩ := callerAt_of_phase phase
    exact .drop caller (Or.inl ⟨job, rfl⟩)
  · rename_i f phase
    obtain ⟨key, caller⟩ := callerAt_of_phase phase
    exact .drop caller (Or.inr ⟨f, rfl⟩)
  · exact .idle

theorem closing_move (w : Workshop W J V) (m : CacheMachine W J V) (i : Nat) :
    Move w m none (m.closing i) := by
  simp only [closing]
  split
  · exact .signal ‹_›
  · split
    · exact .claim ‹_› _
    · exact .proceed ‹_› (Or.inl rfl)
  · split
    · exact .idle
    · exact .proceed ‹_› (Or.inr rfl)
  · exact .clear ‹_›
  · exact .forget ‹_›
  · exact .idle
  · exact .idle

/-- Every atomic step is one of the moves. -/
theorem step_move (w : Workshop W J V) (m : CacheMachine W J V) (event : CacheEvent W J) :
    Move w m (m.milestone? w event) (m.step w event) := by
  cases event with
  | arrive key job =>
      simp only [step, arrive, milestone?]
      by_cases closed : m.closed = true
      · rw [if_pos closed]
        exact .turnAway closed
      · rw [if_neg closed]
        exact .enter (by simpa using closed)
  | look i => exact look_move w m i
  | join i => exact join_move w m i
  | poll i => exact poll_move w m i
  | drive i => exact drive_move w m i
  | rest i => exact rest_move w m i
  | drop i => exact drop_move w m i
  | invalidate key => exact .purge _ m.sweeper
  | invalidateCluster cluster => exact .purge _ m.sweeper
  | cleanup => exact .purge _ m.sweeper
  | close => exact .close
  | closing i => exact closing_move w m i
  | sweep =>
      simp only [step, sweep]
      split
      · exact .purge _ _
      · exact .idle
  | stopSweeper =>
      simp only [step, stopSweeper]
      split
      · exact .retire _
      · exact .idle
  | pass milliseconds => exact .pass milliseconds
  | outside change => exact .outside _

/-! ## Runs -/

theorem run_append (w : Workshop W J V) (m : CacheMachine W J V)
    (before after : List (CacheEvent W J)) :
    m.run w (before ++ after) = (m.run w before).run w after :=
  List.foldl_append

theorem run_concat (w : Workshop W J V) (m : CacheMachine W J V) (before : List (CacheEvent W J))
    (event : CacheEvent W J) : m.run w (before ++ [event]) = (m.run w before).step w event :=
  run_append w m before [event]

theorem log_append (w : Workshop W J V) (m : CacheMachine W J V)
    (before after : List (CacheEvent W J)) :
    m.log w (before ++ after) = m.log w before ++ (m.run w before).log w after := by
  induction before generalizing m with
  | nil => rfl
  | cons event rest ih =>
      rw [List.cons_append, log, log, ih, List.append_assoc]
      rfl

/-- What is remembered of a run is remembered of one of its steps. -/
theorem mem_log_iff (w : Workshop W J V) (m : CacheMachine W J V) {μ : Milestone J V}
    {events : List (CacheEvent W J)} :
    μ ∈ m.log w events ↔ ∃ before event after, events = before ++ event :: after ∧
      (m.run w before).milestone? w event = some μ := by
  induction events generalizing m with
  | nil => simp [log]
  | cons event rest ih =>
      rw [log, List.mem_append, Option.mem_toList, ih]
      constructor
      · rintro (h | ⟨before, event', after, rfl, h⟩)
        · exact ⟨[], event, rest, rfl, h⟩
        · exact ⟨event :: before, event', after, rfl, h⟩
      · rintro ⟨before, event', after, heq, h⟩
        rcases List.append_eq_cons_iff.mp heq.symm with ⟨rfl, heq⟩ | ⟨before', rfl, rfl⟩
        · cases heq
          exact Or.inl h
        · exact Or.inr ⟨before', event', after, rfl, h⟩

/-- What a log holds after a step is what it held before, or what is remembered of the step. -/
theorem mem_log_concat_iff {μ : Milestone J V} {log : List (Milestone J V)}
    {milestone? : Option (Milestone J V)} :
    μ ∈ log ++ milestone?.toList ↔ μ ∈ log ∨ milestone? = some μ := by
  rw [List.mem_append, Option.mem_toList]

/-- What every move keeps, together with what is remembered, holds after every run. -/
theorem run_log_induction {w : Workshop W J V} {m : CacheMachine W J V}
    {P : CacheMachine W J V → List (Milestone J V) → Prop} (base : P m [])
    (move : ∀ {m₁ m₂ log milestone?}, P m₁ log → Move w m₁ milestone? m₂ →
      P m₂ (log ++ milestone?.toList))
    (events : List (CacheEvent W J)) : P (m.run w events) (m.log w events) := by
  induction events using List.reverseRecOn with
  | nil => exact base
  | append_singleton before event ih =>
      rw [run_append, log_append]
      have hlog : (m.run w before).log w [event]
          = ((m.run w before).milestone? w event).toList := by
        rw [log, log, List.append_nil]
      rw [hlog]
      exact move ih (step_move w _ event)

/-- What every move keeps holds after every run. -/
theorem run_induction {w : Workshop W J V} {m : CacheMachine W J V}
    {P : CacheMachine W J V → Prop} (base : P m)
    (move : ∀ {m₁ m₂ milestone?}, P m₁ → Move w m₁ milestone? m₂ → P m₂)
    (events : List (CacheEvent W J)) : P (m.run w events) :=
  run_log_induction (P := fun m _ => P m) base move events

/-- What holds of both ways of a fork holds of the way that is taken. -/
theorem rel_ite {α : Type} {R : α → α → Prop} {c : Prop} [Decidable c] {x x' y y' : α}
    (yes : c → R x x') (no : ¬ c → R y y') : R (if c then x else y) (if c then x' else y') := by
  by_cases h : c
  · rw [if_pos h, if_pos h]
    exact yes h
  · rw [if_neg h, if_neg h]
    exact no h

/-! ## Adding or moving one caller or one flight -/

/-- What stands in a list with one more element stood there before or is that element. -/
theorem getElem?_concat_eq_some_iff {α : Type} {l : List α} {x y : α} {i : Nat} :
    (l ++ [x])[i]? = some y ↔ l[i]? = some y ∨ (i = l.length ∧ x = y) := by
  rcases Nat.lt_trichotomy i l.length with hi | rfl | hi
  · rw [List.getElem?_append_left hi]
    simp [Nat.ne_of_lt hi]
  · rw [List.getElem?_concat_length, List.getElem?_eq_none (Nat.le_refl _)]
    simp
  · rw [List.getElem?_append_right (Nat.le_of_lt hi), List.getElem?_eq_none (Nat.le_of_lt hi),
      List.getElem?_eq_none (by simp; omega)]
    simp [Nat.ne_of_gt hi]

@[simp] theorem flightAt_setCaller {m : CacheMachine W J V} {i f : Nat} {p : CallerPhase J V}
    {key : CacheKey} {q : FlightPhase J V} :
    (m.setCaller i p).FlightAt f key q ↔ m.FlightAt f key q := Iff.rfl

@[simp] theorem callerAt_setFlight {m : CacheMachine W J V} {f i : Nat} {p : FlightPhase J V}
    {key : CacheKey} {q : CallerPhase J V} :
    (m.setFlight f p).CallerAt i key q ↔ m.CallerAt i key q := Iff.rfl

/-- Moving a caller changes its phase and nobody else. -/
theorem callerAt_setCaller {m : CacheMachine W J V} {i j : Nat} {own key : CacheKey}
    {p₀ p q : CallerPhase J V} (caller : m.CallerAt i own p₀) :
    (m.setCaller i p).CallerAt j key q ↔
      (j = i ∧ key = own ∧ q = p) ∨ (j ≠ i ∧ m.CallerAt j key q) := by
  simp only [CallerAt, setCaller, List.getElem?_modify]
  by_cases hj : i = j
  · subst hj
    rw [caller]
    simp [eq_comm]
  · simp [hj, Ne.symm hj]

/-- Moving a flight changes its phase and no other flight. -/
theorem flightAt_setFlight {m : CacheMachine W J V} {f g : Nat} {own key : CacheKey}
    {p₀ p q : FlightPhase J V} (flight : m.FlightAt f own p₀) :
    (m.setFlight f p).FlightAt g key q ↔
      (g = f ∧ key = own ∧ q = p) ∨ (g ≠ f ∧ m.FlightAt g key q) := by
  simp only [FlightAt, setFlight, List.getElem?_modify]
  by_cases hg : f = g
  · subst hg
    rw [flight]
    simp [eq_comm]
  · simp [hg, Ne.symm hg]

theorem callerPhase?_of_callerAt {m : CacheMachine W J V} {i : Nat} {key : CacheKey}
    {phase : CallerPhase J V} (h : m.CallerAt i key phase) : m.callerPhase? i = some phase := by
  simp [callerPhase?, h]

theorem setCaller_self {m : CacheMachine W J V} {i : Nat} {key : CacheKey}
    {phase : CallerPhase J V} (h : m.CallerAt i key phase) (p : CallerPhase J V) :
    (m.setCaller i p).CallerAt i key p :=
  (callerAt_setCaller h).mpr (Or.inl ⟨rfl, rfl, rfl⟩)

theorem setFlight_self {m : CacheMachine W J V} {f : Nat} {key : CacheKey}
    {stage : FlightPhase J V} (h : m.FlightAt f key stage) (p : FlightPhase J V) :
    (m.setFlight f p).FlightAt f key p :=
  (flightAt_setFlight h).mpr (Or.inl ⟨rfl, rfl, rfl⟩)

/-! ## The way of a caller to its flight -/

section
variable {m : CacheMachine W J V} {i f : Nat} {key : CacheKey} {job : J}

/-- A caller that finds nothing is going to join a flight. -/
theorem step_look (w : Workshop W J V) (h : m.CallerAt i key (.looking job))
    (gone : m.store.live? key m.now = none) : m.step w (.look i) = m.setCaller i (.joining job) := by
  simp only [step, look, h, CacheStore.lookup_of_not_live gone]

/-- A caller that finds a live entry uses it and has its answer. -/
theorem step_look_of_live (w : Workshop W J V) {e : CacheEntry V}
    (h : m.CallerAt i key (.looking job)) (live : m.store.live? key m.now = some e) :
    m.step w (.look i)
      = { m with store := m.store.touched key m.now }.setCaller i (.returned (.ok e.value)) := by
  simp only [step, look, h, CacheStore.lookup_of_live live]

/-- A caller that finds no flight registers one and waits for it. -/
theorem step_join (w : Workshop W J V) (h : m.CallerAt i key (.joining job))
    (free : Keyed.get? key m.registered = none) :
    m.step w (.join i) = { m with
      flights := m.flights ++ [Flight.mk key (.unstarted job)]
      registered := m.registered ++ [(key, m.flights.length)] }.setCaller i
        (.waiting m.flights.length) := by
  simp only [step, join, h, free]

/-- A caller that waits for a flight in an open cache comes to poll it. -/
theorem step_poll (w : Workshop W J V) (h : m.CallerAt i key (.waiting f))
    (opened : m.closed = false) : m.step w (.poll i) = m.setCaller i (.polling f) := by
  simp only [step, poll, callerPhase?_of_callerAt h, opened, Bool.false_eq_true, if_false]

end

end CacheMachine

end FleetGate
