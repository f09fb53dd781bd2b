import FleetGate.Proofs.Cache.Books
import FleetGate.Proofs.Cache.Provenance

/-! # The work on constructions

A construction is carried on in steps, between which others move and the world changes. The log of
a run remembers only where constructions start and end. The labors of a run are all their steps:
which flight each is for, what is carried on, and when and in which world that happens.

A labor takes its flight, and no other, where the workshop says; and what a flight has made, or why
it failed, was the outcome of one of its labors.
-/

namespace FleetGate

/-- A step of a construction. -/
structure Labor (W J : Type) where
  flight : Nat
  job : J
  now : Nat
  world : W

/-- The stage of a flight whose construction got so far. -/
def Progress.phase {J V : Type} : Progress J V → FlightPhase J V
  | .working job => .making job none
  | .waiting job wake? => .making job wake?
  | .finished (.ok value) => .made value
  | .finished (.error e) => .settled (.error e)

/-- Whether a flight has not started to make anything. -/
def FlightPhase.isFresh {J V : Type} : FlightPhase J V → Bool
  | .unstarted _ | .missed _ => true
  | _ => false

/-- Whoever was carried on has started. -/
theorem Progress.isFresh_phase {J V : Type} (progress : Progress J V) :
    progress.phase.isFresh = false := by
  rcases progress with job | ⟨job, wake?⟩ | ⟨error⟩ | ⟨value⟩
  · rfl
  · rfl
  · rfl
  · rfl

namespace CacheMachine

variable {W J V : Type} {w : Workshop W J V} {m : CacheMachine W J V} {event : CacheEvent W J}
  {l : Labor W J} {f : Nat} {key : CacheKey} {p : FlightPhase J V}

/-- The labor of a step. -/
def labor? (m : CacheMachine W J V) : CacheEvent W J → Option (Labor W J)
  | .drive i =>
    match m.callerPhase? i with
    | some (.polling f) =>
      match m.flights[f]? with
      | some ⟨_, .making job _⟩ => some ⟨f, job, m.now, m.world⟩
      | _ => none
    | _ => none
  | _ => none

/-- The labors of a run. -/
def labors (w : Workshop W J V) (m : CacheMachine W J V) :
    List (CacheEvent W J) → List (Labor W J)
  | [] => []
  | event :: rest => (m.labor? event).toList ++ (m.step w event).labors w rest

theorem labors_append (w : Workshop W J V) (m : CacheMachine W J V)
    (before after : List (CacheEvent W J)) :
    m.labors w (before ++ after) = m.labors w before ++ (m.run w before).labors w after := by
  induction before generalizing m with
  | nil => rfl
  | cons event rest ih =>
      rw [List.cons_append, labors, labors, ih, List.append_assoc]
      rfl

theorem labors_concat (w : Workshop W J V) (m : CacheMachine W J V)
    (before : List (CacheEvent W J)) (event : CacheEvent W J) :
    m.labors w (before ++ [event]) = m.labors w before ++ ((m.run w before).labor? event).toList := by
  rw [labors_append, labors, labors, List.append_nil]

/-- A labor of a run is that of one of its steps. -/
theorem mem_labors_iff {events : List (CacheEvent W J)} :
    l ∈ m.labors w events ↔ ∃ before event after, events = before ++ event :: after ∧
      (m.run w before).labor? event = some l := by
  constructor
  · intro h
    induction events using List.reverseRecOn with
    | nil => cases h
    | append_singleton before event ih =>
        rw [labors_concat, List.mem_append, Option.mem_toList] at h
        rcases h with h | h
        · obtain ⟨past, event', after, rfl, hlabor⟩ := ih h
          exact ⟨past, event', after ++ [event], by simp, hlabor⟩
        · exact ⟨before, event, [], rfl, h⟩
  · rintro ⟨before, event, after, rfl, hlabor⟩
    rw [labors_append, labors, hlabor]
    exact List.mem_append_right _ List.mem_cons_self

/-- A labor is done on a flight that is making something, for a caller that polls it. -/
theorem drive_of_labor (h : m.labor? event = some l) :
    ∃ i key wake?, event = .drive i ∧ m.callerPhase? i = some (.polling l.flight) ∧
      m.FlightAt l.flight key (.making l.job wake?) ∧ l.now = m.now ∧ l.world = m.world := by
  cases event with
  | drive i =>
      simp only [labor?] at h
      split at h
      · rename_i f phase
        split at h
        · rename_i key job wake? flight
          cases h
          exact ⟨i, key, wake?, rfl, phase, flight, rfl, rfl⟩
        · cases h
      · cases h
  | _ => cases h

/-- A labor takes its flight where the workshop says. -/
theorem flightAt_of_labor (h : m.labor? event = some l) :
    ∃ key, (m.step w event).FlightAt l.flight key (w.advance l.now l.job l.world).1.phase := by
  obtain ⟨i, key, wake?, rfl, phase, flight, hnow, hworld⟩ := drive_of_labor h
  refine ⟨key, ?_⟩
  have hself (m' : CacheMachine W J V) (hsame : m'.flights = m.flights) (q : FlightPhase J V) :
      (m'.setFlight l.flight q).FlightAt l.flight key q :=
    setFlight_self (by rw [FlightAt, hsame]; exact flight) q
  simp only [FlightAt] at flight
  rw [hnow, hworld]
  simp only [step, drive, phase, flight]
  rcases w.advance m.now l.job m.world with ⟨job | ⟨job, wake?⟩ | ⟨error⟩ | ⟨value⟩, world⟩
  · exact hself _ rfl _
  · exact hself _ rfl _
  · exact hself _ rfl _
  · exact hself _ rfl _

/-- A labor moves no flight but its own. -/
theorem flightAt_of_labor_ne (h : m.labor? event = some l) (hne : f ≠ l.flight)
    (hf : (m.step w event).FlightAt f key p) : m.FlightAt f key p := by
  obtain ⟨i, own, wake?, rfl, phase, flight, -, -⟩ := drive_of_labor h
  rcases (step_move w m (.drive i)).flight_before hf with ⟨q, hq, -⟩ | ⟨-, -, -, j, job, -, -, hlaunch⟩
  · have hkept : (m.step w (.drive i)).FlightAt f key q := by
      refine step_flightAt w hq ?_
      rintro j ⟨⟩ hphase
      rw [phase] at hphase
      exact hne (CallerPhase.polling.inj (Option.some.inj hphase)).symm
    cases hf.symm.trans hkept
    exact hq
  · simp only [FlightAt] at flight
    simp only [milestone?, phase, flight] at hlaunch
    split at hlaunch
    · cases hlaunch
    · cases hlaunch

/-- Where nothing is carried on, who is making something was doing so or has just started. -/
theorem making_of_no_labor (h : m.labor? event = none) {job : J} {wake? : Option Nat}
    (hf : (m.step w event).FlightAt f key (.making job wake?)) :
    m.FlightAt f key (.making job wake?) ∨ m.FlightAt f key (.missed job) := by
  -- driving a flight that is making something would be a labor
  have hkept {job : J} {wake? : Option Nat} (hq : m.FlightAt f key (.making job wake?)) :
      (m.step w event).FlightAt f key (.making job wake?) := by
    refine step_flightAt w hq ?_
    rintro i rfl phase
    simp only [FlightAt] at hq
    simp [labor?, phase, hq] at h
  have hmove := step_move w m event
  generalize m.milestone? w event = milestone? at hmove
  rcases hmove.flight_before hf with
    ⟨q, hq, rfl | ⟨hnext, -⟩⟩ | ⟨-, -, -, j, job', hphase, -⟩
  · exact Or.inl hq
  · cases hnext with
    | started => exact Or.inr hq
    | worked _ | stalled _ =>
        cases hf.symm.trans (hkept hq)
        exact Or.inl hq
  · cases hphase

/-- Who has not started to make anything had not before, or was not there. -/
theorem fresh_before (hf : (m.step w event).FlightAt f key p) (hp : p.isFresh = true) :
    (∃ q, m.FlightAt f key q ∧ q.isFresh = true) ∨ f = m.flights.length := by
  have hmove := step_move w m event
  generalize m.milestone? w event = milestone? at hmove
  rcases hmove.flight_before hf with ⟨q, hq, rfl | ⟨hnext, -⟩⟩ | ⟨hnew, -⟩
  · exact Or.inl ⟨_, hq, hp⟩
  · cases hnext with
    | missed _ => exact Or.inl ⟨_, hq, rfl⟩
    | _ => cases hp
  · exact Or.inr hnew

/-! ## How constructions end -/

/-- A construction ends exactly by a labor that ends it. -/
theorem ended_iff_labor {outcome : FleetResult V} :
    (∃ key, m.milestone? w event = some (.ended f key outcome)) ↔
      ∃ l, m.labor? event = some l ∧ l.flight = f ∧
        (w.advance l.now l.job l.world).1 = .finished outcome := by
  constructor
  · rintro ⟨key, h⟩
    cases event with
    | drive i =>
        simp only [milestone?] at h
        split at h
        · rename_i g phase
          split at h
          · cases h
          · rename_i own job wake? flight
            split at h
            · rename_i ended hadvance
              cases h
              exact ⟨⟨f, job, m.now, m.world⟩, by simp only [labor?, phase, flight], rfl, hadvance⟩
            · cases h
          · cases h
        · cases h
    | join i =>
        simp only [milestone?] at h
        repeat' split at h
        all_goals cases h
    | _ => cases h
  · rintro ⟨l, hlabor, rfl, hadvance⟩
    obtain ⟨i, key, wake?, rfl, phase, flight, hnow, hworld⟩ := drive_of_labor hlabor
    rw [hnow, hworld] at hadvance
    simp only [FlightAt] at flight
    exact ⟨key, by simp only [milestone?, phase, flight, hadvance]⟩

/-- What is told of the ends of constructions in a run is what its labors ended with. -/
theorem ended_mem_log_iff {outcome : FleetResult V} {events : List (CacheEvent W J)} :
    (∃ key, .ended f key outcome ∈ m.log w events) ↔
      ∃ l ∈ m.labors w events, l.flight = f ∧
        (w.advance l.now l.job l.world).1 = .finished outcome := by
  constructor
  · rintro ⟨key, h⟩
    obtain ⟨before, event, after, hevents, hended⟩ := (mem_log_iff w m).mp h
    obtain ⟨l, hl, hflight, hadvance⟩ := ended_iff_labor.mp ⟨key, hended⟩
    exact ⟨l, mem_labors_iff.mpr ⟨before, event, after, hevents, hl⟩, hflight, hadvance⟩
  · rintro ⟨l, hl, hflight, hadvance⟩
    obtain ⟨before, event, after, hevents, hlabor⟩ := mem_labors_iff.mp hl
    obtain ⟨key, hended⟩ := ended_iff_labor.mpr ⟨l, hlabor, hflight, hadvance⟩
    exact ⟨key, (mem_log_iff w m).mpr ⟨before, event, after, hevents, hended⟩⟩

/-- Two labors that end the construction of one flight end it alike. -/
theorem labors_end_alike {config : CacheConfig} {world : W} {events : List (CacheEvent W J)}
    {l l' : Labor W J} {outcome outcome' : FleetResult V}
    (hl : l ∈ (start config world : CacheMachine W J V).labors w events)
    (hl' : l' ∈ (start config world : CacheMachine W J V).labors w events)
    (hsame : l'.flight = l.flight) (hend : (w.advance l.now l.job l.world).1 = .finished outcome)
    (hend' : (w.advance l'.now l'.job l'.world).1 = .finished outcome') : outcome' = outcome := by
  obtain ⟨key, hended⟩ := ended_mem_log_iff.mpr ⟨l, hl, rfl, hend⟩
  obtain ⟨key', hended'⟩ := ended_mem_log_iff.mpr ⟨l', hl', hsame, hend'⟩
  exact ((concluded_run w config world events).once _ _ _ _ _ hended hended').symm

end CacheMachine

end FleetGate
