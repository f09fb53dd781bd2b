import FleetGate.Proofs.Cache.Schedule

/-! # A caller that is alone

What a caller gets if nobody else can move. What its job comes to by itself is told without the
cache: the job is carried on in the world as it was left, at the times for which it waited
(`Workshop.Comes`). A turn of the caller takes it as far as the job goes without waiting, and to its
answer if the job ends (`Carries.turn`, `Ready.turn`).
-/

namespace FleetGate

variable {W J V : Type}

namespace Workshop

/-- A job that waits for a time goes on waiting until then. -/
def Stays (w : Workshop W J V) (job : J) (wake : Nat) (world : W) : Prop :=
  ∀ t, t < wake → w.advance t job world = (.waiting job (some wake), world)

/-- How many steps a job may take without waiting. A turn of a caller has room for them. -/
def stretch : Nat := 32

/-- What a job comes to by itself from a time on, in at most so many steps until it waits for the
first time and at most so many waits. -/
inductive Comes (w : Workshop W J V) :
    Nat → Nat → Nat → J → W → FleetResult V → W → Prop
  | ends {steps waits now job world outcome world'}
      (advance : w.advance now job world = (.finished outcome, world')) :
      w.Comes (steps + 1) waits now job world outcome world'
  | works {steps waits now job job' world world₁ outcome world'}
      (advance : w.advance now job world = (.working job', world₁))
      (rest : w.Comes steps waits now job' world₁ outcome world') :
      w.Comes (steps + 1) waits now job world outcome world'
  | waits {steps waits now wake job job' world world₁ outcome world'}
      (advance : w.advance now job world = (.waiting job' (some wake), world₁))
      (later : now < wake) (stays : w.Stays job' wake world₁)
      (rest : w.Comes stretch waits wake job' world₁ outcome world') :
      w.Comes (steps + 1) (waits + 1) now job world outcome world'

variable {w : Workshop W J V} {steps steps' waits waits' : Nat} {job : J} {world world' : W}
  {outcome : FleetResult V}

/-- Room for more steps and more waits does no harm. -/
theorem Comes.mono {now : Nat} (h : w.Comes steps waits now job world outcome world')
    (hsteps : steps ≤ steps') (hwaits : waits ≤ waits') :
    w.Comes steps' waits' now job world outcome world' := by
  induction h generalizing steps' waits' with
  | ends advance =>
      obtain ⟨steps', rfl⟩ := Nat.exists_eq_succ_of_ne_zero (Nat.ne_zero_of_lt hsteps)
      exact .ends advance
  | works advance _ ih =>
      obtain ⟨steps', rfl⟩ := Nat.exists_eq_succ_of_ne_zero (Nat.ne_zero_of_lt hsteps)
      exact .works advance (ih (Nat.le_of_succ_le_succ hsteps) hwaits)
  | waits advance later stays _ ih =>
      obtain ⟨steps', rfl⟩ := Nat.exists_eq_succ_of_ne_zero (Nat.ne_zero_of_lt hsteps)
      obtain ⟨waits', rfl⟩ := Nat.exists_eq_succ_of_ne_zero (Nat.ne_zero_of_lt hwaits)
      exact .waits advance later stays (ih (Nat.le_refl _) (Nat.le_of_succ_le_succ hwaits))

/-- A job that only waits for a time comes to what it comes to from then on, with one more wait. -/
theorem Comes.of_ready (ready : Nat) (stays : w.Stays job ready world)
    (hsteps : steps + 1 ≤ stretch)
    (hready : ∀ t, ready ≤ t → w.Comes (steps + 1) waits t job world outcome world') (now : Nat) :
    w.Comes (steps + 1) (waits + 1) now job world outcome world' := by
  rcases Nat.lt_or_ge now ready with hlt | hge
  · exact .waits (stays now hlt) hlt stays
      ((hready ready (Nat.le_refl ready)).mono hsteps (Nat.le_refl waits))
  · exact (hready now hge).mono (Nat.le_refl _) (Nat.le_succ waits)

end Workshop

namespace CacheMachine

/-- The latest caller is the only one that can move, the cache is open, and this is its time and
the world. -/
structure Alone (m : CacheMachine W J V) (i now : Nat) (world : W) : Prop where
  others : ∀ j, j ≠ i → m.nextEvent? j = none
  latest : m.callers.length = i + 1
  opened : m.closed = false
  time : m.now = now
  around : m.world = world

/-- A caller that is alone just came in, and nothing is there for it. The next flight will be its
own. -/
structure Enters (m : CacheMachine W J V) (i f : Nat) (key : CacheKey) (job : J) (now : Nat)
    (world : W) : Prop where
  alone : m.Alone i now world
  next : m.flights.length = f
  caller : m.CallerAt i key (.looking job)
  vacant : m.store.Vacant key m.now
  free : Keyed.get? key m.registered = none

/-- A caller that is alone carries a flight on. -/
structure Carries (m : CacheMachine W J V) (i f : Nat) (key : CacheKey) (stage : FlightPhase J V)
    (now : Nat) (world : W) : Prop where
  alone : m.Alone i now world
  caller : m.CallerAt i key (.polling f)
  flight : m.FlightAt f key stage

/-- A caller that is alone waits until its flight can go on. -/
structure Awaits (m : CacheMachine W J V) (i f : Nat) (key : CacheKey) (job : J) (wake now : Nat)
    (world : W) : Prop where
  alone : m.Alone i now world
  caller : m.CallerAt i key (.waiting f)
  flight : m.FlightAt f key (.making job (some wake))

/-- A caller that was alone has its answer. -/
structure Answered (m : CacheMachine W J V) (i : Nat) (key : CacheKey) (outcome : FleetResult V)
    (now : Nat) (world : W) : Prop where
  alone : m.Alone i now world
  caller : m.CallerAt i key (.returned outcome)

/-- A caller that is alone will first of all carry on a job, and has most of its turn left for
it. -/
structure Ready (w : Workshop W J V) (m : CacheMachine W J V) (i f : Nat) (key : CacheKey) (job : J)
    (now : Nat) (world : W) : Prop where
  alone : m.Alone i now world
  starts : ∀ fuel, ∃ m' wake?, ∃ k ≥ fuel, turn w i (fuel + 5) m = turn w i k m' ∧
    m'.Carries i f key (.making job wake?) now world

/-- How a caller that is alone stands when a turn is over: it has its answer, or it waits for a
time from which on its job comes to the answer in fewer waits. -/
inductive Stops (w : Workshop W J V) (m : CacheMachine W J V) (i f : Nat) (key : CacheKey) :
    Nat → Nat → FleetResult V → W → Prop
  | answered {waits now outcome world'} (done : m.Answered i key outcome now world') :
      Stops w m i f key waits now outcome world'
  | awaits {waits now wake job world outcome world'}
      (wait : m.Awaits i f key job wake now world) (later : now < wake)
      (stays : w.Stays job wake world)
      (rest : w.Comes Workshop.stretch waits wake job world outcome world') :
      Stops w m i f key (waits + 1) now outcome world'

variable {w : Workshop W J V} {m : CacheMachine W J V} {i f fuel steps waits now wake : Nat}
  {key : CacheKey} {job job' : J} {phase : CallerPhase J V} {stage : FlightPhase J V}
  {event : CacheEvent W J} {outcome : FleetResult V} {world world' : W}

/-! ## Being alone -/

theorem Alone.setCaller (h : m.Alone i now world) (p : CallerPhase J V) :
    (m.setCaller i p).Alone i now world where
  others j hj := by
    have hphase : (m.setCaller i p).callerPhase? j = m.callerPhase? j := by
      simp [callerPhase?, CacheMachine.setCaller, Ne.symm hj]
    rw [nextEvent?, hphase]
    exact h.others j hj
  latest := (List.length_modify ..).trans h.latest
  opened := h.opened
  time := h.time
  around := h.around

/-- Entries, register, flights and sweeper do not matter for whether a caller is alone. -/
theorem Alone.set (h : m.Alone i now world) (world' : W) (store : CacheStore V)
    (registered : List (CacheKey × Nat)) (flights : List (Flight J V)) (sweeper : Sweeper) :
    Alone { m with world := world', store, registered, flights, sweeper } i now world' :=
  ⟨h.others, h.latest, h.opened, h.time, rfl⟩

/-! ## Steps of a turn -/

/-- A turn goes on after a step, unless the step ends in waiting. -/
theorem turn_step (h : m.nextEvent? i = some event)
    (hgo : (m.isPolling i && (m.step w event).isWaiting i) = false) :
    turn w i (fuel + 1) m = turn w i fuel (m.step w event) := by
  rw [turn, h]
  simp only [hgo, Bool.false_eq_true, if_false]

/-- Who cannot move does not move. -/
theorem turn_idle (h : m.nextEvent? i = none) : turn w i fuel m = m := by
  cases fuel with
  | zero => rfl
  | succ fuel => rw [turn, h]

/-- A turn goes on while the caller does not carry a flight on. -/
theorem turn_step_of_callerAt (caller : m.CallerAt i key phase)
    (h : m.nextEvent? i = some event) (hphase : ∀ f, phase ≠ .polling f) :
    turn w i (fuel + 1) m = turn w i fuel (m.step w event) := by
  refine turn_step h ?_
  have hpolling : m.isPolling i = false := by
    rw [isPolling, callerPhase?_of_callerAt caller]
    cases phase with
    | polling f => exact absurd rfl (hphase f)
    | _ => rfl
  rw [hpolling, Bool.false_and]

theorem nextEvent?_of_polling (h : m.CallerAt i key (.polling f)) :
    m.nextEvent? i = some (.drive i) := by
  rw [nextEvent?, callerPhase?_of_callerAt h]

/-- A turn goes on after a step of the flight, unless that ends in waiting. -/
theorem turn_drive (h : m.CallerAt i key (.polling f))
    (hafter : (m.drive w i).CallerAt i key phase) (hphase : ∀ f, phase ≠ .waiting f) :
    turn w i (fuel + 1) m = turn w i fuel (m.drive w i) := by
  refine turn_step (nextEvent?_of_polling h) ?_
  have hwaiting : (m.drive w i).isWaiting i = false := by
    rw [isWaiting, callerPhase?_of_callerAt hafter]
    cases phase with
    | waiting f => exact absurd rfl (hphase f)
    | _ => rfl
  rw [CacheMachine.step, hwaiting, Bool.and_false]

theorem Answered.turn (h : m.Answered i key outcome now world) : turn w i fuel m = m :=
  turn_idle (by rw [nextEvent?, callerPhase?_of_callerAt h.caller])

/-- A step of a flight from stage to stage. -/
theorem Carries.turn_eq {stage' : FlightPhase J V} (h : m.Carries i f key stage now world)
    (hafter : (m.drive w i).Carries i f key stage' now world') :
    turn w i (fuel + 1) m = turn w i fuel (m.drive w i) :=
  turn_drive h.caller hafter.caller (by simp)

/-! ## Stage by stage -/

/-- A flight gets to another stage by a step that changes the world, the entries and the register
at most. -/
theorem Carries.of_drive (h : m.Carries i f key stage now world) (world' : W)
    (store : CacheStore V) (registered : List (CacheKey × Nat)) {p : FlightPhase J V}
    (hdrive : m.drive w i = { m with world := world', store, registered }.setFlight f p) :
    (m.drive w i).Carries i f key p now world' := by
  rw [hdrive]
  exact ⟨h.alone.set world' store registered _ m.sweeper, h.caller, setFlight_self h.flight p⟩

theorem Carries.drive_unstarted (h : m.Carries i f key (.unstarted job) now world)
    (gone : m.store.live? key now = none) :
    (m.drive w i).Carries i f key (.missed job) now world := by
  obtain rfl := h.alone.time
  obtain rfl := h.alone.around
  refine h.of_drive m.world m.store m.registered ?_
  simp only [drive, callerPhase?_of_callerAt h.caller, h.flight, CacheStore.lookup_of_not_live gone]

theorem Carries.drive_missed (h : m.Carries i f key (.missed job) now world) :
    (m.drive w i).Carries i f key (.making job none) now world := by
  obtain rfl := h.alone.around
  refine h.of_drive m.world m.store.countMiss m.registered ?_
  simp only [drive, callerPhase?_of_callerAt h.caller, h.flight]

section
variable {wake? : Option Nat} (h : m.Carries i f key (.making job wake?) now world)
include h

theorem Carries.drive_working (hadvance : w.advance now job world = (.working job', world')) :
    (m.drive w i).Carries i f key (.making job' none) now world' := by
  obtain rfl := h.alone.time
  obtain rfl := h.alone.around
  refine h.of_drive world' m.store m.registered ?_
  simp only [drive, callerPhase?_of_callerAt h.caller, h.flight, hadvance]

theorem Carries.drive_ok {value : V}
    (hadvance : w.advance now job world = (.finished (.ok value), world')) :
    (m.drive w i).Carries i f key (.made value) now world' := by
  obtain rfl := h.alone.time
  obtain rfl := h.alone.around
  refine h.of_drive world' m.store m.registered ?_
  simp only [drive, callerPhase?_of_callerAt h.caller, h.flight, hadvance]

theorem Carries.drive_error {e : FleetError}
    (hadvance : w.advance now job world = (.finished (.error e), world')) :
    (m.drive w i).Carries i f key (.settled (.error e)) now world' := by
  obtain rfl := h.alone.time
  obtain rfl := h.alone.around
  refine h.of_drive world' m.store m.registered ?_
  simp only [drive, callerPhase?_of_callerAt h.caller, h.flight, hadvance]

theorem Carries.drive_waiting
    (hadvance : w.advance now job world = (.waiting job' (some wake), world')) :
    (m.drive w i).Awaits i f key job' wake now world' := by
  obtain rfl := h.alone.time
  obtain rfl := h.alone.around
  have hdrive : m.drive w i = ({ m with world := world' }.setFlight f
      (.making job' (some wake))).setCaller i (.waiting f) := by
    simp only [drive, callerPhase?_of_callerAt h.caller, h.flight, hadvance]
  rw [hdrive]
  exact ⟨(h.alone.set world' m.store m.registered _ m.sweeper).setCaller _,
    setCaller_self h.caller _, setFlight_self h.flight _⟩

end

theorem Carries.drive_made {value : V} (h : m.Carries i f key (.made value) now world) :
    (m.drive w i).Carries i f key (.settled (.ok value)) now world := by
  obtain rfl := h.alone.around
  refine h.of_drive m.world (m.store.insert key value m.now) m.registered ?_
  simp only [drive, callerPhase?_of_callerAt h.caller, h.flight, h.alone.opened,
    Bool.false_eq_true, if_false]

theorem Carries.drive_settled (h : m.Carries i f key (.settled outcome) now world) :
    (m.drive w i).Carries i f key (.finished outcome) now world := by
  obtain rfl := h.alone.around
  refine h.of_drive m.world m.store (Keyed.erase key m.registered) ?_
  simp only [drive, callerPhase?_of_callerAt h.caller, h.flight]

theorem Carries.drive_finished (h : m.Carries i f key (.finished outcome) now world) :
    (m.drive w i).Answered i key outcome now world := by
  have hdrive : m.drive w i = m.setCaller i (.returned outcome) := by
    simp only [drive, callerPhase?_of_callerAt h.caller, h.flight]
  rw [hdrive]
  exact ⟨h.alone.setCaller _, setCaller_self h.caller _⟩

/-! ## A whole turn -/

/-- What is settled is handed to the caller. -/
theorem Carries.turn_settled (h : m.Carries i f key (.settled outcome) now world) :
    (turn w i (fuel + 2) m).Answered i key outcome now world := by
  have hleft := h.drive_settled (w := w)
  have hdone := hleft.drive_finished (w := w)
  rw [h.turn_eq hleft, turn_drive hleft.caller hdone.caller (by simp), hdone.turn]
  exact hdone

/-- A turn ends with the step that takes the job to waiting. -/
theorem Carries.turn_waiting {wake? : Option Nat}
    (h : m.Carries i f key (.making job wake?) now world)
    (hadvance : w.advance now job world = (.waiting job' (some wake), world')) :
    (turn w i (fuel + 1) m).Awaits i f key job' wake now world' := by
  have hstalled := h.drive_waiting hadvance
  have hends : (m.isPolling i && (m.drive w i).isWaiting i) = true := by
    simp [isPolling, isWaiting, callerPhase?_of_callerAt h.caller,
      callerPhase?_of_callerAt hstalled.caller]
  rw [turn, nextEvent?_of_polling h.caller]
  simp only [CacheMachine.step, hends, if_true]
  exact hstalled

/-- A turn with room for the steps of a job takes it to where it waits, or its caller to the
answer. -/
theorem Carries.turn {wake? : Option Nat} (h : m.Carries i f key (.making job wake?) now world)
    (hcomes : w.Comes steps waits now job world outcome world') :
    Stops w (turn w i (fuel + 3 + steps) m) i f key waits now outcome world' := by
  induction hcomes generalizing m wake? with
  | @ends steps _ _ _ _ outcome _ hadvance =>
      cases outcome with
      | error e =>
          have hfailed := h.drive_error hadvance
          rw [← Nat.add_assoc, h.turn_eq hfailed, Nat.add_right_comm]
          exact .answered hfailed.turn_settled
      | ok value =>
          have hmade := h.drive_ok hadvance
          have hstored := hmade.drive_made (w := w)
          rw [← Nat.add_assoc, h.turn_eq hmade, Nat.add_right_comm, hmade.turn_eq hstored]
          exact .answered hstored.turn_settled
  | works hadvance _ ih =>
      have hworked := h.drive_working hadvance
      rw [← Nat.add_assoc, h.turn_eq hworked]
      exact ih hworked
  | waits hadvance later stays rest =>
      exact .awaits (h.turn_waiting hadvance) later stays rest

/-! ## The start of a turn -/

theorem nextEvent?_of_waiting (h : m.CallerAt i key (.waiting f)) :
    m.nextEvent? i = some (.poll i) := by
  rw [nextEvent?, callerPhase?_of_callerAt h]

theorem turn_poll (h : m.CallerAt i key (.waiting f)) (opened : m.closed = false) :
    turn w i (fuel + 1) m = turn w i fuel (m.setCaller i (.polling f)) := by
  rw [turn_step_of_callerAt h (nextEvent?_of_waiting h) (by simp), step_poll w h opened]

theorem Awaits.ready (h : m.Awaits i f key job wake now world) :
    Ready w m i f key job now world where
  alone := h.alone
  starts fuel := by
    refine ⟨m.setCaller i (.polling f), some wake, fuel + 4, by omega, ?_,
      h.alone.setCaller _, setCaller_self h.caller _, h.flight⟩
    exact turn_poll h.caller h.alone.opened

theorem turn_look (h : m.CallerAt i key (.looking job)) (gone : m.store.live? key m.now = none) :
    turn w i (fuel + 1) m = turn w i fuel (m.setCaller i (.joining job)) := by
  have hnext : m.nextEvent? i = some (.look i) := by
    rw [nextEvent?, callerPhase?_of_callerAt h]
  rw [turn_step_of_callerAt h hnext (by simp), step_look w h gone]

theorem turn_join (h : m.CallerAt i key (.joining job))
    (free : Keyed.get? key m.registered = none) :
    turn w i (fuel + 1) m = turn w i fuel ({ m with
      flights := m.flights ++ [Flight.mk key (.unstarted job)]
      registered := m.registered ++ [(key, m.flights.length)] }.setCaller i
        (.waiting m.flights.length)) := by
  have hnext : m.nextEvent? i = some (.join i) := by
    rw [nextEvent?, callerPhase?_of_callerAt h]
  rw [turn_step_of_callerAt h hnext (by simp), step_join w h free]

/-- A caller for whom nothing is there registers a flight, and is the one who starts it. -/
theorem Enters.ready (h : m.Enters i f key job now world) : Ready w m i f key job now world where
  alone := h.alone
  starts fuel := by
    obtain rfl := h.next
    have gone : m.store.live? key now = none := h.alone.time ▸ h.vacant.live?_eq_none
    obtain rfl := h.alone.around
    let m₁ := m.setCaller i (.joining job)
    have caller₁ : m₁.CallerAt i key (.joining job) := setCaller_self h.caller _
    let m₂ := { m₁ with
      flights := m.flights ++ [Flight.mk key (.unstarted job)]
      registered := m.registered ++ [(key, m.flights.length)] }.setCaller i
        (.waiting m.flights.length)
    have caller₂ : m₂.CallerAt i key (.waiting m.flights.length) := setCaller_self caller₁ _
    -- the flight is new, and its caller the first to poll it
    let m₃ := m₂.setCaller i (.polling m.flights.length)
    have polls : m₃.Carries i m.flights.length key (.unstarted job) now m.world :=
      ⟨(((h.alone.setCaller _).set m.world _ _ _ _).setCaller _).setCaller _,
        setCaller_self caller₂ _, List.getElem?_concat_length⟩
    have misses := polls.drive_unstarted (w := w) gone
    have makes := misses.drive_missed (w := w)
    refine ⟨(m₃.drive w i).drive w i, none, fuel, Nat.le_refl fuel, ?_, makes⟩
    calc turn w i (fuel + 5) m
        = turn w i (fuel + 4) m₁ := turn_look h.caller h.vacant.live?_eq_none
      _ = turn w i (fuel + 3) m₂ := turn_join caller₁ h.free
      _ = turn w i (fuel + 2) m₃ := turn_poll caller₂ h.alone.opened
      _ = turn w i (fuel + 1) (m₃.drive w i) := polls.turn_eq misses
      _ = turn w i fuel ((m₃.drive w i).drive w i) := misses.turn_eq makes

/-- A turn has room for all that a job does without waiting. -/
theorem Ready.turn (h : Ready w m i f key job now world)
    (hcomes : w.Comes Workshop.stretch waits now job world outcome world') :
    Stops w (turn w i turnLimit m) i f key waits now outcome world' := by
  obtain ⟨m', wake?, k, hk, hturn, hcarries⟩ := h.starts 59
  obtain ⟨k, rfl⟩ := Nat.exists_eq_add_of_le' (Nat.le_trans (by decide : 3 + 32 ≤ 59) hk)
  rw [turnLimit, hturn, ← Nat.add_assoc]
  exact hcarries.turn hcomes

/-- As long as its flight has to wait, a turn of a caller changes nothing that matters. -/
theorem Awaits.turn (h : m.Awaits i f key job wake now world) (later : now < wake)
    (stays : w.Stays job wake world) :
    (turn w i turnLimit m).Awaits i f key job wake now world := by
  have hpolls : (m.setCaller i (.polling f)).Carries i f key (.making job (some wake)) now world :=
    ⟨h.alone.setCaller _, setCaller_self h.caller _, h.flight⟩
  rw [turnLimit, turn_poll h.caller h.alone.opened]
  exact hpolls.turn_waiting (stays now later)

end CacheMachine

end FleetGate
