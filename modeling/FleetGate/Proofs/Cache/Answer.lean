import FleetGate.Proofs.Cache.Alone

/-! # The answer to a caller that is alone

While everything settles, time passes and the sweeper does its work, a caller that is alone only
waits for its own flight. So if nothing is there under its key, it is answered what its job comes to
by itself, and the world is left as the job leaves it (`Quiet.get`).
-/

namespace FleetGate.CacheMachine

variable {W J V : Type} {w : Workshop W J V} {m : CacheMachine W J V}
  {i f fuel waits now wake : Nat} {key : CacheKey} {job : J} {outcome : FleetResult V}
  {world world' : W}

/-! ## Settling -/

/-- A round among callers that cannot move but for one is a turn of that one. -/
theorem Alone.round (h : m.Alone i now world) : round w m = turn w i turnLimit m := by
  have hidle : ∀ l : List Nat, (∀ j ∈ l, j ≠ i) →
      l.foldl (fun m j => turn w j turnLimit m) m = m := by
    intro l hl
    induction l with
    | nil => rfl
    | cons j rest ih =>
        rw [List.foldl_cons, turn_idle (h.others j (hl j List.mem_cons_self))]
        exact ih fun j hj => hl j (List.mem_cons_of_mem _ hj)
  have hlt : ∀ j ∈ List.range i, j ≠ i := fun j hj => Nat.ne_of_lt (List.mem_range.mp hj)
  rw [CacheMachine.round, h.latest, List.range_succ, List.foldl_append, hidle _ hlt]
  rfl

/-- The second round changes nothing that matters. -/
theorem Ready.settleCallers (h : Ready w m i f key job now world)
    (hcomes : w.Comes Workshop.stretch waits now job world outcome world') :
    Stops w (settleCallers w m) i f key waits now outcome world' := by
  have hstops := h.turn hcomes
  rw [CacheMachine.settleCallers, h.alone.round]
  cases hstops with
  | answered done =>
      rw [done.alone.round, done.turn]
      exact .answered done
  | awaits wait later stays rest =>
      rw [wait.alone.round]
      exact .awaits (wait.turn later stays) later stays rest

theorem Awaits.settleCallers (h : m.Awaits i f key job wake now world) (later : now < wake)
    (stays : w.Stays job wake world) :
    (settleCallers w m).Awaits i f key job wake now world := by
  have hturn := h.turn later stays
  rw [CacheMachine.settleCallers, h.alone.round, hturn.alone.round]
  exact hturn.turn later stays

/-- While the cache is open, the sweeper drops expired entries and does nothing else. What holds of
the entries and is not lost by dropping expired ones still holds then. -/
theorem settleSweeper_eq {P : CacheStore V → Prop} (h : m.closed = false) (hstore : P m.store)
    (hdrop : ∀ s, P s → P (s.removeExpired m.now).2) :
    ∃ store sweeper, m.settleSweeper = { m with store, sweeper } ∧ P store := by
  have hfold : ∀ l : List Nat, ∃ store sweeper,
      l.foldl (fun m _ => if m.closed then m.stopSweeper else m.sweep) m
        = { m with store, sweeper } ∧ P store := by
    intro l
    induction l using List.reverseRecOn with
    | nil => exact ⟨m.store, m.sweeper, rfl, hstore⟩
    | append_singleton l j ih =>
        obtain ⟨store, sweeper, hrest, hP⟩ := ih
        rw [List.foldl_append, hrest]
        simp only [List.foldl_cons, List.foldl_nil, h, Bool.false_eq_true, if_false]
        rw [sweep]
        split
        · exact ⟨_, _, rfl, hdrop store hP⟩
        · exact ⟨store, sweeper, rfl, hP⟩
  exact hfold _

theorem Enters.settleSweeper (h : m.Enters i f key job now world) :
    m.settleSweeper.Enters i f key job now world := by
  obtain ⟨store, sweeper, hsweep, hvacant⟩ := settleSweeper_eq (P := (·.Vacant key m.now))
    h.alone.opened h.vacant fun s hs => hs.keep _
  rw [hsweep]
  exact ⟨h.alone.around ▸ h.alone.set m.world store m.registered m.flights sweeper, h.next,
    h.caller, hvacant, h.free⟩

theorem Awaits.settleSweeper (h : m.Awaits i f key job wake now world) :
    m.settleSweeper.Awaits i f key job wake now world := by
  obtain ⟨store, sweeper, hsweep, -⟩ :=
    settleSweeper_eq (P := fun _ => True) h.alone.opened trivial fun _ _ => trivial
  rw [hsweep]
  exact ⟨h.alone.around ▸ h.alone.set m.world store m.registered m.flights sweeper, h.caller,
    h.flight⟩

theorem Answered.settleSweeper (h : m.Answered i key outcome now world) :
    m.settleSweeper.Answered i key outcome now world := by
  obtain ⟨store, sweeper, hsweep, -⟩ :=
    settleSweeper_eq (P := fun _ => True) h.alone.opened trivial fun _ _ => trivial
  rw [hsweep]
  exact ⟨h.alone.around ▸ h.alone.set m.world store m.registered m.flights sweeper, h.caller⟩

theorem Stops.settleSweeper (h : Stops w m i f key waits now outcome world') :
    Stops w m.settleSweeper i f key waits now outcome world' := by
  cases h with
  | answered done => exact .answered done.settleSweeper
  | awaits wait later stays rest => exact .awaits wait.settleSweeper later stays rest

/-- Whoever goes first, the caller or the sweeper, the caller gets as far as its job. -/
theorem Ready.settle (h : Ready w m i f key job now world)
    (hs : Ready w m.settleSweeper i f key job now world)
    (hcomes : w.Comes Workshop.stretch waits now job world outcome world') :
    Stops w (settle w m) i f key waits now outcome world' := by
  rw [CacheMachine.settle]
  split
  · exact hs.settleCallers hcomes
  · exact (h.settleCallers hcomes).settleSweeper

theorem Awaits.settle (h : m.Awaits i f key job wake now world) (later : now < wake)
    (stays : w.Stays job wake world) : (settle w m).Awaits i f key job wake now world := by
  rw [CacheMachine.settle]
  split
  · exact h.settleSweeper.settleCallers later stays
  · exact (h.settleCallers later stays).settleSweeper

theorem Stops.now_eq (h : Stops w m i f key waits now outcome world') : m.now = now := by
  cases h with
  | answered done => exact done.alone.time
  | awaits wait => exact wait.alone.time

/-! ## The passing of time -/

/-- What is waited for is the time of the only flight that somebody waits for. -/
theorem Awaits.wakeTimes_min? (h : m.Awaits i f key job wake now world) :
    m.wakeTimes.min? = some wake := by
  have hflight : m.flightPhase? f = some (.making job (some wake)) := by
    rw [flightPhase?, h.flight]
    rfl
  have hmem : ∀ t, t ∈ m.wakeTimes ↔ t = wake := by
    intro t
    rw [wakeTimes, List.mem_filterMap]
    constructor
    · rintro ⟨c, hc, ht⟩
      obtain ⟨j, hj⟩ := List.getElem?_of_mem hc
      by_cases hji : j = i
      · rw [hji, h.caller] at hj
        cases hj
        simpa [hflight, eq_comm] using ht
      · -- a caller that waited could move
        have hothers := h.alone.others j hji
        rw [nextEvent?, callerPhase?, hj, Option.map_some] at hothers
        split at ht
        · rename_i hphase
          rw [hphase] at hothers
          cases hothers
        · cases ht
    · rintro rfl
      exact ⟨_, List.mem_of_getElem? h.caller, by simp [hflight]⟩
  rw [List.min?_eq_some_iff]
  exact ⟨(hmem wake).mpr rfl, fun t ht => Nat.le_of_eq ((hmem t).mp ht).symm⟩

/-- Time passes. -/
theorem Awaits.pass (h : m.Awaits i f key job wake now world) (milliseconds : Nat) :
    (m.step w (.pass milliseconds)).Awaits i f key job wake (now + milliseconds) world where
  alone := ⟨h.alone.others, h.alone.latest, h.alone.opened,
    congrArg (· + milliseconds) h.alone.time, h.alone.around⟩
  caller := h.caller
  flight := h.flight

/-- The next stop of a sleep lies within it. -/
theorem next_stop_mem {t : Nat} (alarms : List Nat) (hnow : now < t) :
    let next := ((alarms.filter fun a => now < a && a < t).min?).getD t
    now < next ∧ next ≤ t := by
  intro next
  cases hmin : (alarms.filter fun a => now < a && a < t).min? with
  | none =>
      have hnext : next = t := by simp only [next, hmin, Option.getD_none]
      omega
  | some a =>
      have hnext : next = a := by simp only [next, hmin, Option.getD_some]
      have ha := (List.mem_filter.mp (List.min?_mem hmin)).2
      rw [Bool.and_eq_true, decide_eq_true_eq, decide_eq_true_eq] at ha
      omega

/-- Who is awake does not sleep. -/
theorem sleepUntil_go_of_le {t : Nat} (h : t ≤ m.now) : sleepUntil.go w t fuel m = m := by
  cases fuel with
  | zero => rfl
  | succ fuel => rw [sleepUntil.go, if_neg (by omega)]

/-- A caller that is alone sleeps through all alarms until the time for which its flight waits. Then
everything settles. -/
theorem Awaits.sleepUntil_go (h : m.Awaits i f key job wake now world) (later : now < wake)
    (stays : w.Stays job wake world) (hfuel : wake ≤ now + fuel) :
    ∃ m' : CacheMachine W J V, ∃ rest, m'.Awaits i f key job wake wake world ∧
      sleepUntil.go w wake fuel m = sleepUntil.go w wake rest (CacheMachine.settle w m') := by
  induction fuel generalizing m now with
  | zero => omega
  | succ fuel ih =>
      obtain rfl := h.alone.time
      obtain ⟨hlater, hle⟩ := next_stop_mem m.alarms later
      rw [sleepUntil.go, if_pos later]
      simp only [elapse]
      generalize ((m.alarms.filter fun a => m.now < a && a < wake).min?).getD wake = next
        at hlater hle
      have hpassed := h.pass (w := w) (next - m.now)
      rw [Nat.add_sub_cancel' (Nat.le_of_lt hlater)] at hpassed
      rcases Nat.lt_or_eq_of_le hle with hlt | rfl
      · exact ih (hpassed.settle hlt stays) hlt (by omega)
      · exact ⟨_, fuel, hpassed, rfl⟩

/-- So it gets as far as its job from that time on. -/
theorem Awaits.sleepUntil (h : m.Awaits i f key job wake now world) (later : now < wake)
    (stays : w.Stays job wake world)
    (hcomes : w.Comes Workshop.stretch waits wake job world outcome world') :
    Stops w (sleepUntil w wake m) i f key waits wake outcome world' := by
  have hfuel : wake ≤ now + (wake - m.now) := by
    rw [h.alone.time]
    omega
  obtain ⟨m', rest, hm', hgo⟩ := h.sleepUntil_go later stays hfuel
  have hstops := hm'.ready.settle hm'.settleSweeper.ready hcomes
  rw [CacheMachine.sleepUntil, hgo, sleepUntil_go_of_le (Nat.le_of_eq hstops.now_eq.symm)]
  exact hstops

theorem Answered.answer? (h : m.Answered i key outcome now world) :
    m.answer? i = some outcome := by
  rw [CacheMachine.answer?, callerPhase?_of_callerAt h.caller]

/-- Who has an answer does not wait for it. -/
theorem Answered.await (h : m.Answered i key outcome now world) : await w [i] fuel m = m := by
  cases fuel with
  | zero => rfl
  | succ fuel =>
      rw [CacheMachine.await, if_pos]
      simp [h.answer?]

/-- Waiting for a flight is sleeping until its time. -/
theorem Awaits.await_eq (h : m.Awaits i f key job wake now world) :
    await w [i] (fuel + 1) m = await w [i] fuel (CacheMachine.sleepUntil w wake m) := by
  have hnone : m.answer? i = none := by
    rw [answer?, callerPhase?_of_callerAt h.caller]
  rw [CacheMachine.await, h.wakeTimes_min?, if_neg]
  simp [hnone]

/-- However often its flight has to wait, a caller that is alone is answered what its job comes
to. -/
theorem Stops.await (h : Stops w m i f key waits now outcome world') (hfuel : waits ≤ fuel) :
    ∃ later, (await w [i] fuel m).Answered i key outcome later world' := by
  induction waits generalizing m now fuel with
  | zero =>
      cases h with
      | answered done => exact ⟨now, done.await.symm ▸ done⟩
  | succ waits ih =>
      cases h with
      | answered done => exact ⟨now, done.await.symm ▸ done⟩
      | awaits wait later stays rest =>
          obtain ⟨fuel, rfl⟩ := Nat.exists_eq_succ_of_ne_zero (Nat.ne_zero_of_lt hfuel)
          rw [wait.await_eq]
          exact ih (wait.sleepUntil later stays rest) (Nat.le_of_succ_le_succ hfuel)

/-! ## The answer -/

/-- Nobody can move, the cache is open, and no flight is registered for a key. -/
structure Idle (m : CacheMachine W J V) (key : CacheKey) : Prop where
  still : ∀ j, m.nextEvent? j = none
  opened : m.closed = false
  free : Keyed.get? key m.registered = none

/-- A caller that comes in by itself is alone. -/
theorem Idle.arrive_alone (h : m.Idle key) (job : J) :
    (m.arrive key job).Alone m.callers.length m.now m.world where
  others j hj := by
    have hcaller : (m.arrive key job).callers[j]? = m.callers[j]? :=
      Option.ext fun c => getElem?_concat_eq_some_iff.trans (by simp [hj])
    rw [nextEvent?, callerPhase?, hcaller]
    exact h.still j
  latest := List.length_append
  opened := h.opened
  time := rfl
  around := rfl

/-- Nobody can move, the cache is open, and there is nothing under a key: no live entry and no
flight. -/
structure Quiet (m : CacheMachine W J V) (key : CacheKey) : Prop where
  still : ∀ j, m.nextEvent? j = none
  opened : m.closed = false
  vacant : m.store.Vacant key m.now
  free : Keyed.get? key m.registered = none

/-- Where nothing is kept, a cache at rest is quiet. -/
theorem Idle.quiet (h : m.Idle key) (vacant : m.store.Vacant key m.now) : m.Quiet key :=
  ⟨h.still, h.opened, vacant, h.free⟩

/-- A cache that was just made is quiet. -/
theorem quiet_start (config : CacheConfig) (world : W) (key : CacheKey) :
    (start (J := J) (V := V) config world).Quiet key where
  still j := by rw [nextEvent?, callerPhase?, start, List.getElem?_nil, Option.map_none]
  opened := rfl
  vacant e he := absurd he List.not_mem_nil
  free := rfl

theorem Quiet.idle (h : m.Quiet key) : m.Idle key :=
  ⟨h.still, h.opened, h.free⟩

theorem Quiet.arrive (h : m.Quiet key) (job : J) :
    (m.arrive key job).Enters m.callers.length m.flights.length key job m.now m.world where
  next := rfl
  alone := h.idle.arrive_alone job
  caller := by simp [CallerAt, CacheMachine.arrive, h.opened]
  vacant := h.vacant
  free := h.free

section
variable (h : m.Quiet key)
  (hcomes : w.Comes Workshop.stretch waits m.now job m.world outcome world')
  (hwaits : waits ≤ wakeLimit)
include h hcomes hwaits

/-- A caller that comes in while all is quiet is answered what its job comes to. -/
theorem Quiet.getAll : ∃ later, (getAll w [(key, job)] m).2.Answered m.callers.length key outcome
    later world' := by
  have henters := h.arrive job
  have hstops := henters.ready.settle henters.settleSweeper.ready hcomes
  have hfuel : waits ≤ wakeLimit * ((m.arrive key job).callers.length + 1) :=
    Nat.le_trans hwaits (Nat.le_mul_of_pos_right _ (Nat.succ_pos _))
  exact hstops.await hfuel

/-- While all is quiet, whoever asks for a key gets what its job comes to. -/
theorem Quiet.get : (get w key job m).1 = outcome ∧ (get w key job m).2.world = world' := by
  obtain ⟨later, hdone⟩ := h.getAll hcomes hwaits
  obtain ⟨m', -, hget⟩ := get_onward w key job m
  obtain rfl : (CacheMachine.getAll w [(key, job)] m).2 = m' := congrArg Prod.snd hget
  rw [hget, hdone.answer?]
  exact ⟨rfl, hdone.alone.around⟩

end

end FleetGate.CacheMachine
