import FleetGate.Proofs.Cache.Sharing

/-! # A caller that is served by itself

What happens to a caller while nobody else moves. The others may be anywhere on their way and stay
there; time passes and the world changes. Every step is then one of few, told by the phase that the
caller is in (`step_solo`), and an invariant of such a stretch is checked phase by phase
(`solo_log_induction`).

Others stay out of the way as long as nobody polls: the two stages that a flight goes through
without a pause, from the second look to the start of the construction and from its outcome to
leaving the register, are never those of a flight that nobody polls (`attended_run`).
-/

namespace FleetGate

/-- What may happen while a caller is served and nobody else moves: the caller moves and is not
dropped, time passes, or somebody changes the world. -/
def CacheEvent.Serves {W J : Type} (i : ℕ) : CacheEvent W J → Prop
  | .look j | .join j | .poll j | .drive j | .rest j => j = i
  | .pass _ | .outside _ => True
  | _ => False

instance {W J : Type} (i : ℕ) : (event : CacheEvent W J) → Decidable (event.Serves i)
  | .look j | .join j | .poll j | .drive j | .rest j => inferInstanceAs (Decidable (j = i))
  | .pass _ | .outside _ => isTrue trivial
  | .arrive _ _ | .drop _ | .invalidate _ | .invalidateCluster _ | .cleanup | .close | .closing _
  | .sweep | .stopSweeper => isFalse id

/-- The stages that a flight passes through without a pause. -/
def FlightPhase.isBrief {J V : Type} : FlightPhase J V → Bool
  | .missed _ | .settled _ => true
  | _ => false

/-- Whether a caller polls its flight. -/
def CallerPhase.isPolling {J V : Type} : CallerPhase J V → Bool
  | .polling _ => true
  | _ => false

namespace CacheMachine

variable {W J V : Type}

/-! ## What a step can do -/

/-- The store when a flight of a key has gone on from a stage. -/
def storeAfter (m : CacheMachine W J V) (key : CacheKey) : FlightPhase J V → CacheStore V
  | .unstarted _ => (m.store.lookup key m.now).2
  | .missed _ => m.store.countMiss
  | .made value => if m.closed then m.store else m.store.insert key value m.now
  | .making _ _ | .settled _ | .finished _ => m.store

/-- The register when a flight of a key has gone on from a stage. -/
def registeredAfter (m : CacheMachine W J V) (key : CacheKey) :
    FlightPhase J V → List (CacheKey × ℕ)
  | .settled _ => Keyed.erase key m.registered
  | _ => m.registered

/-- What a step can do while a caller is served by itself, with what is remembered of it: from the
phase that the caller is in to the next. -/
inductive Solo (w : Workshop W J V) (m : CacheMachine W J V) (i : ℕ) (key : CacheKey) :
    CallerPhase J V → Option (Milestone J V) → CallerPhase J V → CacheMachine W J V → Prop
  | still {p} (milliseconds : ℕ) (world : W) :
      Solo w m i key p none p { m with now := m.now + milliseconds, world }
  | hit {job e} (live : m.store.live? key m.now = some e) :
      Solo w m i key (.looking job) none (.returned (.ok e.value))
        ({ m with store := m.store.touched key m.now }.setCaller i (.returned (.ok e.value)))
  | seek {job} (gone : m.store.live? key m.now = none) :
      Solo w m i key (.looking job) none (.joining job) (m.setCaller i (.joining job))
  | board {job f} (found : Keyed.get? key m.registered = some f) :
      Solo w m i key (.joining job) none (.waiting f) (m.setCaller i (.waiting f))
  | launch {job} (free : Keyed.get? key m.registered = none) :
      Solo w m i key (.joining job) (some (.launched i m.flights.length key job))
        (.waiting m.flights.length)
        ({ m with
          flights := m.flights ++ [Flight.mk key (.unstarted job)]
          registered := m.registered ++ [(key, m.flights.length)] }.setCaller i
            (.waiting m.flights.length))
  | dismiss {f} (closed : m.closed = true) :
      Solo w m i key (.waiting f) none (.returned (.error .closed))
        (m.setCaller i (.returned (.error .closed)))
  | poll {f} (opened : m.closed = false) :
      Solo w m i key (.waiting f) none (.polling f) (m.setCaller i (.polling f))
  | rest {f} : Solo w m i key (.polling f) none (.waiting f) (m.setCaller i (.waiting f))
  | fly {f s s' milestone? world store registered} (flight : m.FlightAt f key s)
      (next : FlightNext w m f key milestone? s s') (hstore : store = m.storeAfter key s)
      (hregistered : registered = m.registeredAfter key s) :
      Solo w m i key (.polling f) milestone? (.polling f)
        ({ m with world, store, registered }.setFlight f s')
  | stall {f job wake? job' next? world} (flight : m.FlightAt f key (.making job wake?)) :
      Solo w m i key (.polling f) none (.waiting f)
        (({ m with world }.setFlight f (.making job' next?)).setCaller i (.waiting f))
  | deliver {f outcome} (flight : m.FlightAt f key (.finished outcome)) :
      Solo w m i key (.polling f) none (.returned outcome) (m.setCaller i (.returned outcome))

variable {w : Workshop W J V} {m m' : CacheMachine W J V}
  {milestone? : Option (Milestone J V)} {event : CacheEvent W J} {i j f : ℕ} {key own : CacheKey}
  {p q : CallerPhase J V} {s : FlightPhase J V}

/-! ## Flights that somebody polls -/

/-- Nobody polls. -/
def Paused (m : CacheMachine W J V) : Prop := ∀ caller ∈ m.callers, caller.phase.isPolling = false

instance (m : CacheMachine W J V) : Decidable m.Paused :=
  inferInstanceAs (Decidable (∀ caller ∈ m.callers, caller.phase.isPolling = false))

/-- Who does not pause is polled. -/
def Attended (m : CacheMachine W J V) : Prop :=
  ∀ f key s, m.FlightAt f key s → s.isBrief = true → m.Polled f

theorem Attended.start (config : CacheConfig) (world : W) :
    (start config world : CacheMachine W J V).Attended := by
  intro f key s hf
  cases hf

/-- Whoever polls a flight in a stage without a pause goes on polling. -/
theorem step_polling_of_brief (w : Workshop W J V) (hc : m.CallerAt i own (.polling f))
    (hf : m.FlightAt f key s) (hs : s.isBrief = true) :
    (m.step w event).CallerAt i own (.polling f) := by
  by_cases hi : event.caller? = some i
  · have hphase := callerPhase?_of_callerAt hc
    have hflight : m.flights[f]? = some ⟨key, s⟩ := hf
    have hstage : m.flightPhase? f = some s := by rw [flightPhase?, hflight, Option.map_some]
    cases event with
    | look j | join j =>
        obtain rfl := Option.some.inj hi
        simpa only [step, look, join, hc] using hc
    | poll j | drop j =>
        obtain rfl := Option.some.inj hi
        simpa only [step, poll, CacheMachine.drop, hphase] using hc
    | drive j =>
        obtain rfl := Option.some.inj hi
        cases s with
        | missed _ | settled _ =>
            simp only [step, drive, hphase, hflight]
            exact hc
        | _ => cases hs
    | rest j =>
        obtain rfl := Option.some.inj hi
        cases s with
        | missed _ | settled _ =>
            simpa only [step, CacheMachine.rest, hphase, hstage] using hc
        | _ => cases hs
    | _ => cases hi
  · exact step_callerAt w hc hi

/-- Whoever takes a flight to a stage without a pause polls it then. -/
theorem Move.polled_of_brief (h : Move w m milestone? m') (hf : m'.FlightAt f key s)
    (hs : s.isBrief = true) : m.FlightAt f key s ∨ m'.Polled f := by
  cases h with
  | reuse caller flight _ | miss caller flight _ | start caller flight | work caller flight _
  | build caller flight _ | fail caller flight _ | discard caller flight _ | store caller flight _
  | leave caller flight =>
      rcases (flightAt_setFlight flight).mp hf with ⟨rfl, -⟩ | ⟨-, hf⟩
      · exact Or.inr ⟨_, _, caller⟩
      · exact Or.inl hf
  | stall _ flight _ =>
      rcases (flightAt_setFlight flight).mp hf with ⟨-, -, rfl⟩ | ⟨-, hf⟩
      · cases hs
      · exact Or.inl hf
  | launch _ _ =>
      rcases getElem?_concat_eq_some_iff.mp hf with hf | ⟨-, hnew⟩
      · exact Or.inl hf
      · cases hnew
        cases hs
  | _ => exact Or.inl hf

theorem Attended.step (hm : m.Attended) (w : Workshop W J V) (event : CacheEvent W J) :
    (m.step w event).Attended := by
  intro f key s hf hs
  rcases (step_move w m event).polled_of_brief hf hs with hold | hpolled
  · obtain ⟨i, own, caller⟩ := hm f key s hold hs
    exact ⟨i, own, step_polling_of_brief w caller hold hs⟩
  · exact hpolled

/-- Whatever is done to a cache, in whatever order, no flight pauses where it should not. -/
theorem attended_run (w : Workshop W J V) (config : CacheConfig) (world : W)
    (events : List (CacheEvent W J)) :
    ((start config world : CacheMachine W J V).run w events).Attended := by
  induction events using List.reverseRecOn with
  | nil => exact .start config world
  | append_singleton before event ih =>
      rw [run_concat]
      exact ih.step w event

/-! ## The steps of a caller -/

theorem Solo.idle : Solo w m i key p none p m := .still 0 m.world

theorem look_solo (w : Workshop W J V) (hc : m.CallerAt i key p) :
    ∃ q, Solo w m i key p none q (m.step w (.look i)) := by
  cases p with
  | looking job =>
      cases live : m.store.live? key m.now with
      | some e =>
          rw [step_look_of_live w hc live]
          exact ⟨_, .hit live⟩
      | none =>
          rw [step_look w hc live]
          exact ⟨_, .seek live⟩
  | _ =>
      simp only [step, look, hc]
      exact ⟨_, .idle⟩

theorem join_solo (w : Workshop W J V) (hc : m.CallerAt i key p) :
    ∃ q, Solo w m i key p (m.milestone? w (.join i)) q (m.step w (.join i)) := by
  cases p with
  | joining job =>
      cases found : Keyed.get? key m.registered with
      | some f =>
          simp only [step, join, milestone?, hc, found, Keyed.has, Option.isSome_some, if_true]
          exact ⟨_, .board found⟩
      | none =>
          rw [step_join w hc found, launched_of_free w hc found]
          exact ⟨_, .launch found⟩
  | _ =>
      simp only [step, join, milestone?, hc]
      exact ⟨_, .idle⟩

theorem poll_solo (w : Workshop W J V) (hc : m.CallerAt i key p) :
    ∃ q, Solo w m i key p none q (m.step w (.poll i)) := by
  cases p with
  | waiting f =>
      cases closed : m.closed with
      | true =>
          simp only [step, poll, callerPhase?_of_callerAt hc, closed, if_true]
          exact ⟨_, .dismiss closed⟩
      | false =>
          rw [step_poll w hc closed]
          exact ⟨_, .poll closed⟩
  | _ =>
      simp only [step, poll, callerPhase?_of_callerAt hc]
      exact ⟨_, .idle⟩

theorem rest_solo (w : Workshop W J V) (hc : m.CallerAt i key p) :
    ∃ q, Solo w m i key p none q (m.step w (.rest i)) := by
  cases p with
  | polling f =>
      simp only [step, CacheMachine.rest, callerPhase?_of_callerAt hc]
      split
      · exact ⟨_, .rest⟩
      · exact ⟨_, .rest⟩
      · exact ⟨_, .idle⟩
  | _ =>
      simp only [step, CacheMachine.rest, callerPhase?_of_callerAt hc]
      exact ⟨_, .idle⟩

/-- One step of the flight that a caller polls, by its stage. -/
theorem drive_polling_solo (w : Workshop W J V) (hc : m.CallerAt i key (.polling f))
    (hf : m.FlightAt f key s) :
    ∃ q, Solo w m i key (.polling f) (m.milestone? w (.drive i)) q (m.step w (.drive i)) := by
  have flight : m.flights[f]? = some ⟨key, s⟩ := hf
  simp only [step, drive, milestone?, callerPhase?_of_callerAt hc, flight]
  cases s with
  | unstarted job =>
      cases live : m.store.live? key m.now with
      | some e =>
          simp only [CacheStore.lookup_of_live live]
          exact ⟨_, .fly hf (.reused live) (by rw [storeAfter, CacheStore.lookup_of_live live]) rfl⟩
      | none =>
          simp only [CacheStore.lookup_of_not_live live]
          exact ⟨_, .fly hf (.missed live)
            (by rw [storeAfter, CacheStore.lookup_of_not_live live]) rfl⟩
  | missed job => exact ⟨_, .fly hf .started rfl rfl⟩
  | making job wake? =>
      rcases advance : w.advance m.now job m.world with ⟨progress, world⟩
      simp only [advance]
      rcases progress with job' | ⟨job', next?⟩ | ⟨error⟩ | ⟨value⟩
      · exact ⟨_, .fly hf (.worked advance) rfl rfl⟩
      · exact ⟨_, .stall hf⟩
      · exact ⟨_, .fly hf (.failed advance) rfl rfl⟩
      · exact ⟨_, .fly hf (.built advance) rfl rfl⟩
  | made value =>
      by_cases closed : m.closed = true
      · simp only [if_pos closed]
        exact ⟨_, .fly hf (.discarded closed) (if_pos closed).symm rfl⟩
      · simp only [if_neg closed]
        exact ⟨_, .fly hf (.stored (by simpa using closed)) (if_neg closed).symm rfl⟩
  | settled outcome => exact ⟨_, .fly hf .left rfl rfl⟩
  | finished outcome => exact ⟨_, .deliver hf⟩

theorem drive_solo (w : Workshop W J V) (hm : m.Linked) (hc : m.CallerAt i key p) :
    ∃ q, Solo w m i key p (m.milestone? w (.drive i)) q (m.step w (.drive i)) := by
  cases p with
  | polling f =>
      obtain ⟨s, hs⟩ := hm.awaited i key _ f hc rfl
      exact drive_polling_solo w hc hs
  | _ =>
      simp only [step, drive, milestone?, callerPhase?_of_callerAt hc]
      exact ⟨_, .idle⟩

/-- While a caller is served by itself, every step is one of the few. -/
theorem step_solo (w : Workshop W J V) (hm : m.Linked) (hc : m.CallerAt i key p)
    (h : event.Serves i) :
    ∃ q, Solo w m i key p (m.milestone? w event) q (m.step w event) := by
  cases event with
  | look j =>
      obtain rfl : j = i := h
      exact look_solo w hc
  | join j =>
      obtain rfl : j = i := h
      exact join_solo w hc
  | poll j =>
      obtain rfl : j = i := h
      exact poll_solo w hc
  | drive j =>
      obtain rfl : j = i := h
      exact drive_solo w hm hc
  | rest j =>
      obtain rfl : j = i := h
      exact rest_solo w hc
  | pass milliseconds => exact ⟨_, .still milliseconds m.world⟩
  | outside change => exact ⟨_, .still 0 (change m.world)⟩
  | _ => exact h.elim

/-- The caller gets to the next phase, under its number and key. -/
theorem Solo.callerAt (h : Solo w m i key p milestone? q m') (hc : m.CallerAt i key p) :
    m'.CallerAt i key q := by
  cases h with
  | still _ _ | fly _ _ _ _ => exact hc
  | _ => exact setCaller_self hc _

theorem Solo.closed_eq (h : Solo w m i key p milestone? q m') : m'.closed = m.closed := by
  cases h with
  | _ => rfl

/-! ## Stretches in which a caller is served by itself -/

/-- The invariants that hold in every run. -/
structure Sound (m : CacheMachine W J V) : Prop where
  exclusive : m.Exclusive
  reserved : m.Reserved
  outstanding : m.Outstanding

theorem Sound.move (hm : m.Sound) (h : Move w m milestone? m') : m'.Sound :=
  ⟨hm.exclusive.move h, hm.reserved.move hm.exclusive h, hm.outstanding.move h⟩

theorem sound_run (w : Workshop W J V) (config : CacheConfig) (world : W)
    (events : List (CacheEvent W J)) :
    ((start config world : CacheMachine W J V).run w events).Sound :=
  ⟨exclusive_run w config world events, reserved_run w config world events,
    outstanding_run w config world events⟩

/-- What every step of a caller that is served by itself keeps, with the phase that it gets to and
what is remembered, holds after the whole stretch. -/
theorem solo_log_induction {P : CacheMachine W J V → CallerPhase J V → List (Milestone J V) → Prop}
    (hm : m.Sound) (hc : m.CallerAt i key p) (base : P m p [])
    (solo : ∀ {m₁ m₂ p₁ p₂ log milestone?}, m₁.Sound → m₁.CallerAt i key p₁ → P m₁ p₁ log →
      Solo w m₁ i key p₁ milestone? p₂ m₂ → P m₂ p₂ (log ++ milestone?.toList))
    {events : List (CacheEvent W J)} (hevents : ∀ event ∈ events, event.Serves i) :
    ∃ q, (m.run w events).CallerAt i key q ∧ P (m.run w events) q (m.log w events) := by
  -- the invariants of every run go along
  have hboth : (m.run w events).Sound ∧
      ∃ q, (m.run w events).CallerAt i key q ∧ P (m.run w events) q (m.log w events) := by
    induction events using List.reverseRecOn with
    | nil => exact ⟨hm, p, hc, base⟩
    | append_singleton before event ih =>
        obtain ⟨hsound, q, hq, hP⟩ := ih fun e he => hevents e (List.mem_append_left _ he)
        have hlog : (m.run w before).log w [event]
            = ((m.run w before).milestone? w event).toList := by
          rw [CacheMachine.log, CacheMachine.log, List.append_nil]
        obtain ⟨r, hr⟩ := step_solo w hsound.exclusive.linked hq
          (hevents event (List.mem_append_right _ List.mem_cons_self))
        rw [run_concat, log_append, hlog]
        exact ⟨hsound.move (step_move w _ event), r, hr.callerAt hq, solo hsound hq hP hr⟩
  exact hboth.2

/-- While a caller is served by itself nobody closes the cache. -/
theorem solo_closed (hm : m.Sound) (hc : m.CallerAt i key p) {events : List (CacheEvent W J)}
    (hevents : ∀ event ∈ events, event.Serves i) : (m.run w events).closed = m.closed := by
  obtain ⟨q, -, hclosed⟩ := solo_log_induction (w := w) (P := fun m' _ _ => m'.closed = m.closed)
    hm hc rfl (fun _ _ hp h => h.closed_eq.trans hp) hevents
  exact hclosed

end CacheMachine

end FleetGate
