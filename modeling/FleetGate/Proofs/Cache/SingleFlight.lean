import FleetGate.Proofs.Cache.Flights

/-! # One construction at a time

For each key at most one construction is under way, in every order of steps. The argument rests on
the register. As long as the cache is open, every flight that is not finished is the one registered
for its key. Closing clears the register, but it is signalled first, and from then on nobody begins
to poll a flight: a flight that is launched afterwards is never started.

That a construction is started only where no live entry is left follows from the same invariant.
Nothing but a flight of the same key could store one between the second look of a flight and the
start of its construction.
-/

namespace FleetGate

/-- Whether the outcome of a flight was handed out. -/
def FlightPhase.isFinished {J V : Type} : FlightPhase J V → Bool
  | .finished _ => true
  | _ => false

namespace CacheMachine

variable {W J V : Type} {w : Workshop W J V} {m m' : CacheMachine W J V}
  {milestone? : Option (Milestone J V)} {i f g : Nat} {own key : CacheKey}
  {p q : FlightPhase J V}

/-- The construction of a flight for a key is under way. -/
def Making (m : CacheMachine W J V) (f : Nat) (key : CacheKey) : Prop :=
  ∃ job wake?, m.FlightAt f key (.making job wake?)

/-- A flight that is not finished, and that was started or is being polled. -/
def Committed (m : CacheMachine W J V) (f : Nat) : FlightPhase J V → Prop
  | .unstarted _ => m.Polled f
  | .finished _ => False
  | _ => True

theorem Committed.isFinished (h : m.Committed f p) : p.isFinished = false := by
  cases p with
  | finished _ => exact h.elim
  | _ => rfl

/-- A flight that is polled and not finished is committed. -/
theorem committed_of_polled (hf : m.Polled f) (hp : p.isFinished = false) : m.Committed f p := by
  cases p with
  | unstarted _ => exact hf
  | finished _ => cases hp
  | _ => trivial

/-- Only polling callers matter for what is committed. -/
theorem Committed.of_polled (h : m'.Committed f p) (hf : m'.Polled f → m.Polled f) :
    m.Committed f p := by
  cases p with
  | unstarted _ => exact hf h
  | finished _ => exact h
  | _ => trivial

/-- The invariant behind single flights. -/
structure Exclusive (m : CacheMachine W J V) : Prop where
  linked : m.Linked
  guarded : m.Guarded
  distinct : m.store.Distinct
  /-- While the cache is open, a flight that is not finished is the registered one. -/
  registered : m.closed = false → ∀ f key p, m.FlightAt f key p → p.isFinished = false →
    Keyed.get? key m.registered = some f
  /-- Once it is closed, no two flights of a key are committed. -/
  committed : m.closed = true → ∀ f g key p q, m.FlightAt f key p → m.FlightAt g key q →
    m.Committed f p → m.Committed g q → f = g
  /-- Where a flight found nothing, nothing has been stored since. -/
  vacant : ∀ f key job, m.FlightAt f key (.missed job) → m.store.Vacant key m.now

/-- Open or closed, no two flights of a key are committed. -/
theorem Exclusive.committed_unique (hm : m.Exclusive) (hf : m.FlightAt f key p)
    (hg : m.FlightAt g key q) (hp : m.Committed f p) (hq : m.Committed g q) : f = g := by
  cases closed : m.closed with
  | true => exact hm.committed closed f g key p q hf hg hp hq
  | false =>
      have hf' := hm.registered closed f key p hf hp.isFinished
      have hg' := hm.registered closed g key q hg hq.isFinished
      exact Option.some.inj (hf'.symm.trans hg')

/-! ## What a move does to the flights -/

/-- Only a flight that is not finished moves. -/
theorem FlightNext.unfinished (h : FlightNext w m f key milestone? p q) :
    p.isFinished = false := by
  cases h with
  | _ => rfl

/-- A flight that is not finished after a move was launched by it, or was not finished before. -/
theorem Move.unfinished (h : Move w m milestone? m') (hf : m'.FlightAt f key p)
    (hp : p.isFinished = false) :
    (Keyed.get? key m.registered = none ∧ m'.registered = m.registered ++ [(key, f)]) ∨
      ∃ q, m.FlightAt f key q ∧ q.isFinished = false := by
  rcases h.flight_before hf with ⟨q, hq, rfl | ⟨hnext, -⟩⟩ | ⟨-, free, hreg, -⟩
  · exact Or.inr ⟨p, hq, hp⟩
  · exact Or.inr ⟨q, hq, hnext.unfinished⟩
  · exact Or.inl ⟨free, hreg⟩

/-- Once the cache is closed, nobody begins to poll. -/
theorem Move.polled (h : Move w m milestone? m') (closed : m.closed = true)
    (hf : m'.Polled f) : m.Polled f := by
  obtain ⟨i, own, hc⟩ := hf
  rcases h.caller_before hc with ⟨q, hq, rfl | hnext⟩ | ⟨-, hnew⟩ | ⟨job, hnew, -⟩
  · exact ⟨i, own, hq⟩
  · cases hnext with
    | polled opened => exact (not_open_and_closed opened closed).elim
  · cases hnew
  · cases hnew

/-- Nobody polls a flight that is not there. -/
theorem Linked.polled_lt (hm : m.Linked) (hf : m.Polled f) : f < m.flights.length := by
  obtain ⟨i, own, caller⟩ := hf
  obtain ⟨p, hp⟩ := hm.awaited i own _ f caller rfl
  exact (List.getElem?_eq_some_iff.mp hp).1

/-- Once the cache is closed, no move commits a flight that was not committed before. -/
theorem Move.committed (h : Move w m milestone? m') (hm : m.Linked) (closed : m.closed = true)
    (hf : m'.FlightAt f key p) (hp : m'.Committed f p) :
    ∃ q, m.FlightAt f key q ∧ m.Committed f q := by
  have hp' : m.Committed f p := hp.of_polled (h.polled closed)
  rcases h.flight_before hf with ⟨q, hq, rfl | ⟨hnext, hpolled⟩⟩ | ⟨rfl, -, -, i, job, rfl, -⟩
  · exact ⟨p, hq, hp'⟩
  · exact ⟨q, hq, committed_of_polled hpolled hnext.unfinished⟩
  · -- what was just launched is polled by nobody
    exact absurd (hm.polled_lt hp') (Nat.lt_irrefl _)

/-- A registered flight stays so until it is finished, or the register is cleared. -/
theorem Move.register_kept (h : Move w m milestone? m')
    (hreg : Keyed.get? key m.registered = some f) :
    Keyed.get? key m'.registered = some f ∨
      (∃ i : Nat, m.closers[i]? = some .forgetting) ∨
      ∃ g outcome, m.FlightAt g key (.settled outcome) ∧ m'.FlightAt g key (.finished outcome) := by
  cases h with
  | launch _ _ =>
      refine Or.inl ?_
      rw [setCaller, Keyed.get?_append, hreg]
      rfl
  | @leave _ _ g own outcome _ flight =>
      by_cases hkey : key = own
      · subst hkey
        exact Or.inr (Or.inr ⟨g, outcome, flight, setFlight_self flight _⟩)
      · exact Or.inl ((Keyed.get?_erase_of_ne hkey _).trans hreg)
  | @forget i closer => exact Or.inr (Or.inl ⟨i, closer⟩)
  | _ => exact Or.inl hreg

/-- A construction comes under way by being started. -/
theorem Move.making (h : Move w m milestone? m') (hf : m'.Making f key) :
    m.Making f key ∨ ∃ job, milestone? = some (.started f key job) := by
  obtain ⟨job, wake?, hf⟩ := hf
  rcases h.flight_before hf with ⟨q, hq, rfl | ⟨hnext, -⟩⟩ | ⟨-, -, -, i, job, hnew, -⟩
  · exact Or.inl ⟨job, wake?, hq⟩
  · cases hnext with
    | started => exact Or.inr ⟨job, rfl⟩
    | worked _ | stalled _ => exact Or.inl ⟨_, _, hq⟩
  · cases hnew

/-- The start of a construction is remembered exactly when it comes under way. -/
theorem Move.started_iff (h : Move w m milestone? m') :
    (∃ job, milestone? = some (.started f key job)) ↔ ¬ m.Making f key ∧ m'.Making f key := by
  constructor
  · rintro ⟨job, rfl⟩
    cases h with
    | start _ flight =>
        refine ⟨?_, job, none, setFlight_self flight _⟩
        rintro ⟨job', wake?, hf⟩
        cases flight.symm.trans hf
  · rintro ⟨idle, hf⟩
    rcases h.making hf with hf | hstart
    · exact absurd hf idle
    · exact hstart

/-! ## What a move does to the store -/

theorem Move.distinct (h : Move w m milestone? m') (hm : m.store.Distinct) :
    m'.store.Distinct := by
  cases h with
  | hit _ _ | reuse _ _ _ => exact hm.touched
  | store _ _ _ => exact hm.insert _ _ _
  | purge test _ => exact hm.keep test
  | clear _ => exact List.nodup_nil
  | _ => exact hm

/-- Only a flight that stores its value brings a live entry for a key that has none. -/
theorem Move.vacant (h : Move w m milestone? m') (hm : m.store.Vacant key m.now) :
    m'.store.Vacant key m'.now ∨ ∃ f value, m.FlightAt f key (.made value) ∧
      m'.FlightAt f key (.settled (.ok value)) := by
  cases h with
  | hit _ live | reuse _ _ live => exact Or.inl (hm.touched live)
  | @store _ _ f own value _ flight _ =>
      by_cases hkey : key = own
      · subst hkey
        exact Or.inr ⟨f, value, flight, setFlight_self flight _⟩
      · exact Or.inl (hm.insert hkey value)
  | purge test _ => exact Or.inl (hm.keep test)
  | clear _ => exact Or.inl fun e he => by cases he
  | pass _ => exact Or.inl (hm.later (Nat.le_add_right _ _))
  | _ => exact Or.inl hm

/-- The misses that are counted are the constructions that were started. -/
theorem Move.misses (h : Move w m milestone? m') :
    m'.store.misses = m.store.misses + milestone?.toList.countP Milestone.isStart := by
  cases h with
  | store _ _ _ => exact CacheStore.insert_misses _ _ _ _
  | _ => rfl

/-! ## The invariant -/

theorem Exclusive.start (config : CacheConfig) (world : W) :
    (start config world : CacheMachine W J V).Exclusive where
  linked := .start config world
  guarded := .start config world
  distinct := List.nodup_nil
  registered _ _ _ _ hf := by cases hf
  committed _ _ _ _ _ _ hf := by cases hf
  vacant _ _ _ hf := by cases hf

theorem Exclusive.move (hm : m.Exclusive) (h : Move w m milestone? m') : m'.Exclusive where
  linked := hm.linked.move h
  guarded := hm.guarded.move h
  distinct := h.distinct hm.distinct
  registered := by
    intro opened' f key p hf hp
    have opened : m.closed = false := h.opened opened'
    rcases h.unfinished hf hp with ⟨free, hreg⟩ | ⟨q, hq, hfin⟩
    · -- it was launched by this move, for a key without a registered flight
      rw [hreg, Keyed.get?_append, free]
      simp [Keyed.get?]
    · have hreg := hm.registered opened f key q hq hfin
      rcases h.register_kept hreg with hreg' | ⟨i, closer⟩ | ⟨g, outcome, hset, hdone⟩
      · exact hreg'
      · -- the register is cleared only after closing was signalled
        exact (not_open_and_closed opened (hm.guarded i _ closer (by simp))).elim
      · -- the flight that left the register is this one, but it is finished now
        have hreg'' := hm.registered opened g key _ hset rfl
        obtain rfl : f = g := Option.some.inj (hreg.symm.trans hreg'')
        obtain rfl : p = .finished outcome := by simpa using hf.symm.trans hdone
        cases hp
  committed := by
    intro closed' f g key p q hf hg hp hq
    cases closed : m.closed with
    | true =>
        obtain ⟨p₀, hf₀, hp₀⟩ := h.committed hm.linked closed hf hp
        obtain ⟨q₀, hg₀, hq₀⟩ := h.committed hm.linked closed hg hq
        exact hm.committed closed f g key p₀ q₀ hf₀ hg₀ hp₀ hq₀
    | false =>
        -- closing is being signalled: flights and callers are as they were
        cases h with
        | signal _ => exact hm.committed_unique hf hg hp hq
        | _ => exact (not_open_and_closed closed closed').elim
  vacant := by
    intro f key job hf
    -- nothing was live for the key before the move, and the flight was committed then
    have hbefore : m.store.Vacant key m.now ∧
        ∃ q, m.FlightAt f key q ∧ m.Committed f q ∧ ∀ value, q ≠ .made value := by
      rcases h.flight_before hf with ⟨q, hq, rfl | ⟨hnext, hpolled⟩⟩ | ⟨-, -, -, i, job', hnew, -⟩
      · exact ⟨hm.vacant f key job hq, _, hq, trivial, by simp⟩
      · cases hnext with
        | missed gone =>
            exact ⟨(CacheStore.live?_eq_none_iff hm.distinct).mp gone, _, hq, hpolled, by simp⟩
      · cases hnew
    obtain ⟨hvacant, q, hq, hcommitted, hmade⟩ := hbefore
    rcases h.vacant hvacant with hvacant' | ⟨g, value, hg, -⟩
    · exact hvacant'
    · -- a flight that stores a value for the key would be committed as well, so it is this one
      obtain rfl : f = g := hm.committed_unique hq hg hcommitted trivial
      cases hq.symm.trans hg
      exact absurd rfl (hmade value)

/-- Whatever is done to a cache, in whatever order, the invariant holds. -/
theorem exclusive_run (w : Workshop W J V) (config : CacheConfig) (world : W)
    (events : List (CacheEvent W J)) :
    ((start config world : CacheMachine W J V).run w events).Exclusive :=
  run_induction (.start config world) (fun hm h => hm.move h) events

/-- The number of misses is the number of constructions that were started. -/
theorem misses_run (w : Workshop W J V) (config : CacheConfig) (world : W)
    (events : List (CacheEvent W J)) :
    let m₀ : CacheMachine W J V := start config world
    (m₀.run w events).store.misses = (m₀.log w events).countP Milestone.isStart := by
  refine run_log_induction (P := fun m log => m.store.misses = log.countP Milestone.isStart)
    rfl ?_ events
  intro m₁ m₂ log milestone? hm h
  rw [h.misses, hm, List.countP_append]

/-- However callers, invalidations, clean-ups, closing and the clock are interleaved: at most one
construction is under way for a key, one comes under way only by being started, it is started only
where no live entry is left, and each start is counted as a miss. -/
theorem single_flight (w : Workshop W J V) (config : CacheConfig) (world : W)
    (events : List (CacheEvent W J)) :
    let m₀ : CacheMachine W J V := start config world
    let m := m₀.run w events
    (∀ f g key, m.Making f key → m.Making g key → f = g) ∧
      (∀ event f key, (∃ job, m.milestone? w event = some (.started f key job)) ↔
        ¬ m.Making f key ∧ (m.step w event).Making f key) ∧
      (∀ event f key job, m.milestone? w event = some (.started f key job) →
        ∀ e, (key, e) ∈ m.store.entries → m.store.expired e m.now = true) ∧
      m.store.misses = (m₀.log w events).countP Milestone.isStart := by
  intro m₀ m
  have hm : m.Exclusive := exclusive_run w config world events
  refine ⟨?_, fun event f key => (step_move w m event).started_iff, ?_,
    misses_run w config world events⟩
  · rintro f g key ⟨job, wake?, hf⟩ ⟨job', wake'?, hg⟩
    exact hm.committed_unique hf hg trivial trivial
  · intro event f key job hstart
    exact hm.vacant f key job ((step_move w m event).started_missed hstart)

end CacheMachine

end FleetGate
