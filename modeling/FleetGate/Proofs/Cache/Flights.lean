import FleetGate.Proofs.Cache.Moves

/-! # Flights, the register and those who wait

Says once where a move can take a flight and a caller: forwards, from what stood under a number
before the move (`Move.flight_next`, `Move.caller_next`), and backwards, from what stands there
after it (`Move.flight_before`, `Move.caller_before`). Flights and callers stay under their numbers
and keys for ever.

Whatever names a flight, the register or a caller that waits for it or polls it, names one of its
own key (`Linked`). Together with the order in which a cache is closed (`Guarded`) this is what the
other invariants of the cache start from.
-/

namespace FleetGate

/-- The flight that a caller waits for or polls. -/
def CallerPhase.flight? {J V : Type} : CallerPhase J V → Option Nat
  | .waiting f | .polling f => some f
  | _ => none

namespace CacheMachine

variable {W J V : Type} {w : Workshop W J V} {m m' : CacheMachine W J V}
  {milestone? : Option (Milestone J V)} {i f g : Nat} {own key : CacheKey}
  {p q : FlightPhase J V}

/-- Some caller polls a flight. -/
def Polled (m : CacheMachine W J V) (f : Nat) : Prop := ∃ i own, m.CallerAt i own (.polling f)

/-! ## From stage to stage -/

/-- The stage of a flight that follows a stage, as the cache stands, with what is remembered. -/
inductive FlightNext (w : Workshop W J V) (m : CacheMachine W J V) (f : Nat) (key : CacheKey) :
    Option (Milestone J V) → FlightPhase J V → FlightPhase J V → Prop
  | reused {job e} (live : m.store.live? key m.now = some e) :
      FlightNext w m f key none (.unstarted job) (.settled (.ok e.value))
  | missed {job} (gone : m.store.live? key m.now = none) :
      FlightNext w m f key none (.unstarted job) (.missed job)
  | started {job} :
      FlightNext w m f key (some (.started f key job)) (.missed job) (.making job none)
  | worked {job wake? job' world}
      (advance : w.advance m.now job m.world = (.working job', world)) :
      FlightNext w m f key none (.making job wake?) (.making job' none)
  | stalled {job wake? job' next? world}
      (advance : w.advance m.now job m.world = (.waiting job' next?, world)) :
      FlightNext w m f key none (.making job wake?) (.making job' next?)
  | built {job wake? value world}
      (advance : w.advance m.now job m.world = (.finished (.ok value), world)) :
      FlightNext w m f key (some (.ended f key (.ok value))) (.making job wake?) (.made value)
  | failed {job wake? error world}
      (advance : w.advance m.now job m.world = (.finished (.error error), world)) :
      FlightNext w m f key (some (.ended f key (.error error))) (.making job wake?)
        (.settled (.error error))
  | discarded {value} (closed : m.closed = true) :
      FlightNext w m f key none (.made value) (.settled (.error .closed))
  | stored {value} (opened : m.closed = false) :
      FlightNext w m f key none (.made value) (.settled (.ok value))
  | left {outcome} : FlightNext w m f key none (.settled outcome) (.finished outcome)

theorem flight_next_setFlight {p₀ : FlightPhase J V} (caller : m.CallerAt i key (.polling g))
    (flight : m.FlightAt g own p₀) (hnext : FlightNext w m g own milestone? p₀ q)
    {key' : CacheKey} (hf : m.FlightAt f key' p) :
    ∃ r, (m.setFlight g q).FlightAt f key' r ∧
      (r = p ∨ FlightNext w m f key' milestone? p r ∧ m.Polled f) := by
  by_cases hg : f = g
  · subst hg
    obtain ⟨rfl, rfl⟩ : own = key' ∧ p₀ = p := by simpa using flight.symm.trans hf
    exact ⟨q, setFlight_self flight q,
      Or.inr ⟨hnext, i, key, caller⟩⟩
  · exact ⟨p, (flightAt_setFlight flight).mpr (Or.inr ⟨hg, hf⟩), Or.inl rfl⟩

/-- A flight stays, under its number and key, and goes from stage to stage while it is polled. -/
theorem Move.flight_next (h : Move w m milestone? m') (hf : m.FlightAt f key p) :
    ∃ q, m'.FlightAt f key q ∧ (q = p ∨ FlightNext w m f key milestone? p q ∧ m.Polled f) := by
  cases h with
  | launch _ _ =>
      have hlt := (List.getElem?_eq_some_iff.mp hf).1
      exact ⟨p, (List.getElem?_append_left hlt).trans hf, Or.inl rfl⟩
  | reuse caller flight live => exact flight_next_setFlight caller flight (.reused live) hf
  | miss caller flight gone => exact flight_next_setFlight caller flight (.missed gone) hf
  | start caller flight => exact flight_next_setFlight caller flight .started hf
  | work caller flight advance => exact flight_next_setFlight caller flight (.worked advance) hf
  | stall caller flight advance => exact flight_next_setFlight caller flight (.stalled advance) hf
  | build caller flight advance => exact flight_next_setFlight caller flight (.built advance) hf
  | fail caller flight advance => exact flight_next_setFlight caller flight (.failed advance) hf
  | discard caller flight closed =>
      exact flight_next_setFlight caller flight (.discarded closed) hf
  | store caller flight opened => exact flight_next_setFlight caller flight (.stored opened) hf
  | leave caller flight => exact flight_next_setFlight caller flight .left hf
  | _ => exact ⟨p, hf, Or.inl rfl⟩

/-- What holds of a stage and of all that can follow stays true of a flight. -/
theorem Move.flight_kept (h : Move w m milestone? m') {P : FlightPhase J V → Prop}
    (next : ∀ {p q}, P p → FlightNext w m f key milestone? p q → P q)
    (hf : ∃ p, m.FlightAt f key p ∧ P p) : ∃ p, m'.FlightAt f key p ∧ P p := by
  obtain ⟨p, hp, hP⟩ := hf
  obtain ⟨q, hq, rfl | ⟨hnext, -⟩⟩ := h.flight_next hp
  · exact ⟨q, hq, hP⟩
  · exact ⟨q, hq, next hP hnext⟩

theorem Move.flight_there (h : Move w m milestone? m') (hf : m.FlightAt f key p) :
    ∃ q, m'.FlightAt f key q := by
  obtain ⟨q, hq, -⟩ := h.flight_next hf
  exact ⟨q, hq⟩

/-- A flight that was not there before was launched, by a caller that found none registered. -/
theorem Move.flight_new (h : Move w m milestone? m') (hf : m'.FlightAt f key p)
    (hlen : m.flights.length ≤ f) :
    f = m.flights.length ∧ Keyed.get? key m.registered = none ∧
      m'.registered = m.registered ++ [(key, f)] ∧
      ∃ i job, p = .unstarted job ∧ m.CallerAt i key (.joining job) ∧
        milestone? = some (.launched i f key job) := by
  have hlt := (List.getElem?_eq_some_iff.mp hf).1
  cases h with
  | launch caller free =>
      rcases getElem?_concat_eq_some_iff.mp hf with hf | ⟨rfl, hx⟩
      · exact absurd (List.getElem?_eq_some_iff.mp hf).1 (Nat.not_lt.mpr hlen)
      · cases hx
        exact ⟨rfl, free, rfl, _, _, rfl, caller, rfl⟩
  | reuse _ _ _ | miss _ _ _ | start _ _ | work _ _ _ | stall _ _ _ | build _ _ _ | fail _ _ _
  | discard _ _ _ | store _ _ _ | leave _ _ =>
      simp only [setCaller, setFlight, List.length_modify] at hlt
      omega
  | _ => exact absurd hlt (Nat.not_lt.mpr hlen)

/-- A flight that is there after a move stood there before, at the same stage or the one that its
stage follows, or it was launched. -/
theorem Move.flight_before (h : Move w m milestone? m') (hf : m'.FlightAt f key p) :
    (∃ q, m.FlightAt f key q ∧ (p = q ∨ FlightNext w m f key milestone? q p ∧ m.Polled f)) ∨
      (f = m.flights.length ∧ Keyed.get? key m.registered = none ∧
        m'.registered = m.registered ++ [(key, f)] ∧
        ∃ i job, p = .unstarted job ∧ m.CallerAt i key (.joining job) ∧
          milestone? = some (.launched i f key job)) := by
  by_cases hlt : f < m.flights.length
  · -- what stood under the number before the move leads to what stands there now
    obtain ⟨⟨key', q⟩, hq⟩ : ∃ x, m.flights[f]? = some x := ⟨_, List.getElem?_eq_getElem hlt⟩
    obtain ⟨r, hr, hnext⟩ := h.flight_next hq
    cases hf.symm.trans hr
    exact Or.inl ⟨q, hq, hnext⟩
  · exact Or.inr (h.flight_new hf (Nat.not_lt.mp hlt))

/-- What is started is a flight that found nothing. -/
theorem Move.started_missed (h : Move w m milestone? m') {job : J}
    (hstart : milestone? = some (.started f key job)) : m.FlightAt f key (.missed job) := by
  subst hstart
  cases h with
  | start _ flight => exact flight

/-- What is launched is there, for a caller that was about to join. -/
theorem Move.launched (h : Move w m milestone? m') {job : J}
    (hlaunch : milestone? = some (.launched i f key job)) :
    m.CallerAt i key (.joining job) ∧ m'.FlightAt f key (.unstarted job) := by
  subst hlaunch
  cases h with
  | launch caller _ => exact ⟨caller, List.getElem?_concat_length⟩

/-- What is launched takes the next number. -/
theorem Move.launched_new (h : Move w m milestone? m') {job : J}
    (hlaunch : milestone? = some (.launched i f key job)) : f = m.flights.length := by
  subst hlaunch
  cases h with
  | launch _ _ => rfl

/-- No flight is taken away. -/
theorem Move.flights_length (h : Move w m milestone? m') :
    m.flights.length ≤ m'.flights.length := by
  by_contra hlt
  -- the last flight before the move is still there
  obtain ⟨⟨key, p⟩, hp⟩ : ∃ x, m.flights[m'.flights.length]? = some x :=
    ⟨_, List.getElem?_eq_getElem (Nat.not_le.mp hlt)⟩
  obtain ⟨q, hq⟩ := h.flight_there hp
  exact Nat.lt_irrefl _ (List.getElem?_eq_some_iff.mp hq).1

/-! ## From phase to phase -/

/-- The phase of a caller that follows a phase, as the cache stands, with what is remembered. -/
inductive CallerNext (m : CacheMachine W J V) (i : Nat) (key : CacheKey) :
    Option (Milestone J V) → CallerPhase J V → CallerPhase J V → Prop
  | hit {job e} (live : m.store.live? key m.now = some e) :
      CallerNext m i key none (.looking job) (.returned (.ok e.value))
  | sought {job} : CallerNext m i key none (.looking job) (.joining job)
  | boarded {job : J} {f : Nat} (found : Keyed.get? key m.registered = some f) :
      CallerNext m i key none (.joining job) (.waiting f)
  | launched {job : J} {f : Nat} :
      CallerNext m i key (some (.launched i f key job)) (.joining job) (.waiting f)
  | dismissed {f : Nat} (closed : m.closed = true) :
      CallerNext m i key none (.waiting f) (.returned (.error .closed))
  | polled {f : Nat} (opened : m.closed = false) :
      CallerNext m i key none (.waiting f) (.polling f)
  | rested {f : Nat} : CallerNext m i key none (.polling f) (.waiting f)
  | delivered {f : Nat} {owner outcome} (flight : m.FlightAt f owner (.finished outcome)) :
      CallerNext m i key none (.polling f) (.returned outcome)
  | droppedLooking {job} : CallerNext m i key none (.looking job) .dropped
  | droppedWaiting {f : Nat} : CallerNext m i key none (.waiting f) .dropped

section
variable {p p₀ q : CallerPhase J V}

theorem caller_next_setCaller {j : Nat} (caller : m.CallerAt j own p₀)
    (hnext : CallerNext m j own milestone? p₀ q) (hc : m.CallerAt i key p) :
    ∃ r, (m.setCaller j q).CallerAt i key r ∧ (r = p ∨ CallerNext m i key milestone? p r) := by
  by_cases hi : i = j
  · subst hi
    obtain ⟨rfl, rfl⟩ : own = key ∧ p₀ = p := by simpa using caller.symm.trans hc
    exact ⟨q, setCaller_self caller q, Or.inr hnext⟩
  · exact ⟨p, (callerAt_setCaller caller).mpr (Or.inr ⟨hi, hc⟩), Or.inl rfl⟩

/-- A caller stays, under its number and key, and goes from phase to phase. -/
theorem Move.caller_next (h : Move w m milestone? m') (hc : m.CallerAt i key p) :
    ∃ q, m'.CallerAt i key q ∧ (q = p ∨ CallerNext m i key milestone? p q) := by
  cases h with
  | turnAway _ | enter _ =>
      have hlt := (List.getElem?_eq_some_iff.mp hc).1
      exact ⟨p, (List.getElem?_append_left hlt).trans hc, Or.inl rfl⟩
  | hit caller live => exact caller_next_setCaller caller (.hit live) hc
  | seek caller _ => exact caller_next_setCaller caller .sought hc
  | board caller found => exact caller_next_setCaller caller (.boarded found) hc
  | launch caller _ => exact caller_next_setCaller caller .launched hc
  | dismiss caller closed => exact caller_next_setCaller caller (.dismissed closed) hc
  | poll caller opened => exact caller_next_setCaller caller (.polled opened) hc
  | rest caller | stall caller _ _ => exact caller_next_setCaller caller .rested hc
  | deliver caller flight => exact caller_next_setCaller caller (.delivered flight) hc
  | drop caller pending =>
      rcases pending with ⟨job, rfl⟩ | ⟨f, rfl⟩
      · exact caller_next_setCaller caller .droppedLooking hc
      · exact caller_next_setCaller caller .droppedWaiting hc
  | _ => exact ⟨p, hc, Or.inl rfl⟩

/-- A caller that was not there before came in. -/
theorem Move.caller_new (h : Move w m milestone? m') (hc : m'.CallerAt i key p)
    (hlen : m.callers.length ≤ i) :
    (m.closed = true ∧ p = .returned (.error .closed)) ∨
      ∃ job, p = .looking job ∧ milestone? = some (.asked i key job) := by
  have hlt := (List.getElem?_eq_some_iff.mp hc).1
  cases h with
  | turnAway closed =>
      rcases getElem?_concat_eq_some_iff.mp hc with hc | ⟨rfl, hx⟩
      · exact absurd (List.getElem?_eq_some_iff.mp hc).1 (Nat.not_lt.mpr hlen)
      · cases hx
        exact Or.inl ⟨closed, rfl⟩
  | enter _ =>
      rcases getElem?_concat_eq_some_iff.mp hc with hc | ⟨rfl, hx⟩
      · exact absurd (List.getElem?_eq_some_iff.mp hc).1 (Nat.not_lt.mpr hlen)
      · cases hx
        exact Or.inr ⟨_, rfl, rfl⟩
  | hit _ _ | seek _ _ | board _ _ | launch _ _ | dismiss _ _ | poll _ _ | rest _ | drop _ _
  | stall _ _ _ | deliver _ _ =>
      simp only [setCaller, setFlight, List.length_modify] at hlt
      omega
  | _ => exact absurd hlt (Nat.not_lt.mpr hlen)

/-- A caller that is there after a move stood there before, in the same phase or the one that its
phase follows, or it came in. -/
theorem Move.caller_before (h : Move w m milestone? m') (hc : m'.CallerAt i key p) :
    (∃ q, m.CallerAt i key q ∧ (p = q ∨ CallerNext m i key milestone? q p)) ∨
      (m.closed = true ∧ p = .returned (.error .closed)) ∨
      ∃ job, p = .looking job ∧ milestone? = some (.asked i key job) := by
  by_cases hlt : i < m.callers.length
  · -- what stood under the number before the move leads to what stands there now
    obtain ⟨⟨key', q⟩, hq⟩ : ∃ x, m.callers[i]? = some x := ⟨_, List.getElem?_eq_getElem hlt⟩
    obtain ⟨r, hr, hnext⟩ := h.caller_next hq
    cases hc.symm.trans hr
    exact Or.inl ⟨q, hq, hnext⟩
  · exact Or.inr (h.caller_new hc (Nat.not_lt.mp hlt))

/-- Callers stay, under their numbers and keys. -/
theorem caller_run (w : Workshop W J V) (hc : m.CallerAt i key p)
    (events : List (CacheEvent W J)) : ∃ q, (m.run w events).CallerAt i key q := by
  refine run_induction (P := fun m => ∃ q, m.CallerAt i key q) ⟨p, hc⟩ ?_ events
  rintro m₁ m₂ milestone? ⟨p, hc⟩ h
  obtain ⟨q, hq, -⟩ := h.caller_next hc
  exact ⟨q, hq⟩

end

/-! ## Names of flights -/

/-- Whatever names a flight names one of its own key. -/
structure Linked (m : CacheMachine W J V) : Prop where
  registered : ∀ key f, Keyed.get? key m.registered = some f → ∃ p, m.FlightAt f key p
  awaited : ∀ i key phase f, m.CallerAt i key phase → phase.flight? = some f →
    ∃ p, m.FlightAt f key p

/-- A caller that has a flight after a move had it before, or found it in the register, or launched
it. -/
theorem Move.boarded (h : Move w m milestone? m') {phase : CallerPhase J V}
    (hc : m'.CallerAt i key phase) (hf : phase.flight? = some f) :
    (∃ before, m.CallerAt i key before ∧ before.flight? = some f) ∨
      Keyed.get? key m.registered = some f ∨ ∃ job, m'.FlightAt f key (.unstarted job) := by
  rcases h.caller_before hc with ⟨before, hbefore, rfl | hnext⟩ | ⟨-, rfl⟩ | ⟨job, rfl, -⟩
  · exact Or.inl ⟨phase, hbefore, hf⟩
  · cases hnext with
    | boarded found =>
        obtain rfl := Option.some.inj hf
        exact Or.inr (Or.inl found)
    | launched =>
        obtain rfl := Option.some.inj hf
        exact Or.inr (Or.inr ⟨_, (h.launched rfl).2⟩)
    | polled _ | rested => exact Or.inl ⟨_, hbefore, hf⟩
    | _ => cases hf
  · cases hf
  · cases hf

/-- What stands in the register after a move stood there before or was launched. -/
theorem Move.registered (h : Move w m milestone? m')
    (hf : Keyed.get? key m'.registered = some f) :
    Keyed.get? key m.registered = some f ∨
      f = m.flights.length ∧ ∃ job, m'.FlightAt f key (.unstarted job) := by
  cases h with
  | @launch _ own job _ free =>
      rw [setCaller, Keyed.get?_append, Option.or_eq_some_iff] at hf
      rcases hf with hf | ⟨-, hf⟩
      · exact Or.inl hf
      · simp only [Keyed.get?] at hf
        split at hf
        · rename_i hkey
          subst hkey
          obtain rfl := Option.some.inj hf
          exact Or.inr ⟨rfl, job, List.getElem?_concat_length⟩
        · cases hf
  | @leave _ _ _ own _ _ _ =>
      by_cases hkey : key = own
      · -- the register holds nothing for the key of the flight that left
        subst hkey
        have gone : Keyed.get? key (Keyed.erase key m.registered) = none :=
          Keyed.get?_erase_self key m.registered
        exact absurd (gone.symm.trans hf) (by simp)
      · exact Or.inl ((Keyed.get?_erase_of_ne hkey _).symm.trans hf)
  | forget _ => cases hf
  | _ => exact Or.inl hf

theorem Linked.start (config : CacheConfig) (world : W) :
    (start config world : CacheMachine W J V).Linked where
  registered _ _ hf := by cases hf
  awaited _ _ _ _ hc _ := by cases hc

theorem Linked.move (hm : m.Linked) (h : Move w m milestone? m') : m'.Linked where
  registered key f hf := by
    rcases h.registered hf with hf | ⟨-, job, hf⟩
    · obtain ⟨p, hp⟩ := hm.registered key f hf
      exact h.flight_there hp
    · exact ⟨_, hf⟩
  awaited i key phase f hc hf := by
    rcases h.boarded hc hf with ⟨before, hc, hf⟩ | hf | ⟨job, hf⟩
    · obtain ⟨p, hp⟩ := hm.awaited i key before f hc hf
      exact h.flight_there hp
    · obtain ⟨p, hp⟩ := hm.registered key f hf
      exact h.flight_there hp
    · exact ⟨_, hf⟩

/-! ## The entries -/

/-- What is stored after a move was stored before, or was made by a flight of its key and stored
while the cache was open. -/
theorem Move.stored (h : Move w m milestone? m') {e : CacheEntry V}
    (he : (key, e) ∈ m'.store.entries) :
    (∃ e₀, (key, e₀) ∈ m.store.entries ∧ e₀.value = e.value) ∨
      (m.closed = false ∧ ∃ f, m.FlightAt f key (.made e.value)) := by
  cases h with
  | hit _ _ | reuse _ _ _ => exact Or.inl (CacheStore.value_of_mem_touched he)
  | @store _ _ f own value _ flight opened =>
      rcases CacheStore.mem_insert he with he | ⟨rfl, rfl⟩
      · exact Or.inl ⟨e, he, rfl⟩
      · exact Or.inr ⟨opened, f, flight⟩
  | purge test _ => exact Or.inl ⟨e, CacheStore.mem_of_mem_keep he, rfl⟩
  | clear _ => cases he
  | _ => exact Or.inl ⟨e, he, rfl⟩

/-! ## Closing -/

/-- A cache is not open and closed. -/
theorem not_open_and_closed (opened : m.closed = false) (closed : m.closed = true) : False := by
  rw [opened] at closed
  cases closed

/-- Closing is never taken back. -/
theorem Move.closed (h : Move w m milestone? m') (hm : m.closed = true) : m'.closed = true := by
  cases h with
  | signal _ => rfl
  | _ => exact hm

/-- A cache that is open was so before. -/
theorem Move.opened (h : Move w m milestone? m') (hm : m'.closed = false) : m.closed = false := by
  by_contra closed
  exact not_open_and_closed hm (h.closed (by simpa using closed))

/-- Whoever closes the cache goes on only after closing was signalled. -/
def Guarded (m : CacheMachine W J V) : Prop :=
  ∀ (i : Nat) (phase : CloserPhase), m.closers[i]? = some phase → phase ≠ .signalling →
    m.closed = true

theorem Guarded.start (config : CacheConfig) (world : W) :
    (start config world : CacheMachine W J V).Guarded := by
  intro i phase h
  cases h

theorem Guarded.move (hm : m.Guarded) (h : Move w m milestone? m') : m'.Guarded := by
  intro i phase hi hne
  cases h with
  | close =>
      rcases getElem?_concat_eq_some_iff.mp hi with hi | ⟨-, rfl⟩
      · exact hm i phase hi hne
      · by_contra closed
        exact hne (if_neg closed)
  | signal _ => rfl
  | claim closer _ => exact hm _ _ closer (by simp)
  | proceed closer before =>
      rcases before with rfl | rfl
      · exact hm _ _ closer (by simp)
      · exact hm _ _ closer (by simp)
  | clear closer => exact hm _ _ closer (by simp)
  | forget closer => exact hm _ _ closer (by simp)
  | _ => exact hm i phase hi hne

end CacheMachine

end FleetGate
