import FleetGate.Proofs.Cache.Flights

/-! # Where values come from

Every value that a cache hands out was produced by a construction that some caller supplied for the
same key. A value reaches a caller through an entry, through a flight that others launched, or
through one of its own; on each of these ways the log of the run holds the evidence, and evidence is
never lost. A flight whose construction failed keeps its error, and that is all it hands out.
-/

namespace FleetGate

namespace Workshop

variable {W J V : Type}

/-- What a job can become by being carried on, at whatever times and in whatever worlds. -/
inductive Leads (w : Workshop W J V) (first : J) : J → Prop
  | refl : Leads w first first
  | work {job job' now world world'} (before : Leads w first job)
      (advance : w.advance now job world = (.working job', world')) : Leads w first job'
  | wait {job job' wake? now world world'} (before : Leads w first job)
      (advance : w.advance now job world = (.waiting job' wake?, world')) : Leads w first job'

/-- An outcome that a job can come to. -/
def Yields (w : Workshop W J V) (first : J) (outcome : FleetResult V) : Prop :=
  ∃ job now world world', w.Leads first job ∧ w.advance now job world = (.finished outcome, world')

end Workshop

variable {W J V : Type} {w : Workshop W J V} {log more : List (Milestone J V)} {i f : Nat}
  {key own : CacheKey} {job : J} {value : V} {outcome : FleetResult V}

/-! ## Evidence -/

/-- A caller came in with a key and a job, and launched a flight for it. -/
def Supplied (log : List (Milestone J V)) (f : Nat) (key : CacheKey) (job : J) : Prop :=
  ∃ i, .asked i key job ∈ log ∧ .launched i f key job ∈ log

/-- A flight started the job that was supplied for its key, and the job ended with a value. -/
def Produced (w : Workshop W J V) (log : List (Milestone J V)) (f : Nat) (key : CacheKey)
    (value : V) : Prop :=
  ∃ job, Supplied log f key job ∧ .started f key job ∈ log ∧ .ended f key (.ok value) ∈ log ∧
    w.Yields job (.ok value)

/-- If an outcome is a value, some flight produced it for the key. -/
def Backed (w : Workshop W J V) (log : List (Milestone J V)) (key : CacheKey)
    (outcome : FleetResult V) : Prop :=
  ∀ value, outcome = .ok value → ∃ f, Produced w log f key value

/-- A stage of a flight whose construction has ended, or was not needed. -/
def FlightPhase.HasEnded : FlightPhase J V → Prop
  | .made _ | .settled _ | .finished _ => True
  | _ => False

/-- A stage of a flight that has nothing but an error to hand out. -/
def FlightPhase.HasFailed (error : FleetError) : FlightPhase J V → Prop
  | .settled outcome | .finished outcome => outcome = .error error
  | _ => False

/-- What the log holds of a flight, by the stage it has reached. -/
def FlightPhase.Evident (w : Workshop W J V) (log : List (Milestone J V)) (f : Nat)
    (key : CacheKey) : FlightPhase J V → Prop
  | .unstarted job | .missed job => Supplied log f key job
  | .making job _ => ∃ first, Supplied log f key first ∧ .started f key first ∈ log ∧
      w.Leads first job
  | .made value => Produced w log f key value
  | .settled outcome | .finished outcome => Backed w log key outcome

/-- What the log holds of a caller, by the stage it has reached. -/
def CallerPhase.Evident (w : Workshop W J V) (log : List (Milestone J V)) (i : Nat)
    (key : CacheKey) : CallerPhase J V → Prop
  | .looking job | .joining job => .asked i key job ∈ log
  | .returned outcome => Backed w log key outcome
  | _ => True

theorem Supplied.mono (h : Supplied log f key job) : Supplied (log ++ more) f key job := by
  obtain ⟨i, hasked, hlaunched⟩ := h
  exact ⟨i, List.mem_append_left _ hasked, List.mem_append_left _ hlaunched⟩

theorem Produced.mono (h : Produced w log f key value) : Produced w (log ++ more) f key value := by
  obtain ⟨job, hsupplied, hstarted, hended, hyields⟩ := h
  exact ⟨job, hsupplied.mono, List.mem_append_left _ hstarted, List.mem_append_left _ hended,
    hyields⟩

theorem Backed.mono (h : Backed w log key outcome) : Backed w (log ++ more) key outcome := by
  intro value hvalue
  obtain ⟨f, hf⟩ := h value hvalue
  exact ⟨f, hf.mono⟩

/-- An error needs no evidence. -/
theorem Backed.of_error {error : FleetError} :
    Backed w log key (.error error : FleetResult V) := by
  intro value hvalue
  cases hvalue

theorem Backed.of_produced (h : ∃ f, Produced w log f key value) :
    Backed w log key (.ok value) := by
  rintro value' ⟨⟩
  exact h

theorem FlightPhase.Evident.mono {p : FlightPhase J V} (h : p.Evident w log f key) :
    p.Evident w (log ++ more) f key := by
  cases p with
  | unstarted _ | missed _ => exact Supplied.mono h
  | making _ _ =>
      obtain ⟨first, hsupplied, hstarted, hleads⟩ := h
      exact ⟨first, hsupplied.mono, List.mem_append_left _ hstarted, hleads⟩
  | made _ => exact Produced.mono h
  | settled _ | finished _ => exact Backed.mono h

theorem CallerPhase.Evident.mono {p : CallerPhase J V} (h : p.Evident w log i key) :
    p.Evident w (log ++ more) i key := by
  cases p with
  | looking _ | joining _ => exact List.mem_append_left _ h
  | returned _ => exact Backed.mono h
  | waiting _ | polling _ | dropped => trivial

namespace CacheMachine

variable {m m' : CacheMachine W J V} {milestone? : Option (Milestone J V)}

/-- The log of a run holds the evidence for all that a cache holds. -/
structure Traced (w : Workshop W J V) (m : CacheMachine W J V) (log : List (Milestone J V)) :
    Prop where
  linked : m.Linked
  starts : ∀ f key job, .started f key job ∈ log → Supplied log f key job
  entries : ∀ key e, (key, e) ∈ m.store.entries → ∃ f, Produced w log f key e.value
  flights : ∀ f key p, m.FlightAt f key p → p.Evident w log f key
  callers : ∀ i key p, m.CallerAt i key p → p.Evident w log i key

/-- The key of a flight is that of whoever polls it. -/
theorem Linked.key_eq (hm : m.Linked) {p : FlightPhase J V}
    (caller : m.CallerAt i own (.polling f)) (flight : m.FlightAt f key p) : key = own := by
  obtain ⟨q, hq⟩ := hm.awaited i own _ f caller rfl
  cases flight.symm.trans hq
  rfl

/-- A live entry was produced for its key. -/
theorem Traced.live (hm : m.Traced w log) {e : CacheEntry V}
    (live : m.store.live? key m.now = some e) : Backed w log key (.ok e.value) :=
  .of_produced (hm.entries key e (CacheStore.mem_of_live? live).1)

/-- Only what was supplied is started. -/
theorem Traced.starts_move (hm : m.Traced w log) (h : Move w m milestone? m') :
    ∀ f key job, .started f key job ∈ log ++ milestone?.toList →
      Supplied (log ++ milestone?.toList) f key job := by
  intro f key job hf
  rcases mem_log_concat_iff.mp hf with hf | hf
  · exact (hm.starts f key job hf).mono
  · exact Supplied.mono (hm.flights f key _ (h.started_missed hf))

theorem Traced.entries_move (hm : m.Traced w log) (h : Move w m milestone? m') :
    ∀ key e, (key, e) ∈ m'.store.entries →
      ∃ f, Produced w (log ++ milestone?.toList) f key e.value := by
  intro key e he
  rcases h.stored he with ⟨e₀, hold, hvalue⟩ | ⟨-, f, flight⟩
  · obtain ⟨f, hf⟩ := hm.entries key e₀ hold
    rw [hvalue] at hf
    exact ⟨f, hf.mono⟩
  · exact ⟨f, Produced.mono (hm.flights f key _ flight)⟩

/-- A flight goes only where its evidence allows. -/
theorem Traced.flights_move (hm : m.Traced w log) (h : Move w m milestone? m') :
    ∀ f key p, m'.FlightAt f key p → p.Evident w (log ++ milestone?.toList) f key := by
  intro f key p hf
  rcases h.flight_before hf with ⟨q, hq, rfl | ⟨hnext, -⟩⟩ | ⟨-, -, -, i, job, rfl, caller, rfl⟩
  · exact (hm.flights f key p hq).mono
  · have hevident := hm.flights f key q hq
    cases hnext with
    | reused live => exact Backed.mono (hm.live live)
    | missed _ => exact Supplied.mono hevident
    | @started job =>
        have hsupplied : Supplied log f key job := hevident
        exact ⟨job, hsupplied.mono, mem_log_concat_iff.mpr (Or.inr rfl), .refl⟩
    | worked advance =>
        obtain ⟨first, hsupplied, hstarted, hleads⟩ := hevident
        exact ⟨first, hsupplied.mono, List.mem_append_left _ hstarted, .work hleads advance⟩
    | stalled advance =>
        obtain ⟨first, hsupplied, hstarted, hleads⟩ := hevident
        exact ⟨first, hsupplied.mono, List.mem_append_left _ hstarted, .wait hleads advance⟩
    | built advance =>
        obtain ⟨first, hsupplied, hstarted, hleads⟩ := hevident
        exact ⟨first, hsupplied.mono, List.mem_append_left _ hstarted,
          mem_log_concat_iff.mpr (Or.inr rfl), _, _, _, _, hleads, advance⟩
    | failed _ | discarded _ => exact Backed.of_error
    | stored _ => exact Backed.of_produced ⟨f, Produced.mono hevident⟩
    | left => exact Backed.mono hevident
  · have hasked : .asked i key job ∈ log := hm.callers i key _ caller
    exact ⟨i, List.mem_append_left _ hasked, mem_log_concat_iff.mpr (Or.inr rfl)⟩

/-- A caller goes only where its evidence allows. -/
theorem Traced.callers_move (hm : m.Traced w log) (h : Move w m milestone? m') :
    ∀ i key p, m'.CallerAt i key p → p.Evident w (log ++ milestone?.toList) i key := by
  intro i key p hc
  rcases h.caller_before hc with ⟨q, hq, rfl | hnext⟩ | ⟨-, rfl⟩ | ⟨job, rfl, rfl⟩
  · exact (hm.callers i key p hq).mono
  · cases hnext with
    | hit live => exact Backed.mono (hm.live live)
    | sought => exact List.mem_append_left _ (hm.callers i key _ hq)
    | dismissed _ => exact Backed.of_error
    | delivered flight =>
        -- the flight that is polled is one of the caller's key
        obtain rfl := hm.linked.key_eq hq flight
        exact Backed.mono (hm.flights _ _ _ flight)
    | boarded _ | launched | polled _ | rested | droppedLooking | droppedWaiting => trivial
  · exact Backed.of_error
  · exact mem_log_concat_iff.mpr (Or.inr rfl)

theorem Traced.start (w : Workshop W J V) (config : CacheConfig) (world : W) :
    (start config world : CacheMachine W J V).Traced w [] where
  linked := .start config world
  starts _ _ _ hf := by cases hf
  entries _ _ he := by cases he
  flights _ _ _ hf := by cases hf
  callers _ _ _ hi := by cases hi

theorem Traced.move (hm : m.Traced w log) (h : Move w m milestone? m') :
    m'.Traced w (log ++ milestone?.toList) where
  linked := hm.linked.move h
  starts := hm.starts_move h
  entries := hm.entries_move h
  flights := hm.flights_move h
  callers := hm.callers_move h

/-- Whatever is done to a cache, in whatever order, its log holds the evidence. -/
theorem traced_run (w : Workshop W J V) (config : CacheConfig) (world : W)
    (events : List (CacheEvent W J)) :
    let m₀ : CacheMachine W J V := CacheMachine.start config world
    (m₀.run w events).Traced w (m₀.log w events) :=
  run_log_induction (.start w config world) (fun hm h => hm.move h) events

/-! ## Constructions that ended -/

theorem FlightNext.hasEnded {p q : FlightPhase J V} (h : FlightNext w m f key milestone? p q)
    (hp : p.HasEnded) : q.HasEnded := by
  cases h with
  | discarded _ | stored _ | left => trivial
  | _ => exact hp.elim

theorem FlightNext.hasFailed {error : FleetError} {p q : FlightPhase J V}
    (h : FlightNext w m f key milestone? p q) (hp : p.HasFailed error) : q.HasFailed error := by
  cases h with
  | left => exact hp
  | _ => exact hp.elim

/-- What a construction ended with is where its flight goes on from. -/
theorem Move.ended (h : Move w m milestone? m')
    (hended : milestone? = some (.ended f key outcome)) :
    (∃ job wake?, m.FlightAt f key (.making job wake?) ∧
        (w.advance m.now job m.world).1 = .finished outcome) ∧
      ∃ p, m'.FlightAt f key p ∧ p.HasEnded ∧
        ∀ error, outcome = .error error → p.HasFailed error := by
  subst hended
  cases h with
  | @build _ _ _ _ job wake? value _ _ flight advance =>
      refine ⟨⟨job, wake?, flight, by rw [advance]⟩, .made value,
        setFlight_self flight _, trivial, ?_⟩
      intro error herror
      cases herror
  | @fail _ _ _ _ job wake? error _ _ flight advance =>
      refine ⟨⟨job, wake?, flight, by rw [advance]⟩, .settled (.error error),
        setFlight_self flight _, trivial, ?_⟩
      rintro _ ⟨⟩
      rfl

/-- What is remembered of the ends of constructions agrees with the flights. -/
structure Concluded (m : CacheMachine W J V) (log : List (Milestone J V)) : Prop where
  ended : ∀ f key outcome, .ended f key outcome ∈ log → ∃ p, m.FlightAt f key p ∧ p.HasEnded
  failed : ∀ f key error, .ended f key (.error error) ∈ log →
    ∃ p, m.FlightAt f key p ∧ p.HasFailed error
  once : ∀ f key key' outcome outcome', .ended f key outcome ∈ log →
    .ended f key' outcome' ∈ log → outcome = outcome'

/-- The flight of a construction that ends has not ended one before. -/
theorem Concluded.fresh (hm : m.Concluded log) (h : Move w m milestone? m') {own : CacheKey}
    {before : FleetResult V} (hended : milestone? = some (.ended f key outcome))
    (hold : .ended f own before ∈ log) : False := by
  obtain ⟨⟨job, wake?, hmaking, -⟩, -⟩ := h.ended hended
  obtain ⟨p, hp, hover⟩ := hm.ended f own before hold
  cases hmaking.symm.trans hp
  exact hover

theorem Concluded.move (hm : m.Concluded log) (h : Move w m milestone? m') :
    m'.Concluded (log ++ milestone?.toList) where
  ended f key outcome hf := by
    rcases mem_log_concat_iff.mp hf with hf | hf
    · exact h.flight_kept (fun hp hnext => hnext.hasEnded hp) (hm.ended f key outcome hf)
    · obtain ⟨-, p, hp, hover, -⟩ := h.ended hf
      exact ⟨p, hp, hover⟩
  failed f key error hf := by
    rcases mem_log_concat_iff.mp hf with hf | hf
    · exact h.flight_kept (fun hp hnext => hnext.hasFailed hp) (hm.failed f key error hf)
    · obtain ⟨-, p, hp, -, hfailed⟩ := h.ended hf
      exact ⟨p, hp, hfailed error rfl⟩
  once f key key' outcome outcome' hf hf' := by
    rcases mem_log_concat_iff.mp hf with hf | hf <;> rcases mem_log_concat_iff.mp hf' with hf' | hf'
    · exact hm.once f key key' outcome outcome' hf hf'
    · exact (hm.fresh h hf' hf).elim
    · exact (hm.fresh h hf hf').elim
    · cases hf.symm.trans hf'
      rfl

theorem concluded_run (w : Workshop W J V) (config : CacheConfig) (world : W)
    (events : List (CacheEvent W J)) :
    let m₀ : CacheMachine W J V := CacheMachine.start config world
    (m₀.run w events).Concluded (m₀.log w events) := by
  refine run_log_induction ⟨?_, ?_, ?_⟩ (fun hm h => hm.move h) events
  · intro _ _ _ hf
    cases hf
  · intro _ _ _ hf
    cases hf
  · intro _ _ _ _ _ hf
    cases hf

/-- Who has a flight is answered by it, or turned away. -/
theorem Move.answered (h : Move w m milestone? m') {phase : CallerPhase J V}
    (caller : m.CallerAt i own phase) (hphase : phase.flight? = some f)
    (hreturned : m'.CallerAt i own (.returned outcome)) :
    outcome = .error .closed ∨ ∃ key, m.FlightAt f key (.finished outcome) := by
  obtain ⟨q, hq, hnext⟩ := h.caller_next caller
  cases hreturned.symm.trans hq
  rcases hnext with rfl | hnext
  · cases hphase
  · cases hnext with
    | hit _ => cases hphase
    | dismissed _ => exact Or.inl rfl
    | delivered flight =>
        obtain rfl := Option.some.inj hphase
        exact Or.inr ⟨_, flight⟩

/-! ## Provenance -/

/-- However a cache is used: every value handed out for a key was produced by a construction that a
caller supplied for that key, and the flight of a construction that failed never ends with a value,
nor gives those who have it anything but that error, or the one for a closed cache. -/
theorem provenance (w : Workshop W J V) (config : CacheConfig) (world : W)
    (events : List (CacheEvent W J)) :
    let m₀ : CacheMachine W J V := CacheMachine.start config world
    let m := m₀.run w events
    let log := m₀.log w events
    (∀ i key value, m.CallerAt i key (.returned (.ok value)) →
      ∃ j f job, .asked j key job ∈ log ∧ .launched j f key job ∈ log ∧
        .started f key job ∈ log ∧ .ended f key (.ok value) ∈ log ∧ w.Yields job (.ok value)) ∧
    ∀ f key error, .ended f key (.error error) ∈ log →
      (∀ own value, .ended f own (.ok value) ∉ log) ∧
      ∀ event i own phase outcome, m.CallerAt i own phase → phase.flight? = some f →
        (m.step w event).CallerAt i own (.returned outcome) →
          outcome = .error error ∨ outcome = .error .closed := by
  intro m₀ m log
  have htraced : m.Traced w log := traced_run w config world events
  have hconcluded : m.Concluded log := concluded_run w config world events
  constructor
  · intro i key value hi
    obtain ⟨f, job, ⟨j, hasked, hlaunched⟩, hstarted, hended, hyields⟩ :=
      htraced.callers i key _ hi value rfl
    exact ⟨j, f, job, hasked, hlaunched, hstarted, hended, hyields⟩
  · intro f key error hfailed
    constructor
    · intro own value hended
      cases hconcluded.once f key own _ _ hfailed hended
    · intro event i own phase outcome caller hphase hreturned
      rcases (step_move w m event).answered caller hphase hreturned with hclosed | ⟨key', hdone⟩
      · exact Or.inr hclosed
      · obtain ⟨p, hp, hp'⟩ := hconcluded.failed f key error hfailed
        cases hdone.symm.trans hp
        exact Or.inl hp'

end CacheMachine

end FleetGate
