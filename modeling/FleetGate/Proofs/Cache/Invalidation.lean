import FleetGate.Proofs.Cache.Provenance
import FleetGate.Proofs.Cache.SingleFlight

/-! # What an invalidation leaves behind

An invalidation drops entries. It does not reach the register, so a flight that is registered at
that moment goes on: it stores its value when it gets there, and until it leaves the register later
callers join it.

That flight is all that is left behind. Whatever else a later caller is handed was constructed from
the start after the invalidation. To see it, a state is compared with the one the key was
invalidated in: whoever comes later gets at flights only through the register, which holds none but
the flight left behind and those launched since (`Reachable`), and each of these goes on either from
where it was left or from a start that the log since then holds (`Renewed`).
-/

namespace FleetGate

variable {W J V : Type} {w : Workshop W J V} {log more : List (Milestone J V)} {i f : Nat}
  {key own : CacheKey} {value : V}

/-- An event drops the entry of a key: an invalidation of the key alone or of its cluster. -/
def CacheEvent.Invalidates (event : CacheEvent W J) (key : CacheKey) : Prop :=
  event = .invalidate key ∨ event = .invalidateCluster key.cluster

/-- A construction for a key was started and ended with a value. -/
def Constructed (log : List (Milestone J V)) (key : CacheKey) (value : V) : Prop :=
  ∃ f job, .started f key job ∈ log ∧ .ended f key (.ok value) ∈ log

/-- A value that a flight brings without another construction, by the stage it is found in: the one
its construction ends with afterwards, or the one it holds. -/
def FlightPhase.Brings (log : List (Milestone J V)) (f : Nat) (key : CacheKey) (value : V) :
    FlightPhase J V → Prop
  | .unstarted _ | .missed _ => False
  | .making _ _ => .ended f key (.ok value) ∈ log
  | .made held => held = value
  | .settled outcome | .finished outcome => outcome = .ok value

theorem Constructed.mono (h : Constructed log key value) :
    Constructed (log ++ more) key value := by
  obtain ⟨f, job, hstarted, hended⟩ := h
  exact ⟨f, job, List.mem_append_left _ hstarted, List.mem_append_left _ hended⟩

theorem FlightPhase.Brings.mono {p : FlightPhase J V} (h : p.Brings log f key value) :
    p.Brings (log ++ more) f key value := by
  cases p with
  | unstarted _ | missed _ => exact h
  | making _ _ => exact List.mem_append_left _ h
  | made _ | settled _ | finished _ => exact h

namespace CacheMachine

variable {m₀ m m' : CacheMachine W J V} {milestone? : Option (Milestone J V)}

/-- The flight registered for a key brings a value without another construction. -/
def LeftBehind (m₀ : CacheMachine W J V) (log : List (Milestone J V)) (key : CacheKey)
    (value : V) : Prop :=
  ∃ f p, Keyed.get? key m₀.registered = some f ∧ m₀.FlightAt f key p ∧ p.Brings log f key value

/-- A value was constructed for a key since a state, or was left behind in it. -/
def Accounted (m₀ : CacheMachine W J V) (log : List (Milestone J V)) (key : CacheKey) (value : V) :
    Prop :=
  Constructed log key value ∨ m₀.LeftBehind log key value

/-- A flight that whoever comes after a state can get at: the one registered for the key, or one
launched since. -/
def Reachable (m₀ : CacheMachine W J V) (key : CacheKey) (f : Nat) : Prop :=
  Keyed.get? key m₀.registered = some f ∨ m₀.flights.length ≤ f

theorem LeftBehind.mono (h : m₀.LeftBehind log key value) :
    m₀.LeftBehind (log ++ more) key value := by
  obtain ⟨f, p, hreg, hf, hbrings⟩ := h
  exact ⟨f, p, hreg, hf, hbrings.mono⟩

theorem Accounted.mono (h : m₀.Accounted log key value) : m₀.Accounted (log ++ more) key value := by
  rcases h with h | h
  · exact Or.inl h.mono
  · exact Or.inr h.mono

/-! ## What holds of a flight and of a caller -/

/-- Every value of an outcome is accounted for. -/
def OutcomeAccounted (m₀ : CacheMachine W J V) (log : List (Milestone J V)) (key : CacheKey)
    (outcome : FleetResult V) : Prop :=
  ∀ value, outcome = .ok value → m₀.Accounted log key value

/-- A flight goes on from a start since a state, or from where that state left it. -/
def FlightAccounted (m₀ : CacheMachine W J V) (log : List (Milestone J V)) (f : Nat)
    (key : CacheKey) : FlightPhase J V → Prop
  | .unstarted _ | .missed _ => True
  | .making _ _ => (∃ job, .started f key job ∈ log) ∨
      Keyed.get? key m₀.registered = some f ∧ ∃ job wake?, m₀.FlightAt f key (.making job wake?)
  | .made value => m₀.Accounted log key value
  | .settled outcome | .finished outcome => m₀.OutcomeAccounted log key outcome

/-- A caller has a flight that it can get at, or a value that is accounted for. -/
def CallerAccounted (m₀ : CacheMachine W J V) (log : List (Milestone J V)) (key : CacheKey) :
    CallerPhase J V → Prop
  | .waiting f | .polling f => m₀.Reachable key f
  | .returned outcome => m₀.OutcomeAccounted log key outcome
  | .looking _ | .joining _ | .dropped => True

theorem OutcomeAccounted.of_value (h : m₀.Accounted log key value) :
    m₀.OutcomeAccounted log key (.ok value) := by
  rintro _ ⟨⟩
  exact h

theorem OutcomeAccounted.of_error {error : FleetError} :
    m₀.OutcomeAccounted log key (.error error : FleetResult V) := by
  intro value hvalue
  cases hvalue

theorem OutcomeAccounted.mono {outcome : FleetResult V} (h : m₀.OutcomeAccounted log key outcome) :
    m₀.OutcomeAccounted (log ++ more) key outcome :=
  fun value hvalue => (h value hvalue).mono

theorem FlightAccounted.mono {p : FlightPhase J V} (h : m₀.FlightAccounted log f key p) :
    m₀.FlightAccounted (log ++ more) f key p := by
  cases p with
  | unstarted _ | missed _ => trivial
  | making _ _ =>
      rcases h with ⟨job, hstarted⟩ | hleft
      · exact Or.inl ⟨job, List.mem_append_left _ hstarted⟩
      · exact Or.inr hleft
  | made _ => exact Accounted.mono h
  | settled _ | finished _ => exact OutcomeAccounted.mono h

theorem CallerAccounted.mono {p : CallerPhase J V} (h : m₀.CallerAccounted log key p) :
    m₀.CallerAccounted (log ++ more) key p := by
  cases p with
  | waiting _ | polling _ => exact h
  | returned _ => exact OutcomeAccounted.mono h
  | looking _ | joining _ | dropped => trivial

/-! ## The invariant -/

/-- Compared with the state `m₀`, all that a cache holds for a key and hands out to those who came
since is accounted for. -/
structure Renewed (m₀ : CacheMachine W J V) (key : CacheKey) (m : CacheMachine W J V)
    (log : List (Milestone J V)) : Prop where
  exclusive : m.Exclusive
  later : m₀.flights.length ≤ m.flights.length
  registered : ∀ f, Keyed.get? key m.registered = some f → m₀.Reachable key f
  entries : ∀ e, (key, e) ∈ m.store.entries → m₀.Accounted log key e.value
  flights : ∀ f p, m.FlightAt f key p → m₀.Reachable key f → m₀.FlightAccounted log f key p
  callers : ∀ i p, m₀.callers.length ≤ i → m.CallerAt i key p → m₀.CallerAccounted log key p

/-- A live entry of the key is accounted for. -/
theorem Renewed.live (hm : Renewed m₀ key m log) {e : CacheEntry V}
    (live : m.store.live? key m.now = some e) : m₀.Accounted log key e.value :=
  hm.entries e (CacheStore.mem_of_live? live).1

/-- What is launched since can be got at. -/
theorem Renewed.reachable_new (hm : Renewed m₀ key m log) (hf : f = m.flights.length) :
    m₀.Reachable key f :=
  Or.inr (hf ▸ hm.later)

theorem Renewed.registered_move (hm : Renewed m₀ key m log) (h : Move w m milestone? m') :
    ∀ f, Keyed.get? key m'.registered = some f → m₀.Reachable key f := by
  intro f hf
  rcases h.registered hf with hf | ⟨hnew, -⟩
  · exact hm.registered f hf
  · exact hm.reachable_new hnew

/-- What is stored for the key was made by a flight that stands in the register. -/
theorem Renewed.entries_move (hm : Renewed m₀ key m log) (h : Move w m milestone? m') :
    ∀ e, (key, e) ∈ m'.store.entries → m₀.Accounted (log ++ milestone?.toList) key e.value := by
  intro e he
  rcases h.stored he with ⟨e₀, hold, hvalue⟩ | ⟨opened, f, flight⟩
  · rw [← hvalue]
    exact (hm.entries e₀ hold).mono
  · have hreg := hm.exclusive.registered opened f key _ flight rfl
    have hmade : m₀.Accounted log key e.value := hm.flights f _ flight (hm.registered f hreg)
    exact hmade.mono

/-- A construction that ends was started since, or is the one that was left behind. -/
theorem Renewed.built (hm : Renewed m₀ key m log) {job : J} {wake? : Option Nat}
    (flight : m.FlightAt f key (.making job wake?)) (hf : m₀.Reachable key f) :
    m₀.Accounted (log ++ [.ended f key (.ok value)]) key value := by
  have hended : .ended f key (.ok value) ∈ log ++ [.ended f key (.ok value)] :=
    List.mem_append_right _ List.mem_cons_self
  rcases hm.flights f _ flight hf with ⟨job₀, hstarted⟩ | ⟨hreg, job₀, wake₀?, hleft⟩
  · exact Or.inl ⟨f, job₀, List.mem_append_left _ hstarted, hended⟩
  · exact Or.inr ⟨f, _, hreg, hleft, hended⟩

theorem Renewed.flights_move (hm : Renewed m₀ key m log) (h : Move w m milestone? m') :
    ∀ f p, m'.FlightAt f key p → m₀.Reachable key f →
      m₀.FlightAccounted (log ++ milestone?.toList) f key p := by
  intro f p hf hreach
  rcases h.flight_before hf with ⟨q, hq, rfl | ⟨hnext, -⟩⟩ | ⟨-, -, -, i, job, rfl, -⟩
  · exact (hm.flights f p hq hreach).mono
  · have hq' := hm.flights f q hq hreach
    cases hnext with
    | reused live => exact OutcomeAccounted.of_value (hm.live live).mono
    | missed _ => trivial
    | started => exact Or.inl ⟨_, mem_log_concat_iff.mpr (Or.inr rfl)⟩
    | worked _ | stalled _ => exact hq'.mono
    | built _ => exact hm.built hq hreach
    | failed _ | discarded _ => exact OutcomeAccounted.of_error
    | stored _ => exact OutcomeAccounted.of_value (Accounted.mono hq')
    | left => exact OutcomeAccounted.mono hq'
  · trivial

theorem Renewed.callers_move (hm : Renewed m₀ key m log) (h : Move w m milestone? m') :
    ∀ i p, m₀.callers.length ≤ i → m'.CallerAt i key p →
      m₀.CallerAccounted (log ++ milestone?.toList) key p := by
  intro i p hi hc
  rcases h.caller_before hc with ⟨q, hq, rfl | hnext⟩ | ⟨-, rfl⟩ | ⟨job, rfl, -⟩
  · exact (hm.callers i p hi hq).mono
  · have hq' := hm.callers i q hi hq
    cases hnext with
    | hit live => exact OutcomeAccounted.of_value (hm.live live).mono
    | boarded found => exact hm.registered _ found
    | launched => exact hm.reachable_new (h.launched_new rfl)
    | dismissed _ => exact OutcomeAccounted.of_error
    | polled _ | rested => exact hq'
    | delivered flight =>
        -- the flight that is polled is one of the caller's key
        obtain rfl := hm.exclusive.linked.key_eq hq flight
        exact OutcomeAccounted.mono (hm.flights _ _ flight hq')
    | sought | droppedLooking | droppedWaiting => trivial
  · exact OutcomeAccounted.of_error
  · trivial

theorem Renewed.move (hm : Renewed m₀ key m log) (h : Move w m milestone? m') :
    Renewed m₀ key m' (log ++ milestone?.toList) where
  exclusive := hm.exclusive.move h
  later := Nat.le_trans hm.later h.flights_length
  registered := hm.registered_move h
  entries := hm.entries_move h
  flights := hm.flights_move h
  callers := hm.callers_move h

/-- A state without an entry for the key accounts for itself. -/
theorem Renewed.start (hm : m₀.Exclusive) (gone : ∀ e, (key, e) ∉ m₀.store.entries) :
    Renewed m₀ key m₀ ([] : List (Milestone J V)) where
  exclusive := hm
  later := Nat.le_refl _
  registered _ hf := Or.inl hf
  entries e he := absurd he (gone e)
  flights f p hf hreach := by
    have hreg : Keyed.get? key m₀.registered = some f := by
      rcases hreach with hreg | hlen
      · exact hreg
      · exact absurd (List.getElem?_eq_some_iff.mp hf).1 (Nat.not_lt.mpr hlen)
    cases p with
    | unstarted _ | missed _ => trivial
    | making job wake? => exact Or.inr ⟨hreg, job, wake?, hf⟩
    | made value => exact Or.inr ⟨f, _, hreg, hf, rfl⟩
    | settled _ | finished _ => exact fun value hvalue => Or.inr ⟨f, _, hreg, hf, hvalue⟩
  callers i p hi hc := absurd (List.getElem?_eq_some_iff.mp hc).1 (Nat.not_lt.mpr hi)

/-! ## Invalidation -/

/-- An invalidation of a key, or of its whole cluster, leaves no entry for the key. -/
theorem gone_of_invalidates (w : Workshop W J V) (m : CacheMachine W J V)
    {event : CacheEvent W J} (h : event.Invalidates key) (e : CacheEntry V) :
    (key, e) ∉ (m.step w event).store.entries := by
  intro he
  rcases h with rfl | rfl
  · simpa using (List.mem_filter.mp he).2
  · simpa using (List.mem_filter.mp he).2

/-- Since a state without an entry for the key, all that is handed out for the key to those who
came since is accounted for. -/
theorem renewed_run (w : Workshop W J V) (hm : m₀.Exclusive)
    (gone : ∀ e, (key, e) ∉ m₀.store.entries) (events : List (CacheEvent W J)) :
    Renewed m₀ key (m₀.run w events) (m₀.log w events) :=
  run_log_induction (.start hm gone) (fun hm h => hm.move h) events

/-- However a cache is used before and after: what is handed out for a key to a caller that came
after the key was invalidated, alone or with its cluster, was constructed from the start after the
invalidation, unless the flight registered for the key at that moment brought it, which was then
past its second look. -/
theorem constructed_after_invalidation (w : Workshop W J V) (config : CacheConfig) (world : W)
    (before after : List (CacheEvent W J)) (event : CacheEvent W J) (key : CacheKey)
    (hevent : event.Invalidates key) :
    let m₀ : CacheMachine W J V := CacheMachine.start config world
    let m := (m₀.run w before).step w event
    ∀ i value, m.callers.length ≤ i → (m.run w after).CallerAt i key (.returned (.ok value)) →
      Constructed (m.log w after) key value ∨ m.LeftBehind (m.log w after) key value := by
  intro m₀ m i value hi hc
  have hm : m.Exclusive := (exclusive_run w config world before).move (step_move w _ event)
  have hrenewed : Renewed m key (m.run w after) (m.log w after) :=
    renewed_run w hm (gone_of_invalidates w _ hevent) after
  exact hrenewed.callers i _ hi hc value rfl

/-- A workshop in which a job comes to itself in one step. -/
def atOnce : Workshop Unit Nat Nat where
  advance _ job world := (.finished (.ok job), world)

/-- One caller's client of one cluster. -/
def oneKey : CacheKey := ⟨"prod", "jane@example.com"⟩

/-- A caller that has its value constructed, from coming in to being answered. -/
def wholeTurn (i job : Nat) : List (CacheEvent Unit Nat) :=
  [.arrive oneKey job, .look i, .join i, .poll i, .drive i, .drive i, .drive i, .drive i, .drive i,
    .drive i]

/-- A value is dropped with its cluster, and constructed again for the next caller. -/
theorem constructed_again_for_next_caller :
    let event : CacheEvent Unit Nat := .invalidateCluster "prod"
    let m₀ : CacheMachine Unit Nat Nat := CacheMachine.start {} ()
    let m := (m₀.run atOnce (wholeTurn 0 1)).step atOnce event
    event.Invalidates oneKey ∧ m.callers.length ≤ 1 ∧
      m.CallerAt 0 oneKey (.returned (.ok 1)) ∧
      (m.run atOnce (wholeTurn 1 2)).CallerAt 1 oneKey (.returned (.ok 2)) ∧
      Constructed (m.log atOnce (wholeTurn 1 2)) oneKey 2 := by
  refine ⟨Or.inr rfl, by decide, rfl, rfl, ?_⟩
  rcases constructed_after_invalidation atOnce {} () (wholeTurn 0 1) (wholeTurn 1 2)
    (.invalidateCluster "prod") oneKey (Or.inr rfl) 1 2 (by decide) (by rfl)
    with hconstructed | ⟨f, p, hreg, -⟩
  · exact hconstructed
  · -- no flight is registered when the cluster is invalidated
    cases hreg

/-- A construction that is under way when its key is invalidated stores its value afterwards, and a
caller that comes still later is handed that value: nothing is constructed for it. -/
theorem handed_out_after_invalidation :
    let before := (wholeTurn 0 1).take 6
    let after := (wholeTurn 0 1).drop 6 ++ (wholeTurn 1 2).take 2
    let m₀ : CacheMachine Unit Nat Nat := CacheMachine.start {} ()
    let m := (m₀.run atOnce before).step atOnce (.invalidate oneKey)
    .started 0 oneKey 1 ∈ m₀.log atOnce before ∧ m.callers.length ≤ 1 ∧
      (m.run atOnce after).CallerAt 1 oneKey (.returned (.ok 1)) ∧
      ∀ f job, .started f oneKey job ∉ m.log atOnce after := by
  refine ⟨?_, by decide, rfl, ?_⟩
  · exact List.mem_cons_of_mem _ (List.mem_cons_of_mem _ List.mem_cons_self)
  · intro f job hstarted
    have hafter : Milestone.started f oneKey job ∈
        [.ended 0 oneKey (.ok 1), .asked 1 oneKey 2] := hstarted
    simp at hafter

end CacheMachine

end FleetGate
