import FleetGate.Cache.Schedule
import FleetGate.Proofs.Cache.Books
import FleetGate.Proofs.Cache.Cancellation
import FleetGate.Proofs.Cache.SingleFlight

/-! # Sharing the outcome of a flight

All callers that joined a flight get its outcome, and nobody else does. A flight leaves the register
before its outcome is handed out, so what stands there is never finished (`Outstanding`), and nobody
joins a flight that is (`Move.aboard_kept`). A construction that fails leaves nothing behind: its
flight has touched no entry, and its error reaches only those who joined it. The next caller of the
key finds an entry that others stored, or starts a construction of its own.

`Sharing` puts together what callers can rely on in any run of a cache that stays open.
-/

namespace FleetGate

/-- The outcome of a flight is known, whether it was handed out or not. -/
def FlightPhase.HasOutcome {J V : Type} (outcome : FleetResult V) : FlightPhase J V → Prop
  | .settled known | .finished known => known = outcome
  | _ => False

namespace CacheMachine

variable {W J V : Type} {w : Workshop W J V} {m m' : CacheMachine W J V}
  {milestone? : Option (Milestone J V)} {event : CacheEvent W J} {i f g : Nat}
  {key own : CacheKey} {job : J} {outcome : FleetResult V} {error : FleetError}

/-- A caller waits for a flight or polls it. -/
def Aboard (m : CacheMachine W J V) (i f : Nat) : Prop :=
  ∃ key p, m.CallerAt i key p ∧ p.flight? = some f

/-- In the course of a run a caller joined a flight. -/
def Joined (w : Workshop W J V) (m : CacheMachine W J V) (events : List (CacheEvent W J))
    (i f : Nat) : Prop :=
  ∃ before after, events = before ++ after ∧ (m.run w before).Aboard i f

/-- A caller still has its flight, was dropped, or was handed the outcome of the flight. -/
def Served (m : CacheMachine W J V) (i f : Nat) : Prop :=
  m.Aboard i f ∨ (∃ key, m.CallerAt i key .dropped) ∨
    ∃ key own outcome, m.CallerAt i key (.returned outcome) ∧
      m.FlightAt f own (.finished outcome)

/-- What is registered is a flight of its key that is not finished. -/
def Outstanding (m : CacheMachine W J V) : Prop :=
  ∀ key f, Keyed.get? key m.registered = some f →
    ∃ p, m.FlightAt f key p ∧ p.isFinished = false

/-- What the callers of a cache can rely on in a run. -/
structure Sharing (w : Workshop W J V) (m₀ : CacheMachine W J V) (events : List (CacheEvent W J)) :
    Prop where
  /-- Whoever joined a flight still has it, was dropped, or was handed its outcome. -/
  served : ∀ i f, m₀.Joined w events i f → (m₀.run w events).Served i f
  /-- Callers that joined the same flight are answered alike. -/
  alike : ∀ i j f key own outcome outcome', m₀.Joined w events i f → m₀.Joined w events j f →
    (m₀.run w events).CallerAt i key (.returned outcome) →
    (m₀.run w events).CallerAt j own (.returned outcome') → outcome = outcome'
  /-- Whoever has a finished flight is handed its outcome at the next turn. -/
  handed : ∀ i f key p own outcome, (m₀.run w events).CallerAt i key p → p.flight? = some f →
    (m₀.run w events).FlightAt f own (.finished outcome) →
      (m₀.run w (events ++ [.poll i, .drive i])).CallerAt i key (.returned outcome)
  /-- Had nobody been dropped, everybody else would be where they are. -/
  spared : (m₀.run w events).Spared (m₀.run w (m₀.uncancelled w events)) ∧
    m₀.log w (m₀.uncancelled w events) = m₀.log w events
  /-- A flight goes the same way whoever drives it. -/
  driven : ∀ i j f, (m₀.run w events).callerPhase? i = some (.polling f) →
    (m₀.run w events).callerPhase? j = some (.polling f) →
      ∃ callers, m₀.run w (events ++ [.drive j]) =
        (m₀.run w (events ++ [.drive i])).withCallers callers
  /-- Where a construction failed, no step of its flight touched an entry. -/
  untouched : ∀ f key error, .ended f key (.error error) ∈ m₀.log w events →
    ∀ before i after, events = before ++ .drive i :: after →
      (m₀.run w before).callerPhase? i = some (.polling f) →
        (m₀.run w (before ++ [.drive i])).store.entries = (m₀.run w before).store.entries
  /-- An error reaches a caller only through a flight that it joined. -/
  blamed : ∀ i key error, (m₀.run w events).CallerAt i key (.returned (.error error)) →
    ∃ f, m₀.Joined w events i f ∧ (m₀.run w events).FlightAt f key (.finished (.error error))
  /-- What is registered is not finished. -/
  outstanding : (m₀.run w events).Outstanding
  /-- Nobody joins a flight that is finished. -/
  departed : ∀ f key outcome after i, (m₀.run w events).FlightAt f key (.finished outcome) →
    (m₀.run w (events ++ after)).Aboard i f → (m₀.run w events).Aboard i f
  /-- Once a flight has finished, the next caller of its key finds an entry, or has a construction
  of its own started. -/
  renewed : ∀ event f key outcome after i job,
    (m₀.run w events).FlightAt f key (.settled outcome) →
    ((m₀.run w events).step w event).FlightAt f key (.finished outcome) →
    (∀ j g job, .launched j g key job ∉ ((m₀.run w events).step w event).log w after) →
      let m := m₀.run w (events ++ event :: after)
      let g := m.flights.length
      (m.CallerAt i key (.joining job) →
        m.milestone? w (.join i) = some (.launched i g key job)) ∧
      (m.closed = false → m.CallerAt i key (.looking job) →
        (∃ e, m.store.live? key m.now = some e ∧
          (m.step w (.look i)).CallerAt i key (.returned (.ok e.value))) ∨
        m.log w [.look i, .join i, .poll i, .drive i, .drive i] =
          [.launched i g key job, .started g key job])

/-! ## Flights that have an outcome -/

theorem FlightNext.hasOutcome {p q : FlightPhase J V} (h : FlightNext w m f key milestone? p q)
    (hp : p.HasOutcome outcome) : q.HasOutcome outcome := by
  cases h with
  | left => exact hp
  | _ => exact hp.elim

/-- A flight that is finished stays so. -/
theorem Move.finished_kept (h : Move w m milestone? m')
    (hf : m.FlightAt f key (.finished outcome)) : m'.FlightAt f key (.finished outcome) := by
  obtain ⟨q, hq, rfl | ⟨hnext, -⟩⟩ := h.flight_next hf
  · exact hq
  · cases hnext

/-- As soon as a flight is finished, nothing is registered for its key. -/
theorem Move.finished_free (h : Move w m milestone? m') {p q : FlightPhase J V}
    (hf : m.FlightAt f key p) (hp : p.isFinished = false) (hf' : m'.FlightAt f key q)
    (hq : q.isFinished = true) : Keyed.get? key m'.registered = none := by
  have unmoved (hf' : m.FlightAt f key q) : Keyed.get? key m'.registered = none := by
    cases hf.symm.trans hf'
    cases hp.symm.trans hq
  cases h with
  | leave _ flight =>
      rcases (flightAt_setFlight flight).mp hf' with ⟨-, rfl, -⟩ | ⟨-, hf'⟩
      · exact Keyed.get?_erase_self _ _
      · exact unmoved hf'
  | reuse _ flight _ | miss _ flight _ | start _ flight | work _ flight _ | stall _ flight _
  | build _ flight _ | fail _ flight _ | discard _ flight _ | store _ flight _ =>
      rcases (flightAt_setFlight flight).mp hf' with ⟨-, -, rfl⟩ | ⟨-, hf'⟩
      · cases hq
      · exact unmoved hf'
  | launch _ _ =>
      have hlt := (List.getElem?_eq_some_iff.mp hf).1
      exact unmoved ((List.getElem?_append_left hlt).symm.trans hf')
  | _ => exact unmoved hf'

/-! ## The register -/

theorem Outstanding.start (config : CacheConfig) (world : W) :
    (start config world : CacheMachine W J V).Outstanding := by
  intro key f hf
  cases hf

theorem Outstanding.move (hm : m.Outstanding) (h : Move w m milestone? m') :
    m'.Outstanding := by
  intro key f hf
  rcases h.registered hf with hold | ⟨-, job, hnew⟩
  · obtain ⟨p, hp, hopen⟩ := hm key f hold
    obtain ⟨q, hq, -⟩ := h.flight_next hp
    refine ⟨q, hq, ?_⟩
    by_contra hfinished
    have free := h.finished_free hp hopen hq (by simpa using hfinished)
    cases free.symm.trans hf
  · exact ⟨_, hnew, rfl⟩

theorem outstanding_run (w : Workshop W J V) (config : CacheConfig) (world : W)
    (events : List (CacheEvent W J)) :
    ((CacheMachine.start config world : CacheMachine W J V).run w events).Outstanding :=
  run_induction (.start config world) (fun hm h => hm.move h) events

/-- Whoever is aboard a finished flight was so before it was finished. -/
theorem Move.aboard_kept (h : Move w m milestone? m') (hm : m.Outstanding)
    (hf : m.FlightAt f key (.finished outcome)) (hi : m'.Aboard i f) : m.Aboard i f := by
  obtain ⟨own, p, hp, hflight⟩ := hi
  rcases h.boarded hp hflight with ⟨before, hbefore, hflight⟩ | hreg | ⟨job, hnew⟩
  · exact ⟨own, before, hbefore, hflight⟩
  · -- what is registered is not finished
    obtain ⟨q, hq, hopen⟩ := hm own f hreg
    cases hf.symm.trans hq
    cases hopen
  · cases (h.finished_kept hf).symm.trans hnew

theorem departed_run (hm : m.Outstanding) (hf : m.FlightAt f key (.finished outcome))
    (events : List (CacheEvent W J)) (hi : (m.run w events).Aboard i f) : m.Aboard i f := by
  have hrun : (m.run w events).Outstanding ∧
      (m.run w events).FlightAt f key (.finished outcome) ∧
      ((m.run w events).Aboard i f → m.Aboard i f) := by
    refine run_induction (P := fun m₁ => m₁.Outstanding ∧
      m₁.FlightAt f key (.finished outcome) ∧ (m₁.Aboard i f → m.Aboard i f)) ⟨hm, hf, id⟩ ?_ events
    rintro m₁ m₂ milestone? ⟨hm₁, hf₁, hback⟩ h
    exact ⟨hm₁.move h, h.finished_kept hf₁, fun hi => hback (h.aboard_kept hm₁ hf₁ hi)⟩
  exact hrun.2.2 hi

/-- A key for which nothing is registered stays so until a flight is launched for it. -/
theorem Move.free_kept (h : Move w m milestone? m')
    (free : Keyed.get? key m.registered = none)
    (hquiet : ∀ i f job, milestone? ≠ some (.launched i f key job)) :
    Keyed.get? key m'.registered = none := by
  cases h with
  | @launch i own job _ _ =>
      have hne : own ≠ key := by
        rintro rfl
        exact hquiet _ _ _ rfl
      rw [setCaller, Keyed.get?_append, free]
      simp [Keyed.get?, hne]
  | @leave _ _ _ own _ _ _ =>
      by_cases hkey : key = own
      · rw [hkey]
        exact Keyed.get?_erase_self _ _
      · exact (Keyed.get?_erase_of_ne hkey _).trans free
  | forget _ => rfl
  | _ => exact free

theorem free_run (w : Workshop W J V) (free : Keyed.get? key m.registered = none)
    (events : List (CacheEvent W J)) (hquiet : ∀ i f job, .launched i f key job ∉ m.log w events) :
    Keyed.get? key (m.run w events).registered = none := by
  induction events generalizing m with
  | nil => exact free
  | cons event rest ih =>
      refine ih ((step_move w m event).free_kept free fun i f job hl => ?_) fun i f job hl => ?_
      · exact hquiet i f job (List.mem_append_left _ (Option.mem_toList.mpr hl))
      · exact hquiet i f job (List.mem_append_right _ hl)

/-! ## Those who joined -/

/-- As long as the cache is open, whoever joined a flight is served. -/
theorem Move.served (h : Move w m milestone? m') (opened : m.closed = false)
    (hi : m.Served i f) : m'.Served i f := by
  rcases hi with ⟨key, p, hp, hflight⟩ | ⟨key, hc⟩ | ⟨key, own, outcome, hc, hf⟩
  · obtain ⟨q, hq, rfl | hnext⟩ := h.caller_next hp
    · exact Or.inl ⟨key, q, hq, hflight⟩
    · cases hnext with
      | polled _ | rested => exact Or.inl ⟨key, _, hq, hflight⟩
      | droppedWaiting => exact Or.inr (Or.inl ⟨key, hq⟩)
      | delivered hf =>
          obtain rfl := Option.some.inj hflight
          exact Or.inr (Or.inr ⟨key, _, _, hq, h.finished_kept hf⟩)
      | dismissed closed => exact (not_open_and_closed opened closed).elim
      | hit _ | sought | boarded _ | launched | droppedLooking => cases hflight
  · exact Or.inr (Or.inl ⟨key, h.final_kept hc (Or.inl rfl)⟩)
  · exact Or.inr (Or.inr ⟨key, own, outcome, h.final_kept hc (Or.inr ⟨outcome, rfl⟩),
      h.finished_kept hf⟩)

theorem served_run (w : Workshop W J V) (hi : m.Aboard i f) (events : List (CacheEvent W J))
    (opened : (m.run w events).closed = false) : (m.run w events).Served i f := by
  have hrun : (m.run w events).closed = true ∨ (m.run w events).Served i f := by
    refine run_induction (P := fun m => m.closed = true ∨ m.Served i f) (Or.inr (Or.inl hi)) ?_
      events
    rintro m₁ m₂ milestone? (closed | hserved) h
    · exact Or.inl (h.closed closed)
    · cases closed : m₁.closed with
      | true => exact Or.inl (h.closed closed)
      | false => exact Or.inr (h.served closed hserved)
  exact hrun.resolve_left fun closed => not_open_and_closed opened closed

/-- What a caller was answered that joined a flight is the outcome of the flight. -/
theorem Served.outcome_eq (hi : m.Served i f) (hc : m.CallerAt i key (.returned outcome)) :
    ∃ own, m.FlightAt f own (.finished outcome) := by
  rcases hi with ⟨own, p, hp, hflight⟩ | ⟨own, hdropped⟩ | ⟨own, other, known, hknown, hf⟩
  · cases hc.symm.trans hp
    cases hflight
  · cases hc.symm.trans hdropped
  · cases hc.symm.trans hknown
    exact ⟨other, hf⟩

/-- In an open cache a caller that has a flight comes to poll it, if it does not do so already. -/
theorem step_poll_of_aboard (w : Workshop W J V) (opened : m.closed = false) {p : CallerPhase J V}
    (hc : m.CallerAt i key p) (hp : p.flight? = some f) :
    (m.step w (.poll i)).CallerAt i key (.polling f) ∧
      (m.step w (.poll i)).flights = m.flights := by
  cases p with
  | waiting g =>
      obtain rfl := Option.some.inj hp
      rw [step_poll w hc opened]
      exact ⟨setCaller_self hc _, rfl⟩
  | polling g =>
      obtain rfl := Option.some.inj hp
      have hidle : m.step w (.poll i) = m := by
        simp only [step, poll, callerPhase?_of_callerAt hc]
      rw [hidle]
      exact ⟨hc, rfl⟩
  | _ => cases hp

/-- Two steps take a caller that has a finished flight to its outcome. -/
theorem handed_over (w : Workshop W J V) (opened : m.closed = false) {p : CallerPhase J V}
    (hc : m.CallerAt i key p) (hp : p.flight? = some f)
    (hf : m.FlightAt f own (.finished outcome)) :
    (m.run w [.poll i, .drive i]).CallerAt i key (.returned outcome) := by
  obtain ⟨hpolls, hflights⟩ := step_poll_of_aboard w opened hc hp
  have hflight : (m.step w (.poll i)).FlightAt f own (.finished outcome) := by
    rw [FlightAt, hflights]
    exact hf
  have hdrive : (m.step w (.poll i)).drive w i =
      (m.step w (.poll i)).setCaller i (.returned outcome) := by
    simp only [drive, callerPhase?_of_callerAt hpolls, hflight]
  change ((m.step w (.poll i)).drive w i).CallerAt i key (.returned outcome)
  rw [hdrive]
  exact setCaller_self hpolls _

theorem Joined.mono {before : List (CacheEvent W J)} (h : m.Joined w before i f)
    (after : List (CacheEvent W J)) : m.Joined w (before ++ after) i f := by
  obtain ⟨first, last, rfl, hi⟩ := h
  exact ⟨first, last ++ after, List.append_assoc first last after, hi⟩

/-- As long as the cache is open, an error is handed out by a flight that its caller polls. -/
theorem Move.blamed (h : Move w m milestone? m') (opened : m.closed = false)
    (hc : m'.CallerAt i key (.returned (.error error))) :
    m.CallerAt i key (.returned (.error error)) ∨
      ∃ f own, m.CallerAt i key (.polling f) ∧ m.FlightAt f own (.finished (.error error)) := by
  rcases h.caller_before hc with ⟨q, hq, rfl | hnext⟩ | ⟨closed, -⟩ | ⟨job, hnew, -⟩
  · exact Or.inl hq
  · cases hnext with
    | delivered hf => exact Or.inr ⟨_, _, hq, hf⟩
    | dismissed closed => exact (not_open_and_closed opened closed).elim
  · exact (not_open_and_closed opened closed).elim
  · cases hnew

/-- As long as a cache is open, every error comes from a flight that its caller joined. -/
theorem blamed_run (w : Workshop W J V) (config : CacheConfig) (world : W)
    (events : List (CacheEvent W J)) :
    let m₀ : CacheMachine W J V := CacheMachine.start config world
    (m₀.run w events).closed = false → ∀ i key error,
      (m₀.run w events).CallerAt i key (.returned (.error error)) →
        ∃ f, m₀.Joined w events i f ∧
          (m₀.run w events).FlightAt f key (.finished (.error error)) := by
  intro m₀
  induction events using List.reverseRecOn with
  | nil =>
      intro _ i key error hc
      cases hc
  | append_singleton before event ih =>
      intro opened i key error hc
      rw [run_concat] at opened hc ⊢
      have h := step_move w (m₀.run w before) event
      have open_before : (m₀.run w before).closed = false := h.opened opened
      rcases h.blamed open_before hc with hbefore | ⟨f, own, hpolls, hf⟩
      · obtain ⟨f, hjoined, hf⟩ := ih open_before i key error hbefore
        exact ⟨f, hjoined.mono [event], h.finished_kept hf⟩
      · -- the flight that is polled is one of the caller's key
        have hlinked := (exclusive_run (V := V) w config world before).linked
        obtain rfl := hlinked.key_eq hpolls hf
        exact ⟨f, ⟨before, [event], rfl, _, _, hpolls, rfl⟩, h.finished_kept hf⟩

/-! ## Failures -/

/-- A step of a flight leaves the entries alone, or takes the flight to a value. -/
theorem drive_entries (w : Workshop W J V) (hi : m.callerPhase? i = some (.polling f))
    {p : FlightPhase J V} (hf : m.FlightAt f key p) :
    (m.drive w i).store.entries = m.store.entries ∨
      ∃ value, (m.drive w i).FlightAt f key (.settled (.ok value)) := by
  simp only [FlightAt] at hf
  simp only [drive, hi, hf]
  cases p with
  | unstarted job =>
      cases live : m.store.live? key m.now with
      | some e =>
          rw [CacheStore.lookup_of_live live]
          exact Or.inr ⟨e.value, setFlight_self hf _⟩
      | none =>
          rw [CacheStore.lookup_of_not_live live]
          exact Or.inl rfl
  | making job wake? =>
      refine Or.inl ?_
      simp only
      split
      all_goals rfl
  | made value =>
      simp only
      split
      · exact Or.inl rfl
      · exact Or.inr ⟨value, setFlight_self hf _⟩
  | missed _ | settled _ | finished _ => exact Or.inl rfl

/-- A flight with an outcome keeps it. -/
theorem outcome_run (w : Workshop W J V) (hf : m.FlightAt f key (.settled outcome))
    (events : List (CacheEvent W J)) :
    ∃ p, (m.run w events).FlightAt f key p ∧ p.HasOutcome outcome :=
  run_induction (P := fun m => ∃ p, m.FlightAt f key p ∧ p.HasOutcome outcome)
    ⟨_, hf, rfl⟩ (fun hf h => h.flight_kept (fun hp hnext => hnext.hasOutcome hp) hf) events

/-- Where a construction failed in a run, the steps of its flight touched no entry. -/
theorem untouched_run (w : Workshop W J V) (config : CacheConfig) (world : W)
    (before after : List (CacheEvent W J)) :
    let m₀ : CacheMachine W J V := CacheMachine.start config world
    let m := m₀.run w before
    .ended f key (.error error) ∈ m₀.log w (before ++ .drive i :: after) →
      m.callerPhase? i = some (.polling f) → (m.drive w i).store.entries = m.store.entries := by
  intro m₀ m hfailed hi
  obtain ⟨own, hpolls⟩ := callerAt_of_phase hi
  obtain ⟨p, hp⟩ := (exclusive_run (V := V) w config world before).linked.awaited i own _ f hpolls rfl
  rcases drive_entries w hi hp with hsame | ⟨value, hvalue⟩
  · exact hsame
  · -- a flight that came to a value has not failed
    have hrun : m₀.run w (before ++ .drive i :: after) = (m.drive w i).run w after :=
      run_append w m₀ before (.drive i :: after)
    obtain ⟨q, hq, houtcome⟩ := outcome_run w hvalue after
    obtain ⟨q', hq', herror⟩ := (concluded_run (V := V) w config world _).failed f key error hfailed
    rw [hrun] at hq'
    cases hq.symm.trans hq'
    cases q with
    | settled _ | finished _ => cases houtcome.symm.trans herror
    | _ => exact houtcome.elim

/-! ## The next caller -/

/-- Where nothing is registered for a key, whoever comes to join launches a flight. -/
theorem launched_of_free (w : Workshop W J V) (hc : m.CallerAt i key (.joining job))
    (free : Keyed.get? key m.registered = none) :
    m.milestone? w (.join i) = some (.launched i m.flights.length key job) := by
  simp [milestone?, hc, Keyed.has, free]

/-- Whoever waits for a flight that finds nothing has its construction started, if nobody comes
between. -/
theorem log_of_waiting (w : Workshop W J V) (opened : m.closed = false)
    (gone : m.store.live? key m.now = none) (hc : m.CallerAt i key (.waiting f))
    (hf : m.FlightAt f key (.unstarted job)) :
    m.log w [.poll i, .drive i, .drive i] = [.started f key job] := by
  let m₁ := m.setCaller i (.polling f)
  have phase₁ : m₁.callerPhase? i = some (.polling f) :=
    callerPhase?_of_callerAt (setCaller_self hc _)
  have flight₁ : m₁.flights[f]? = some ⟨key, .unstarted job⟩ := hf
  have gone₁ : m₁.store.live? key m₁.now = none := gone
  let m₂ := m₁.setFlight f (.missed job)
  have phase₂ : m₂.callerPhase? i = some (.polling f) := phase₁
  have flight₂ : m₂.flights[f]? = some ⟨key, .missed job⟩ :=
    setFlight_self (m := m₁) flight₁ (.missed job)
  have poll₁ : m.step w (.poll i) = m₁ := step_poll w hc opened
  have drive₂ : m₁.step w (.drive i) = m₂ := by
    simp only [step, drive, phase₁, flight₁, CacheStore.lookup_of_not_live gone₁, m₂]
  have passes : m₁.milestone? w (.drive i) = none := by simp only [milestone?, phase₁, flight₁]
  have starts : m₂.milestone? w (.drive i) = some (.started f key job) := by
    simp only [milestone?, phase₂, flight₂]
  simp only [log, poll₁, drive₂, passes, starts]
  rfl

/-- Where nothing is found and nothing registered for a key, whoever looks has a construction of its
own started, if nobody comes between. -/
theorem log_of_free (w : Workshop W J V) (opened : m.closed = false)
    (free : Keyed.get? key m.registered = none) (gone : m.store.live? key m.now = none)
    (hc : m.CallerAt i key (.looking job)) :
    m.log w [.look i, .join i, .poll i, .drive i, .drive i] =
      [.launched i m.flights.length key job, .started m.flights.length key job] := by
  let m₁ := m.setCaller i (.joining job)
  have caller₁ : m₁.CallerAt i key (.joining job) := setCaller_self hc _
  let m₂ := { m₁ with
    flights := m.flights ++ [Flight.mk key (.unstarted job)]
    registered := m.registered ++ [(key, m.flights.length)] }.setCaller i
      (.waiting m.flights.length)
  have look₁ : m.step w (.look i) = m₁ := step_look w hc gone
  have join₂ : m₁.step w (.join i) = m₂ := step_join w caller₁ free
  have launches : m₁.milestone? w (.join i) = some (.launched i m.flights.length key job) :=
    launched_of_free w caller₁ free
  have starts : m₂.log w [.poll i, .drive i, .drive i] = [.started m.flights.length key job] :=
    log_of_waiting w opened gone (setCaller_self caller₁ _) List.getElem?_concat_length
  rw [log, log, look₁, join₂, launches, starts]
  rfl

/-! ## Sharing -/

theorem joined_served (w : Workshop W J V) {events : List (CacheEvent W J)}
    (opened : (m.run w events).closed = false) (h : m.Joined w events i f) :
    (m.run w events).Served i f := by
  obtain ⟨before, after, rfl, hi⟩ := h
  rw [run_append] at opened ⊢
  exact served_run w hi after opened

/-- However a cache is used, as long as it is open, its callers share the outcomes of the flights
that they joined, and nobody else does. -/
theorem sharing (w : Workshop W J V) (config : CacheConfig) (world : W)
    (events : List (CacheEvent W J))
    (opened : ((CacheMachine.start config world : CacheMachine W J V).run w events).closed = false) :
    Sharing w (CacheMachine.start config world : CacheMachine W J V) events where
  served i f hjoined := joined_served w opened hjoined
  alike i j f key own outcome outcome' hi hj hc hc' := by
    obtain ⟨_, hf⟩ := (joined_served w opened hi).outcome_eq hc
    obtain ⟨_, hf'⟩ := (joined_served w opened hj).outcome_eq hc'
    cases hf.symm.trans hf'
    rfl
  handed i f key p own outcome hc hp hf := by
    rw [run_append]
    exact handed_over w opened hc hp hf
  spared := (Spared.refl _).run w events
  driven i j f hi hj := by
    rw [run_append, run_append]
    exact drive_of_polling w hi hj
  untouched f key error hfailed before i after hevents hi := by
    subst hevents
    rw [run_append]
    exact untouched_run w config world before after hfailed hi
  blamed := blamed_run w config world events opened
  outstanding := outstanding_run w config world events
  departed f key outcome after i hf hi := by
    rw [run_append] at hi
    exact departed_run (outstanding_run w config world events) hf after hi
  renewed event f key outcome after i job hf hf' hquiet := by
    intro m g
    have hm : m = ((CacheMachine.start config world).run w events |>.step w event).run w after :=
      run_append w _ events (event :: after)
    have free : Keyed.get? key m.registered = none := by
      rw [hm]
      exact free_run w ((step_move w _ event).finished_free hf rfl hf' rfl) after hquiet
    refine ⟨fun hc => launched_of_free w hc free, fun hopen hc => ?_⟩
    cases live : m.store.live? key m.now with
    | some e =>
        refine Or.inl ⟨e, rfl, ?_⟩
        have hlook : m.step w (.look i) =
            { m with store := m.store.touched key m.now }.setCaller i (.returned (.ok e.value)) := by
          simp only [step, look, hc, CacheStore.lookup_of_live live]
        rw [hlook]
        exact setCaller_self hc _
    | none => exact Or.inr (log_of_free w hopen free live hc)

/-- Two callers share a construction that fails, a third one leaves before its end, and the next one
has a construction of its own. -/
def sharedFailure : List (CacheEvent Unit (FleetResult Nat)) :=
  let key : CacheKey := ⟨"prod", "jane@example.com"⟩
  let enter (i : Nat) (outcome : FleetResult Nat) : List (CacheEvent Unit (FleetResult Nat)) :=
    [.arrive key outcome, .look i, .join i]
  enter 0 (.error (.connection "prod" "refused")) ++ enter 1 (.ok 1) ++ enter 2 (.ok 2) ++
    [.poll 0] ++ List.replicate 3 (.drive 0) ++ [.drop 2, .poll 1] ++
    List.replicate 2 (.drive 1) ++ [.drive 0] ++ visit 3 key (.ok 3)

theorem sharing_failure :
    let m₀ : CacheMachine Unit (FleetResult Nat) Nat := CacheMachine.start {} ()
    let m := m₀.run foretold sharedFailure
    m.closed = false ∧ Sharing foretold m₀ sharedFailure ∧
      m.answer? 0 = some (.error (.connection "prod" "refused")) ∧ m.answer? 1 = m.answer? 0 ∧
      m.hasDropped 2 = true ∧ m.answer? 3 = some (.ok 3) ∧ m.store.misses = 2 := by
  have opened : ((CacheMachine.start {} () : CacheMachine Unit (FleetResult Nat) Nat).run foretold
      sharedFailure).closed = false := by
    decide +kernel
  exact ⟨opened, sharing foretold {} () sharedFailure opened, by decide +kernel,
    by decide +kernel, by decide +kernel, by decide +kernel, by decide +kernel⟩

end CacheMachine

end FleetGate
