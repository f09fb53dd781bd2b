import FleetGate.Proofs.Cache.Provenance

/-! # Closing a cache

What closing means for those who come later, for those who wait, and for the entries. Closing is
signalled before anything is cleared, and a value is stored only while closing is not signalled, so
what was cleared stays empty: a construction that ends afterwards is discarded. A caller sees the
signal before it looks at its flight.
-/

namespace FleetGate

/-- The caller that makes a step, if a caller does. -/
def CacheEvent.caller? {W J : Type} : CacheEvent W J → Option Nat
  | .look i | .join i | .poll i | .drive i | .rest i | .drop i => some i
  | _ => none

/-- A stage of a flight that can bring a value only by storing it. -/
def FlightPhase.Barren {J V : Type} : FlightPhase J V → Prop
  | .unstarted _ => False
  | .missed _ | .making _ _ | .made _ => True
  | .settled outcome | .finished outcome => ∃ error, outcome = .error error

/-- A phase of a caller that has a flight, or that was left without a value. -/
def CallerPhase.BoundTo {J V : Type} (f : Nat) : CallerPhase J V → Prop
  | .waiting g | .polling g => g = f
  | .dropped => True
  | .returned outcome => ∃ error, outcome = .error error
  | .looking _ | .joining _ => False

/-- Whether a closer has emptied the cache, or found that another one did so. -/
def CloserPhase.hasCleared : CloserPhase → Bool
  | .forgetting | .done => true
  | _ => false

namespace CacheMachine

variable {W J V : Type} {w : Workshop W J V} {m m' : CacheMachine W J V}
  {milestone? : Option (Milestone J V)} {event : CacheEvent W J} {i j f : Nat}
  {key own : CacheKey} {job : J} {p q : CallerPhase J V} {outcome : FleetResult V}

/-! ## Callers that do not move -/

/-- A caller that has its answer, or was dropped, stays so. -/
theorem Move.final_kept (h : Move w m milestone? m') (hc : m.CallerAt i key p)
    (hp : p = .dropped ∨ ∃ outcome, p = .returned outcome) : m'.CallerAt i key p := by
  obtain ⟨q, hq, rfl | hnext⟩ := h.caller_next hc
  · exact hq
  · rcases hp with rfl | ⟨outcome, rfl⟩
    · cases hnext
    · cases hnext

theorem final_run (w : Workshop W J V) (hc : m.CallerAt i key p)
    (hp : p = .dropped ∨ ∃ outcome, p = .returned outcome) (events : List (CacheEvent W J)) :
    (m.run w events).CallerAt i key p :=
  run_induction (P := fun m => m.CallerAt i key p) hc (fun hc h => h.final_kept hc hp) events

theorem callerAt_setCaller_of_ne (h : i ≠ j) :
    (m.setCaller j p).CallerAt i key q ↔ m.CallerAt i key q := by
  simp [CallerAt, setCaller, h.symm]

/-- A caller stays where it is while others move. -/
theorem step_callerAt (w : Workshop W J V) (hc : m.CallerAt i key p)
    (h : event.caller? ≠ some i) : (m.step w event).CallerAt i key p := by
  cases event with
  | arrive key' job =>
      have hlt := (List.getElem?_eq_some_iff.mp hc).1
      exact (List.getElem?_append_left hlt).trans hc
  | look j | join j | poll j | drive j | rest j | drop j =>
      have hne : i ≠ j := fun hij => h (congrArg some hij.symm)
      simp only [step, look, join, poll, drive, rest, drop]
      repeat' split
      all_goals
        first
        | exact hc
        | exact (callerAt_setCaller_of_ne hne).mpr hc
  | closing j =>
      simp only [step, closing]
      repeat' split
      all_goals exact hc
  | sweep | stopSweeper =>
      simp only [step, sweep, stopSweeper]
      split
      all_goals exact hc
  | _ => exact hc

/-! ## Those who come later -/

/-- Who launched a flight is one of the callers. -/
theorem launched_run (w : Workshop W J V) (config : CacheConfig) (world : W)
    (events : List (CacheEvent W J)) :
    let m₀ : CacheMachine W J V := CacheMachine.start config world
    ∀ i f key job, .launched i f key job ∈ m₀.log w events →
      ∃ p, (m₀.run w events).CallerAt i key p := by
  refine run_log_induction
    (P := fun m log => ∀ i f key job, .launched i f key job ∈ log → ∃ p, m.CallerAt i key p)
    ?_ ?_ events
  · intro _ _ _ _ hl
    cases hl
  intro m₁ m₂ log milestone? hm h i f key job hl
  have hc : ∃ p, m₁.CallerAt i key p := by
    rcases mem_log_concat_iff.mp hl with hl | hl
    · exact hm i f key job hl
    · exact ⟨_, (h.launched hl).1⟩
  obtain ⟨p, hc⟩ := hc
  obtain ⟨q, hq, -⟩ := h.caller_next hc
  exact ⟨q, hq⟩

/-- Who has its answer launches nothing any more. -/
theorem returned_not_launched (w : Workshop W J V) (hc : m.CallerAt i own (.returned outcome))
    (events : List (CacheEvent W J)) (f : Nat) (key : CacheKey) (job : J) :
    .launched i f key job ∉ m.log w events := by
  have hboth : (m.run w events).CallerAt i own (.returned outcome) ∧
      .launched i f key job ∉ m.log w events := by
    refine run_log_induction
      (P := fun m log => m.CallerAt i own (.returned outcome) ∧ .launched i f key job ∉ log)
      ⟨hc, List.not_mem_nil⟩ ?_ events
    rintro m₁ m₂ log milestone? ⟨hc, hnot⟩ h
    refine ⟨h.final_kept hc (Or.inr ⟨outcome, rfl⟩), ?_⟩
    intro hl
    rcases mem_log_concat_iff.mp hl with hl | hl
    · exact hnot hl
    · cases hc.symm.trans (h.launched hl).1
  exact hboth.2

/-- A closed cache turns a new caller away, and has nothing constructed for it. -/
theorem turned_away (w : Workshop W J V) (config : CacheConfig) (world : W)
    (before after : List (CacheEvent W J)) (key : CacheKey) (job : J) :
    let m₀ : CacheMachine W J V := CacheMachine.start config world
    let i := (m₀.run w before).callers.length
    let events := before ++ .arrive key job :: after
    (m₀.run w before).closed = true →
      (m₀.run w events).CallerAt i key (.returned (.error .closed)) ∧
        ∀ f key' job', .launched i f key' job' ∉ m₀.log w events := by
  intro m₀ i events closed
  have hc : ((m₀.run w before).step w (.arrive key job)).CallerAt i key
      (.returned (.error .closed)) := by
    simp [step, arrive, closed, CallerAt, i]
  constructor
  · rw [run_append]
    exact final_run w hc (Or.inr ⟨_, rfl⟩) after
  · intro f key' job' hl
    rw [log_append, log] at hl
    rcases List.mem_append.mp hl with hl | hl
    · -- whoever launched a flight before stands before this caller
      obtain ⟨p, hp⟩ := launched_run w config world before i f key' job' hl
      exact absurd (List.getElem?_eq_some_iff.mp hp).1 (Nat.lt_irrefl _)
    · rcases List.mem_append.mp hl with hl | hl
      · cases Option.mem_toList.mp hl
      · exact returned_not_launched w hc after f key' job' hl

/-! ## Those who wait -/

/-- A caller that waits in a closed cache is told so at its next turn, unless it is dropped. -/
theorem waiting_step (w : Workshop W J V) (closed : m.closed = true)
    (hc : m.CallerAt i key (.waiting f)) (event : CacheEvent W J) :
    (m.step w event).CallerAt i key (.returned (.error .closed)) ∨
      ((m.step w event).CallerAt i key .dropped ∧ event = .drop i) ∨
      ((m.step w event).CallerAt i key (.waiting f) ∧ event ≠ .poll i) := by
  have hphase : m.callerPhase? i = some (.waiting f) := by rw [callerPhase?, hc]; rfl
  by_cases h : event.caller? = some i
  · -- a caller that waits can only be polled or dropped
    cases event with
    | poll j =>
        obtain rfl := Option.some.inj h
        refine Or.inl ?_
        simp only [step, poll, hphase, if_pos closed]
        exact setCaller_self hc _
    | drop j =>
        obtain rfl := Option.some.inj h
        refine Or.inr (Or.inl ⟨?_, rfl⟩)
        simp only [step, drop, hphase]
        exact setCaller_self hc _
    | look j | join j | drive j | rest j =>
        obtain rfl := Option.some.inj h
        refine Or.inr (Or.inr ⟨?_, by simp⟩)
        simpa only [step, look, join, drive, rest, hphase, hc] using hc
    | _ => cases h
  · refine Or.inr (Or.inr ⟨step_callerAt w hc h, ?_⟩)
    rintro rfl
    exact h rfl

theorem waiting_run (w : Workshop W J V) (closed : m.closed = true)
    (hc : m.CallerAt i key (.waiting f)) (events : List (CacheEvent W J)) :
    (m.run w events).CallerAt i key (.returned (.error .closed)) ∨
      ((m.run w events).CallerAt i key .dropped ∧ .drop i ∈ events) ∨
      ((m.run w events).CallerAt i key (.waiting f) ∧ .poll i ∉ events) := by
  induction events generalizing m with
  | nil => exact Or.inr (Or.inr ⟨hc, List.not_mem_nil⟩)
  | cons event rest ih =>
      rcases waiting_step w closed hc event with hc | ⟨hc, rfl⟩ | ⟨hc, hpoll⟩
      · exact Or.inl (final_run w hc (Or.inr ⟨_, rfl⟩) rest)
      · exact Or.inr (Or.inl ⟨final_run w hc (Or.inl rfl) rest, List.mem_cons_self⟩)
      · rcases ih ((step_move w m event).closed closed) hc with hc | ⟨hc, hdrop⟩ | ⟨hc, hrest⟩
        · exact Or.inl hc
        · exact Or.inr (Or.inl ⟨hc, List.mem_cons_of_mem _ hdrop⟩)
        · refine Or.inr (Or.inr ⟨hc, ?_⟩)
          rw [List.mem_cons, not_or]
          exact ⟨hpoll.symm, hrest⟩

/-- Once the cache is closed, a flight without a value never gets one. -/
theorem FlightNext.barren {p q : FlightPhase J V} (h : FlightNext w m f key milestone? p q)
    (closed : m.closed = true) (hp : p.Barren) : q.Barren := by
  cases h with
  | reused _ | missed _ => exact hp.elim
  | started | worked _ | stalled _ | built _ => trivial
  | failed _ | discarded _ => exact ⟨_, rfl⟩
  | stored opened => exact (not_open_and_closed opened closed).elim
  | left => exact hp

/-- A caller that has a flight, in a closed cache, and gets no value from it. -/
structure Unserved (m : CacheMachine W J V) (i f : Nat) (key : CacheKey) : Prop where
  closed : m.closed = true
  flight : ∃ p, m.FlightAt f key p ∧ p.Barren
  caller : ∃ p, m.CallerAt i key p ∧ p.BoundTo f

theorem Unserved.move (hm : m.Unserved i f key) (h : Move w m milestone? m') :
    m'.Unserved i f key where
  closed := h.closed hm.closed
  flight := h.flight_kept (fun hp hnext => hnext.barren hm.closed hp) hm.flight
  caller := by
    obtain ⟨r, hr, hbarren⟩ := hm.flight
    obtain ⟨p, hp, hbound⟩ := hm.caller
    obtain ⟨q, hq, rfl | hnext⟩ := h.caller_next hp
    · exact ⟨q, hq, hbound⟩
    · refine ⟨q, hq, ?_⟩
      cases hnext with
      | dismissed _ => exact ⟨_, rfl⟩
      | droppedWaiting => trivial
      | polled _ | rested => exact hbound
      | delivered flight =>
          -- what is delivered is the outcome of this flight, an error
          subst hbound
          cases hr.symm.trans flight
          exact hbarren
      | hit _ | sought | boarded _ | launched | droppedLooking => exact hbound.elim

/-- What is constructed for a flight after closing was signalled reaches nobody. -/
theorem unserved_run (w : Workshop W J V) (hm : m.Unserved i f key)
    (events : List (CacheEvent W J)) (value : V) :
    ¬ (m.run w events).CallerAt i key (.returned (.ok value)) := by
  intro hc
  have hrun : (m.run w events).Unserved i f key :=
    run_induction (P := fun m => m.Unserved i f key) hm (fun hm h => hm.move h) events
  obtain ⟨p, hp, hbound⟩ := hrun.caller
  cases hc.symm.trans hp
  obtain ⟨error, herror⟩ := hbound
  cases herror

/-! ## The entries -/

/-- What is empty in a closed cache stays empty. -/
theorem Move.emptied (h : Move w m milestone? m') (closed : m.closed = true)
    (empty : m.store.entries = []) : m'.store.entries = [] := by
  rw [List.eq_nil_iff_forall_not_mem]
  rintro ⟨key, e⟩ he
  rcases h.stored he with ⟨e₀, hold, -⟩ | ⟨opened, -⟩
  · rw [empty] at hold
    cases hold
  · exact (not_open_and_closed opened closed).elim

theorem emptied_run (w : Workshop W J V) (closed : m.closed = true)
    (empty : m.store.entries = []) (events : List (CacheEvent W J)) :
    (m.run w events).store.entries = [] := by
  have hboth : (m.run w events).closed = true ∧ (m.run w events).store.entries = [] :=
    run_induction (P := fun m => m.closed = true ∧ m.store.entries = []) ⟨closed, empty⟩
      (fun hm h => ⟨h.closed hm.1, h.emptied hm.1 hm.2⟩) events
  exact hboth.2

/-- A closer stays, and has cleared the cache only if it has just done so or did before. -/
theorem Move.closer_kept (h : Move w m milestone? m') {phase : CloserPhase}
    (hc : m.closers[i]? = some phase) :
    ∃ phase', m'.closers[i]? = some phase' ∧
      (phase'.hasCleared = true → phase.hasCleared = true ∨ m'.store.entries = []) := by
  have hlt := (List.getElem?_eq_some_iff.mp hc).1
  have moved {j : Nat} {before after : CloserPhase} (closer : m.closers[j]? = some before)
      (hafter : after.hasCleared = true → before.hasCleared = true ∨ m'.store.entries = []) :
      ∃ phase', (m.closers.set j after)[i]? = some phase' ∧
        (phase'.hasCleared = true → phase.hasCleared = true ∨ m'.store.entries = []) := by
    by_cases hj : j = i
    · -- it is this closer that moves
      subst hj
      obtain rfl := Option.some.inj (hc.symm.trans closer)
      exact ⟨after, List.getElem?_set_self hlt, hafter⟩
    · exact ⟨phase, (List.getElem?_set_ne hj).trans hc, Or.inl⟩
  cases h with
  | close => exact ⟨phase, (List.getElem?_append_left hlt).trans hc, Or.inl⟩
  | signal closer | claim closer _ => exact moved closer (by simp [CloserPhase.hasCleared])
  | proceed closer _ => exact moved closer (by simp [CloserPhase.hasCleared])
  | clear closer => exact moved closer fun _ => Or.inr rfl
  | forget closer => exact moved closer fun _ => Or.inl rfl
  | _ => exact ⟨phase, hc, Or.inl⟩

/-- A closer that has cleared the cache left nothing in it. -/
structure Emptying (m : CacheMachine W J V) (i : Nat) : Prop where
  guarded : m.Guarded
  closer : ∃ phase, m.closers[i]? = some phase ∧
    (phase.hasCleared = true → m.store.entries = [])

theorem Emptying.move (hm : m.Emptying i) (h : Move w m milestone? m') : m'.Emptying i where
  guarded := hm.guarded.move h
  closer := by
    obtain ⟨phase, hphase, hempty⟩ := hm.closer
    obtain ⟨phase', hphase', hcleared⟩ := h.closer_kept hphase
    refine ⟨phase', hphase', fun hdone => ?_⟩
    rcases hcleared hdone with hdone | hnow
    · -- it had cleared the cache before, which then was closed
      have closed : m.closed = true :=
        hm.guarded i phase hphase (by rintro rfl; cases hdone)
      exact h.emptied closed (hempty hdone)
    · exact hnow

theorem guarded_run (w : Workshop W J V) (config : CacheConfig) (world : W)
    (events : List (CacheEvent W J)) :
    ((CacheMachine.start config world : CacheMachine W J V).run w events).Guarded :=
  run_induction (.start config world) (fun hm h => hm.move h) events

/-! ## Shutdown -/

/-- However a cache is used, once closing was signalled: whoever comes is turned away and has
nothing constructed, whoever waits is told at its next turn unless it is dropped, and a construction
that is under way brings a value to nobody who has its flight. Once a call that closed the cache is
done, the cache is empty for ever. -/
theorem shutdown (w : Workshop W J V) (config : CacheConfig) (world : W)
    (before : List (CacheEvent W J)) :
    let m₀ : CacheMachine W J V := CacheMachine.start config world
    let m := m₀.run w before
    (m.closed = true → ∀ key job after,
      let i := m.callers.length
      let events := before ++ .arrive key job :: after
      (m₀.run w events).CallerAt i key (.returned (.error .closed)) ∧
        (∀ f key' job', .launched i f key' job' ∉ m₀.log w events) ∧
        ∀ f key' job', .started f key' job' ∈ m₀.log w events →
          ∃ j, .launched j f key' job' ∈ m₀.log w events) ∧
    (m.closed = true → ∀ i key f after, m.CallerAt i key (.waiting f) →
      let m' := m.run w after
      m'.CallerAt i key (.returned (.error .closed)) ∨
        (m'.CallerAt i key .dropped ∧ .drop i ∈ after) ∨
        (m'.CallerAt i key (.waiting f) ∧ .poll i ∉ after)) ∧
    (m.closed = true → ∀ i key f p q after, m.CallerAt i key p → p.flight? = some f →
      m.FlightAt f key q → q.Barren →
        ∀ value, ¬ (m.run w after).CallerAt i key (.returned (.ok value))) ∧
    (m.closed = false → ∀ middle after,
      let i := m.closers.length
      let m' := (m.step w .close).run w middle
      m'.closers[i]? = some .done → (m'.run w after).store.entries = []) := by
  intro m₀ m
  refine ⟨?_, ?_, ?_, ?_⟩
  · intro closed key job after i events
    obtain ⟨hreturned, hlaunched⟩ := turned_away w config world before after key job closed
    refine ⟨hreturned, hlaunched, fun f key' job' hstarted => ?_⟩
    have htraced : (m₀.run w events).Traced w (m₀.log w events) := traced_run w config world events
    obtain ⟨j, -, hj⟩ := htraced.starts f key' job' hstarted
    exact ⟨j, hj⟩
  · intro closed i key f after hc
    exact waiting_run w closed hc after
  · intro closed i key f p q after hc hp hf hbarren value
    have hbound : p.BoundTo f := by
      cases p with
      | waiting _ | polling _ => exact Option.some.inj hp
      | _ => cases hp
    exact unserved_run w ⟨closed, ⟨q, hf, hbarren⟩, ⟨p, hc, hbound⟩⟩ after value
  · intro opened middle after i m' hdone
    have hbase : (m.step w .close).Emptying i := by
      refine ⟨(guarded_run w config world before).move (step_move w m .close), .signalling, ?_, ?_⟩
      · simp [step, close, opened, i]
      · intro h
        cases h
    have hm' : m'.Emptying i :=
      run_induction (P := fun m => m.Emptying i) hbase (fun hm h => hm.move h) middle
    have closed : m'.closed = true := hm'.guarded i .done hdone (by simp)
    obtain ⟨phase, hphase, hempty⟩ := hm'.closer
    obtain rfl := Option.some.inj (hdone.symm.trans hphase)
    exact emptied_run w closed (hempty rfl) after

end CacheMachine

end FleetGate
