import FleetGate.Cache.Machine

/-! # The outline of a cache

The outline of a machine leaves out the world and renames the failures that callers and flights
hold. Every step of a machine shows in the outline as the same step, of a workshop that answers at
once what the real one answers in the world as it is (`outline_step`). So what a machine does
depends on the world only through these answers, and never on what a failure is called.
-/

namespace FleetGate

variable {W J V : Type} (g : FleetError → FleetError)

/-- The progress of a job, failures renamed. -/
def Progress.renamed : Progress J V → Progress J V
  | .working job => .working job
  | .waiting job wake? => .waiting job wake?
  | .finished outcome => .finished (outcome.mapError g)

/-- A phase of a flight, failures renamed. -/
def FlightPhase.renamed : FlightPhase J V → FlightPhase J V
  | .unstarted job => .unstarted job
  | .missed job => .missed job
  | .making job wake? => .making job wake?
  | .made value => .made value
  | .settled outcome => .settled (outcome.mapError g)
  | .finished outcome => .finished (outcome.mapError g)

/-- A flight, failures renamed. -/
def Flight.renamed (x : Flight J V) : Flight J V :=
  { x with phase := x.phase.renamed g }

/-- A phase of a caller, failures renamed. -/
def CallerPhase.renamed : CallerPhase J V → CallerPhase J V
  | .looking job => .looking job
  | .joining job => .joining job
  | .waiting flight => .waiting flight
  | .polling flight => .polling flight
  | .returned outcome => .returned (outcome.mapError g)
  | .dropped => .dropped

/-- A caller, failures renamed. -/
def Caller.renamed (c : Caller J V) : Caller J V :=
  { c with phase := c.phase.renamed g }

/-- The workshop that answers, without a world, what another one answers in a world. -/
def Workshop.replay (w : Workshop W J V) (world : W) : Workshop Unit J V where
  advance now job _ := ((w.advance now job world).1.renamed g, ())

namespace CacheEvent

/-- What an event does to the world by itself. -/
def change : CacheEvent W J → W → W
  | .outside change => change
  | _ => id

/-- An event without what it does to the world. -/
def outline : CacheEvent W J → CacheEvent Unit J
  | .arrive key job => .arrive key job
  | .look i => .look i
  | .join i => .join i
  | .poll i => .poll i
  | .drive i => .drive i
  | .rest i => .rest i
  | .drop i => .drop i
  | .invalidate key => .invalidate key
  | .invalidateCluster cluster => .invalidateCluster cluster
  | .cleanup => .cleanup
  | .close => .close
  | .closing i => .closing i
  | .sweep => .sweep
  | .stopSweeper => .stopSweeper
  | .pass milliseconds => .pass milliseconds
  | .outside _ => .outside id

end CacheEvent

namespace CacheMachine

/-- A machine without its world, failures renamed. -/
def outline (m : CacheMachine W J V) : CacheMachine Unit J V :=
  { m with
    world := ()
    flights := m.flights.map (Flight.renamed g)
    callers := m.callers.map (Caller.renamed g) }

variable {g}

@[simp] theorem outline_now (m : CacheMachine W J V) : (m.outline g).now = m.now := rfl

@[simp] theorem outline_store (m : CacheMachine W J V) : (m.outline g).store = m.store := rfl

@[simp] theorem outline_closed (m : CacheMachine W J V) : (m.outline g).closed = m.closed := rfl

@[simp] theorem outline_registered (m : CacheMachine W J V) :
    (m.outline g).registered = m.registered := rfl

theorem callers_outline (m : CacheMachine W J V) (i : Nat) :
    (m.outline g).callers[i]? = m.callers[i]?.map (Caller.renamed g) :=
  List.getElem?_map

theorem flights_outline (m : CacheMachine W J V) (f : Nat) :
    (m.outline g).flights[f]? = m.flights[f]?.map (Flight.renamed g) :=
  List.getElem?_map

theorem callerPhase?_outline (m : CacheMachine W J V) (i : Nat) :
    (m.outline g).callerPhase? i = (m.callerPhase? i).map (CallerPhase.renamed g) := by
  simp [callerPhase?, callers_outline, Function.comp_def, Caller.renamed]

theorem flightPhase?_outline (m : CacheMachine W J V) (f : Nat) :
    (m.outline g).flightPhase? f = (m.flightPhase? f).map (FlightPhase.renamed g) := by
  simp [flightPhase?, flights_outline, Function.comp_def, Flight.renamed]

/-- Mapping a list in which one element was changed. -/
theorem map_modify {α β : Type} {f : α → β} {change : α → α} {change' : β → β}
    (h : ∀ a, f (change a) = change' (f a)) (l : List α) (i : Nat) :
    (l.modify i change).map f = (l.map f).modify i change' := by
  refine List.ext_getElem? fun j => ?_
  simp only [List.getElem?_map, List.getElem?_modify]
  by_cases hij : i = j
  · simp [hij, Function.comp_def, h]
  · simp [hij]

theorem outline_setCaller (m : CacheMachine W J V) (i : Nat) (phase : CallerPhase J V) :
    (m.setCaller i phase).outline g = (m.outline g).setCaller i (phase.renamed g) := by
  have hcallers : (m.callers.modify i fun c => { c with phase }).map (Caller.renamed g)
      = (m.callers.map (Caller.renamed g)).modify i fun c =>
          { c with phase := phase.renamed g } :=
    map_modify (by intro _; rfl) m.callers i
  simp only [outline, setCaller, hcallers]

theorem outline_setFlight (m : CacheMachine W J V) (f : Nat) (phase : FlightPhase J V) :
    (m.setFlight f phase).outline g = (m.outline g).setFlight f (phase.renamed g) := by
  have hflights : (m.flights.modify f fun x => { x with phase }).map (Flight.renamed g)
      = (m.flights.map (Flight.renamed g)).modify f fun x =>
          { x with phase := phase.renamed g } :=
    map_modify (by intro _; rfl) m.flights f
  simp only [outline, setFlight, hflights]

/-! ## Steps -/

/-- The failure of a closed cache keeps its name. -/
theorem mapError_closed (hg : g .closed = .closed) :
    (.error .closed : FleetResult V).mapError g = .error .closed :=
  congrArg Except.error hg

theorem outline_look (m : CacheMachine W J V) (i : Nat) :
    (m.look i).outline g = (m.outline g).look i := by
  rcases hcaller : m.callers[i]? with _ | ⟨key, phase⟩
  · simp only [look, callers_outline, hcaller, Option.map_none]
  · cases phase with
    | looking job =>
        simp only [look, callers_outline, hcaller, Option.map_some, Caller.renamed,
          CallerPhase.renamed, outline_store, outline_now]
        rcases m.store.lookup key m.now with ⟨_ | value, store⟩
        · exact outline_setCaller _ i _
        · exact outline_setCaller _ i _
    | _ =>
        simp only [look, callers_outline, hcaller, Option.map_some, Caller.renamed,
          CallerPhase.renamed]

theorem outline_join (m : CacheMachine W J V) (i : Nat) :
    (m.join i).outline g = (m.outline g).join i := by
  rcases hcaller : m.callers[i]? with _ | ⟨key, phase⟩
  · simp only [join, callers_outline, hcaller, Option.map_none]
  · cases phase with
    | joining job =>
        simp only [join, callers_outline, hcaller, Option.map_some, Caller.renamed,
          CallerPhase.renamed, outline_registered]
        rcases Keyed.get? key m.registered with _ | f
        · simp only [outline_setCaller]
          simp [outline, Flight.renamed, FlightPhase.renamed, CallerPhase.renamed]
        · exact outline_setCaller _ i _
    | _ =>
        simp only [join, callers_outline, hcaller, Option.map_some, Caller.renamed,
          CallerPhase.renamed]

theorem outline_poll (hg : g .closed = .closed) (m : CacheMachine W J V) (i : Nat) :
    (m.poll i).outline g = (m.outline g).poll i := by
  rw [poll, poll, callerPhase?_outline]
  rcases m.callerPhase? i with _ | phase
  · rfl
  · cases phase with
    | waiting f =>
        refine (outline_setCaller m i _).trans ?_
        simp only [Option.map_some, CallerPhase.renamed, outline_closed]
        by_cases hclosed : m.closed = true
        · simp only [hclosed, if_true, mapError_closed hg]
        · simp only [hclosed, Bool.false_eq_true, if_false]
    | _ => rfl

theorem outline_rest (m : CacheMachine W J V) (i : Nat) :
    (m.rest i).outline g = (m.outline g).rest i := by
  rw [rest, rest, callerPhase?_outline]
  rcases m.callerPhase? i with _ | phase
  · rfl
  · cases phase with
    | polling f =>
        simp only [Option.map_some, CallerPhase.renamed, flightPhase?_outline]
        rcases m.flightPhase? f with _ | stage
        · rfl
        · cases stage <;> first | exact outline_setCaller m i _ | rfl
    | _ => rfl

theorem outline_drop (m : CacheMachine W J V) (i : Nat) :
    (m.drop i).outline g = (m.outline g).drop i := by
  rw [drop, drop, callerPhase?_outline]
  rcases m.callerPhase? i with _ | phase
  · rfl
  · cases phase <;> first | exact outline_setCaller m i _ | rfl

theorem outline_drive (hg : g .closed = .closed) (w : Workshop W J V) (m : CacheMachine W J V)
    (i : Nat) : (m.drive w i).outline g = (m.outline g).drive (w.replay g m.world) i := by
  rw [drive, drive, callerPhase?_outline]
  rcases m.callerPhase? i with _ | phase
  · rfl
  · cases phase with
    | polling f =>
        simp only [Option.map_some, CallerPhase.renamed, flights_outline]
        rcases m.flights[f]? with _ | ⟨key, stage⟩
        · rfl
        · cases stage with
          | unstarted job =>
              simp only [Option.map_some, Flight.renamed, FlightPhase.renamed, outline_store,
                outline_now]
              rcases m.store.lookup key m.now with ⟨_ | value, store⟩
              · exact outline_setFlight _ f _
              · exact outline_setFlight _ f _
          | missed job => exact outline_setFlight _ f _
          | making job wake? =>
              simp only [Option.map_some, Flight.renamed, FlightPhase.renamed, outline_now,
                Workshop.replay]
              rcases w.advance m.now job m.world with ⟨_ | _ | (_ | _), world⟩
              · exact outline_setFlight _ f _
              · simp only [outline_setCaller, outline_setFlight]
                rfl
              · exact outline_setFlight _ f _
              · exact outline_setFlight _ f _
          | made value =>
              simp only [Option.map_some, Flight.renamed, FlightPhase.renamed, outline_closed]
              by_cases hclosed : m.closed = true
              · simp only [hclosed, if_true, outline_setFlight, FlightPhase.renamed,
                  mapError_closed hg]
              · simp only [hclosed, Bool.false_eq_true, if_false]
                exact outline_setFlight _ f _
          | settled outcome => exact outline_setFlight _ f _
          | finished outcome => exact outline_setCaller _ i _
    | _ => rfl

theorem outline_closing (m : CacheMachine W J V) (i : Nat) :
    (m.closing i).outline g = (m.outline g).closing i := by
  have hclosers : (m.outline g).closers = m.closers := rfl
  have hsweeper : (m.outline g).sweeper = m.sweeper := rfl
  simp only [closing, hclosers, hsweeper]
  rcases m.closers[i]? with _ | phase
  · rfl
  · cases phase with
    | taking => cases m.sweeper.unclaimed <;> rfl
    | awaiting => cases m.sweeper.running <;> rfl
    | _ => rfl

/-- Every step shows in the outline as the same step, of a workshop that answers what the real one
answers in the world as it is. Nothing but the failure of a closed cache is ever made up. -/
theorem outline_step (hg : g .closed = .closed) (w : Workshop W J V) (m : CacheMachine W J V)
    (event : CacheEvent W J) :
    (m.step w event).outline g = (m.outline g).step (w.replay g m.world) event.outline := by
  cases event with
  | arrive key job =>
      cases hclosed : m.closed with
      | false =>
          simp [step, arrive, outline, hclosed, CacheEvent.outline, Caller.renamed,
            CallerPhase.renamed]
      | true =>
          simp [step, arrive, outline, hclosed, CacheEvent.outline, Caller.renamed,
            CallerPhase.renamed, mapError_closed hg]
  | look i => exact outline_look m i
  | join i => exact outline_join m i
  | poll i => exact outline_poll hg m i
  | drive i => exact outline_drive hg w m i
  | rest i => exact outline_rest m i
  | drop i => exact outline_drop m i
  | closing i => exact outline_closing m i
  | sweep =>
      change (m.sweep).outline g = (m.outline g).sweep
      rw [sweep, apply_ite (outline g)]
      rfl
  | stopSweeper =>
      change (m.stopSweeper).outline g = (m.outline g).stopSweeper
      rw [stopSweeper, apply_ite (outline g)]
      rfl
  | _ => rfl

/-! ## The job of a step -/

/-- The job that a step carries on. -/
def jobOf? (m : CacheMachine W J V) : CacheEvent W J → Option J
  | .drive i =>
    match m.callerPhase? i with
    | some (.polling f) =>
      match m.flightPhase? f with
      | some (.making job _) => some job
      | _ => none
    | _ => none
  | _ => none

/-- Which job that is shows in the outline. -/
theorem jobOf?_outline (m : CacheMachine W J V) (event : CacheEvent W J) :
    (m.outline g).jobOf? event.outline = m.jobOf? event := by
  cases event with
  | drive i =>
      simp only [jobOf?, CacheEvent.outline, callerPhase?_outline]
      rcases m.callerPhase? i with _ | phase
      · rfl
      · cases phase with
        | polling f =>
            simp only [Option.map_some, CallerPhase.renamed, flightPhase?_outline]
            rcases m.flightPhase? f with _ | stage
            · rfl
            · cases stage <;> rfl
        | _ => rfl
  | _ => rfl

/-- A step depends on the workshop only by what it makes of the job that is carried on. -/
theorem step_congr {w w' : Workshop W J V} {m : CacheMachine W J V} {event : CacheEvent W J}
    (h : ∀ job, m.jobOf? event = some job →
      w.advance m.now job m.world = w'.advance m.now job m.world) :
    m.step w event = m.step w' event := by
  cases event with
  | drive i =>
      simp only [jobOf?, flightPhase?] at h
      simp only [step, drive]
      rcases hphase : m.callerPhase? i with _ | phase
      · rfl
      · cases phase with
        | polling f =>
            dsimp only
            rcases hflight : m.flights[f]? with _ | ⟨key, stage⟩
            · rfl
            · cases stage with
              | making job wake? =>
                  have hjob := h job (by simp [hphase, hflight])
                  simp only [hjob]
              | _ => rfl
        | _ => rfl
  | _ => rfl

/-- The world is changed by carrying a job on, and from outside. -/
theorem world_step (w : Workshop W J V) (m : CacheMachine W J V) (event : CacheEvent W J) :
    (m.step w event).world
      = match m.jobOf? event with
        | some job => (w.advance m.now job m.world).2
        | none => event.change m.world := by
  cases event with
  | arrive key job => rfl
  | look i =>
      simp only [step, look, jobOf?]
      split
      · split <;> rfl
      · rfl
  | join i =>
      simp only [step, join, jobOf?]
      split
      · split <;> rfl
      · rfl
  | poll i =>
      simp only [step, poll, jobOf?]
      split <;> rfl
  | drive i =>
      simp only [step, drive, jobOf?, flightPhase?]
      rcases m.callerPhase? i with _ | phase
      · rfl
      · cases phase with
        | polling f =>
            rcases hflight : m.flights[f]? with _ | ⟨key, stage⟩
            · simp [hflight]
              rfl
            · simp only [hflight]
              cases stage with
              | unstarted job =>
                  rcases m.store.lookup key m.now with ⟨_ | _, _⟩ <;> rfl
              | making job wake? =>
                  simp only [Option.map_some]
                  rcases w.advance m.now job m.world with ⟨_ | _ | (_ | _), world⟩ <;> rfl
              | made value =>
                  simp only [Option.map_some]
                  split <;> rfl
              | _ => rfl
        | _ => rfl
  | rest i =>
      simp only [step, rest, jobOf?]
      split
      · split <;> rfl
      · rfl
  | drop i =>
      simp only [step, drop, jobOf?]
      split <;> rfl
  | closing i =>
      simp only [step, closing, jobOf?]
      split
      · rfl
      · split <;> rfl
      · split <;> rfl
      all_goals rfl
  | sweep =>
      simp only [step, sweep, jobOf?]
      split <;> rfl
  | stopSweeper =>
      simp only [step, stopSweeper, jobOf?]
      split <;> rfl
  | _ => rfl

end CacheMachine

end FleetGate
