import FleetGate.Cache.Store
import FleetGate.Fleet.Error

/-!
# The cache at work

A cache whose missing values are constructed once for all callers that wait for them, as a machine
that moves in atomic steps.

A caller looks for its key; if nothing is there it joins the flight that is registered for the key,
or registers a new one. A flight looks again, has the value constructed and stores it, and takes
itself off the register before its outcome is seen. It moves only while some caller that waits for
it polls it, so a flight whose callers all left stays registered and is carried on by the next
caller. Closing is signalled first; from then on nothing is stored, callers are turned away and
those that wait are told so, and the entries are cleared once the sweeper has stopped.

The construction of a value is a job that a workshop carries on step by step, acting on a world that
others may change in between. `CacheMachine.step` is one atomic step; a step that is not possible
changes nothing.
-/

namespace FleetGate

/-- How far a job got. -/
inductive Progress (J V : Type) where
  | working (job : J)
  /-- The job cannot go on before a time, or before something else happens. -/
  | waiting (job : J) (wake? : Option Nat)
  | finished (outcome : FleetResult V)

/-- Carries jobs on: given the time, one step of a job in a world. -/
structure Workshop (W J V : Type) where
  advance : Nat → J → W → Progress J V × W

/-- Where a flight is. -/
inductive FlightPhase (J V : Type) where
  /-- Registered; the second look is still to come. -/
  | unstarted (job : J)
  /-- The second look found nothing. -/
  | missed (job : J)
  /-- The construction is under way, and may be waiting for a time. -/
  | making (job : J) (wake? : Option Nat)
  /-- Constructed and not yet stored. -/
  | made (value : V)
  /-- The outcome is known, the flight still registered. -/
  | settled (outcome : FleetResult V)
  | finished (outcome : FleetResult V)

/-- The construction of a value for all callers of a key. -/
structure Flight (J V : Type) where
  key : CacheKey
  phase : FlightPhase J V

/-- Where a caller is. -/
inductive CallerPhase (J V : Type) where
  | looking (job : J)
  | joining (job : J)
  | waiting (flight : Nat)
  | polling (flight : Nat)
  | returned (outcome : FleetResult V)
  /-- The caller was dropped before it had an answer. -/
  | dropped

/-- A caller with the key it asks for. -/
structure Caller (J V : Type) where
  key : CacheKey
  phase : CallerPhase J V

/-- Where someone who closes the cache is. -/
inductive CloserPhase where
  | signalling
  | taking
  | awaiting
  | clearing
  | forgetting
  | done
  deriving DecidableEq, Repr

/-- The task that removes expired entries from time to time. -/
structure Sweeper where
  running : Bool := true
  /-- Whether nobody has claimed the right to wait for its end. -/
  unclaimed : Bool := true
  due : Nat
  deriving DecidableEq, Repr

/-- A cache at work. -/
structure CacheMachine (W J V : Type) where
  world : W
  /-- Milliseconds since the cache was made. -/
  now : Nat := 0
  store : CacheStore V
  closed : Bool := false
  /-- The flights that may be joined, by number. -/
  registered : List (CacheKey × Nat) := []
  flights : List (Flight J V) := []
  callers : List (Caller J V) := []
  closers : List CloserPhase := []
  sweeper : Sweeper

/-- An atomic step of somebody. Callers and closers are named by number. -/
inductive CacheEvent (W J : Type) where
  | arrive (key : CacheKey) (job : J)
  | look (caller : Nat)
  | join (caller : Nat)
  | poll (caller : Nat)
  | drive (caller : Nat)
  /-- The flight has to wait for its turn at the entries. -/
  | rest (caller : Nat)
  | drop (caller : Nat)
  | invalidate (key : CacheKey)
  | invalidateCluster (cluster : String)
  | cleanup
  | close
  | closing (closer : Nat)
  | sweep
  | stopSweeper
  | pass (milliseconds : Nat)
  /-- Somebody else changes the world. -/
  | outside (change : W → W)

namespace CacheMachine

variable {W J V : Type}

/-- A cache that was just made. Without time between two sweeps nothing is swept. -/
def start (config : CacheConfig) (world : W) : CacheMachine W J V where
  world
  store := { config }
  sweeper := { running := 0 < config.sweepInterval, due := config.sweepInterval }

/-- The phase of a caller. -/
def callerPhase? (m : CacheMachine W J V) (i : Nat) : Option (CallerPhase J V) :=
  m.callers[i]?.map (·.phase)

/-- The phase of a flight. -/
def flightPhase? (m : CacheMachine W J V) (f : Nat) : Option (FlightPhase J V) :=
  m.flights[f]?.map (·.phase)

/-- Moves a caller to a phase. -/
def setCaller (m : CacheMachine W J V) (i : Nat) (phase : CallerPhase J V) : CacheMachine W J V :=
  { m with callers := m.callers.modify i fun c => { c with phase } }

/-- Moves a flight to a phase. -/
def setFlight (m : CacheMachine W J V) (f : Nat) (phase : FlightPhase J V) : CacheMachine W J V :=
  { m with flights := m.flights.modify f fun x => { x with phase } }

/-- A new caller; a closed cache turns it away at once. -/
def arrive (m : CacheMachine W J V) (key : CacheKey) (job : J) : CacheMachine W J V :=
  let phase : CallerPhase J V := if m.closed then .returned (.error .closed) else .looking job
  { m with callers := m.callers ++ [⟨key, phase⟩] }

/-- A caller looks for its key. -/
def look (m : CacheMachine W J V) (i : Nat) : CacheMachine W J V :=
  match m.callers[i]? with
  | some ⟨key, .looking job⟩ =>
    match m.store.lookup key m.now with
    | (some value, store) => { m with store }.setCaller i (.returned (.ok value))
    | (none, store) => { m with store }.setCaller i (.joining job)
  | _ => m

/-- A caller joins the registered flight of its key, or registers one with its own job. -/
def join (m : CacheMachine W J V) (i : Nat) : CacheMachine W J V :=
  match m.callers[i]? with
  | some ⟨key, .joining job⟩ =>
    match Keyed.get? key m.registered with
    | some f => m.setCaller i (.waiting f)
    | none =>
      let f := m.flights.length
      let flight : Flight J V := ⟨key, .unstarted job⟩
      let m := { m with
        flights := m.flights ++ [flight]
        registered := m.registered ++ [(key, f)] }
      m.setCaller i (.waiting f)
  | _ => m

/-- A waiting caller gets its turn: closing is seen before anything else. -/
def poll (m : CacheMachine W J V) (i : Nat) : CacheMachine W J V :=
  match m.callerPhase? i with
  | some (.waiting f) =>
    m.setCaller i (if m.closed then .returned (.error .closed) else .polling f)
  | _ => m

/-- One step of a flight for the caller that polls it. -/
def drive (w : Workshop W J V) (m : CacheMachine W J V) (i : Nat) : CacheMachine W J V :=
  match m.callerPhase? i with
  | some (.polling f) =>
    match m.flights[f]? with
    | none => m
    | some ⟨key, phase⟩ =>
      match phase with
      | .unstarted job =>
        match m.store.lookup key m.now with
        | (some value, store) => { m with store }.setFlight f (.settled (.ok value))
        | (none, store) => { m with store }.setFlight f (.missed job)
      | .missed job => { m with store := m.store.countMiss }.setFlight f (.making job none)
      | .making job _ =>
        match w.advance m.now job m.world with
        | (.working job, world) => { m with world }.setFlight f (.making job none)
        | (.waiting job wake?, world) =>
          ({ m with world }.setFlight f (.making job wake?)).setCaller i (.waiting f)
        | (.finished (.ok value), world) => { m with world }.setFlight f (.made value)
        | (.finished (.error e), world) => { m with world }.setFlight f (.settled (.error e))
      | .made value =>
        if m.closed then m.setFlight f (.settled (.error .closed))
        else
          { m with store := m.store.insert key value m.now }.setFlight f (.settled (.ok value))
      | .settled outcome =>
        { m with registered := Keyed.erase key m.registered }.setFlight f (.finished outcome)
      | .finished outcome => m.setCaller i (.returned outcome)
  | _ => m

/-- The flight that a caller polls has to wait for its turn at the entries, so the caller waits. -/
def rest (m : CacheMachine W J V) (i : Nat) : CacheMachine W J V :=
  match m.callerPhase? i with
  | some (.polling f) =>
    match m.flightPhase? f with
    | some (.unstarted _) | some (.made _) => m.setCaller i (.waiting f)
    | _ => m
  | _ => m

/-- A caller is dropped, which can happen only while it waits for something. -/
def drop (m : CacheMachine W J V) (i : Nat) : CacheMachine W J V :=
  match m.callerPhase? i with
  | some (.looking _) | some (.waiting _) => m.setCaller i .dropped
  | _ => m

/-- Drops the entry of a key and tells whether there was one. -/
def invalidate (m : CacheMachine W J V) (key : CacheKey) : Bool × CacheMachine W J V :=
  let (removed, store) := m.store.invalidate key
  (removed, { m with store })

/-- Drops the entries of a cluster and tells how many there were. -/
def invalidateCluster (m : CacheMachine W J V) (cluster : String) : Nat × CacheMachine W J V :=
  let (removed, store) := m.store.invalidateCluster cluster
  (removed, { m with store })

/-- Drops the expired entries and tells how many there were. -/
def cleanup (m : CacheMachine W J V) : Nat × CacheMachine W J V :=
  let (removed, store) := m.store.removeExpired m.now
  (removed, { m with store })

/-- Somebody starts to close the cache; if that was signalled before, there is nothing to do. -/
def close (m : CacheMachine W J V) : CacheMachine W J V :=
  { m with closers := m.closers ++ [if m.closed then .done else .signalling] }

/-- The next step of a closer. The first one to get there waits for the sweeper's end. -/
def closing (m : CacheMachine W J V) (i : Nat) : CacheMachine W J V :=
  let go (m : CacheMachine W J V) (phase : CloserPhase) : CacheMachine W J V :=
    { m with closers := m.closers.set i phase }
  match m.closers[i]? with
  | some .signalling => go { m with closed := true } .taking
  | some .taking =>
    if m.sweeper.unclaimed then
      go { m with sweeper := { m.sweeper with unclaimed := false } } .awaiting
    else go m .clearing
  | some .awaiting => if m.sweeper.running then m else go m .clearing
  | some .clearing => go { m with store := m.store.clear } .forgetting
  | some .forgetting => go { m with registered := [] } .done
  | some .done | none => m

/-- How late a sweep may be, in milliseconds, without moving those after it. -/
def sweepTolerance : Nat := 5

/-- The time of the sweep after one that was due at `due` and done at `now`. -/
def nextSweep (interval due now : Nat) : Nat :=
  if due + sweepTolerance < now then now + interval else due + interval

/-- The sweeper removes expired entries, if that is due. -/
def sweep (m : CacheMachine W J V) : CacheMachine W J V :=
  if m.sweeper.running && m.sweeper.due ≤ m.now then
    let due := nextSweep m.store.config.sweepInterval m.sweeper.due m.now
    { m.cleanup.2 with sweeper := { m.sweeper with due } }
  else m

/-- The sweeper stops once closing was signalled. -/
def stopSweeper (m : CacheMachine W J V) : CacheMachine W J V :=
  if m.closed then { m with sweeper := { m.sweeper with running := false } } else m

/-- One atomic step. -/
def step (w : Workshop W J V) (m : CacheMachine W J V) : CacheEvent W J → CacheMachine W J V
  | .arrive key job => m.arrive key job
  | .look i => m.look i
  | .join i => m.join i
  | .poll i => m.poll i
  | .drive i => m.drive w i
  | .rest i => m.rest i
  | .drop i => m.drop i
  | .invalidate key => (m.invalidate key).2
  | .invalidateCluster cluster => (m.invalidateCluster cluster).2
  | .cleanup => m.cleanup.2
  | .close => m.close
  | .closing i => m.closing i
  | .sweep => m.sweep
  | .stopSweeper => m.stopSweeper
  | .pass milliseconds => { m with now := m.now + milliseconds }
  | .outside change => { m with world := change m.world }

/-- The machine after events in order. -/
def run (w : Workshop W J V) (m : CacheMachine W J V) (events : List (CacheEvent W J)) :
    CacheMachine W J V :=
  events.foldl (step w) m

end CacheMachine

end FleetGate
