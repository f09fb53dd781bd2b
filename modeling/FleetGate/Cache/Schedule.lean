import FleetGate.Cache.Machine

/-!
# Scheduling the cache

A deterministic way to run the machine: callers get their turns in the order in which they arrived,
each going as far as it can, and time stands still while anybody can move. When all wait, time is
moved on by whoever runs the machine, in one go by `elapse` or from wake-up to wake-up by
`sleepUntil`.

Everything here is a sequence of atomic steps of the machine.
-/

namespace FleetGate.CacheMachine

variable {W J V : Type}

/-- The next event of a caller that can move. -/
def nextEvent? (m : CacheMachine W J V) (i : Nat) : Option (CacheEvent W J) :=
  match m.callerPhase? i with
  | some (.looking _) => some (.look i)
  | some (.joining _) => some (.join i)
  | some (.waiting _) => some (.poll i)
  | some (.polling _) => some (.drive i)
  | _ => none

/-- Whether a caller waits. -/
def isWaiting (m : CacheMachine W J V) (i : Nat) : Bool :=
  match m.callerPhase? i with
  | some (.waiting _) => true
  | _ => false

/-- Whether a caller polls. -/
def isPolling (m : CacheMachine W J V) (i : Nat) : Bool :=
  match m.callerPhase? i with
  | some (.polling _) => true
  | _ => false

/-- The answer of a caller, once it has one. -/
def answer? (m : CacheMachine W J V) (i : Nat) : Option (FleetResult V) :=
  match m.callerPhase? i with
  | some (.returned outcome) => some outcome
  | _ => none

/-- How many steps a caller is given for one turn. The construction of a client takes fewer. -/
def turnLimit : Nat := 64

/-- One turn of a caller: it moves until it has an answer or its flight has to wait. -/
def turn (w : Workshop W J V) (i : Nat) : Nat → CacheMachine W J V → CacheMachine W J V
  | 0, m => m
  | fuel + 1, m =>
    match m.nextEvent? i with
    | none => m
    | some event =>
      let after := m.step w event
      if m.isPolling i && after.isWaiting i then after else turn w i fuel after

/-- One turn of every caller, in order of arrival. -/
def round (w : Workshop W J V) (m : CacheMachine W J V) : CacheMachine W J V :=
  (List.range m.callers.length).foldl (fun m i => turn w i turnLimit m) m

/-- Turns until all callers wait or have their answers. The first round carries every flight as far
as it can go, the second hands the outcomes out. -/
def settleCallers (w : Workshop W J V) (m : CacheMachine W J V) : CacheMachine W J V :=
  round w (round w m)

/-- How many sweeps can be due at once: one that is late by no more than the tolerance may be
followed by others. -/
def sweepLimit : Nat := sweepTolerance + 2

/-- All sweeps that are due, or the end of the sweeper once closing was signalled. -/
def settleSweeper (m : CacheMachine W J V) : CacheMachine W J V :=
  (List.range sweepLimit).foldl (fun m _ => if m.closed then m.stopSweeper else m.sweep) m

/-- The times for which flights wait that some caller waits for. -/
def wakeTimes (m : CacheMachine W J V) : List Nat :=
  m.callers.filterMap fun c =>
    match c.phase with
    | .waiting f =>
      match m.flightPhase? f with
      | some (.making _ wake?) => wake?
      | _ => none
    | _ => none

/-- Everybody moves as far as possible at the present time; of sweeper and flights, those go first
whose time came first. -/
def settle (w : Workshop W J V) (m : CacheMachine W J V) : CacheMachine W J V :=
  if m.wakeTimes.all fun t => m.sweeper.due ≤ t then settleCallers w m.settleSweeper
  else (settleCallers w m).settleSweeper

/-- Moves time on in one go. -/
def elapse (w : Workshop W J V) (milliseconds : Nat) (m : CacheMachine W J V) :
    CacheMachine W J V :=
  settle w (m.step w (.pass milliseconds))

/-- The times from now on at which somebody wants to move. -/
def alarms (m : CacheMachine W J V) : List Nat :=
  (if m.sweeper.running then [m.sweeper.due] else []) ++ m.wakeTimes

/-- Moves time on to `t`, stopping at every alarm on the way. -/
def sleepUntil (w : Workshop W J V) (t : Nat) (m : CacheMachine W J V) : CacheMachine W J V :=
  go w t (t - m.now) m
where
  /-- Goes on for at most so many stops. -/
  go (w : Workshop W J V) (t : Nat) : Nat → CacheMachine W J V → CacheMachine W J V
    | 0, m => m
    | fuel + 1, m =>
      if m.now < t then
        let next := ((m.alarms.filter fun a => m.now < a && a < t).min?).getD t
        go w t fuel (elapse w (next - m.now) m)
      else m

/-- Moves time on, from wake-up to wake-up, until the given callers have their answers or nothing
is left to wait for. -/
def await (w : Workshop W J V) (callers : List Nat) : Nat → CacheMachine W J V → CacheMachine W J V
  | 0, m => m
  | fuel + 1, m =>
    if callers.all fun i => (m.answer? i).isSome then m
    else
      match m.wakeTimes.min? with
      | some t => await w callers fuel (sleepUntil w t m)
      | none => m

/-- How many wake-ups a single flight can need. -/
def wakeLimit : Nat := 8

/-- The answers for several keys, asked for at once. A caller that never gets one is told that the
cache is closed. -/
def getAll (w : Workshop W J V) (requests : List (CacheKey × J)) (m : CacheMachine W J V) :
    List (FleetResult V) × CacheMachine W J V :=
  let first := m.callers.length
  let callers := (List.range requests.length).map (first + ·)
  let m := requests.foldl (fun m r => m.step w (.arrive r.1 r.2)) m
  let m := await w callers (wakeLimit * (m.callers.length + 1)) (settle w m)
  (callers.map fun i => (m.answer? i).getD (.error .closed), m)

/-- The answer for a key, constructed by a job if it is not there. -/
def get (w : Workshop W J V) (key : CacheKey) (job : J) (m : CacheMachine W J V) :
    FleetResult V × CacheMachine W J V :=
  let (answers, m) := getAll w [(key, job)] m
  (answers.head?.getD (.error .closed), m)

/-- Closes the cache and waits until that is done. -/
def shutDown (w : Workshop W J V) (m : CacheMachine W J V) : CacheMachine W J V :=
  let closer := m.closers.length
  let signalled := (m.step w .close).run w [.closing closer, .closing closer, .stopSweeper]
  settle w (signalled.run w [.closing closer, .closing closer, .closing closer])

end FleetGate.CacheMachine
