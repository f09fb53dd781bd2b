import FleetGate.Fleet.Federation
import FleetGate.Proofs.Cache.Schedule

/-! # Runs of a federation

What may happen to a federation, in any order: calls come in that ask for a client, and everything
that goes on behind them. A run of a federation is a run of the clients behind it (`run_clients`),
in which whoever comes in passed the checks of the federation (`ask_of_clientsEvent`).
-/

namespace FleetGate

/-- Something that happens to a federation. -/
inductive FederationEvent (σ : Type) where
  /-- A call asks for a client of a cluster, as whoever makes the call. -/
  | ask (cluster : String) (identity? : Option RawIdentity)
  /-- Somebody behind a call moves, kept clients are dropped, time passes, or a cluster changes. -/
  | other (event : CacheEvent σ Construction) (quiet : event.isArrival = false)

namespace Federation

variable {σ : Type} {b : Backend σ} {f : Federation σ} {cluster : String}
  {identity? : Option RawIdentity} {caller : Identity} {key : CacheKey} {job : Construction}
  {events : List (FederationEvent σ)}

/-- What an event does to the clients. A call that fails the checks leaves them as they are. -/
def clientsEvent (f : Federation σ) : FederationEvent σ → CacheEvent σ Construction
  | .ask cluster identity? =>
    match f.screen cluster identity? with
    | .ok caller => .arrive (keyOf cluster caller) ⟨cluster, caller, .ordered⟩
    | .error _ => .outside id
  | .other event _ => event

/-- One event. -/
def step (b : Backend σ) (f : Federation σ) (event : FederationEvent σ) : Federation σ :=
  { f with clients := f.clients.step (f.workshop b) (f.clientsEvent event) }

/-- The federation after events in order. -/
def run (b : Backend σ) (f : Federation σ) (events : List (FederationEvent σ)) : Federation σ :=
  events.foldl (step b) f

/-- What a run does to the clients. -/
def trace (b : Backend σ) (f : Federation σ) :
    List (FederationEvent σ) → List (CacheEvent σ Construction)
  | [] => []
  | event :: rest => f.clientsEvent event :: (f.step b event).trace b rest

theorem run_append (b : Backend σ) (f : Federation σ) (before after : List (FederationEvent σ)) :
    f.run b (before ++ after) = (f.run b before).run b after :=
  List.foldl_append

/-- A run of a federation is a run of its clients. -/
theorem run_eq (b : Backend σ) (f : Federation σ) (events : List (FederationEvent σ)) :
    f.run b events = { f with clients := f.clients.run (f.workshop b) (f.trace b events) } := by
  induction events generalizing f with
  | nil => rfl
  | cons event rest ih =>
      have hstep : f.run b (event :: rest) = (f.step b event).run b rest := rfl
      rw [hstep, ih]
      rfl

theorem run_clients (b : Backend σ) (f : Federation σ) (events : List (FederationEvent σ)) :
    (f.run b events).clients = f.clients.run (f.workshop b) (f.trace b events) := by
  rw [run_eq]

/-- Every step of the clients in a run is that of an event of the run. -/
theorem trace_split {before after : List (CacheEvent σ Construction)}
    {event : CacheEvent σ Construction} (h : f.trace b events = before ++ event :: after) :
    ∃ past e rest, events = past ++ e :: rest ∧ f.trace b past = before ∧
      (f.run b past).clientsEvent e = event := by
  induction events generalizing f before with
  | nil => cases before <;> cases h
  | cons e rest ih =>
      cases before with
      | nil =>
          cases h
          exact ⟨[], e, rest, rfl, rfl, rfl⟩
      | cons first before =>
          rw [trace, List.cons_append, List.cons.injEq] at h
          obtain ⟨rfl, h⟩ := h
          obtain ⟨past, e', rest', rfl, htrace, hevent⟩ := ih h
          exact ⟨e :: past, e', rest', rfl, by rw [trace, htrace], hevent⟩

/-! ## Asking -/

/-- What passes the checks was normalized, while the federation was open, and names a cluster that
may be named. -/
theorem screen_eq_ok_iff : f.screen cluster identity? = .ok caller ↔
    f.isClosed = false ∧ ∃ raw, identity? = some raw ∧ raw.normalize = .ok caller ∧
      (cluster.isEmpty = true ∨ Validation.clusterName cluster = .ok ()) := by
  simp only [screen, throw, throwThe, MonadExceptOf.throw, bind, Except.bind, pure, Except.pure]
  cases closed : f.isClosed with
  | true => simp
  | false =>
      cases identity? with
      | none => simp
      | some raw =>
          cases normal : raw.normalize with
          | error e => simp [normal, checked]
          | ok other =>
              by_cases hempty : cluster.isEmpty = true
              · simp [normal, checked, hempty]
              · cases Validation.clusterName cluster with
                | error e => simp [normal, checked, hempty]
                | ok _ => simp [normal, checked, hempty]

/-- Who passes the checks for any cluster passes those for the management cluster. -/
theorem screen_management (h : f.screen cluster identity? = .ok caller) :
    f.screen "" identity? = .ok caller := by
  obtain ⟨closed, raw, hraw, normal, -⟩ := screen_eq_ok_iff.mp h
  exact screen_eq_ok_iff.mpr ⟨closed, raw, hraw, normal, Or.inl rfl⟩

/-- Whoever comes in is a call that passed the checks. -/
theorem ask_of_clientsEvent {e : FederationEvent σ} (h : f.clientsEvent e = .arrive key job) :
    ∃ cluster identity? caller, e = .ask cluster identity? ∧
      f.screen cluster identity? = .ok caller ∧ key = keyOf cluster caller ∧
      job = ⟨cluster, caller, .ordered⟩ := by
  cases e with
  | ask cluster identity? =>
      rw [clientsEvent] at h
      split at h
      · rename_i caller hscreen
        cases h
        exact ⟨cluster, identity?, caller, rfl, hscreen, rfl, rfl⟩
      · cases h
  | other event quiet =>
      obtain rfl : event = .arrive key job := h
      cases quiet

end Federation

end FleetGate
