import FleetGate.Fleet.InMemory
import FleetGate.Proofs.Fleet.Construction
import FleetGate.Proofs.Fleet.Operations

/-! # Whose clients are handed out

Clients are kept by cluster and principal. A client that a call gets is therefore one of the cluster
that was asked for, as somebody of the caller's principal: some call of the run asked for it with an
identity of that principal, and the backend built it for this identity. Groups and claims are those
of that call: as long as the client is kept, the caller's own may be others by now.
-/

namespace FleetGate.Federation

open CacheMachine

variable {σ : Type} {b : Backend σ} {f₀ f : Federation σ} {mode : CredentialMode}
  {config : CacheConfig} {s : σ} {events past : List (FederationEvent σ)} {cluster : String}
  {caller other : Identity} {client : Client} {key : CacheKey} {job : Construction} {i fl : Nat}

/-- Some call of a run asked for a client of a cluster, as somebody. -/
def Asked (events : List (FederationEvent σ)) (cluster : String) (caller : Identity) : Prop :=
  ∃ raw, .ask cluster (some raw) ∈ events ∧ raw.normalize = .ok caller

/-- In a run, a client of a cluster was built for somebody as whom a call had asked for it. -/
def BuiltFor (b : Backend σ) (f₀ : Federation σ) (events : List (FederationEvent σ))
    (cluster : String) (other : Identity) (client : Client) : Prop :=
  client.IsFor cluster other ∧ ∃ past, past <+: events ∧ Asked past cluster other ∧
    (b.endBuild client (f₀.run b past).clients.world).1 = .ok ()

/-! ## From the answer back to the call -/

/-- Whoever came in with a key and a job is a call that asked. -/
theorem asked_of_log
    (h : .asked i key job ∈ f₀.clients.log (f₀.workshop b) (f₀.trace b events)) :
    ∃ cluster caller, Asked events cluster caller ∧ key = keyOf cluster caller ∧
      job = ⟨cluster, caller, .ordered⟩ := by
  obtain ⟨before, event, after, htrace, hasked⟩ := (mem_log_iff _ _).mp h
  obtain ⟨past, e, rest, rfl, -, hevent⟩ := trace_split htrace
  rw [arrive_of_asked hasked] at hevent
  obtain ⟨cluster, identity?, caller, rfl, hscreen, hkey, hjob⟩ := ask_of_clientsEvent hevent
  obtain ⟨-, raw, rfl, hnormal, -⟩ := screen_eq_ok_iff.mp hscreen
  exact ⟨cluster, caller, ⟨raw, List.mem_append_right _ List.mem_cons_self, hnormal⟩, hkey, hjob⟩

section
variable (h₀ : f₀ = start mode config s)
include h₀

/-- The log of a run of the clients holds the evidence for all that they hold. -/
theorem clients_traced (events : List (FederationEvent σ)) :
    (f₀.run b events).clients.Traced (f₀.workshop b)
      (f₀.clients.log (f₀.workshop b) (f₀.trace b events)) := by
  subst h₀
  rw [run_clients]
  exact traced_run _ config s _

/-- A construction that ended with a client built it for somebody who had asked under its key. -/
theorem builtFor_of_ended
    (h : .ended fl key (.ok client) ∈ f₀.clients.log (f₀.workshop b) (f₀.trace b events)) :
    ∃ cluster other, key = keyOf cluster other ∧ BuiltFor b f₀ events cluster other client := by
  obtain ⟨before, event, after, htrace, hended⟩ := (mem_log_iff _ _).mp h
  obtain ⟨past, e, rest, rfl, rfl, -⟩ := trace_split htrace
  -- at that moment the flight was carrying on the job of a call
  obtain ⟨⟨job, wake?, flight, hadvance⟩, -⟩ := (step_move _ _ event).ended hended
  rw [← run_clients] at flight hadvance
  obtain ⟨first, ⟨i, hasked, -⟩, -, hleads⟩ := (clients_traced h₀ past).flights fl key _ flight
  obtain ⟨cluster, other, hpast, rfl, rfl⟩ := asked_of_log hasked
  have hjob := Construction.leads_isOf (Construction.isOf_ordered cluster other) hleads
  have hkeeps := Construction.advance_keeps hjob b f₀.mode (f₀.run b past).clients.now
    (f₀.run b past).clients.world
  have hdone : (Construction.advance b f₀.mode (f₀.run b past).clients.now job
      (f₀.run b past).clients.world).1 = .finished (.ok client) := hadvance
  rw [hdone] at hkeeps
  obtain ⟨hfor, hend⟩ := hkeeps
  refine ⟨cluster, other, rfl, hfor, past, List.prefix_append _ _, hpast, ?_⟩
  rw [hend]

/-- An answer that is a client is one that was built for somebody who asked under the same key. -/
theorem builtFor_of_returned
    (h : (f₀.run b events).clients.CallerAt i key (.returned (.ok client))) :
    ∃ cluster other, key = keyOf cluster other ∧ BuiltFor b f₀ events cluster other client := by
  obtain ⟨fl, job, -, -, hended, -⟩ := (clients_traced h₀ events).callers i key _ h client rfl
  exact builtFor_of_ended h₀ hended

end

/-! ## The call that asks -/

/-- The call that comes in is the next caller, under the key of its cluster and principal. -/
theorem callerAt_step_ask {identity? : Option RawIdentity}
    (h : f.screen cluster identity? = .ok caller) :
    (f.step b (.ask cluster identity?)).clients.CallerAt f.clients.callers.length
      (keyOf cluster caller) (.looking ⟨cluster, caller, .ordered⟩) := by
  obtain ⟨closed, -⟩ := screen_eq_ok_iff.mp h
  have opened : f.clients.closed = false := closed
  rw [step_ask h]
  simp [CacheMachine.step, arrive, CallerAt, opened]

/-- The caller whose outcome is told has returned it. -/
theorem returned_of_outcome? {phase : CallerPhase Construction Client} {outcome : FleetResult Client}
    (caller : f.clients.CallerAt i key phase) (h : f.outcome? i = some outcome) :
    phase = .returned outcome := by
  rw [outcome?, answer?, callerPhase?, caller] at h
  cases phase with
  | returned outcome =>
      cases h
      rfl
  | _ => cases h

/-- What a call is answered, if it is a client, was built for its cluster and somebody of its
principal. -/
theorem builtFor_of_outcome? (h₀ : f₀ = start mode config s) {raw : RawIdentity}
    {before after : List (FederationEvent σ)}
    (hscreen : (f₀.run b before).screen cluster (some raw) = .ok caller)
    (hanswer : (f₀.run b (before ++ .ask cluster (some raw) :: after)).outcome?
      (f₀.run b before).clients.callers.length = some (.ok client)) :
    ∃ other, other.principal = caller.principal ∧
      BuiltFor b f₀ (before ++ .ask cluster (some raw) :: after) cluster other client := by
  have hrun : f₀.run b (before ++ .ask cluster (some raw) :: after)
      = ((f₀.run b before).step b (.ask cluster (some raw))).run b after :=
    run_append b f₀ before _
  -- the call is the next caller, and stays one of its key whatever happens
  obtain ⟨phase, hphase⟩ := caller_run ((f₀.run b before).workshop b)
    (callerAt_step_ask (b := b) hscreen)
    (((f₀.run b before).step b (.ask cluster (some raw))).trace b after)
  have hcaller : (f₀.run b (before ++ .ask cluster (some raw) :: after)).clients.CallerAt
      (f₀.run b before).clients.callers.length (keyOf cluster caller) phase := by
    rw [hrun, run_clients]
    exact hphase
  obtain rfl := returned_of_outcome? hcaller hanswer
  obtain ⟨cluster', other, hkey, hbuilt⟩ := builtFor_of_returned h₀ hcaller
  obtain ⟨rfl, hprincipal⟩ : cluster = cluster' ∧ caller.principal = other.principal := by
    simpa [keyOf] using hkey
  exact ⟨other, hprincipal.symm, hbuilt⟩

/-- A call that is carried out by itself comes in, and the clients go on without others. -/
theorem resolve_run {identity? : Option RawIdentity}
    (h : (resolve b cluster identity? f).1 = .ok client) :
    ∃ caller after, f.screen cluster identity? = .ok caller ∧
      (∀ cluster identity?, .ask cluster identity? ∉ after) ∧
      (resolve b cluster identity? f).2 = f.run b (.ask cluster identity? :: after) ∧
      (f.run b (.ask cluster identity? :: after)).outcome? f.clients.callers.length
        = some (.ok client) := by
  rw [resolve, screened_bind] at h
  cases hscreen : f.screen cluster identity? with
  | error e =>
      rw [hscreen] at h
      cases h
  | ok caller =>
      obtain ⟨after, hasks, hclient⟩ := clientFor_run (b := b) hscreen
      rw [hscreen] at h
      simp only [hclient] at h
      refine ⟨caller, after, rfl, hasks, ?_, ?_⟩
      · rw [resolve, screened_bind, hscreen]
        simp only [hclient]
      · cases houtcome : (f.run b (.ask cluster identity? :: after)).outcome?
            f.clients.callers.length with
        | none =>
            rw [houtcome] at h
            cases h
        | some outcome =>
            rw [houtcome] at h
            exact congrArg some h

/-! ## The principal of a client -/

/-- In whatever order calls come in and clients are kept, dropped and built: the client that a call
for a cluster gets was built in this run for that cluster, and for somebody of the caller's
principal, as whom this call or another one of the run had asked for it. So it is as well if the
call is carried out by itself. -/
theorem clients_of_principal (b : Backend σ) (mode : CredentialMode) (config : CacheConfig) (s : σ)
    (before : List (FederationEvent σ)) (cluster : String) (raw : RawIdentity) (client : Client) :
    let f₀ := start mode config s
    let f := f₀.run b before
    (∀ caller after, f.screen cluster (some raw) = .ok caller →
      let events := before ++ .ask cluster (some raw) :: after
      (f₀.run b events).outcome? f.clients.callers.length = some (.ok client) →
        ∃ other, other.principal = caller.principal ∧
          BuiltFor b f₀ events cluster other client) ∧
    ((resolve b cluster (some raw) f).1 = .ok client →
      ∃ caller after, f.screen cluster (some raw) = .ok caller ∧
        (∀ cluster identity?, .ask cluster identity? ∉ after) ∧
        let events := before ++ .ask cluster (some raw) :: after
        (resolve b cluster (some raw) f).2 = f₀.run b events ∧
          ∃ other, other.principal = caller.principal ∧
            BuiltFor b f₀ events cluster other client) := by
  intro f₀ f
  constructor
  · intro caller after hscreen events hanswer
    exact builtFor_of_outcome? rfl hscreen hanswer
  · intro hclient
    obtain ⟨caller, after, hscreen, hasks, hstate, hanswer⟩ := resolve_run hclient
    have hrun : f₀.run b (before ++ .ask cluster (some raw) :: after)
        = f.run b (.ask cluster (some raw) :: after) := run_append b f₀ before _
    rw [← hrun] at hstate hanswer
    exact ⟨caller, after, hscreen, hasks, hstate, builtFor_of_outcome? rfl hscreen hanswer⟩

/-- A kept client impersonates the groups that its principal had when it was built, not those of the
caller who gets it. -/
theorem kept_client_has_earlier_groups :
    let jane (groups : List String) : RawIdentity := { email := "jane@example.com", groups }
    let f := start .user {} ({} : InMemoryFleet)
    let f₁ := (resolve InMemoryFleet.backend "" (some (jane ["dev"])) f).2
    let client : Client := .management ⟨"jane@example.com", ["dev"], []⟩
    let caller : Identity := ⟨"jane@example.com", ["ops"], []⟩
    (jane ["ops"]).normalize = .ok caller ∧
      (resolve InMemoryFleet.backend "" (some (jane ["ops"])) f₁).1 = .ok client ∧
      ¬ client.IsFor "" caller := by
  refine ⟨rfl, rfl, ?_⟩
  rintro ⟨-, hcaller⟩
  exact absurd hcaller (by decide)

end FleetGate.Federation
