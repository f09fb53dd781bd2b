import FleetGate.Proofs.Fleet.Callers
import FleetGate.Proofs.Fleet.Evidence

/-! # Where kubeconfigs come from

A client of a workload cluster is built with a kubeconfig that was read on the management cluster,
and this is followed back through a whole run, in which other calls come in between, clients are
kept and dropped, and clusters change.
-/

namespace FleetGate

variable {σ : Type} {b : Backend σ} {mode : CredentialMode} {client : Client} {fl : ℕ}
  {labors : List (Labor σ Construction)} {l : Labor σ Construction}

/-! ## Runs -/

open CacheMachine

/-- What is known of all flights, and of all that was done for them. -/
structure Accounted (b : Backend σ) (mode : CredentialMode)
    (m : CacheMachine σ Construction Client) (labors : List (Labor σ Construction)) : Prop where
  known : ∀ l ∈ labors, l.flight < m.flights.length
  fresh : ∀ fl key p, m.FlightAt fl key p → p.isFresh = true → ∀ l ∈ labors, l.flight ≠ fl
  making : ∀ fl key c wake?, m.FlightAt fl key (.making c wake?) →
    c.stage.Supported b mode labors fl c.cluster c.caller
  builds : ∀ before l after, labors = before ++ l :: after → ∀ cluster kubeconfig caller,
    l.Builds b mode (.workload cluster kubeconfig caller) →
      FromSecret b mode before l.flight cluster kubeconfig caller
  vain : ∀ l ∈ labors, l.IsVain b mode → Barren b mode labors l.flight ∧
    ∃ key e p, m.FlightAt l.flight key p ∧ p.HasFailed e

section
variable {m : CacheMachine σ Construction Client} {event : CacheEvent σ Construction}

theorem Accounted.step_of_no_labor (h : Accounted b mode m labors)
    (hjobs : ∀ fl key c, m.FlightAt fl key (.missed c) → c.stage = .ordered)
    (hlabor : m.labor? event = none) :
    Accounted b mode (m.step (Construction.workshop b mode) event) labors where
  known l hl :=
    (h.known l hl).trans_le (step_move (Construction.workshop b mode) m event).flights_length
  fresh fl key p hf hp l hl := by
    rcases fresh_before hf hp with ⟨q, hq, hfresh⟩ | rfl
    · exact h.fresh fl key q hq hfresh l hl
    · exact (h.known l hl).ne
  making fl key c wake? hf := by
    rcases making_of_no_labor hlabor hf with hq | hq
    · exact h.making fl key c wake? hq
    · -- the construction starts now, and nothing was done for it
      rw [hjobs fl key c hq]
      exact h.fresh fl key _ hq rfl
  builds := h.builds
  vain l hl hvain := by
    obtain ⟨hbarren, key, e, hfailed⟩ := h.vain l hl hvain
    exact ⟨hbarren, key, e, (step_move (Construction.workshop b mode) m event).flight_kept
      (fun hp hnext => hnext.hasFailed hp) hfailed⟩

theorem Accounted.step_of_labor (h : Accounted b mode m labors) (hlabor : m.labor? event = some l) :
    Accounted b mode (m.step (Construction.workshop b mode) event) (labors ++ [l]) := by
  obtain ⟨i, own, wake?, rfl, -, hmaking, -, -⟩ := drive_of_labor hlabor
  obtain ⟨key', hafter⟩ := flightAt_of_labor (w := Construction.workshop b mode) hlabor
  have hsupported := h.making _ _ _ _ hmaking
  have hmove := step_move (Construction.workshop b mode) m (.drive i)
  constructor
  case known =>
      intro l' hl'
      rcases List.mem_append.mp hl' with hl' | hl'
      · exact (h.known l' hl').trans_le hmove.flights_length
      · obtain rfl := List.mem_singleton.mp hl'
        exact (List.getElem?_eq_some_iff.mp hafter).1
  case fresh =>
      intro fl key p hf hp l' hl'
      -- the flight of the labor is not fresh any more
      have hother : fl ≠ l.flight := by
        rintro rfl
        cases hf.symm.trans hafter
        rw [Progress.isFresh_phase] at hp
        cases hp
      rcases List.mem_append.mp hl' with hl' | hl'
      · exact h.fresh fl key p (flightAt_of_labor_ne hlabor hother hf) hp l' hl'
      · rw [List.mem_singleton.mp hl']
        exact hother.symm
  case making =>
      intro fl key c next? hf
      by_cases hother : fl = l.flight
      · subst hother
        have hphase := congrArg Flight.phase (Option.some.inj (hafter.symm.trans hf))
        exact hsupported.labor.of_making hphase
      · exact (h.making fl key c next? (flightAt_of_labor_ne hlabor hother hf)).mono (Ne.symm hother)
  case builds =>
      intro before l' after hsplit cluster kubeconfig caller hbuilds
      -- either it is the new labor that builds, or one of those before
      rcases List.eq_nil_or_concat after with rfl | ⟨rest, last, rfl⟩
      · obtain ⟨rfl, hlast⟩ := List.append_inj' hsplit rfl
        obtain rfl := List.singleton_inj.mp hlast
        exact hsupported.fromSecret hbuilds
      · have hsplit' : labors ++ [l] = (before ++ l' :: rest) ++ [last] := by
          rw [hsplit, List.concat_eq_append, List.append_assoc, List.cons_append]
        exact h.builds before l' rest (List.append_inj' hsplit' rfl).1 cluster kubeconfig caller
          hbuilds
  case vain =>
      intro l' hl' hvain
      rcases List.mem_append.mp hl' with hl' | hl'
      · obtain ⟨hbarren, key, e, p, hp, hfailed⟩ := h.vain l' hl' hvain
        -- a flight that has failed is not carried on
        have hother : l.flight ≠ l'.flight := by
          intro hsame
          rw [← hsame] at hp
          cases hmaking.symm.trans hp
          exact hfailed
        exact ⟨hbarren.concat fun hsame => absurd hsame hother, key, e,
          hmove.flight_kept (fun hp hnext => hnext.hasFailed hp) ⟨p, hp, hfailed⟩⟩
      · obtain rfl := List.mem_singleton.mp hl'
        obtain ⟨hstage, e, herror⟩ := l'.outcome_of_isVain hvain
        have hfailed : (l'.outcome b mode).phase = .settled (.error e) := by rw [herror]; rfl
        have hsettled : (m.step (Construction.workshop b mode) (.drive i)).FlightAt l'.flight key'
            (.settled (.error e)) := by rw [← hfailed]; exact hafter
        refine ⟨?_, key', e, _, hsettled, rfl⟩
        rcases hstage with ⟨via, hstage⟩ | ⟨via, ns, hstage⟩
        · rw [hstage] at hsupported
          exact hsupported.1.labor (by simp [hstage])
        · rw [hstage] at hsupported
          exact hsupported.1.labor (by simp [hstage])

end

namespace Federation

variable {f₀ f : Federation σ} {config : CacheConfig} {s : σ} {events : List (FederationEvent σ)}

/-- All that is done in a run to construct clients. -/
def history (b : Backend σ) (f : Federation σ) (events : List (FederationEvent σ)) :
    List (Labor σ Construction) :=
  f.clients.labors (f.workshop b) (f.trace b events)

/-- Some call asked for a client of a cluster, as somebody, and a flight was launched for it. -/
def OrderedFor (b : Backend σ) (f : Federation σ) (events : List (FederationEvent σ)) (fl : ℕ)
    (cluster : String) (caller : Identity) : Prop :=
  Asked events cluster caller ∧ Supplied (f.clients.log (f.workshop b) (f.trace b events)) fl
    (keyOf cluster caller) ⟨cluster, caller, .ordered⟩

theorem trace_append (b : Backend σ) (f : Federation σ) (before after : List (FederationEvent σ)) :
    f.trace b (before ++ after) = f.trace b before ++ (f.run b before).trace b after := by
  induction before generalizing f with
  | nil => rfl
  | cons event rest ih =>
      rw [List.cons_append, trace, trace, ih]
      rfl

theorem history_concat (b : Backend σ) (f : Federation σ) (before : List (FederationEvent σ))
    (event : FederationEvent σ) :
    f.history b (before ++ [event]) = f.history b before ++
      ((f.run b before).clients.labor? ((f.run b before).clientsEvent event)).toList := by
  rw [history, trace_append, trace, trace, labors_concat, ← run_clients]
  rfl

section
variable (h₀ : f₀ = start mode config s)
include h₀

/-- Whoever has found nothing has a construction that is yet to begin. -/
theorem stage_of_missed {key : CacheKey} {c : Construction}
    (h : (f₀.run b events).clients.FlightAt fl key (.missed c)) : c.stage = .ordered := by
  obtain ⟨i, hasked, -⟩ := (clients_traced h₀ events).flights fl key _ h
  obtain ⟨cluster, caller, -, -, rfl⟩ := asked_of_log hasked
  rfl

theorem accounted_run (events : List (FederationEvent σ)) :
    Accounted b mode (f₀.run b events).clients (f₀.history b events) := by
  induction events using List.reverseRecOn with
  | nil =>
      subst h₀
      constructor
      case known =>
          intro l hl
          cases hl
      case fresh =>
          intro fl key p hf
          cases hf
      case making =>
          intro fl key c wake? hf
          cases hf
      case builds =>
          intro before l after hsplit
          cases before <;> cases hsplit
      case vain =>
          intro l hl
          cases hl
  | append_singleton before event ih =>
      have hmode : (f₀.run b before).mode = mode := by rw [run_eq, h₀]; rfl
      have hstep : (f₀.run b (before ++ [event])).clients
          = (f₀.run b before).clients.step (Construction.workshop b mode)
            ((f₀.run b before).clientsEvent event) := by
        rw [run_append, ← hmode]
        rfl
      rw [hstep, history_concat]
      cases hlabor : (f₀.run b before).clients.labor? ((f₀.run b before).clientsEvent event) with
      | none =>
          rw [Option.toList_none, List.append_nil]
          exact ih.step_of_no_labor (fun fl key c h => stage_of_missed h₀ h) hlabor
      | some l => exact ih.step_of_labor hlabor

/-- Whatever is done is done for a call that asked. -/
theorem ordered_of_mem_history (h : l ∈ f₀.history b events) :
    OrderedFor b f₀ events l.flight l.job.cluster l.job.caller ∧
      (l.job.stage.isLocal = false → l.job.cluster ≠ "") := by
  obtain ⟨before, event, after, htrace, hlabor⟩ := mem_labors_iff.mp h
  obtain ⟨past, e, rest, rfl, rfl, -⟩ := trace_split htrace
  obtain ⟨-, key, wake?, -, -, hmaking, -, -⟩ := drive_of_labor hlabor
  rw [← run_clients] at hmaking
  -- the job that is carried on is what became of the one that a call came in with
  obtain ⟨first, hsupplied, -, hleads⟩ := (clients_traced h₀ past).flights _ key _ hmaking
  obtain ⟨i, hasked, hlaunched⟩ := hsupplied
  obtain ⟨cluster, caller, ⟨raw, hraw, hnormal⟩, rfl, rfl⟩ := asked_of_log hasked
  have hjob := Construction.leads_isOf (Construction.isOf_ordered cluster caller) hleads
  have hlog : f₀.clients.log (f₀.workshop b) (f₀.trace b (past ++ e :: rest))
      = f₀.clients.log (f₀.workshop b) (f₀.trace b past)
        ++ (f₀.clients.run (f₀.workshop b) (f₀.trace b past)).log (f₀.workshop b)
          (event :: after) := by
    rw [htrace, log_append]
  rw [hjob.sameCluster, hjob.sameCaller]
  refine ⟨⟨⟨raw, List.mem_append_left _ hraw, hnormal⟩, ?_⟩, hjob.named⟩
  rw [hlog]
  exact Supplied.mono ⟨i, hasked, hlaunched⟩

/-- What a flight produced it built, and nothing that was done for it came to nothing. -/
theorem built_of_produced {key : CacheKey}
    (h : Produced (f₀.workshop b) (f₀.clients.log (f₀.workshop b) (f₀.trace b events)) fl key
      client) : client ≠ .service ∧ ∃ l ∈ f₀.history b events, l.Builds b mode client ∧
        ∀ l' ∈ f₀.history b events, l'.flight = l.flight → ¬ l'.IsVain b mode := by
  subst h₀
  obtain ⟨-, -, -, hended, -⟩ := h
  obtain ⟨l, hl, -, hadvance⟩ := ended_mem_log_iff.mp ⟨key, hended⟩
  have hbuilt : l.Builds b mode client ∧ client ≠ .service := Labor.builds_of_outcome hadvance
  obtain ⟨hbuilds, hservice⟩ := hbuilt
  refine ⟨hservice, l, hl, hbuilds, fun l' hl' hsame hvain => ?_⟩
  obtain ⟨-, e, herror⟩ := l'.outcome_of_isVain hvain
  cases labors_end_alike hl hl' hsame hadvance herror

/-- What a call is answered with was built by the flight that it joined. -/
theorem built_of_outcome? {i : ℕ} (h : (f₀.run b events).outcome? i = some (.ok client)) :
    client ≠ .service ∧ ∃ l ∈ f₀.history b events, l.Builds b mode client ∧
      ∀ l' ∈ f₀.history b events, l'.flight = l.flight → ¬ l'.IsVain b mode := by
  rw [outcome?, answer?] at h
  split at h
  · rename_i outcome phase
    obtain rfl := Option.some.inj h
    obtain ⟨key, hcaller⟩ := callerAt_of_phase phase
    obtain ⟨fl, hproduced⟩ := (clients_traced (b := b) h₀ events).callers i key _ hcaller client rfl
    exact built_of_produced h₀ hproduced
  · cases h

end

/-- In a run of a federation, in whatever order calls come in, clients are kept and dropped and
clusters change:

- Whenever a client of a workload cluster is built, or its build ends, it is built as the caller of
  a call that had asked for this cluster, and with the text of the entry that counts of the cluster's
  secret, read earlier by the same flight.
- What is kept, and what a call is answered with, was built in the run by a flight for which nothing
  came to nothing, and is not the service's own client. Nor is it what a call gets that is carried
  out by itself next.
- Where no object of the cluster's name is found, or no kubeconfig in the secret, nothing is done
  for the flight to build a client of a workload cluster, before or after, and the flight ends with
  a failure. -/
theorem kubeconfigs_from_secrets (b : Backend σ) (mode : CredentialMode) (config : CacheConfig)
    (s : σ) (events : List (FederationEvent σ)) :
    let f₀ := start mode config s
    let f := f₀.run b events
    (∀ before l after, f₀.history b events = before ++ l :: after →
      ∀ cluster kubeconfig caller, l.Builds b mode (.workload cluster kubeconfig caller) →
        cluster ≠ "" ∧ OrderedFor b f₀ events l.flight cluster caller ∧
          FromSecret b mode before l.flight cluster kubeconfig caller) ∧
    (∀ client, ((∃ key e, (key, e) ∈ f.clients.store.entries ∧ e.value = client) ∨
        (∃ i, f.outcome? i = some (.ok client))) →
      client ≠ .service ∧ ∃ l ∈ f₀.history b events, l.Builds b mode client ∧
        ∀ l' ∈ f₀.history b events, l'.flight = l.flight → ¬ l'.IsVain b mode) ∧
    (∀ cluster identity?, (resolve b cluster identity? f).1 ≠ .ok .service) ∧
    ∀ l ∈ f₀.history b events, l.IsVain b mode →
      (∀ l' ∈ f₀.history b events, l'.flight = l.flight → ∀ cluster kubeconfig caller,
        ¬ l'.Builds b mode (.workload cluster kubeconfig caller)) ∧
      ∃ key e p, f.clients.FlightAt l.flight key p ∧ p.HasFailed e := by
  intro f₀ f
  have haccounted : Accounted b mode f.clients (f₀.history b events) := accounted_run rfl events
  refine ⟨?_, ?_, ?_, haccounted.vain⟩
  · intro before l after hsplit cluster kubeconfig caller hbuilds
    have hl : l ∈ f₀.history b events := by
      rw [hsplit]
      exact List.mem_append_right _ List.mem_cons_self
    obtain ⟨hordered, hnamed⟩ := ordered_of_mem_history rfl hl
    have hsecret := haccounted.builds before l after hsplit cluster kubeconfig caller hbuilds
    obtain ⟨hstage, rfl, rfl⟩ := l.builds_workload hbuilds
    refine ⟨hnamed ?_, hordered, hsecret⟩
    rcases hstage with hstage | ⟨ready, hstage⟩
    · rw [hstage]; rfl
    · rw [hstage]; rfl
  · rintro client (⟨key, e, he, rfl⟩ | ⟨i, hi⟩)
    · obtain ⟨fl, hproduced⟩ := (clients_traced (b := b) rfl events).entries key e he
      exact built_of_produced rfl hproduced
    · exact built_of_outcome? rfl hi
  · intro cluster identity? hservice
    obtain ⟨caller, after, -, -, -, hanswer⟩ := resolve_run hservice
    have hrun : f₀.run b (events ++ .ask cluster identity? :: after)
        = f.run b (.ask cluster identity? :: after) := run_append b f₀ events _
    rw [← hrun] at hanswer
    exact (built_of_outcome? rfl hanswer).1 rfl

/-- Two clusters of one name as the service's client sees them, the first with a kubeconfig under the
second key only. -/
def twoSecrets : InMemoryCluster :=
  (((InMemoryCluster.add {} .cluster "org-acme" "prod" (.obj [])).add .cluster "org-zeta" "prod"
    (.obj [])).addSecret "org-zeta" "prod-kubeconfig" [("value", [45])]).addSecret "org-acme"
      "prod-kubeconfig" [("kubeconfig", [123, 125]), ("value", [])]

theorem kubeconfig_from_first_secret :
    let raw : RawIdentity := { email := " jane@example.com " }
    let caller : Identity := ⟨"jane@example.com", [], []⟩
    let f₀ := start .privileged {} ({ serviceEnabled := true, service := twoSecrets } : InMemoryFleet)
    let events : List (FederationEvent InMemoryFleet) :=
      [.ask "prod" (some raw), .other (.look 0) rfl, .other (.join 0) rfl, .other (.poll 0) rfl] ++
        List.replicate 10 (.other (.drive 0) rfl)
    (f₀.run InMemoryFleet.backend events).outcome? 0 = some (.ok (.workload "prod" ⟨"{}"⟩ caller)) ∧
      ∃ fl before, before <+: f₀.history InMemoryFleet.backend events ∧
        OrderedFor InMemoryFleet.backend f₀ events fl "prod" caller ∧
        FromSecret InMemoryFleet.backend .privileged before fl "prod" ⟨"{}"⟩ caller := by
  intro raw caller f₀ events
  have hanswer : (f₀.run InMemoryFleet.backend events).outcome? 0
      = some (.ok (.workload "prod" ⟨"{}"⟩ caller)) := by decide +kernel
  obtain ⟨hbuilt, hrightful, -⟩ :=
    kubeconfigs_from_secrets InMemoryFleet.backend .privileged {} _ events
  obtain ⟨-, l, hl, hbuilds, -⟩ := hrightful _ (Or.inr ⟨0, hanswer⟩)
  obtain ⟨before, after, hsplit⟩ := List.append_of_mem hl
  obtain ⟨-, hordered, hsecret⟩ := hbuilt before l after hsplit _ _ _ hbuilds
  exact ⟨hanswer, l.flight, before, ⟨l :: after, hsplit.symm⟩, hordered, hsecret⟩

end Federation

end FleetGate
