import FleetGate.Proofs.Fleet.Run

/-! # Operations as runs

Each operation that somebody asks of a federation, carried out by itself, is a run in which no calls
come in but its own (`Does`). What holds after every run therefore holds after operations in any
order.
-/

namespace FleetGate.Federation

open CacheMachine

variable {σ α β : Type} {b : Backend σ} {f f₁ f₂ : Federation σ} {cluster : String}
  {identity? : Option RawIdentity} {caller : Identity}
  {asks : List (String × Option RawIdentity)}

/-- A federation gets from a state to another by a run in which no calls come in but the given. -/
def Does (b : Backend σ) (asks : List (String × Option RawIdentity)) (f f' : Federation σ) : Prop :=
  ∃ events, f.run b events = f' ∧
    ∀ cluster identity?, .ask cluster identity? ∈ events → (cluster, identity?) ∈ asks

namespace Does

theorem refl (b : Backend σ) (asks : List (String × Option RawIdentity)) (f : Federation σ) :
    Does b asks f f :=
  ⟨[], rfl, fun _ _ h => absurd h List.not_mem_nil⟩

theorem trans (h₁ : Does b asks f f₁) (h₂ : Does b asks f₁ f₂) : Does b asks f f₂ := by
  obtain ⟨before, rfl, hbefore⟩ := h₁
  obtain ⟨after, rfl, hafter⟩ := h₂
  refine ⟨before ++ after, run_append b f before after, ?_⟩
  intro cluster identity? h
  rcases List.mem_append.mp h with h | h
  · exact hbefore cluster identity? h
  · exact hafter cluster identity? h

end Does

/-! ## Without new calls -/

/-- When the clients go on, the federation goes on without new calls. -/
theorem onward_run {clients : CacheMachine σ Construction Client}
    (h : Onward (f.workshop b) f.clients clients) :
    ∃ after, (∀ cluster identity?, .ask cluster identity? ∉ after) ∧
      f.run b after = { f with clients } := by
  obtain ⟨events, hquiet, rfl⟩ := h
  induction events generalizing f with
  | nil => exact ⟨[], fun _ _ => List.not_mem_nil, rfl⟩
  | cons event rest ih =>
      have hevent : event.isArrival = false := hquiet event List.mem_cons_self
      have hrest : ∀ e ∈ rest, e.isArrival = false :=
        fun e he => hquiet e (List.mem_cons_of_mem event he)
      obtain ⟨after, hasks, hrun⟩ := ih (f := f.step b (.other event hevent)) hrest
      refine ⟨.other event hevent :: after, ?_, hrun⟩
      intro cluster identity? h
      rcases List.mem_cons.mp h with h | h
      · cases h
      · exact hasks cluster identity? h

theorem does_onward {clients : CacheMachine σ Construction Client}
    (h : Onward (f.workshop b) f.clients clients) : Does b asks f { f with clients } := by
  obtain ⟨after, hasks, hrun⟩ := onward_run h
  exact ⟨after, hrun, fun cluster identity? h => absurd h (hasks cluster identity?)⟩

theorem settle_does (b : Backend σ) (f : Federation σ) : Does b asks f (f.settle b) :=
  does_onward (settle_onward _ _)

/-! ## Calls -/

theorem step_ask (h : f.screen cluster identity? = .ok caller) :
    f.step b (.ask cluster identity?) = { f with
      clients := f.clients.step (f.workshop b)
        (.arrive (keyOf cluster caller) ⟨cluster, caller, .ordered⟩) } := by
  rw [step, clientsEvent, h]

theorem step_ask_of_error {e : FleetError} (h : f.screen cluster identity? = .error e) :
    f.step b (.ask cluster identity?) = f := by
  rw [step, clientsEvent, h]
  rfl

/-- A call for a client comes in, and is answered after the clients went on. -/
theorem clientFor_run (h : f.screen cluster identity? = .ok caller) :
    ∃ after, (∀ cluster identity?, .ask cluster identity? ∉ after) ∧
      clientFor b cluster caller f
        = (((f.run b (.ask cluster identity? :: after)).outcome?
            f.clients.callers.length).getD (.error .closed),
          f.run b (.ask cluster identity? :: after)) := by
  obtain ⟨clients, honward, hget⟩ :=
    get_onward (f.workshop b) (keyOf cluster caller) ⟨cluster, caller, .ordered⟩ f.clients
  obtain ⟨after, hasks, hrun⟩ :=
    onward_run (f := f.step b (.ask cluster identity?)) (by rw [step_ask h]; exact honward)
  have hrun' : f.run b (.ask cluster identity? :: after) = { f with clients } := hrun
  refine ⟨after, hasks, ?_⟩
  rw [hrun']
  simp only [clientFor, hget]
  rfl

theorem clientFor_does (h : f.screen cluster identity? = .ok caller) :
    Does b [(cluster, identity?)] f (clientFor b cluster caller f).2 := by
  obtain ⟨after, hasks, hrun⟩ := clientFor_run (b := b) h
  refine ⟨.ask cluster identity? :: after, by rw [hrun], ?_⟩
  intro cluster' identity'? hmem
  rcases List.mem_cons.mp hmem with heq | hmem
  · cases heq
    exact List.mem_singleton.mpr rfl
  · exact absurd hmem (hasks cluster' identity'?)

/-- A call that passes the checks goes on with whom it normalized; one that does not ends there. -/
theorem screened_bind (cluster : String) (identity? : Option RawIdentity)
    (g : Identity → FederationM σ α) (f : Federation σ) :
    (screened cluster identity? >>= g) f
      = match f.screen cluster identity? with
        | .ok caller => g caller f
        | .error e => (.error e, f) := by
  show ExceptT.bindCont g (f.screen cluster identity?) f = _
  cases f.screen cluster identity? with
  | error e => rfl
  | ok caller => rfl

/-- A call that fails the checks is not made. -/
theorem screened_bind_of_error {e : FleetError} (g : Identity → FederationM σ α)
    (h : f.screen cluster identity? = .error e) :
    (screened cluster identity? >>= g) f = (.error e, f) := by
  rw [screened_bind, h]

/-- One step after another. -/
theorem bind_apply (x : FederationM σ α) (g : α → FederationM σ β) (f : Federation σ) :
    (x >>= g) f
      = match x f with
        | (.ok a, f') => g a f'
        | (.error e, f') => (.error e, f') := by
  show ExceptT.bindCont g (x f).1 (x f).2 = _
  rcases x f with ⟨_ | _, f'⟩
  · rfl
  · rfl

/-- A listing that was received changes nothing. -/
theorem listed_apply (outcome : Except ClusterError α) (f : Federation σ) :
    (listed outcome : FederationM σ α) f = (outcome.mapError listFailure, f) := by
  cases outcome with
  | error e => rfl
  | ok a => rfl

theorem Does.bind {x : FederationM σ α} {g : α → FederationM σ β} (hx : Does b asks f (x f).2)
    (hg : ∀ a f', Does b asks f' (g a f').2) : Does b asks f ((x >>= g) f).2 := by
  rw [bind_apply]
  rcases h : x f with ⟨_ | a, f'⟩
  · rw [h] at hx
    exact hx
  · rw [h] at hx
    exact hx.trans (hg a f')

theorem Does.screened {g : Identity → FederationM σ α}
    (hg : ∀ caller, f.screen cluster identity? = .ok caller → Does b asks f (g caller f).2) :
    Does b asks f ((screened cluster identity? >>= g) f).2 := by
  rw [screened_bind]
  cases h : f.screen cluster identity? with
  | error e => exact .refl b asks f
  | ok caller => exact hg caller h

theorem tryCatch_apply (x : FederationM σ α) (g : FleetError → FederationM σ α)
    (f : Federation σ) :
    (tryCatch x g) f
      = match x f with
        | (.ok a, f') => (.ok a, f')
        | (.error e, f') => g e f' := by
  show ExceptT.tryCatch x g f = _
  simp only [ExceptT.tryCatch, ExceptT.mk, Bind.bind, StateT.bind]
  rcases x f with ⟨_ | _, f'⟩
  · rfl
  · rfl

/-- Renaming a failure changes nothing. -/
theorem Does.renamed {x : FederationM σ α} (rename : FleetError → FleetError)
    (hx : Does b asks f (x f).2) :
    Does b asks f ((tryCatch x fun e => throw (rename e) : FederationM σ α) f).2 := by
  rw [tryCatch_apply]
  rcases h : x f with ⟨_ | a, f'⟩
  · rw [h] at hx
    exact hx
  · rw [h] at hx
    exact hx

theorem attempt_does (act : Attempt σ α) (f : Federation σ) : Does b asks f (attempt act f).2 := by
  have honward : Onward (f.workshop b) f.clients
      { f.clients with world := (act f.clients.world).2 } :=
    .step _ _ (.outside fun s => (act s).2) rfl
  exact does_onward honward

theorem listed_does (outcome : Except ClusterError α) (f : Federation σ) :
    Does b asks f (listed outcome f : Except FleetError α × Federation σ).2 := by
  cases outcome with
  | error e => exact .refl b asks f
  | ok a => exact .refl b asks f

theorem resolve_does (b : Backend σ) (cluster : String) (identity? : Option RawIdentity)
    (f : Federation σ) : Does b [(cluster, identity?)] f (resolve b cluster identity? f).2 :=
  .screened fun _ h => clientFor_does h

theorem clusters_does (b : Backend σ) (identity? : Option RawIdentity) (filter : ClusterFilter)
    (f : Federation σ) : Does b [("", identity?)] f (clusters b identity? filter f).2 := by
  refine .screened fun caller h => (clientFor_does h).bind fun client f => ?_
  refine (attempt_does _ f).bind fun found f => (listed_does found f).bind fun objects f => ?_
  cases filter.apply (objects.map ClusterSummary.ofObject) with
  | error e => exact .refl b _ f
  | ok found => exact .refl b _ f

theorem cluster_does (b : Backend σ) (name : String) (identity? : Option RawIdentity)
    (f : Federation σ) : Does b [("", identity?)] f (Federation.cluster b name identity? f).2 := by
  refine .screened fun caller h => ?_
  by_cases hempty : name.isEmpty = true
  · simp only [if_pos hempty]
    exact .refl b _ f
  · simp only [if_neg hempty]
    refine (clientFor_does (screen_management h)).bind fun client f => ?_
    refine (attempt_does _ f).bind fun found f => (listed_does found f).bind fun page f => ?_
    cases Construction.named? name page.items with
    | none => exact .refl b _ f
    | some o => exact .refl b _ f

theorem checkAccess_does (b : Backend σ) (cluster : String) (identity? : Option RawIdentity)
    (check : AccessCheck) (f : Federation σ) :
    Does b [(cluster, identity?)] f (checkAccess b cluster identity? check f).2 := by
  refine .screened fun caller h => ?_
  rw [bind_apply]
  cases check.validate with
  | error e => exact .refl b _ f
  | ok _ =>
      refine (Does.renamed _ (clientFor_does h)).bind fun client f => ?_
      refine (attempt_does _ f).bind fun outcome f => ?_
      cases outcome with
      | error e => exact .refl b _ f
      | ok verdict => exact .refl b _ f

theorem requireAccess_does (b : Backend σ) (cluster : String) (identity? : Option RawIdentity)
    (check : AccessCheck) (f : Federation σ) :
    Does b [(cluster, identity?)] f (requireAccess b cluster identity? check f).2 := by
  refine (checkAccess_does b cluster identity? check f).bind fun verdict f => ?_
  split
  · exact .refl b _ f
  · exact .refl b _ f

theorem order_does (b : Backend σ) (cluster : String) (identity? : Option RawIdentity)
    (f : Federation σ) : Does b [(cluster, identity?)] f (order b cluster identity? f).2 := by
  refine .screened fun caller h => ?_
  have hask : Does b [(cluster, identity?)] f (f.step b (.ask cluster identity?)) := by
    refine ⟨[.ask cluster identity?], rfl, fun cluster' identity'? hmem => ?_⟩
    cases List.mem_singleton.mp hmem
    exact List.mem_singleton.mpr rfl
  rw [step_ask h] at hask
  exact hask.trans (settle_does b _)

end FleetGate.Federation
