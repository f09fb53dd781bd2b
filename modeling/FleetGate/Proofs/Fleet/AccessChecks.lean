import FleetGate.Proofs.Fleet.Callers
import FleetGate.Proofs.Fleet.Detail
import FleetGate.Proofs.Fleet.Preflight
import FleetGate.Proofs.Fleet.Sites

/-! # Access checks on a fleet

Whatever a federation does for its callers, it reads from clusters and asks them for reviews, and
does nothing else to them. Only a check of access asks for a review. It asks once, at the cluster it
names, and repeats what this cluster answers (`checkAccess_inquiry`).
-/

namespace FleetGate

open InMemoryFleet (nothing backend)

/-! ## Reading -/

/-- Both sides are in the same state, in which nothing is held otherwise than before, and no review
came in since. -/
def InMemoryFleet.Since (s s₁ s₂ : InMemoryFleet) : Prop := s₁ = s₂ ∧ s.Receives s₁ nothing

namespace InMemoryFleet

/-- A call that only reads comes to the same on both sides. -/
theorem since_call {α : Type} (s : InMemoryFleet) (client : Client) {c : ClusterCall α}
    (hc : ∀ c' : InMemoryCluster, c'.Receives (InMemoryCluster.perform c c').2 []) :
    Attempt.Alike s.Since (backend.call client c) (backend.call client c) := by
  rintro t _ ⟨rfl, ht⟩
  exact ⟨.refl .refl (fun _ => rfl) _, rfl,
    ht.trans (setCluster_receives (hc _) fun _ _ => rfl)⟩

theorem readsAlike_since (s : InMemoryFleet) : backend.ReadsAlike s.Since backend where
  startBuild := by
    rintro client t _ ⟨rfl, ht⟩
    exact ⟨rfl, rfl, ht.trans (recordBuild_receives t client)⟩
  endBuild := by
    rintro client t _ ⟨rfl, ht⟩
    exact ⟨.refl .refl (fun _ => rfl) _, rfl, ht⟩
  hasService := by rintro t _ ⟨rfl, -⟩; rfl
  list client resource ns? options :=
    s.since_call client (InMemoryCluster.perform_list_receives resource ns? options)
  secretData client ns name :=
    s.since_call client (InMemoryCluster.perform_secretData_receives ns name)
  pageBound := by rintro client t _ ⟨rfl, -⟩; rfl

end InMemoryFleet

/-- An event in which nobody but the federation and its callers does anything. -/
def FederationEvent.Inner {σ : Type} : FederationEvent σ → Prop
  | .ask _ _ => True
  | .other event _ => event.change = id

/-- An act of this kind. -/
def FederationAct.Inner {σ : Type} : FederationAct σ → Prop
  | .event e => e.Inner
  | .call _ _ => True

namespace Federation

variable {α : Type} {f f' : Federation InMemoryFleet} {cluster : String}
  {identity? : Option RawIdentity} {caller : Identity} {client : Client} {check : AccessCheck}

theorem Alike.since (f : Federation InMemoryFleet) : Alike f.clients.world.Since f f :=
  ⟨rfl, rfl, rfl, .refl _⟩

/-- Work that only reads leaves everything as it was, and sends no review. -/
theorem receives_of_works {S : α → α → Prop} {x : FederationM InMemoryFleet α}
    (hx : ∀ s : InMemoryFleet, Works s.Since S x x) (f : Federation InMemoryFleet) :
    f.clients.world.Receives (x f).2.clients.world nothing :=
  (hx f.clients.world f f (.since f)).2.clients.worlds.2

theorem clientFor_receives (cluster : String) (caller : Identity)
    (f : Federation InMemoryFleet) :
    f.clients.world.Receives (clientFor backend cluster caller f).2.clients.world nothing :=
  receives_of_works (fun s => clientFor_works s.readsAlike_since cluster caller) f

/-- A call without a check of access leaves everything as it was, and sends no review. -/
theorem make_receives {call : FederationCall α} (hcall : call.check? = none)
    (identity? : Option RawIdentity) (f : Federation InMemoryFleet) :
    f.clients.world.Receives (call.make backend identity? f).2.clients.world nothing := by
  refine receives_of_works (S := Eq) (fun s => ?_) f
  have hb := s.readsAlike_since
  cases call with
  | resolve cluster => exact resolve_works hb cluster identity?
  | order cluster => exact order_works hb cluster identity?
  | clusters filter => exact clusters_works hb identity? filter
  | summary name => exact cluster_works hb name identity?
  | checkAccess cluster check => cases hcall
  | requireAccess cluster check => cases hcall

/-- Neither does anything that goes on behind the calls. -/
theorem step_receives {event : FederationEvent InMemoryFleet} (hevent : event.Inner)
    (f : Federation InMemoryFleet) :
    f.clients.world.Receives (f.step backend event).clients.world nothing := by
  have hchange : (f.clientsEvent event).change = id := by
    cases event with
    | ask cluster identity? =>
        rw [clientsEvent]
        split <;> rfl
    | other event quiet => exact hevent
  have hboth : (f.clientsEvent event).Alike f.clients.world.Since (f.clientsEvent event) :=
    ⟨rfl, by rw [hchange]; exact fun _ _ hs => hs⟩
  have halike := Alike.since f
  have hworkshop := workshop_works f.clients.world.readsAlike_since halike
  exact (halike.clients.step rfl hworkshop hboth).worlds.2

/-! ## Checks -/

section
variable {σ : Type} {b : Backend σ} {f : Federation σ}

/-- A call through a client comes to what the cluster makes of it. -/
theorem call_apply {α : Type} (b : Backend σ) (client : Client) (c : ClusterCall α)
    (f : Federation σ) :
    call b client c f = (.ok (b.call client c f.clients.world).1,
      { f with clients := { f.clients with world := (b.call client c f.clients.world).2 } }) :=
  rfl

/-- A check that passes the checks before it asks for a client, and has its question reviewed through
the client it gets. -/
theorem checkAccess_apply (hscreen : f.screen cluster identity? = .ok caller)
    (hvalid : check.validate = .ok ()) :
    checkAccess b cluster identity? check f
      = match clientFor b cluster caller f with
        | (.ok client, f') =>
          ((b.call client (.review check.review) f'.clients.world).1.mapError fun e =>
            .accessCheckFailed cluster ("SelfSubjectAccessReview API call failed: " ++ e.message),
            (call b client (.review check.review) f').2)
        | (.error e, f') =>
          (.error (.accessCheckFailed cluster ("failed to get cluster client: " ++ e.message)),
            f') := by
  rw [checkAccess, screened_bind, hscreen]
  change (liftM check.validate >>= fun _ => _ : FederationM σ AccessVerdict) f = _
  rw [hvalid]
  change (tryCatch (clientFor b cluster caller) _ >>= _ : FederationM σ AccessVerdict) f = _
  rw [bind_apply, tryCatch_apply]
  rcases clientFor b cluster caller f with ⟨e | client, f'⟩
  · rfl
  · simp only [bind_apply, call_apply]
    rcases b.call client (.review check.review) f'.clients.world with ⟨e | verdict, s⟩
    · rfl
    · rfl

/-- To require access is to check it. -/
theorem requireAccess_state (b : Backend σ) (cluster : String) (identity? : Option RawIdentity)
    (check : AccessCheck) (f : Federation σ) :
    (requireAccess b cluster identity? check f).2 = (checkAccess b cluster identity? check f).2 := by
  rw [requireAccess, bind_apply]
  rcases checkAccess b cluster identity? check f with ⟨e | verdict, f'⟩
  · rfl
  · dsimp only
    split
    · rfl
    · rfl

/-- It succeeds if the answer is that access is allowed. -/
theorem requireAccess_eq_ok_iff : (requireAccess b cluster identity? check f).1 = .ok () ↔
    ∃ verdict, (checkAccess b cluster identity? check f).1 = .ok verdict ∧
      verdict.allowed = true := by
  rw [requireAccess, bind_apply]
  rcases checkAccess b cluster identity? check f with ⟨e | verdict, f'⟩
  · constructor
    · exact fun h => nomatch h
    · rintro ⟨verdict, h, -⟩
      cases h
  · dsimp only
    split
    case isTrue hallowed => exact ⟨fun _ => ⟨verdict, rfl, hallowed⟩, fun _ => rfl⟩
    case isFalse hdenied =>
      constructor
      · exact fun h => nomatch h
      · rintro ⟨_, ⟨⟩, hallowed⟩
        exact absurd hallowed hdenied

end

/-- A federation after some run. -/
def Reached (f : Federation InMemoryFleet) : Prop :=
  ∃ mode config s events, f = (start mode config s).run backend events

theorem Reached.run (h : f.Reached) (events : List (FederationEvent InMemoryFleet)) :
    (f.run backend events).Reached := by
  obtain ⟨mode, config, s, before, rfl⟩ := h
  exact ⟨mode, config, s, before ++ events, (run_append _ _ _ _).symm⟩

/-- The client that a federation hands out is one of the cluster that was asked for. -/
theorem site_of_clientFor (hreached : f.Reached) (hscreen : f.screen cluster identity? = .ok caller)
    (h : clientFor backend cluster caller f = (.ok client, f')) :
    client.site = .ofCluster cluster := by
  obtain ⟨mode, config, s, events, rfl⟩ := hreached
  obtain ⟨-, raw, rfl, -, -⟩ := screen_eq_ok_iff.mp hscreen
  have hresolve : (resolve backend cluster (some raw)
      ((start mode config s).run backend events)).1 = .ok client := by
    rw [resolve, screened_bind, hscreen]
    exact congrArg Prod.fst h
  obtain ⟨caller, after, hscreen, -, -, hanswer⟩ := resolve_run hresolve
  rw [← run_append] at hanswer
  obtain ⟨other, -, hfor, -⟩ := builtFor_of_outcome? rfl hscreen hanswer
  exact hfor.site_eq

/-- A check of access is one review at the cluster it names. -/
theorem checkAccess_inquiry (hreached : f.Reached) (cluster : String)
    (identity? : Option RawIdentity) (check : AccessCheck) :
    f.clients.world.Inquiry (.ofCluster cluster) check.review
      (checkAccess backend cluster identity? check f).1
      (checkAccess backend cluster identity? check f).2.clients.world := by
  let asked : FederationCall AccessVerdict := .checkAccess cluster check
  have hmake : checkAccess backend cluster identity? check f = asked.make backend identity? f := rfl
  cases hscreen : f.screen cluster identity? with
  | error e =>
      have hstopped : asked.make backend identity? f = (.error e, f) := make_of_screen hscreen
      rw [hmake, hstopped]
      exact .failed (.refl _)
  | ok caller =>
      cases hvalid : check.validate with
      | error e =>
          have hstopped : asked.make backend identity? f = (.error e, f) :=
            make_of_unsound hscreen rfl hvalid
          rw [hmake, hstopped]
          exact .failed (.refl _)
      | ok _ =>
          have hreads := clientFor_receives cluster caller f
          rw [checkAccess_apply hscreen hvalid]
          rcases hclient : clientFor backend cluster caller f with ⟨e | client, f'⟩
          · rw [hclient] at hreads
            exact .failed hreads
          · rw [hclient] at hreads
            have hreview := (f'.clients.world.call_review client check.review).after hreads
            rw [site_of_clientFor hreached hscreen hclient] at hreview
            exact hreview.mapError _

/-- A sound check succeeds if a client can be had and no failure of reviews is planned. -/
theorem checkAccess_succeeds (hreached : f.Reached) (hvalid : check.validate = .ok ())
    (hclient : resolve backend cluster identity? f = (.ok client, f'))
    (hplanned : (f'.clients.world.clusterAt (.ofCluster cluster)).failure?
      "self_subject_access_review" = none) :
    ∃ verdict, (checkAccess backend cluster identity? check f).1 = .ok verdict := by
  rw [resolve, screened_bind] at hclient
  cases hscreen : f.screen cluster identity? with
  | error e =>
      rw [hscreen] at hclient
      cases hclient
  | ok caller =>
      rw [hscreen] at hclient
      replace hclient : clientFor backend cluster caller f = (.ok client, f') := hclient
      rw [← site_of_clientFor hreached hscreen hclient] at hplanned
      obtain ⟨verdict, hverdict⟩ := InMemoryFleet.call_review_of_failure? hplanned check.review
      rw [checkAccess_apply hscreen hvalid, hclient]
      exact ⟨verdict, by simp only [hverdict]; rfl⟩

/-- Whoever holds a client of a cluster, a review through it is one at this cluster, whenever it is
made. -/
theorem held_inquiry (hreached : f.Reached) {i : Nat} {key : CacheKey}
    (h : f.clients.CallerAt i key (.returned (.ok client))) (s : InMemoryFleet)
    (question : AccessReview) :
    s.Inquiry (.ofCluster key.cluster) question (backend.call client (.review question) s).1
      (backend.call client (.review question) s).2 := by
  obtain ⟨mode, config, world, events, rfl⟩ := hreached
  obtain ⟨cluster, other, rfl, hfor, -⟩ := builtFor_of_returned rfl h
  rw [keyOf, ← hfor.site_eq]
  exact s.call_review client question

/-! ## Runs -/

/-- A call leaves everything as it was but for the reviews it sends. -/
theorem make_keeps (hreached : f.Reached) (call : FederationCall α)
    (identity? : Option RawIdentity) :
    f.clients.world.Keeps (call.make backend identity? f).2.clients.world := by
  cases hcheck : call.check? with
  | none => exact ⟨nothing, make_receives hcheck identity? f⟩
  | some check =>
      cases call with
      | checkAccess cluster check => exact (checkAccess_inquiry hreached _ _ _).keeps
      | requireAccess cluster check =>
          change f.clients.world.Keeps
            (requireAccess backend cluster identity? check f).2.clients.world
          rw [requireAccess_state]
          exact (checkAccess_inquiry hreached _ _ _).keeps
      | _ => cases hcheck

/-- So does every act in which nobody but the federation and its callers does anything. -/
theorem act_keeps (hreached : f.Reached) {a : FederationAct InMemoryFleet} (ha : a.Inner) :
    f.clients.world.Keeps (f.act backend a).clients.world := by
  cases a with
  | event e => exact ⟨nothing, step_receives ha f⟩
  | call c identity? => exact make_keeps hreached c identity?

end Federation

end FleetGate
