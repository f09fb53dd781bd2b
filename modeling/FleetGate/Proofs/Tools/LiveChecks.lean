import FleetGate.Proofs.Fleet.AccessChecks
import FleetGate.Proofs.Fleet.Existence
import FleetGate.Proofs.Tools.Acts

/-! # Access checks on a server

Whatever was done with a server before, a check of access is made now: the cluster that it names is
asked once, no other one is asked, and what is told is what this cluster answers at this moment,
whether or not the client was kept from an earlier check. Nothing else that is done sends a review,
and nothing at all changes what a cluster holds (`checks_live`).
-/

namespace FleetGate

open InMemoryFleet (backend nothing just)

/-- An act in which nobody but the server and its callers does anything. -/
def ServerAct.Inner {σ : Type} : ServerAct σ → Prop
  | .tool _ _ _ => True
  | .other a => a.Inner

namespace Server

variable {server : Server InMemoryFleet} {f : Federation InMemoryFleet}

/-- Such an act leaves everything as it was but for the reviews it sends. -/
theorem act_keeps (hreached : f.Reached) (h : server.federation? = some f)
    {a : ServerAct InMemoryFleet} (ha : a.Inner) :
    ∃ f', (server.act backend a).federation? = some f' ∧ f'.Reached ∧
      f.clients.world.Keeps f'.clients.world := by
  obtain ⟨events, hafter⟩ := act_federation (b := backend) h a
  refine ⟨_, hafter, hreached.run events, ?_⟩
  cases a with
  | tool name args r =>
      rw [act] at hafter
      generalize hmakes : (Tool.dispatch backend name args r server).2 = server' at hafter
      have hcalled := Tool.dispatch_makes backend name args r server
      rw [hmakes] at hcalled
      cases hcalled with
      | nothing =>
          rw [← Option.some.inj (h.symm.trans hafter)]
          exact .refl _
      | call call hserver _ =>
          cases h.symm.trans hserver
          rw [← Option.some.inj hafter]
          exact Federation.make_keeps hreached call r.identity?
  | other a =>
      rw [act, h, Option.map_some] at hafter
      rw [← Option.some.inj hafter]
      exact Federation.act_keeps hreached ha

/-- So do acts in order. -/
theorem after_keeps (hreached : f.Reached) (h : server.federation? = some f)
    {acts : List (ServerAct InMemoryFleet)} (hacts : ∀ a ∈ acts, a.Inner) :
    ∃ f', (server.after backend acts).federation? = some f' ∧
      f.clients.world.Keeps f'.clients.world := by
  induction acts generalizing server f with
  | nil => exact ⟨f, h, .refl _⟩
  | cons a rest ih =>
      obtain ⟨f₁, h₁, hreached₁, hfirst⟩ := act_keeps hreached h (hacts a List.mem_cons_self)
      obtain ⟨f₂, h₂, hothers⟩ :=
        ih hreached₁ h₁ fun a' ha' => hacts a' (List.mem_cons_of_mem a ha')
      exact ⟨f₂, h₂, hfirst.trans hothers⟩

/-- Whatever was done with a server, by tools or without them, with clients kept, dropped and built,
and while others changed clusters and what these say on reviews:

- A check of access sends one review, which asks for what the check says, to the cluster that it
  names and to no other, and is answered what this cluster says now; if it fails, it sent none that
  was noted. It does not fail if it is sound, a client can be had and no failure of reviews is
  planned. To require access does the same, and succeeds if the answer is that it is allowed.
- Whoever waited for a client of a cluster and got it reaches this cluster with a review, and is
  answered what it says then, however much later.
- Without a check of access no call sends a review, nor does anything that goes on behind calls,
  and of the tools only the permission check makes a call that checks access. If the permission check
  gives an answer, it made such a call, and the answer is written from the verdict.
- Nothing of all this, one after another, changes an object or a secret of a cluster. -/
theorem checks_live (mode : CredentialMode) (config : CacheConfig) (s : InMemoryFleet)
    (output : OutputConfig) (acts : List (ServerAct InMemoryFleet)) :
    let server := after backend { federation? := some (.start mode config s), output } acts
    ∃ f, server.federation? = some f ∧
      (∀ cluster identity? check,
        let checked := Federation.checkAccess backend cluster identity? check f
        let required := Federation.requireAccess backend cluster identity? check f
        f.clients.world.Inquiry (.ofCluster cluster) ⟨check.verb, check.resource, check.apiGroup,
          check.ns, check.name, check.subresource⟩ checked.1 checked.2.clients.world ∧
        (∀ client f', check.validate = .ok () →
          Federation.resolve backend cluster identity? f = (.ok client, f') →
          (f'.clients.world.clusterAt (.ofCluster cluster)).failure? "self_subject_access_review"
            = none → ∃ verdict, checked.1 = .ok verdict) ∧
        required.2 = checked.2 ∧
        (required.1 = .ok () ↔ ∃ verdict, checked.1 = .ok verdict ∧ verdict.allowed = true)) ∧
      (∀ i key client, f.clients.CallerAt i key (.returned (.ok client)) →
        ∀ (later : InMemoryFleet) question,
          let reviewed := backend.call client (.review question) later
          later.Inquiry (.ofCluster key.cluster) question reviewed.1 reviewed.2) ∧
      (∀ {α : Type} (call : FederationCall α) identity?, call.check? = none →
        f.clients.world.Receives (call.make backend identity? f).2.clients.world nothing) ∧
      (∀ event : FederationEvent InMemoryFleet, event.Inner →
        f.clients.world.Receives (f.step backend event).clients.world nothing) ∧
      (∀ name args r, server.Makes backend r (fun check? => name ≠ "can_i" → check? = none)
        (Tool.dispatch backend name args r server).2) ∧
      (∀ args r,
        let answered := Tool.dispatch backend "can_i" args r server
        answered.1.isError = false → ∃ raw cluster check verdict,
          let checked := Federation.checkAccess backend cluster (some raw) check f
          r.identity? = some raw ∧ checked.1 = .ok verdict ∧
            answered.2 = { server with federation? := some checked.2 } ∧
            answered.1.text = (CanI.answer raw.email cluster check verdict).pretty) ∧
      ∀ more : List (ServerAct InMemoryFleet), (∀ a ∈ more, a.Inner) →
        ∃ f', (server.after backend more).federation? = some f' ∧
          f.clients.world.Keeps f'.clients.world := by
  intro server
  let started : Server InMemoryFleet := { federation? := some (.start mode config s), output }
  have hstarted : started.federation? = some (.start mode config s) := rfl
  obtain ⟨events, hserver⟩ := after_run (b := backend) hstarted acts
  have hreached : ((Federation.start mode config s).run backend events).Reached :=
    ⟨mode, config, s, events, rfl⟩
  refine ⟨_, hserver, fun cluster identity? check => ⟨?_, ?_, ?_, ?_⟩, ?_, ?_, ?_, ?_, ?_, ?_⟩
  · exact Federation.checkAccess_inquiry hreached cluster identity? check
  · exact fun client f' hvalid => Federation.checkAccess_succeeds hreached hvalid
  · exact Federation.requireAccess_state backend cluster identity? check _
  · exact Federation.requireAccess_eq_ok_iff
  · exact fun i key client h => Federation.held_inquiry hreached h
  · exact fun call identity? hcall => Federation.make_receives hcall identity? _
  · exact fun event hevent => Federation.step_receives hevent _
  · exact fun name args r => Tool.dispatch_makes backend name args r server
  · intro args r answered hanswered
    obtain ⟨f, raw, cluster, check, verdict, hf, hraw, hverdict, hafter, htext⟩ :=
      Tool.canI_of_isError hanswered
    cases hserver.symm.trans hf
    exact ⟨raw, cluster, check, verdict, hraw, hverdict, hafter, htext⟩
  · exact fun more hmore => after_keeps hreached hserver hmore

/-- A workload cluster that denies what the permission check asks for, and changes its mind before
the next check: the client is kept, its earlier answer is not. -/
theorem checks_live_after_change :
    let jane : RawIdentity := { email := "jane@example.com" }
    let args : Json :=
      .obj [("verb", .str "get"), ("resource", .str "pods"), ("cluster", .str "prod-wc-01")]
    let change (s : InMemoryFleet) : InMemoryFleet :=
      let changed := { s.workload "prod-wc-01" with verdict := { allowed := true } }
      { s with workloads := Keyed.put "prod-wc-01" changed s.workloads }
    let acts : List (ServerAct InMemoryFleet) := [
      .tool "can_i" args { identity? := some jane, now := ⟨0, 0⟩ },
      .other (.event (.other (.outside change) rfl))]
    let start := Federation.start .user {} ({ management := Federation.oneCluster } : InMemoryFleet)
    let server := after backend { federation? := some start } acts
    ∃ f, server.federation? = some f ∧ f.clients.world.workloadBuilds = 1 ∧
      (f.clients.world.workload "prod-wc-01").reviews = [⟨"get", "pods", "", "", "", ""⟩] ∧
      let check : AccessCheck := { verb := "delete", resource := "pods" }
      let checked := Federation.checkAccess backend "prod-wc-01" (some jane) check f
      checked.1 = .ok { allowed := true } ∧ checked.2.clients.world.workloadBuilds = 1 ∧
        f.clients.world.Receives checked.2.clients.world
          (just (.workload "prod-wc-01") ⟨"delete", "pods", "", "", "", ""⟩) := by
  intro jane args change acts start server
  obtain ⟨f, hserver, hchecks, -⟩ :=
    checks_live .user {} { management := Federation.oneCluster } .default acts
  let check : AccessCheck := { verb := "delete", resource := "pods" }
  let checked (f : Federation InMemoryFleet) :=
    Federation.checkAccess backend "prod-wc-01" (some jane) check f
  have hseen : (server.federation?.map fun f => ((f.clients.world.workloadBuilds,
      (f.clients.world.workload "prod-wc-01").reviews), (checked f).1,
        (checked f).2.clients.world.workloadBuilds))
      = some ((1, [⟨"get", "pods", "", "", "", ""⟩]), .ok { allowed := true }, 1) := by
    decide +kernel
  rw [hserver, Option.map_some, Option.some.injEq, Prod.mk.injEq, Prod.mk.injEq,
    Prod.mk.injEq] at hseen
  obtain ⟨⟨hbuilt, hreviews⟩, hanswer, hkept⟩ := hseen
  have hinquiry := (hchecks "prod-wc-01" (some jane) check).1
  rw [show (Federation.checkAccess backend "prod-wc-01" (some jane) check f).1
    = .ok { allowed := true } from hanswer] at hinquiry
  exact ⟨f, hserver, hbuilt, hreviews, hanswer, hkept, hinquiry.of_ok.2⟩

end Server

end FleetGate
