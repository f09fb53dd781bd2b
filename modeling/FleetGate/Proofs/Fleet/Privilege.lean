import FleetGate.Fleet.InMemory
import FleetGate.Proofs.Cache.Intake
import FleetGate.Proofs.Fleet.Calls
import FleetGate.Proofs.Fleet.Existence
import FleetGate.Proofs.Fleet.Kubeconfigs
import FleetGate.Proofs.Fleet.SideBySide
import Mathlib.Data.List.Forall2

/-! # Discovery without privilege

The service's own client is used to look named clusters up, and for nothing else. As long as no
client of a named cluster is asked for, two federations over backends that do the same with every
other client (`Backend.AlikeForCallers`) answer every call alike, whether there is a client of the
service or not, whatever it would answer, and in whatever mode they are. And whatever was asked for
before, no call for the management cluster does anything through it (`discovery_unprivileged`).

Both halves come from one relation between two federations. For the second half one of them is over
a backend that notes what is done with it.
-/

namespace FleetGate

variable {σ σ₁ σ₂ α : Type} {R : σ₁ → σ₂ → Prop} {b : Backend σ} {b₁ : Backend σ₁}
  {b₂ : Backend σ₂}

/-- Two backends that from related states do the same with every client but the service's own. -/
structure Backend.AlikeForCallers (R : σ₁ → σ₂ → Prop) (b₁ : Backend σ₁) (b₂ : Backend σ₂) :
    Prop where
  startBuild : ∀ client, client ≠ .service → ∀ s₁ s₂, R s₁ s₂ →
    (b₁.startBuild client s₁).1 = (b₂.startBuild client s₂).1 ∧
      R (b₁.startBuild client s₁).2 (b₂.startBuild client s₂).2
  endBuild : ∀ client, client ≠ .service →
    Parallel R Eq Eq (b₁.endBuild client) (b₂.endBuild client)
  call : ∀ {α : Type} client (c : ClusterCall α), client ≠ .service →
    Parallel R Eq Eq (b₁.call client c) (b₂.call client c)
  pageBound : ∀ client, client ≠ .service → ∀ s₁ s₂, R s₁ s₂ →
    b₁.pageBound client s₁ = b₂.pageBound client s₂

/-! ## Constructions for the management cluster -/

namespace Construction

/-- The order of a client for the management cluster. -/
def OfManagement (c : Construction) : Prop :=
  ∃ caller, c = ⟨"", caller, .ordered⟩

/-- The order of a client for some cluster. -/
def IsOrdered (c : Construction) : Prop :=
  ∃ cluster caller, c = ⟨cluster, caller, .ordered⟩

theorem OfManagement.isOrdered {c : Construction} (h : c.OfManagement) : c.IsOrdered := by
  obtain ⟨caller, rfl⟩ := h
  exact ⟨"", caller, rfl⟩

/-- A client for the management cluster is built alike, and without the client of the service. -/
theorem advance_management (hb : b₁.AlikeForCallers R b₂) {caller : Identity} {c : Construction}
    (hc : c.IsOf "" caller) (mode₁ mode₂ : CredentialMode) (now : Nat) {s₁ : σ₁} {s₂ : σ₂}
    (hs : R s₁ s₂) :
    (advance b₁ mode₁ now c s₁).1 = (advance b₂ mode₂ now c s₂).1 ∧
      R (advance b₁ mode₁ now c s₁).2 (advance b₂ mode₂ now c s₂).2 := by
  have hlocal := hc.stage_local rfl
  have hown : Client.management c.caller ≠ .service := by simp
  cases hstage : c.stage with
  | ordered =>
      obtain ⟨hdelay, hafter⟩ := hb.startBuild _ hown s₁ s₂ hs
      simp only [advance, hstage, hc.sameCluster, ne_eq, not_true_eq_false, false_and, if_false]
      rw [hdelay]
      exact ⟨rfl, hafter⟩
  | opening ready =>
      simp only [advance, hstage, hc.sameCluster]
      split
      · exact ⟨rfl, hs⟩
      · rcases (hb.endBuild _ hown).run hs with
          ⟨_, _, t₁, t₂, h₁, h₂, -, ht⟩ | ⟨e, _, t₁, t₂, h₁, h₂, rfl, ht⟩
        · simp only [h₁, h₂, if_true, true_and]
          exact ht
        · simp only [h₁, h₂, true_and]
          exact ht
  | _ => simp [hstage, ConstructionStage.isLocal] at hlocal

end Construction

/-! ## Federations -/

namespace Federation

open CacheMachine

/-- The clients of a federation are fed with orders, whatever is done with it. -/
theorem fed_after (b : Backend σ) (mode : CredentialMode) (config : CacheConfig) (s : σ)
    (acts : List (FederationAct σ)) :
    let f := (start mode config s).after b acts
    f.clients.Fed (f.workshop b) Construction.IsOrdered := by
  intro f
  obtain ⟨events, hrun⟩ := after_run b (start mode config s) acts
  have hf : f = { start mode config s with
      clients := (start mode config s).clients.run ((start mode config s).workshop b)
        ((start mode config s).trace b events) } := hrun.trans (run_eq b _ events)
  rw [hf]
  refine ⟨config, s, (start mode config s).trace b events, rfl, fun key job harrive => ?_⟩
  obtain ⟨before, after, hsplit⟩ := List.append_of_mem harrive
  obtain ⟨past, e, rest, -, -, hevent⟩ := trace_split hsplit
  obtain ⟨cluster, -, caller, -, -, -, rfl⟩ := ask_of_clientsEvent hevent
  exact ⟨cluster, caller, rfl⟩

/-- Two federations with no clients of named clusters under way, that differ in no more than related
states of their backends, and in their modes. -/
structure AlikeForCallers (b₁ : Backend σ₁) (R : σ₁ → σ₂ → Prop) (f₁ : Federation σ₁)
    (f₂ : Federation σ₂) : Prop where
  clients : f₁.clients.Alike id R f₂.clients
  engaged : f₁.clients.Engaged (f₁.workshop b₁) Construction.OfManagement
  fed : f₁.clients.Fed (f₁.workshop b₁) Construction.IsOrdered

namespace AlikeForCallers

variable {f₁ : Federation σ₁} {f₂ : Federation σ₂}

theorem start (b₁ : Backend σ₁) (mode₁ mode₂ : CredentialMode) (config : CacheConfig) {s₁ : σ₁}
    {s₂ : σ₂} (hs : R s₁ s₂) :
    AlikeForCallers b₁ R (Federation.start mode₁ config s₁) (Federation.start mode₂ config s₂) :=
  ⟨⟨rfl, hs⟩, (Fed.start _ _ config s₁).engaged, .start _ _ config s₁⟩

theorem screen_eq (f₁ : Federation σ₁) (f₂ : Federation σ₂) (h : AlikeForCallers b₁ R f₁ f₂) :
    f₁.screen = f₂.screen :=
  screen_eq_of_closed (closed_of_outline h.clients.sameOutline)

theorem follows (b₁ : Backend σ₁) (R : σ₁ → σ₂ → Prop) : Follows (AlikeForCallers b₁ R) R where
  worlds h := h.clients.worlds
  change {f₁ _ s₁ _} h hs := by
    have hengaged : (f₁.clients.step (f₁.workshop b₁) (.outside fun _ => s₁)).Engaged
        (f₁.workshop b₁) Construction.OfManagement := h.engaged.step fun _ _ heq => by cases heq
    have hfed : (f₁.clients.step (f₁.workshop b₁) (.outside fun _ => s₁)).Fed (f₁.workshop b₁)
        Construction.IsOrdered := h.fed.step fun _ _ heq => by cases heq
    exact ⟨⟨h.clients.sameOutline, hs⟩, hengaged, hfed⟩

/-- What a call was answered is the same on both sides. -/
theorem outcome_eq (h : AlikeForCallers b₁ R f₁ f₂) (i : Nat) : f₁.outcome? i = f₂.outcome? i := by
  have hanswer := answer_of_outline h.clients.sameOutline i
  have hid (o? : Option (FleetResult Client)) : o?.map (Except.mapError id) = o? := by
    rcases o? with _ | _ | _ <;> rfl
  rwa [hid, hid] at hanswer

/-- A client that was asked for is not the service's own. -/
theorem ne_service (h : AlikeForCallers b₁ R f₁ f₂) {i : Nat} {client : Client}
    (hanswer : f₁.clients.answer? i = some (.ok client)) : client ≠ .service := by
  obtain ⟨first, ⟨cluster, caller, rfl⟩, hyields⟩ := h.fed.answer hanswer
  rintro rfl
  exact Construction.yields_isFor hyields

end AlikeForCallers

section
variable (hb : b₁.AlikeForCallers R b₂)
include hb

/-- What comes of an order for the management cluster is carried on alike. -/
theorem workshop_management (mode₁ mode₂ : CredentialMode) (first job : Construction) (now : Nat)
    (s₁ : σ₁) (s₂ : σ₂) (hfirst : first.OfManagement)
    (hleads : (Construction.workshop b₁ mode₁).Leads first job) (hs : R s₁ s₂) :
    (Construction.advance b₁ mode₁ now job s₁).1.renamed id
        = (Construction.advance b₂ mode₂ now job s₂).1.renamed id ∧
      R (Construction.advance b₁ mode₁ now job s₁).2
        (Construction.advance b₂ mode₂ now job s₂).2 := by
  obtain ⟨caller, rfl⟩ := hfirst
  have hjob := Construction.leads_isOf (Construction.isOf_ordered "" caller) hleads
  obtain ⟨hprogress, hafter⟩ := Construction.advance_management hb hjob mode₁ mode₂ now hs
  exact ⟨congrArg _ hprogress, hafter⟩

/-- By themselves, the clients of such federations go on in lockstep. -/
theorem lockstep_management (mode₁ mode₂ : CredentialMode) :
    Lockstep id Construction.OfManagement (Construction.workshop b₁ mode₁)
      (Construction.workshop b₂ mode₂) fun m₁ m₂ => m₁.Alike id R m₂ ∧
        m₁.Engaged (Construction.workshop b₁ mode₁) Construction.OfManagement ∧
        m₁.Fed (Construction.workshop b₁ mode₁) Construction.IsOrdered :=
  Engaged.lockstep rfl (workshop_management hb mode₁ mode₂) fun _ _ hfed hjobs =>
    hfed.step fun key job harrive => (hjobs key job harrive).isOrdered

/-- A step that brings in nobody but for the management cluster keeps such federations alike. -/
theorem step_management {f₁ : Federation σ₁} {f₂ : Federation σ₂} (h : AlikeForCallers b₁ R f₁ f₂)
    {e₁ : CacheEvent σ₁ Construction} {e₂ : CacheEvent σ₂ Construction} (he : e₁.Alike R e₂)
    (hjobs : ∀ key job, e₁ = .arrive key job → job.OfManagement) :
    AlikeForCallers b₁ R { f₁ with clients := f₁.clients.step (f₁.workshop b₁) e₁ }
      { f₂ with clients := f₂.clients.step (f₂.workshop b₂) e₂ } where
  clients := Engaged.alike_step rfl (workshop_management hb f₁.mode f₂.mode) h.clients h.engaged he
  engaged := h.engaged.step hjobs
  fed := h.fed.step fun key job harrive => (hjobs key job harrive).isOrdered

/-- A caller comes in for the management cluster. -/
theorem arrive_management {f₁ : Federation σ₁} {f₂ : Federation σ₂}
    (h : AlikeForCallers b₁ R f₁ f₂) (caller : Identity) :
    AlikeForCallers b₁ R
      { f₁ with
        clients := f₁.clients.step (f₁.workshop b₁)
          (.arrive (keyOf "" caller) ⟨"", caller, .ordered⟩) }
      { f₂ with
        clients := f₂.clients.step (f₂.workshop b₂)
          (.arrive (keyOf "" caller) ⟨"", caller, .ordered⟩) } := by
  refine step_management hb h ⟨rfl, fun _ _ hs => hs⟩ ?_
  rintro key job ⟨⟩
  exact ⟨caller, rfl⟩

theorem clientFor_management (caller : Identity) :
    Parallel (AlikeForCallers b₁ R) Eq (fun c₁ c₂ => c₁ = c₂ ∧ c₁ ≠ .service)
      (clientFor b₁ "" caller) (clientFor b₂ "" caller) := by
  intro f₁ f₂ h
  obtain ⟨houtcome, hclients, hengaged, hfed⟩ := (lockstep_management hb f₁.mode f₂.mode).get
    ⟨h.clients, h.engaged, h.fed⟩ (keyOf "" caller) ⟨"", caller, .ordered⟩ ⟨caller, rfl⟩
  have hafter : AlikeForCallers b₁ R (clientFor b₁ "" caller f₁).2
      (clientFor b₂ "" caller f₂).2 := ⟨hclients, hengaged, hfed⟩
  have hsame : (clientFor b₁ "" caller f₁).1 = (clientFor b₂ "" caller f₂).1 :=
    (Agree.iff_mapError_eq.mpr houtcome).eq
  refine ⟨?_, hafter⟩
  rw [← hsame]
  cases hclient : (clientFor b₁ "" caller f₁).1 with
  | error e => exact .error rfl
  | ok client =>
      exact .ok ⟨rfl, hafter.ne_service (answer?_of_get hclient)⟩

theorem order_management (identity? : Option RawIdentity) :
    Parallel (AlikeForCallers b₁ R) Eq Eq (order b₁ "" identity?) (order b₂ "" identity?) := by
  refine order_parallel .eq AlikeForCallers.screen_eq (fun caller f₁ f₂ h => ?_) identity?
  obtain ⟨hclients, hengaged, hfed⟩ := arrive_management hb h caller
  obtain ⟨hclients, hengaged, hfed⟩ :=
    (lockstep_management hb f₁.mode f₂.mode).settle ⟨hclients, hengaged, hfed⟩
  exact ⟨callers_of_outline h.clients.sameOutline, hclients, hengaged, hfed⟩

end

end Federation

/-! ## Calls -/

/-- A call that asks for no client of a named cluster. -/
def FederationCall.OnManagement : FederationCall α → Prop
  | .clusters _ | .summary _ => True
  | call => call.target = ""

/-- The same act on two sides, without a client of a named cluster being asked for. What others do to
the states of the backends keeps these related. -/
inductive FederationAct.OnManagement (R : σ₁ → σ₂ → Prop) :
    FederationAct σ₁ → FederationAct σ₂ → Prop
  | ask (identity? : Option RawIdentity) :
      OnManagement R (.event (.ask "" identity?)) (.event (.ask "" identity?))
  | other {e₁ : CacheEvent σ₁ Construction} {e₂ : CacheEvent σ₂ Construction}
      {h₁ : e₁.isArrival = false} {h₂ : e₂.isArrival = false} (he : e₁.Alike R e₂) :
      OnManagement R (.event (.other e₁ h₁)) (.event (.other e₂ h₂))
  | call {α : Type} {c : FederationCall α} (identity? : Option RawIdentity) (hc : c.OnManagement) :
      OnManagement R (.call c identity?) (.call c identity?)

namespace Federation

open CacheMachine

section
variable (hb : b₁.AlikeForCallers R b₂)
include hb

/-- Every call that asks for no client of a named cluster goes in parallel. -/
theorem make_management {call : FederationCall α} (h : call.OnManagement)
    (identity? : Option RawIdentity) :
    Parallel (AlikeForCallers b₁ R) Eq Eq (call.make b₁ identity?) (call.make b₂ identity?) := by
  have hcall {α : Type} (c : ClusterCall α) (c₁ c₂ : Client) (hc : c₁ = c₂ ∧ c₁ ≠ .service) :
      Parallel (AlikeForCallers b₁ R) Eq (Agree Eq Eq) (Federation.call b₁ c₁ c)
        (Federation.call b₂ c₂ c) := by
    obtain ⟨rfl, hne⟩ := hc
    exact attempt_parallel (AlikeForCallers.follows b₁ R) (hb.call c₁ c hne)
  cases call with
  | resolve name =>
      obtain rfl : name = "" := h
      exact (resolve_parallel .eq AlikeForCallers.screen_eq (clientFor_management hb)
        identity?).imp fun _ _ hc => hc.1
  | order name =>
      obtain rfl : name = "" := h
      exact order_management hb identity?
  | clusters filter =>
      refine clusters_parallel .eq AlikeForCallers.screen_eq (clientFor_management hb) ?_ identity?
        filter
      rintro client _ ⟨rfl, hne⟩
      exact attempt_parallel (AlikeForCallers.follows b₁ R)
        (Backend.listAll_parallel (hb.pageBound client hne) fun options => hb.call client _ hne)
  | summary name =>
      exact cluster_parallel .eq AlikeForCallers.screen_eq (clientFor_management hb) (hcall _)
        identity?
  | checkAccess name check =>
      obtain rfl : name = "" := h
      exact checkAccess_parallel .eq AlikeForCallers.screen_eq (clientFor_management hb) (hcall _)
        identity?
  | requireAccess name check =>
      obtain rfl : name = "" := h
      exact requireAccess_parallel .eq AlikeForCallers.screen_eq (clientFor_management hb)
        (by rintro v _ rfl; exact ⟨rfl, rfl⟩) (hcall _) identity?

/-- Every act that asks for no client of a named cluster keeps two federations alike. -/
theorem act_management {f₁ : Federation σ₁} {f₂ : Federation σ₂}
    (h : AlikeForCallers b₁ R f₁ f₂) {a₁ : FederationAct σ₁} {a₂ : FederationAct σ₂}
    (ha : a₁.OnManagement R a₂) : AlikeForCallers b₁ R (f₁.act b₁ a₁) (f₂.act b₂ a₂) := by
  cases ha with
  | ask identity? =>
      simp only [act]
      cases hscreen : f₁.screen "" identity? with
      | error e =>
          rw [step_ask_of_error hscreen,
            step_ask_of_error (AlikeForCallers.screen_eq f₁ f₂ h ▸ hscreen)]
          exact h
      | ok caller =>
          rw [step_ask hscreen, step_ask (AlikeForCallers.screen_eq f₁ f₂ h ▸ hscreen)]
          exact arrive_management hb h caller
  | @other e₁ e₂ h₁ h₂ he =>
      refine step_management hb h he ?_
      rintro key job rfl
      cases h₁
  | call identity? hc => exact (make_management hb hc identity? f₁ f₂ h).2

/-- So do acts in any number. -/
theorem after_management {f₁ : Federation σ₁} {f₂ : Federation σ₂}
    (h : AlikeForCallers b₁ R f₁ f₂) {acts₁ : List (FederationAct σ₁)}
    {acts₂ : List (FederationAct σ₂)}
    (hacts : List.Forall₂ (FederationAct.OnManagement R) acts₁ acts₂) :
    AlikeForCallers b₁ R (f₁.after b₁ acts₁) (f₂.after b₂ acts₂) := by
  induction hacts generalizing f₁ f₂ with
  | nil => exact h
  | cons hfirst _ ih => exact ih (act_management hb h hfirst)

end

end Federation

/-! ## Clusters in memory -/

/-- Two fleets that differ in no more than the service's own client: whether there is one, and the
cluster that it calls. -/
def InMemoryFleet.SameForCallers (s₁ s₂ : InMemoryFleet) : Prop :=
  ∃ service serviceEnabled, s₂ = { s₁ with service, serviceEnabled }

theorem InMemoryFleet.alikeForCallers :
    InMemoryFleet.backend.AlikeForCallers SameForCallers InMemoryFleet.backend where
  startBuild := by
    rintro client hne s _ ⟨service, enabled, rfl⟩
    refine ⟨rfl, service, enabled, ?_⟩
    cases client with
    | service => exact absurd rfl hne
    | _ => rfl
  endBuild := by
    rintro client hne s _ ⟨service, enabled, rfl⟩
    refine ⟨?_, service, enabled, rfl⟩
    cases client with
    | service => exact absurd rfl hne
    | _ => exact .refl (fun _ => rfl) (fun _ => rfl) _
  call := by
    rintro α client c hne s _ ⟨service, enabled, rfl⟩
    cases client with
    | service => exact absurd rfl hne
    | _ => exact ⟨.refl (fun _ => rfl) (fun _ => rfl) _, service, enabled, rfl⟩
  pageBound := by
    rintro client hne s _ ⟨service, enabled, rfl⟩
    cases client with
    | service => exact absurd rfl hne
    | _ => rfl

/-! ## What is done through which client -/

/-- The client through which something is done, or that is being built. -/
def Deed.client : Deed → Client
  | .starts client | .ends client _ => client
  | .lists via _ _ _ _ | .reads via _ _ _ | .calls via _ => via

theorem Deed.client_ofCall (via : Client) (c : ClusterCall α) (outcome : Except ClusterError α) :
    (Deed.ofCall via c outcome).client = via := by
  cases c <;> rfl

/-- Something is done through a client of the service only where a named cluster is looked up. -/
theorem Labor.stage_of_service {l : Labor σ Construction} {mode : CredentialMode} {deed : Deed}
    (h : deed ∈ l.deeds b mode) (hclient : deed.client = .service) :
    l.job.stage.isLocal = false := by
  cases Construction.does_of_mem h with
  | searching hstage | reading hstage =>
      rw [hstage]
      rfl
  | ordered _ | opening _ | configured _ | connecting _ => cases hclient

/-- The notes beside the state, which since the first of them tell of nothing that was done through
the service's own client. -/
def UnprivilegedSince (notes : List Deed) (t : σ × List Deed) (s : σ) : Prop :=
  t.1 = s ∧ ∃ new, t.2 = notes ++ new ∧ ∀ deed ∈ new, deed.client ≠ .service

namespace UnprivilegedSince

variable {notes : List Deed} {t : σ × List Deed} {s s' : σ}

theorem refl (t : σ × List Deed) : UnprivilegedSince t.2 t t.1 :=
  ⟨rfl, [], (List.append_nil _).symm, fun _ h => absurd h List.not_mem_nil⟩

theorem concat (h : UnprivilegedSince notes t s) (s' : σ) {deed : Deed}
    (hdeed : deed.client ≠ .service) : UnprivilegedSince notes (s', t.2 ++ [deed]) s' := by
  obtain ⟨-, new, hnew, hdeeds⟩ := h
  refine ⟨rfl, new ++ [deed], by rw [hnew, List.append_assoc], fun other hother => ?_⟩
  rcases List.mem_append.mp hother with hother | hother
  · exact hdeeds other hother
  · rwa [List.mem_singleton.mp hother]

end UnprivilegedSince

/-- Noting what is done makes no difference, and what is done with other clients than the service's
own is noted with these. -/
theorem Backend.alikeForCallers_noting (b : Backend σ) (notes : List Deed) :
    b.noting.AlikeForCallers (UnprivilegedSince notes) b where
  startBuild client hne t s h := by
    obtain ⟨rfl, -⟩ := id h
    exact ⟨rfl, h.concat _ hne⟩
  endBuild client hne t s h := by
    obtain ⟨rfl, -⟩ := id h
    exact ⟨.refl (fun _ => rfl) (fun _ => rfl) _, h.concat _ hne⟩
  call client c hne t s h := by
    obtain ⟨rfl, -⟩ := id h
    exact ⟨.refl (fun _ => rfl) (fun _ => rfl) _, h.concat _ (by rwa [Deed.client_ofCall])⟩
  pageBound client hne t s h := by
    obtain ⟨rfl, -⟩ := h
    rfl

namespace Federation

/-- The same federation without notes. -/
def unnoted (f : Federation (σ × List Deed)) : Federation σ :=
  { mode := f.mode, clients := { f.clients with world := f.clients.world.1 } }

/-- Where no client of a named cluster is under way, a federation that takes notes is like the same
one without. -/
theorem alike_unnoted {f : Federation (σ × List Deed)}
    (hfed : f.clients.Fed (f.workshop b.noting) Construction.IsOrdered)
    (hway : ∀ job ∈ f.clients.openJobs, job.cluster = "") :
    AlikeForCallers b.noting (UnprivilegedSince f.clients.world.2) f f.unnoted where
  clients := ⟨rfl, .refl f.clients.world⟩
  engaged job hjob := by
    obtain ⟨first, ⟨cluster, caller, rfl⟩, hleads⟩ := hfed.engaged job hjob
    have hof := Construction.leads_isOf (Construction.isOf_ordered cluster caller) hleads
    obtain rfl : cluster = "" := hof.sameCluster.symm.trans (hway job hjob)
    exact ⟨_, ⟨caller, rfl⟩, hleads⟩
  fed := hfed

/-- Two federations over backends that do the same but for the service's own client, in whatever
modes: as long as no client of a named cluster is asked for, whatever is done, they answer every
call for the management cluster, every listing and every summary alike, and those who wait for a
client as well.

Whatever is done, for named clusters too, with one of them: what is done through the service's own
client is done to build a client of a named cluster, and nobody is given the service's own client.
So where notes are taken and no client of a named cluster is under way, a call for the management
cluster, a listing or a summary is answered as without notes, and adds none of something done
through the service's own client. -/
theorem discovery_unprivileged (hb : b₁.AlikeForCallers R b₂) {s₁ : σ₁} {s₂ : σ₂} (hs : R s₁ s₂)
    (mode₁ mode₂ : CredentialMode) (config : CacheConfig) {acts₁ : List (FederationAct σ₁)}
    {acts₂ : List (FederationAct σ₂)}
    (hacts : List.Forall₂ (FederationAct.OnManagement R) acts₁ acts₂) :
    let f₁ := (start mode₁ config s₁).after b₁ acts₁
    let f₂ := (start mode₂ config s₂).after b₂ acts₂
    (∀ i, f₁.outcome? i = f₂.outcome? i) ∧
    (∀ {α : Type} (call : FederationCall α) identity?, call.OnManagement →
      (call.make b₁ identity? f₁).1 = (call.make b₂ identity? f₂).1) ∧
    (∀ events,
      (∀ l ∈ (start mode₁ config s₁).history b₁ events, ∀ deed ∈ l.deeds b₁ mode₁,
        deed.client = .service → l.job.cluster ≠ "") ∧
      ∀ i, ((start mode₁ config s₁).run b₁ events).outcome? i ≠ some (.ok .service)) ∧
    ∀ acts,
      let noted := (start mode₁ config (s₁, [])).after b₁.noting acts
      (∀ job ∈ noted.clients.openJobs, job.cluster = "") →
        ∀ {α : Type} (call : FederationCall α) identity?, call.OnManagement →
          let after := call.make b₁.noting identity? noted
          after.1 = (call.make b₁ identity? noted.unnoted).1 ∧
          ∃ new, after.2.clients.world.2 = noted.clients.world.2 ++ new ∧
            ∀ deed ∈ new, deed.client ≠ .service := by
  intro f₁ f₂
  have halike : AlikeForCallers b₁ R f₁ f₂ :=
    after_management hb (.start b₁ mode₁ mode₂ config hs) hacts
  refine ⟨halike.outcome_eq, ?_, fun events => ⟨?_, ?_⟩, ?_⟩
  · intro α call identity? hcall
    exact (make_management hb hcall identity? f₁ f₂ halike).1.eq
  · intro l hl deed hdeed hclient
    exact (ordered_of_mem_history rfl hl).2 (l.stage_of_service hdeed hclient)
  · intro i hservice
    exact (built_of_outcome? rfl hservice).1 rfl
  · intro acts noted hway α call identity? hcall
    have hfed := fed_after b₁.noting mode₁ config (s₁, []) acts
    obtain ⟨hanswer, hafter⟩ := make_management (b₁.alikeForCallers_noting noted.clients.world.2)
      hcall identity? noted noted.unnoted (alike_unnoted hfed hway)
    exact ⟨hanswer.eq, hafter.clients.worlds.2⟩

/-- In privileged mode, one fleet on which the service's own client finds a cluster, and one without
such a client. A caller is shown the same, and where the cluster was looked up through that client
before, the caller's listing is noted with the caller's own. -/
theorem discovery_unprivileged_in_memory :
    let b := InMemoryFleet.backend
    let management := ({} : InMemoryCluster).add .cluster "fleet" "alpha" (.obj [])
    let enabled : InMemoryFleet := { management, service := oneCluster, serviceEnabled := true }
    let disabled : InMemoryFleet := { management }
    let jane : Option RawIdentity := some { email := "jane@example.com" }
    let acts : List (FederationAct InMemoryFleet) := [.call (.resolve "") jane]
    let listing : FederationCall (List ClusterSummary) := .clusters {}
    let names (outcome : FleetResult (List ClusterSummary)) : Option (List String) :=
      outcome.toOption.map fun found => found.map (·.name)
    let f := (Federation.start .privileged {} enabled).after b acts
    let noted := (Federation.start .privileged {} (enabled, [])).after b.noting
      [.call (.resolve "prod-wc-01") jane]
    InMemoryFleet.SameForCallers enabled disabled ∧
      names (listing.make b jane f).1 = some ["alpha"] ∧
      (listing.make b jane f).1
        = (listing.make b jane ((Federation.start .privileged {} disabled).after b acts)).1 ∧
      (∃ deed ∈ noted.clients.world.2, deed.client = .service) ∧
      names (listing.make b.noting jane noted).1 = some ["alpha"] ∧
      ∃ new, (listing.make b.noting jane noted).2.clients.world.2
        = noted.clients.world.2 ++ new ∧ ∀ deed ∈ new, deed.client ≠ .service := by
  intro b management enabled disabled jane acts listing names f noted
  have hb : b.AlikeForCallers InMemoryFleet.SameForCallers b := InMemoryFleet.alikeForCallers
  have hs : InMemoryFleet.SameForCallers enabled disabled := ⟨{}, false, rfl⟩
  have hacts : List.Forall₂ (FederationAct.OnManagement InMemoryFleet.SameForCallers) acts acts :=
    .cons (.call jane rfl) .nil
  obtain ⟨-, hsame, -, hunnoticed⟩ :=
    discovery_unprivileged hb hs .privileged .privileged {} hacts
  have hway : ∀ job ∈ noted.clients.openJobs, job.cluster = "" := by decide +kernel
  have hnew := (hunnoticed [.call (.resolve "prod-wc-01") jane] hway listing jane trivial).2
  have hnoted : (Federation.start .privileged {} (enabled, [])).after b.noting
    [.call (.resolve "prod-wc-01") jane] = noted := rfl
  rw [hnoted] at hnew
  have hservice : (noted.clients.world.2.any fun deed => deed.client = .service) = true := by
    decide +kernel
  exact ⟨hs, by decide +kernel, hsame listing jane trivial, by simpa using hservice,
    by decide +kernel, hnew⟩

end Federation

end FleetGate
