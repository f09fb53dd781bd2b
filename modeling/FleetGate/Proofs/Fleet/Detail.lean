import FleetGate.Proofs.Cache.Lockstep
import FleetGate.Proofs.Fleet.SideBySide

/-! # What a cluster says of a failure

A failure of a cluster is of some class and carries details that the cluster chose: messages, codes
and names. Two backends that differ in such details only (`Backend.Alike`) are told apart by nothing
that a federation over them does: it goes through the same steps, and its failures are the same but
for what they repeat of the details (`FleetError.withoutDetail`), which no caller is told.
-/

namespace FleetGate

/-- The same failure with what a cluster said about it left out. -/
def FleetError.withoutDetail : FleetError → FleetError
  | .clusterNotFound cluster _ => .clusterNotFound cluster ""
  | .discovery _ => .discovery ""
  | .kubeconfig cluster _ => .kubeconfig cluster ""
  | .connection cluster _ => .connection cluster ""
  | .impersonation cluster user _ => .impersonation cluster user ""
  | .accessCheckFailed cluster _ => .accessCheckFailed cluster ""
  | .operation cause => .operation cause.withoutDetail
  | e => e

/-- What a caller is told is free of details. -/
theorem FleetError.userFacing_withoutDetail (e : FleetError) :
    e.withoutDetail.userFacing = e.userFacing := by
  cases e with
  | operation cause => cases cause <;> rfl
  | _ => rfl

theorem FleetError.isValidation_withoutDetail (e : FleetError) :
    e.withoutDetail.isValidation = e.isValidation := by
  cases e <;> rfl

variable {σ₁ σ₂ α α₁ α₂ : Type} {R : σ₁ → σ₂ → Prop} {b₁ : Backend σ₁} {b₂ : Backend σ₂}

/-- Two failures of clusters of the same class. -/
def ClusterError.SameClass (e₁ e₂ : ClusterError) : Prop :=
  e₁.withoutDetail = e₂.withoutDetail

/-- Two failures of a fleet that differ in details only. -/
def FleetError.SameClass (e₁ e₂ : FleetError) : Prop :=
  e₁.withoutDetail = e₂.withoutDetail

theorem ClusterError.SameClass.refl (e : ClusterError) : e.SameClass e := rfl

theorem FleetError.SameClass.refl (e : FleetError) : e.SameClass e := rfl

/-- Two attempts that from related states come to the same success, or to failures of the same
class, and leave the states related. -/
def Attempt.Alike (R : σ₁ → σ₂ → Prop) (x₁ : Attempt σ₁ α) (x₂ : Attempt σ₂ α) : Prop :=
  ∀ s₁ s₂, R s₁ s₂ → Agree ClusterError.SameClass Eq (x₁ s₁).1 (x₂ s₂).1 ∧ R (x₁ s₁).2 (x₂ s₂).2

theorem Attempt.Alike.run {x₁ : Attempt σ₁ α} {x₂ : Attempt σ₂ α} {s₁ : σ₁} {s₂ : σ₂}
    (h : Attempt.Alike R x₁ x₂) (hs : R s₁ s₂) :
    (∃ a t₁ t₂, x₁ s₁ = (.ok a, t₁) ∧ x₂ s₂ = (.ok a, t₂) ∧ R t₁ t₂) ∨
      ∃ e₁ e₂ t₁ t₂, x₁ s₁ = (.error e₁, t₁) ∧ x₂ s₂ = (.error e₂, t₂) ∧ e₁.SameClass e₂ ∧
        R t₁ t₂ := by
  rcases Parallel.run h hs with ⟨a, _, t₁, t₂, h₁, h₂, rfl, ht⟩ | hfailed
  · exact Or.inl ⟨a, t₁, t₂, h₁, h₂, ht⟩
  · exact Or.inr hfailed

/-- Two backends that from related states do the same, except that a failure of the one and that of
the other may differ in details. -/
structure Backend.Alike (R : σ₁ → σ₂ → Prop) (b₁ : Backend σ₁) (b₂ : Backend σ₂) : Prop where
  startBuild : ∀ client s₁ s₂, R s₁ s₂ →
    (b₁.startBuild client s₁).1 = (b₂.startBuild client s₂).1 ∧
      R (b₁.startBuild client s₁).2 (b₂.startBuild client s₂).2
  endBuild : ∀ client, Attempt.Alike R (b₁.endBuild client) (b₂.endBuild client)
  hasService : ∀ s₁ s₂, R s₁ s₂ → b₁.hasService s₁ = b₂.hasService s₂
  call : ∀ {α : Type} client (c : ClusterCall α),
    Attempt.Alike R (b₁.call client c) (b₂.call client c)
  pageBound : ∀ client s₁ s₂, R s₁ s₂ → b₁.pageBound client s₁ = b₂.pageBound client s₂

/-- Two backends that build clients and read from clusters alike, except for details of failures. -/
structure Backend.ReadsAlike (R : σ₁ → σ₂ → Prop) (b₁ : Backend σ₁) (b₂ : Backend σ₂) : Prop where
  startBuild : ∀ client s₁ s₂, R s₁ s₂ →
    (b₁.startBuild client s₁).1 = (b₂.startBuild client s₂).1 ∧
      R (b₁.startBuild client s₁).2 (b₂.startBuild client s₂).2
  endBuild : ∀ client, Attempt.Alike R (b₁.endBuild client) (b₂.endBuild client)
  hasService : ∀ s₁ s₂, R s₁ s₂ → b₁.hasService s₁ = b₂.hasService s₂
  list : ∀ client resource ns? options, Attempt.Alike R
    (b₁.call client (.list resource ns? options)) (b₂.call client (.list resource ns? options))
  secretData : ∀ client ns name, Attempt.Alike R (b₁.call client (.secretData ns name))
    (b₂.call client (.secretData ns name))
  pageBound : ∀ client s₁ s₂, R s₁ s₂ → b₁.pageBound client s₁ = b₂.pageBound client s₂

theorem Backend.Alike.reads (hb : b₁.Alike R b₂) : b₁.ReadsAlike R b₂ where
  startBuild := hb.startBuild
  endBuild := hb.endBuild
  hasService := hb.hasService
  list client resource ns? options := hb.call client (.list resource ns? options)
  secretData client ns name := hb.call client (.secretData ns name)
  pageBound := hb.pageBound

/-! ## Constructions -/

namespace Construction

theorem buildFailure_sameClass {e₁ e₂ : ClusterError} (h : e₁.SameClass e₂) (cluster : String)
    (caller : Identity) :
    (buildFailure cluster caller e₁).SameClass (buildFailure cluster caller e₂) := by
  have hclass (e : ClusterError) : (buildFailure cluster caller e.withoutDetail).withoutDetail
      = (buildFailure cluster caller e).withoutDetail := by cases e <;> rfl
  rw [FleetError.SameClass, ← hclass, h, hclass]

theorem searchFailure_sameClass {e₁ e₂ : ClusterError} (h : e₁.SameClass e₂) (cluster : String) :
    (searchFailure cluster e₁).SameClass (searchFailure cluster e₂) := by
  have hclass (e : ClusterError) : (searchFailure cluster e.withoutDetail).withoutDetail
      = (searchFailure cluster e).withoutDetail := by cases e <;> rfl
  rw [FleetError.SameClass, ← hclass, h, hclass]

theorem secretFailure_sameClass {e₁ e₂ : ClusterError} (h : e₁.SameClass e₂) (cluster : String)
    (caller : Identity) :
    (secretFailure cluster caller e₁).SameClass (secretFailure cluster caller e₂) := by
  have hclass (e : ClusterError) : (secretFailure cluster caller e.withoutDetail).withoutDetail
      = (secretFailure cluster caller e).withoutDetail := by cases e <;> rfl
  rw [FleetError.SameClass, ← hclass, h, hclass]

/-- A construction that fails for reasons that differ in details fails alike. -/
theorem renamed_failed {e₁ e₂ : FleetError} (h : e₁.SameClass e₂) :
    (Progress.finished (.error e₁) : Progress Construction Client).renamed FleetError.withoutDetail
      = (Progress.finished (.error e₂)).renamed FleetError.withoutDetail :=
  congrArg (fun e => Progress.finished (.error e)) h

/-- A stage of a construction comes to the same over backends that are alike, up to details. -/
theorem workshop_alike (hb : b₁.ReadsAlike R b₂) (mode : CredentialMode) :
    (workshop b₁ mode).Alike FleetError.withoutDetail R (workshop b₂ mode) := by
  intro now c s₁ s₂ hs
  simp only [workshop, advance]
  cases c.stage with
  | ordered =>
      dsimp only
      rw [hb.hasService s₁ s₂ hs]
      obtain ⟨hdelay, hafter⟩ := hb.startBuild (.management c.caller) s₁ s₂ hs
      split
      · exact ⟨rfl, hs⟩
      · exact ⟨congrArg (fun delay => Progress.working (c.movedTo (.opening (now + delay)))) hdelay,
          hafter⟩
  | opening ready =>
      dsimp only
      split
      · exact ⟨rfl, hs⟩
      · rcases (hb.endBuild (.management c.caller)).run hs with
          ⟨_, t₁, t₂, h₁, h₂, ht⟩ | ⟨e₁, e₂, t₁, t₂, h₁, h₂, he, ht⟩
        · simp only [h₁, h₂]
          split
          · exact ⟨rfl, ht⟩
          · exact ⟨rfl, ht⟩
        · simp only [h₁, h₂]
          exact ⟨renamed_failed (buildFailure_sameClass he _ _), ht⟩
  | searching via =>
      rcases (hb.list via .cluster none (searchOptions c.cluster)).run hs with
        ⟨page, t₁, t₂, h₁, h₂, ht⟩ | ⟨e₁, e₂, t₁, t₂, h₁, h₂, he, ht⟩
      · simp only [h₁, h₂]
        split
        · exact ⟨rfl, ht⟩
        · exact ⟨rfl, ht⟩
      · simp only [h₁, h₂]
        exact ⟨renamed_failed (searchFailure_sameClass he _), ht⟩
  | reading via ns =>
      rcases (hb.secretData via ns (secretName c.cluster)).run hs with
        ⟨data, t₁, t₂, h₁, h₂, ht⟩ | ⟨e₁, e₂, t₁, t₂, h₁, h₂, he, ht⟩
      · simp only [h₁, h₂]
        split
        · exact ⟨rfl, ht⟩
        · exact ⟨rfl, ht⟩
      · simp only [h₁, h₂]
        exact ⟨renamed_failed (secretFailure_sameClass he _ _), ht⟩
  | configured kubeconfig =>
      obtain ⟨hdelay, hafter⟩ := hb.startBuild (.workload c.cluster kubeconfig c.caller) s₁ s₂ hs
      exact ⟨congrArg
        (fun delay => Progress.working (c.movedTo (.connecting kubeconfig (now + delay)))) hdelay,
        hafter⟩
  | connecting kubeconfig ready =>
      dsimp only
      split
      · exact ⟨rfl, hs⟩
      · rcases (hb.endBuild (.workload c.cluster kubeconfig c.caller)).run hs with
          ⟨_, t₁, t₂, h₁, h₂, ht⟩ | ⟨e₁, e₂, t₁, t₂, h₁, h₂, he, ht⟩
        · simp only [h₁, h₂, true_and]
          exact ht
        · simp only [h₁, h₂]
          exact ⟨renamed_failed (buildFailure_sameClass he _ _), ht⟩

end Construction

/-! ## Operations -/

namespace Federation

/-- Two federations that differ in details of failures only, over related states. -/
structure Alike (R : σ₁ → σ₂ → Prop) (f₁ : Federation σ₁) (f₂ : Federation σ₂) : Prop where
  sameMode : f₁.mode = f₂.mode
  clients : f₁.clients.Alike FleetError.withoutDetail R f₂.clients

/-- Two pieces of work on federations that differ in details of failures only, before and after. -/
abbrev Works (R : σ₁ → σ₂ → Prop) (S : α₁ → α₂ → Prop) (x₁ : FederationM σ₁ α₁)
    (x₂ : FederationM σ₂ α₂) : Prop :=
  Parallel (Alike R) FleetError.SameClass S x₁ x₂

theorem alike_follows (R : σ₁ → σ₂ → Prop) : Follows (Alike R) R where
  worlds h := h.clients.worlds
  change h hs := ⟨h.sameMode, h.clients.sameOutline, hs⟩

/-- What is made of failures of the same class is of the same class again. -/
theorem carries_sameClass : Carries ClusterError.SameClass FleetError.SameClass where
  refl := .refl
  listing {e₁ e₂} h := by
    have hclass (e : ClusterError) :
        (listFailure e.withoutDetail).withoutDetail = (listFailure e).withoutDetail := by
      cases e <;> rfl
    rw [FleetError.SameClass, ← hclass, h, hclass]
  -- whatever failure there was, it ends as a detail of another
  client _ _ := rfl
  review _ _ := rfl

theorem Alike.screen_eq (f₁ : Federation σ₁) (f₂ : Federation σ₂) (h : f₁.Alike R f₂) :
    f₁.screen = f₂.screen :=
  screen_eq_of_closed (CacheMachine.closed_of_outline h.clients.sameOutline)

section
variable (hb : b₁.ReadsAlike R b₂)
include hb

theorem workshop_works {f₁ : Federation σ₁} {f₂ : Federation σ₂} (h : f₁.Alike R f₂) :
    (f₁.workshop b₁).Alike FleetError.withoutDetail R (f₂.workshop b₂) := by
  rw [workshop, workshop, h.sameMode]
  exact Construction.workshop_alike hb f₂.mode

theorem clientFor_works (cluster : String) (caller : Identity) :
    Works R Eq (clientFor b₁ cluster caller) (clientFor b₂ cluster caller) := by
  intro f₁ f₂ h
  obtain ⟨houtcome, hafter⟩ := (CacheMachine.Alike.lockstep rfl (workshop_works hb h)).get h.clients
    (keyOf cluster caller) ⟨cluster, caller, .ordered⟩ trivial
  exact ⟨Agree.iff_mapError_eq.mpr houtcome, h.sameMode, hafter⟩

theorem resolve_works (cluster : String) (identity? : Option RawIdentity) :
    Works R Eq (resolve b₁ cluster identity?) (resolve b₂ cluster identity?) :=
  resolve_parallel carries_sameClass Alike.screen_eq (clientFor_works hb cluster) identity?

theorem order_works (cluster : String) (identity? : Option RawIdentity) :
    Works R Eq (order b₁ cluster identity?) (order b₂ cluster identity?) := by
  refine order_parallel carries_sameClass Alike.screen_eq (fun caller f₁ f₂ h => ?_) identity?
  have hworkshop := workshop_works hb h
  have harrived : (f₁.clients.step (f₁.workshop b₁) (.arrive (keyOf cluster caller)
      ⟨cluster, caller, .ordered⟩)).Alike FleetError.withoutDetail R (f₂.clients.step
        (f₂.workshop b₂) (.arrive (keyOf cluster caller) ⟨cluster, caller, .ordered⟩)) :=
    h.clients.step rfl hworkshop ⟨rfl, fun _ _ hs => hs⟩
  exact ⟨CacheMachine.callers_of_outline h.clients.sameOutline, h.sameMode,
    (CacheMachine.Alike.lockstep rfl hworkshop).settle harrived⟩

theorem clusters_works (identity? : Option RawIdentity) (filter : ClusterFilter) :
    Works R Eq (clusters b₁ identity? filter) (clusters b₂ identity? filter) := by
  refine clusters_parallel carries_sameClass Alike.screen_eq (clientFor_works hb "") ?_ identity?
    filter
  rintro client _ rfl
  exact attempt_parallel (alike_follows R) (Backend.listAll_parallel (hb.pageBound client)
    fun options => hb.list client .cluster Option.none options)

theorem cluster_works (name : String) (identity? : Option RawIdentity) :
    Works R Eq (Federation.cluster b₁ name identity?) (Federation.cluster b₂ name identity?) := by
  refine cluster_parallel carries_sameClass Alike.screen_eq (clientFor_works hb "") ?_ identity?
  rintro client _ rfl
  exact attempt_parallel (alike_follows R) (hb.list client _ _ _)

end

theorem checkAccess_works (hb : b₁.Alike R b₂) (cluster : String)
    (identity? : Option RawIdentity) (check : AccessCheck) :
    Works R Eq (checkAccess b₁ cluster identity? check)
      (checkAccess b₂ cluster identity? check) := by
  refine checkAccess_parallel carries_sameClass Alike.screen_eq (clientFor_works hb.reads cluster)
    ?_ identity?
  rintro client _ rfl
  exact attempt_parallel (alike_follows R) (hb.call client (.review check.review))

end Federation

end FleetGate
