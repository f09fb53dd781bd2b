import FleetGate.Fleet.InMemory
import FleetGate.Proofs.Fleet.SideBySide
import FleetGate.Proofs.Fleet.Uninterrupted

/-! # Whether a cluster's existence shows

What a caller is told who asks for a client of a cluster that is not shown to it, and what if the
cluster is shown but withheld: its kubeconfig cannot be read, or no client can be built from it. The
two are told in the same words, unless somebody was turned down as forbidden on the way; that is
told in words of its own (`withheld_told_as_missing_iff`).
-/

namespace FleetGate

namespace Construction

variable {σ : Type} {b : Backend σ} {mode : CredentialMode} {cluster : String} {caller : Identity}
  {s : σ} {e : ClusterError}

/-- The client to look clusters up with is there, and shows no cluster of the name. -/
def Hides (b : Backend σ) (mode : CredentialMode) (cluster : String) (caller : Identity) (s : σ) :
    Prop :=
  ∃ via s₁ page s₂, opened b mode cluster caller s = (.ok via, s₁) ∧
    b.call via (.list .cluster none (searchOptions cluster)) s₁ = (.ok page, s₂) ∧
    named? cluster page.items = none

/-- The client to look clusters up with is there and shows the cluster, but reading the kubeconfig
secret of the cluster fails, or the build of a client from the kubeconfig does. -/
def Withholds (b : Backend σ) (mode : CredentialMode) (cluster : String) (caller : Identity) (s : σ)
    (e : ClusterError) : Prop :=
  ∃ via s₁ page s₂ o, opened b mode cluster caller s = (.ok via, s₁) ∧
    b.call via (.list .cluster none (searchOptions cluster)) s₁ = (.ok page, s₂) ∧
    named? cluster page.items = some o ∧
    ((∃ s₃, b.call via (.secretData o.namespaceName (secretName cluster)) s₂ = (.error e, s₃)) ∨
      ∃ data s₃ kubeconfig s₄,
        b.call via (.secretData o.namespaceName (secretName cluster)) s₂ = (.ok data, s₃) ∧
        kubeconfigOf cluster data = .ok kubeconfig ∧
        build b (.workload cluster kubeconfig caller) s₃ = (.error e, s₄))

/-! ## What the constructions come to -/

theorem whole_of_hides (named : cluster ≠ "") (h : Hides b mode cluster caller s) :
    (whole b mode cluster caller s).1 = .error (absent cluster) := by
  obtain ⟨via, s₁, page, s₂, hopened, hlist, hnone⟩ := h
  simp only [whole, hopened, if_neg named, afterOpening, hlist, hnone]

/-- Whichever step failed, its failure is sorted by one of two functions. -/
theorem whole_of_withholds (named : cluster ≠ "") (h : Withholds b mode cluster caller s e) :
    ∃ failure, (failure = secretFailure cluster caller ∨ failure = buildFailure cluster caller) ∧
      (whole b mode cluster caller s).1 = .error (failure e) := by
  obtain ⟨via, s₁, page, s₂, o, hopened, hlist, hsome, hend⟩ := h
  simp only [whole, hopened, if_neg named, afterOpening, hlist, hsome]
  rcases hend with ⟨s₃, hsecret⟩ | ⟨data, s₃, kubeconfig, s₄, hsecret, hread, hbuild⟩
  · refine ⟨secretFailure cluster caller, Or.inl rfl, ?_⟩
    simp only [afterSearching, hsecret]
  · refine ⟨buildFailure cluster caller, Or.inr rfl, ?_⟩
    simp only [afterSearching, hsecret, hread, afterReading, hbuild]

/-! ## What the caller is told of them -/

/-- What a caller is told who was turned down. -/
def turnedDown : String :=
  "insufficient permissions to access this cluster - please contact your administrator to " ++
    "verify your RBAC configuration"

theorem turnedDown_ne_unavailable : turnedDown ≠ FleetError.unavailable := by decide +kernel

/-- Of a step that failed the caller is told as of a missing cluster, unless it was turned down. -/
theorem userFacing_failure {failure : ClusterError → FleetError}
    (h : failure = secretFailure cluster caller ∨ failure = buildFailure cluster caller)
    (e : ClusterError) :
    (failure e).userFacing = if e.isForbidden then turnedDown else FleetError.unavailable := by
  rcases h with rfl | rfl
  all_goals
    cases e with
    | _ => rfl

end Construction

namespace Federation

open Construction

variable {σ₁ σ₂ : Type} {b₁ : Backend σ₁} {b₂ : Backend σ₂} {f₁ : Federation σ₁}
  {f₂ : Federation σ₂} {cluster : String} {identity? : Option RawIdentity}

/-- The same is asked of two federations, a client of a named cluster. Who does not pass the checks
is told the same by both. For who passes them, let both be quiet, and let the cluster not be shown
on the one, and be shown and withheld on the other. Both calls fail. What the caller is told is the
same if and only if the cluster was not withheld as forbidden; if it was, the caller is told that it
was turned down. -/
theorem withheld_told_as_missing_iff (named : cluster ≠ "") (same : f₁.isClosed = f₂.isClosed) :
    (∀ refusal, f₁.screen cluster identity? = .error refusal →
      (resolve b₁ cluster identity? f₁).1 = .error refusal ∧
      (resolve b₂ cluster identity? f₂).1 = .error refusal) ∧
    ∀ caller e, f₁.screen cluster identity? = .ok caller →
      f₁.clients.Quiet (keyOf cluster caller) → f₂.clients.Quiet (keyOf cluster caller) →
      Hides b₁ f₁.mode cluster caller f₁.clients.world →
      Withholds b₂ f₂.mode cluster caller f₂.clients.world e →
      ∃ e₁ e₂, (resolve b₁ cluster identity? f₁).1 = .error e₁ ∧
        (resolve b₂ cluster identity? f₂).1 = .error e₂ ∧
        e₁.userFacing = FleetError.unavailable ∧
        (e₂.userFacing = e₁.userFacing ↔ e.isForbidden = false) ∧
        (e.isForbidden = true → e₂.userFacing = turnedDown) := by
  have hscreens : f₁.screen = f₂.screen := screen_eq_of_closed same
  constructor
  · intro refusal hscreen
    rw [resolve, resolve, screened_bind_of_error _ hscreen,
      screened_bind_of_error _ (hscreens ▸ hscreen)]
    exact ⟨rfl, rfl⟩
  · intro caller e hscreen quiet₁ quiet₂ hidden withheld
    have hmissing : (resolve b₁ cluster identity? f₁).1 = .error (absent cluster) :=
      (resolve_quiet quiet₁ hscreen).1.trans (whole_of_hides named hidden)
    obtain ⟨failure, hfailure, hwhole⟩ := whole_of_withholds named withheld
    have hwithheld : (resolve b₂ cluster identity? f₂).1 = .error (failure e) :=
      (resolve_quiet quiet₂ (hscreens ▸ hscreen)).1.trans hwhole
    have htold := userFacing_failure hfailure e
    refine ⟨_, _, hmissing, hwithheld, rfl, ?_, fun hforbidden => htold.trans (if_pos hforbidden)⟩
    rw [htold]
    cases e.isForbidden with
    | true => exact iff_of_false turnedDown_ne_unavailable Bool.noConfusion
    | false => exact iff_of_true rfl rfl

/-- A management cluster with one workload cluster and its kubeconfig, as the service's client and
its callers see it. -/
def oneCluster : InMemoryCluster :=
  (InMemoryCluster.add {} .cluster "org-acme" "prod-wc-01" (.obj [])).addSecret "org-acme"
    "prod-wc-01-kubeconfig" [("value", [123, 125])]

/-- The cluster was looked up by the service itself, and the build of the client was forbidden. -/
theorem forbidden_build_told_apart :
    let identity? : Option RawIdentity := some { email := "jane@example.com" }
    let f₁ := start .privileged {} ({ serviceEnabled := true } : InMemoryFleet)
    let f₂ := start .privileged {} ({
      serviceEnabled := true
      service := oneCluster
      workloadFailure? := some (.forbidden "jane may not be impersonated") } : InMemoryFleet)
    ∃ e₁ e₂, (resolve InMemoryFleet.backend "prod-wc-01" identity? f₁).1 = .error e₁ ∧
      (resolve InMemoryFleet.backend "prod-wc-01" identity? f₂).1 = .error e₂ ∧
      e₁.userFacing = FleetError.unavailable ∧ e₂.userFacing = turnedDown ∧
      e₂.userFacing ≠ e₁.userFacing := by
  intro identity? f₁ f₂
  have hscreen : f₁.screen "prod-wc-01" identity? = .ok ⟨"jane@example.com", [], []⟩ := rfl
  have hidden : Hides InMemoryFleet.backend .privileged "prod-wc-01" ⟨"jane@example.com", [], []⟩
      f₁.clients.world := ⟨_, _, _, _, rfl, rfl, rfl⟩
  have withheld : Withholds InMemoryFleet.backend .privileged "prod-wc-01"
      ⟨"jane@example.com", [], []⟩ f₂.clients.world (.forbidden "jane may not be impersonated") :=
    ⟨_, _, _, _, _, rfl, rfl, rfl, Or.inr ⟨_, _, _, _, rfl, rfl, rfl⟩⟩
  have same : f₁.isClosed = f₂.isClosed := rfl
  obtain ⟨e₁, e₂, h₁, h₂, hmissing, hsame, hforbidden⟩ :=
    (withheld_told_as_missing_iff (by decide) same).2 _ _ hscreen (quiet_start ..)
      (quiet_start ..) hidden withheld
  exact ⟨e₁, e₂, h₁, h₂, hmissing, hforbidden rfl, fun h => Bool.noConfusion (hsame.mp h)⟩

/-- In user mode too, a caller can tell a cluster whose kubeconfig secret it may not read from one
that does not exist. -/
theorem forbidden_secret_told_apart :
    let caller : Identity := ⟨"jane@example.com", ["dev"], []⟩
    let identity? : Option RawIdentity := some { email := "jane@example.com", groups := ["dev"] }
    let forbidden : ClusterError := .forbidden "secrets is forbidden"
    let f₁ := start .user {} ({} : InMemoryFleet)
    let f₂ := start .user {}
      ({ management := oneCluster.failMethod "get_secret_data" forbidden } : InMemoryFleet)
    f₁.screen "prod-wc-01" identity? = .ok caller ∧ f₂.screen "prod-wc-01" identity? = .ok caller ∧
      Hides InMemoryFleet.backend .user "prod-wc-01" caller f₁.clients.world ∧
      Withholds InMemoryFleet.backend .user "prod-wc-01" caller f₂.clients.world forbidden ∧
      ∃ e₁ e₂, (resolve InMemoryFleet.backend "prod-wc-01" identity? f₁).1 = .error e₁ ∧
        (resolve InMemoryFleet.backend "prod-wc-01" identity? f₂).1 = .error e₂ ∧
        e₂.userFacing ≠ e₁.userFacing := by
  intro caller identity? forbidden f₁ f₂
  have hidden : Hides InMemoryFleet.backend .user "prod-wc-01" caller f₁.clients.world :=
    ⟨_, _, _, _, rfl, rfl, rfl⟩
  have withheld : Withholds InMemoryFleet.backend .user "prod-wc-01" caller f₂.clients.world
      forbidden := ⟨_, _, _, _, _, rfl, rfl, rfl, Or.inl ⟨_, rfl⟩⟩
  have missing : (resolve InMemoryFleet.backend "prod-wc-01" identity? f₁).1
      = .error (absent "prod-wc-01") :=
    (resolve_quiet (quiet_start ..) rfl).1.trans (whole_of_hides (by decide) hidden)
  have refused : (resolve InMemoryFleet.backend "prod-wc-01" identity? f₂).1
      = .error (secretFailure "prod-wc-01" caller forbidden) :=
    (resolve_quiet (quiet_start ..) rfl).1.trans rfl
  exact ⟨rfl, rfl, hidden, withheld, _, _, missing, refused, turnedDown_ne_unavailable⟩

end Federation

end FleetGate
