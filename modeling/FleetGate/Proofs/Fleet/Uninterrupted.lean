import FleetGate.Proofs.Cache.Answer
import FleetGate.Proofs.Fleet.Operations

/-! # A construction without interruption

What the construction of a client comes to if nobody else changes anything meanwhile, told in one
go and without the time it takes (`Construction.whole`). While a federation is quiet, that is what a
call for a client is answered (`resolve_quiet`).
-/

namespace FleetGate

namespace Construction

variable {σ : Type} {b : Backend σ} {mode : CredentialMode} {cluster : String}
  {caller : Identity} {via : Client} {ns : String} {kubeconfig : Kubeconfig}

/-- The build of a client from start to end. -/
def build (b : Backend σ) (client : Client) : Attempt σ Unit := fun s =>
  b.endBuild client (b.startBuild client s).2

/-- The construction from where the kubeconfig is known. -/
def afterReading (b : Backend σ) (cluster : String) (caller : Identity) (kubeconfig : Kubeconfig)
    (s : σ) : FleetResult Client × σ :=
  let client := Client.workload cluster kubeconfig caller
  match build b client s with
  | (.error e, s) => (.error (buildFailure cluster caller e), s)
  | (.ok (), s) => (.ok client, s)

/-- The construction from where the cluster was found in a namespace. -/
def afterSearching (b : Backend σ) (cluster : String) (caller : Identity) (via : Client)
    (ns : String) (s : σ) : FleetResult Client × σ :=
  match b.call via (.secretData ns (secretName cluster)) s with
  | (.error e, s) => (.error (secretFailure cluster caller e), s)
  | (.ok data, s) =>
    match kubeconfigOf cluster data with
    | .error e => (.error e, s)
    | .ok kubeconfig => afterReading b cluster caller kubeconfig s

/-- The construction from where there is a client to look the cluster up. -/
def afterOpening (b : Backend σ) (cluster : String) (caller : Identity) (via : Client) (s : σ) :
    FleetResult Client × σ :=
  match b.call via (.list .cluster none (searchOptions cluster)) s with
  | (.error e, s) => (.error (searchFailure cluster e), s)
  | (.ok page, s) =>
    match named? cluster page.items with
    | none => (.error (absent cluster), s)
    | some o => afterSearching b cluster caller via o.namespaceName s

/-- The client with which a construction begins: the service's own to look a named cluster up, if
the mode says so and there is one, and the caller's otherwise. -/
def opened (b : Backend σ) (mode : CredentialMode) (cluster : String) (caller : Identity) :
    Attempt σ Client := fun s =>
  if cluster ≠ "" ∧ mode = .privileged ∧ b.hasService s then (.ok .service, s)
  else
    match build b (.management caller) s with
    | (.error e, s) => (.error e, s)
    | (.ok (), s) => (.ok (.management caller), s)

/-- The construction as a whole. -/
def whole (b : Backend σ) (mode : CredentialMode) (cluster : String) (caller : Identity) (s : σ) :
    FleetResult Client × σ :=
  match opened b mode cluster caller s with
  | (.error e, s) => (.error (buildFailure "" caller e), s)
  | (.ok via, s) => if cluster = "" then (.ok via, s) else afterOpening b cluster caller via s

/-! ## Stage by stage

Carried on from a stage, a construction comes to what is told above of that stage. It takes one step
for each stage that is left, and one wait for each build.
-/

theorem comes_connecting (now ready : Nat) (s : σ) :
    (workshop b mode).Comes 1 1 now ⟨cluster, caller, .connecting kubeconfig ready⟩
      (b.startBuild (.workload cluster kubeconfig caller) s).2
      (afterReading b cluster caller kubeconfig s).1
      (afterReading b cluster caller kubeconfig s).2 := by
  refine .of_ready ready (fun t ht => ?_) (by decide) (fun t ht => .ends ?_) now
  · simp only [workshop, advance, if_pos ht]
  · rcases hend : build b (.workload cluster kubeconfig caller) s with ⟨e | _, s₁⟩
    all_goals
      simp only [afterReading, hend]
      rw [build] at hend
      simp only [workshop, advance, if_neg (Nat.not_lt.mpr ht), hend]

theorem comes_configured (now : Nat) (s : σ) :
    (workshop b mode).Comes 2 1 now ⟨cluster, caller, .configured kubeconfig⟩ s
      (afterReading b cluster caller kubeconfig s).1
      (afterReading b cluster caller kubeconfig s).2 :=
  .works rfl (comes_connecting now _ s)

theorem comes_reading (now : Nat) (s : σ) :
    (workshop b mode).Comes 3 1 now ⟨cluster, caller, .reading via ns⟩ s
      (afterSearching b cluster caller via ns s).1
      (afterSearching b cluster caller via ns s).2 := by
  rcases hcall : b.call via (.secretData ns (secretName cluster)) s with ⟨e | data, s₁⟩
  · refine .ends ?_
    simp only [workshop, advance, afterSearching, hcall]
  · cases hread : kubeconfigOf cluster data with
    | error e =>
        refine .ends ?_
        simp only [workshop, advance, afterSearching, hcall, hread]
    | ok kubeconfig =>
        simp only [afterSearching, hcall, hread]
        refine .works ?_ (comes_configured now s₁)
        simp only [workshop, advance, hcall, hread]
        rfl

theorem comes_searching (now : Nat) (s : σ) :
    (workshop b mode).Comes 4 1 now ⟨cluster, caller, .searching via⟩ s
      (afterOpening b cluster caller via s).1 (afterOpening b cluster caller via s).2 := by
  rcases hcall : b.call via (.list .cluster none (searchOptions cluster)) s with ⟨e | page, s₁⟩
  · refine .ends ?_
    simp only [workshop, advance, afterOpening, hcall]
  · cases hnamed : named? cluster page.items with
    | none =>
        refine .ends ?_
        simp only [workshop, advance, afterOpening, hcall, hnamed]
    | some o =>
        simp only [afterOpening, hcall, hnamed]
        refine .works ?_ (comes_reading now s₁)
        simp only [workshop, advance, hcall, hnamed]
        rfl

theorem comes_opening {s : σ} (now ready : Nat)
    (own : ¬ (cluster ≠ "" ∧ mode = .privileged ∧ b.hasService s)) :
    (workshop b mode).Comes 5 2 now ⟨cluster, caller, .opening ready⟩
      (b.startBuild (.management caller) s).2
      (whole b mode cluster caller s).1 (whole b mode cluster caller s).2 := by
  refine .of_ready ready (fun t ht => ?_) (by decide) (fun t ht => ?_) now
  · simp only [workshop, advance, if_pos ht]
  · rcases hend : build b (.management caller) s with ⟨e | _, s₁⟩
    · refine .ends ?_
      simp only [whole, opened, if_neg own, hend]
      rw [build] at hend
      simp only [workshop, advance, if_neg (Nat.not_lt.mpr ht), hend]
    · simp only [whole, opened, if_neg own, hend]
      rw [build] at hend
      split
      · rename_i hempty
        refine .ends ?_
        simp only [workshop, advance, if_neg (Nat.not_lt.mpr ht), hend, if_pos hempty]
      · rename_i named
        refine .works ?_ (comes_searching t s₁)
        simp only [workshop, advance, if_neg (Nat.not_lt.mpr ht), hend, if_neg named]
        rfl

/-- Carried on by itself, a construction comes to what it is as a whole. It waits no more than
twice. -/
theorem comes_ordered (now : Nat) (s : σ) :
    (workshop b mode).Comes 6 2 now ⟨cluster, caller, .ordered⟩ s
      (whole b mode cluster caller s).1 (whole b mode cluster caller s).2 := by
  by_cases own : cluster ≠ "" ∧ mode = .privileged ∧ b.hasService s
  · simp only [whole, opened, if_pos own, if_neg own.1]
    refine .works ?_ ((comes_searching now s).mono (by decide) (by decide))
    simp only [workshop, advance, if_pos own]
    rfl
  · refine .works ?_ (comes_opening now (now + (b.startBuild (.management caller) s).1) own)
    simp only [workshop, advance, if_neg own]
    rfl

end Construction

/-! ## Calls -/

namespace Federation

variable {σ : Type} {b : Backend σ} {f : Federation σ} {cluster : String}
  {identity? : Option RawIdentity} {caller : Identity}

/-- While a federation is quiet, a caller who passed the checks gets what the construction of a client
is as a whole. -/
theorem clientFor_quiet (h : f.clients.Quiet (keyOf cluster caller)) :
    (clientFor b cluster caller f).1
        = (Construction.whole b f.mode cluster caller f.clients.world).1 ∧
      (clientFor b cluster caller f).2.clients.world
        = (Construction.whole b f.mode cluster caller f.clients.world).2 := by
  have hcomes : (f.workshop b).Comes Workshop.stretch 2 f.clients.now ⟨cluster, caller, .ordered⟩
      f.clients.world (Construction.whole b f.mode cluster caller f.clients.world).1
      (Construction.whole b f.mode cluster caller f.clients.world).2 :=
    (Construction.comes_ordered f.clients.now f.clients.world).mono (by decide) (by decide)
  exact h.get hcomes (by decide)

/-- While a federation is quiet, a call for a client is answered what its construction is as a
whole. -/
theorem resolve_quiet (h : f.clients.Quiet (keyOf cluster caller))
    (hscreen : f.screen cluster identity? = .ok caller) :
    (resolve b cluster identity? f).1
        = (Construction.whole b f.mode cluster caller f.clients.world).1 ∧
      (resolve b cluster identity? f).2.clients.world
        = (Construction.whole b f.mode cluster caller f.clients.world).2 := by
  rw [resolve, screened_bind, hscreen]
  exact clientFor_quiet h

/-- A federation that was just made is quiet. -/
theorem quiet_start (mode : CredentialMode) (config : CacheConfig) (s : σ) (key : CacheKey) :
    (start mode config s).clients.Quiet key :=
  CacheMachine.quiet_start config s key

end Federation

end FleetGate
