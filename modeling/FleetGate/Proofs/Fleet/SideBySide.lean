import FleetGate.Fleet.Federation
import FleetGate.Proofs.Parallel

/-! # Calls side by side

The same call on two federations, each over a backend of its own. Whatever relation holds between
the two: if they screen alike, and asking for a client and calling a cluster through it go in
parallel, then the whole call does. What is the same about the two, and what may differ, is left to
whoever chooses the relations.
-/

namespace FleetGate

variable {σ₁ σ₂ α : Type} {R : σ₁ → σ₂ → Prop} {D : ClusterError → ClusterError → Prop}
  {b₁ : Backend σ₁} {b₂ : Backend σ₂}

/-! ## Listings -/

/-- Listings go in parallel if their pages do. -/
theorem Backend.listPages_parallel {c₁ c₂ : Client} {resource : ResourceType}
    (hpage : ∀ options, Parallel R D Eq (b₁.call c₁ (.list resource Option.none options))
      (b₂.call c₂ (.list resource Option.none options))) (pages : Nat) (options : ListOptions) :
    Parallel R D Eq (b₁.listPages c₁ resource pages options)
      (b₂.listPages c₂ resource pages options) := by
  induction pages generalizing options with
  | zero => exact fun s₁ s₂ hs => ⟨.ok rfl, hs⟩
  | succ pages ih =>
      intro s₁ s₂ hs
      rw [Backend.listPages, Backend.listPages]
      rcases (hpage options).run hs with
        ⟨page, _, t₁, t₂, h₁, h₂, rfl, ht⟩ | ⟨e₁, e₂, t₁, t₂, h₁, h₂, he, ht⟩
      · simp only [h₁, h₂]
        split
        · rcases (ih { options with continue? := page.continue? }).run ht with
            ⟨rest, _, u₁, u₂, h₁, h₂, rfl, hu⟩ | ⟨e₁, e₂, u₁, u₂, h₁, h₂, he, hu⟩
          · simp only [h₁, h₂]
            exact ⟨.ok rfl, hu⟩
          · simp only [h₁, h₂]
            exact ⟨.error he, hu⟩
        · exact ⟨.ok rfl, ht⟩
      · simp only [h₁, h₂]
        exact ⟨.error he, ht⟩

theorem Backend.listAll_parallel {c₁ c₂ : Client} {resource : ResourceType}
    (hbound : ∀ s₁ s₂, R s₁ s₂ → b₁.pageBound c₁ s₁ = b₂.pageBound c₂ s₂)
    (hpage : ∀ options, Parallel R D Eq (b₁.call c₁ (.list resource Option.none options))
      (b₂.call c₂ (.list resource Option.none options))) :
    Parallel R D Eq (b₁.listAll c₁ resource) (b₂.listAll c₂ resource) := by
  intro s₁ s₂ hs
  rw [Backend.listAll, Backend.listAll, hbound s₁ s₂ hs]
  exact Backend.listPages_parallel hpage _ _ s₁ s₂ hs

namespace Federation

variable {F : Federation σ₁ → Federation σ₂ → Prop} {E : FleetError → FleetError → Prop}
  {U : Client → Client → Prop} {S : AccessVerdict → AccessVerdict → Prop} {cluster : String}
  {check : AccessCheck}

/-! ## Steps of a call -/

/-- Two federations stay related whatever happens to their backends, as long as the states of these
stay related. -/
structure Follows (F : Federation σ₁ → Federation σ₂ → Prop) (R : σ₁ → σ₂ → Prop) : Prop where
  worlds : ∀ {f₁ f₂}, F f₁ f₂ → R f₁.clients.world f₂.clients.world
  change : ∀ {f₁ f₂ s₁ s₂}, F f₁ f₂ → R s₁ s₂ →
    F { f₁ with clients := { f₁.clients with world := s₁ } }
      { f₂ with clients := { f₂.clients with world := s₂ } }

theorem attempt_parallel {T : α → α → Prop} (hR : Follows F R) {x₁ : Attempt σ₁ α}
    {x₂ : Attempt σ₂ α} (hx : Parallel R D T x₁ x₂) :
    Parallel F E (Agree D T) (attempt x₁) (attempt x₂) := by
  intro f₁ f₂ h
  obtain ⟨houtcome, hafter⟩ := hx _ _ (hR.worlds h)
  exact ⟨.ok houtcome, hR.change h hafter⟩

/-- Federations that are both open or both closed screen alike. -/
theorem screen_eq_of_closed {f₁ : Federation σ₁} {f₂ : Federation σ₂}
    (h : f₁.isClosed = f₂.isClosed) : f₁.screen = f₂.screen := by
  funext cluster identity?
  simp only [screen, h]

/-- Related failures of clusters, and of asking for a client, make related failures of calls. -/
structure Carries (D : ClusterError → ClusterError → Prop) (E : FleetError → FleetError → Prop) :
    Prop where
  refl : ∀ e, E e e
  listing : ∀ {e₁ e₂}, D e₁ e₂ → E (listFailure e₁) (listFailure e₂)
  client : ∀ {e₁ e₂} cluster, E e₁ e₂ →
    E (.accessCheckFailed cluster ("failed to get cluster client: " ++ e₁.message))
      (.accessCheckFailed cluster ("failed to get cluster client: " ++ e₂.message))
  review : ∀ {e₁ e₂} cluster, D e₁ e₂ →
    E (.accessCheckFailed cluster ("SelfSubjectAccessReview API call failed: " ++ e₁.message))
      (.accessCheckFailed cluster ("SelfSubjectAccessReview API call failed: " ++ e₂.message))

theorem Carries.eq : Carries Eq Eq where
  refl _ := rfl
  listing h := congrArg listFailure h
  client cluster h := by rw [h]
  review cluster h := by rw [h]

/-! ## Calls -/

variable (hE : Carries D E) (hF : ∀ f₁ f₂, F f₁ f₂ → f₁.screen = f₂.screen)

section
include hE hF

theorem screened_parallel (cluster : String) (identity? : Option RawIdentity) :
    Parallel F E Eq (screened cluster identity?) (screened cluster identity?) := by
  intro f₁ f₂ h
  refine ⟨?_, h⟩
  change Agree _ _ (f₁.screen cluster identity?) (f₂.screen cluster identity?)
  rw [hF f₁ f₂ h]
  exact .refl hE.refl (fun _ => rfl) _

end

include hE in
theorem listed_parallel {o₁ o₂ : Except ClusterError α} (h : Agree D Eq o₁ o₂) :
    Parallel F E Eq (listed o₁) (listed o₂) := by
  cases h with
  | ok h => exact .pure h
  | error h => exact .throw (hE.listing h)

include hE hF in
theorem order_parallel
    (hasked : ∀ caller f₁ f₂, F f₁ f₂ →
      f₁.clients.callers.length = f₂.clients.callers.length ∧
      F { f₁ with clients := (f₁.clients.arrive (keyOf cluster caller)
            ⟨cluster, caller, .ordered⟩).settle (f₁.workshop b₁) }
        { f₂ with clients := (f₂.clients.arrive (keyOf cluster caller)
            ⟨cluster, caller, .ordered⟩).settle (f₂.workshop b₂) })
    (identity? : Option RawIdentity) :
    Parallel F E Eq (order b₁ cluster identity?) (order b₂ cluster identity?) := by
  refine (screened_parallel hE hF cluster identity?).bind_eq fun caller => ?_
  intro f₁ f₂ h
  obtain ⟨hnumber, hafter⟩ := hasked caller f₁ f₂ h
  exact ⟨.ok hnumber, hafter⟩

section
variable (hclient : ∀ caller, Parallel F E U (clientFor b₁ cluster caller)
  (clientFor b₂ cluster caller))
include hE hF hclient

theorem resolve_parallel (identity? : Option RawIdentity) :
    Parallel F E U (resolve b₁ cluster identity?) (resolve b₂ cluster identity?) :=
  (screened_parallel hE hF cluster identity?).bind_eq fun caller => hclient caller

theorem checkAccess_parallel
    (hreview : ∀ c₁ c₂, U c₁ c₂ → Parallel F E (Agree D S) (call b₁ c₁ (.review check.review))
      (call b₂ c₂ (.review check.review))) (identity? : Option RawIdentity) :
    Parallel F E S (checkAccess b₁ cluster identity? check)
      (checkAccess b₂ cluster identity? check) := by
  refine (screened_parallel hE hF cluster identity?).bind_eq fun caller => ?_
  cases hvalid : check.validate with
  | error e => exact fun _ _ h => ⟨.error (hE.refl e), h⟩
  | ok _ =>
      refine ((hclient caller).tryCatch fun _ _ h => .throw (hE.client cluster h)).bind
        fun c₁ c₂ hc => ?_
      refine (hreview c₁ c₂ hc).bind fun o₁ o₂ ho => ?_
      cases ho with
      | ok h => exact .pure h
      | error h => exact .throw (hE.review cluster h)

theorem requireAccess_parallel
    (hS : ∀ v₁ v₂, S v₁ v₂ → v₁.allowed = v₂.allowed ∧ v₁.reason = v₂.reason)
    (hreview : ∀ c₁ c₂, U c₁ c₂ → Parallel F E (Agree D S) (call b₁ c₁ (.review check.review))
      (call b₂ c₂ (.review check.review))) (identity? : Option RawIdentity) :
    Parallel F E Eq (requireAccess b₁ cluster identity? check)
      (requireAccess b₂ cluster identity? check) := by
  refine (checkAccess_parallel hE hF hclient hreview identity?).bind fun v₁ v₂ hv => ?_
  obtain ⟨hallowed, hreason⟩ := hS v₁ v₂ hv
  rw [hallowed, hreason]
  split
  · exact .pure rfl
  · exact .throw (hE.refl _)

end

section
variable (hclient : ∀ caller, Parallel F E U (clientFor b₁ "" caller) (clientFor b₂ "" caller))
include hE hF hclient

theorem clusters_parallel
    (hlist : ∀ c₁ c₂, U c₁ c₂ → Parallel F E (Agree D Eq) (attempt (b₁.listAll c₁ .cluster))
      (attempt (b₂.listAll c₂ .cluster)))
    (identity? : Option RawIdentity) (filter : ClusterFilter) :
    Parallel F E Eq (clusters b₁ identity? filter) (clusters b₂ identity? filter) := by
  refine (screened_parallel hE hF "" identity?).bind_eq fun caller => ?_
  refine (hclient caller).bind fun c₁ c₂ hc => ?_
  refine (hlist c₁ c₂ hc).bind fun _ _ hlisted => ?_
  refine (listed_parallel hE hlisted).bind_eq fun objects => ?_
  split
  · exact .pure rfl
  · exact .throw (hE.refl _)

theorem cluster_parallel {name : String}
    (hlist : ∀ c₁ c₂, U c₁ c₂ → Parallel F E (Agree D Eq)
      (call b₁ c₁ (.list .cluster none (Construction.searchOptions name)))
      (call b₂ c₂ (.list .cluster none (Construction.searchOptions name))))
    (identity? : Option RawIdentity) :
    Parallel F E Eq (Federation.cluster b₁ name identity?)
      (Federation.cluster b₂ name identity?) := by
  refine (screened_parallel hE hF name identity?).bind_eq fun caller => ?_
  by_cases hempty : name.isEmpty = true
  · simp only [if_pos hempty]
    exact .throw (hE.refl _)
  · simp only [if_neg hempty]
    refine (hclient caller).bind fun c₁ c₂ hc => ?_
    refine (hlist c₁ c₂ hc).bind fun _ _ hlisted => ?_
    refine (listed_parallel hE hlisted).bind_eq fun page => ?_
    cases Construction.named? name page.items with
    | none => exact .throw (hE.refl _)
    | some o => exact .pure rfl

end

end Federation

end FleetGate
