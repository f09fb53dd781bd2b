import FleetGate.Proofs.Cache.Kept
import FleetGate.Proofs.Cache.SingleFlight
import FleetGate.Proofs.Fleet.Callers
import FleetGate.Proofs.Fleet.Search
import FleetGate.Proofs.Fleet.Uninterrupted

/-! # Looking clusters up

Clusters can be listed, all of them at once, and one can be asked for by its name. The two ways send
different calls: the one reads page after page of everything, the other the first page of what a
field selector selects. They agree nevertheless (`lookups_agree`). What stands under a name is the
first of that name in the listing, the order of objects being that in which they are kept.

All this is said of a federation over clusters in memory, at any moment of any run at which it has
nothing under way for the caller.
-/

namespace FleetGate.Federation

open CacheMachine InMemoryCluster

variable {f f₁ f₂ : Federation InMemoryFleet} {caller : Identity} {raw : RawIdentity}
  {identity? : Option RawIdentity}

/-- A federation over clusters in memory, whatever happened to it before, at a moment at which it is
open and has nothing under way for a caller, and nothing fails on the management cluster. -/
structure Serves (f : Federation InMemoryFleet) (caller : Identity) : Prop where
  reached : ∃ mode config s events, f = (start mode config s).run InMemoryFleet.backend events
  idle : f.clients.Idle (keyOf "" caller)
  connects : f.clients.world.managementFailure? = none
  lists : f.clients.world.management.Lists .cluster
  room : f.clients.world.management.objects.length ≤ maxObjects

/-- What is kept for the management cluster is a client of it. -/
theorem Serves.kept_management (h : f.Serves caller) {e : CacheEntry Client}
    (live : f.clients.store.live? (keyOf "" caller) f.clients.now = some e) :
    ∃ other, e.value = .management other := by
  obtain ⟨mode, config, s, events, rfl⟩ := h.reached
  have hmem := (CacheStore.mem_of_live? live).1
  obtain ⟨fl, job, -, -, hended, -⟩ := (clients_traced rfl events).entries _ e hmem
  obtain ⟨cluster, other, hkey, hfor, -⟩ := builtFor_of_ended rfl hended
  obtain ⟨rfl, -⟩ : "" = cluster ∧ caller.principal = other.principal := by
    simpa [keyOf] using hkey
  cases hvalue : e.value with
  | management other => exact ⟨other, rfl⟩
  | service =>
      rw [hvalue] at hfor
      exact hfor.elim
  | workload name kubeconfig other =>
      rw [hvalue] at hfor
      exact absurd rfl hfor.2.1

/-- The caller gets a client of the management cluster, and nothing there changes. -/
theorem Serves.clientFor_eq (h : f.Serves caller) :
    ∃ other f', clientFor InMemoryFleet.backend "" caller f = (.ok (.management other), f') ∧
      f'.clients.world.management = f.clients.world.management := by
  cases live : f.clients.store.live? (keyOf "" caller) f.clients.now with
  | some e =>
      -- it may have been built for another identity of the same principal
      obtain ⟨other, hvalue⟩ := h.kept_management live
      have hget := h.idle.get_kept (w := f.workshop InMemoryFleet.backend)
        ⟨"", caller, .ordered⟩ live
      rw [hvalue] at hget
      refine ⟨other, _, Prod.ext hget.1 rfl, ?_⟩
      exact congrArg InMemoryFleet.management hget.2
  | none =>
      have hdistinct : f.clients.store.Distinct := by
        obtain ⟨mode, config, s, events, rfl⟩ := h.reached
        rw [run_clients]
        exact (exclusive_run _ config s _).distinct
      -- an entry that has expired is as good as none, and the client is built at once
      have hquiet := h.idle.quiet ((CacheStore.live?_eq_none_iff hdistinct).mp live)
      have hwhole : Construction.whole InMemoryFleet.backend f.mode "" caller f.clients.world
          = (.ok (.management caller), f.clients.world.recordBuild (.management caller)) := by
        simp [Construction.whole, Construction.opened, Construction.build, InMemoryFleet.backend,
          InMemoryFleet.buildOutcome, InMemoryFleet.buildFailure?, InMemoryFleet.recordBuild,
          h.connects]
      have hget := clientFor_quiet (b := InMemoryFleet.backend) hquiet
      rw [hwhole] at hget
      refine ⟨caller, _, Prod.ext hget.1 rfl, ?_⟩
      rw [hget.2]
      rfl

/-- The clusters of a management cluster, in the order in which they are kept. -/
def clustersOf (c : InMemoryCluster) : List ClusterSummary :=
  (c.kept .cluster).map ClusterSummary.ofObject

/-- The statement of its type says nothing about a cluster. -/
theorem ofObject_stamp (o : Object) :
    ClusterSummary.ofObject (ResourceType.cluster.stamp o) = ClusterSummary.ofObject o := by
  rw [ResourceType.stamp]
  split
  · rfl
  · rfl

/-- A listing narrows down all the clusters that there are. -/
theorem Serves.clusters_eq (h : f.Serves caller)
    (hscreen : f.screen "" identity? = .ok caller) (filter : ClusterFilter) :
    (clusters InMemoryFleet.backend identity? filter f).1
      = filter.apply (clustersOf f.clients.world.management) := by
  obtain ⟨other, f', hclient, hsame⟩ := h.clientFor_eq
  have hlist : (attempt (InMemoryFleet.backend.listAll (.management other) .cluster) f').1
      = .ok (.ok ((f.clients.world.management.kept .cluster).map ResourceType.cluster.stamp)) := by
    have hcluster : f'.clients.world.clusterOf (.management other) = f.clients.world.management :=
      hsame
    have hlists : (f'.clients.world.clusterOf (.management other)).Lists .cluster := by
      rw [hcluster]
      exact h.lists
    have hlisted := InMemoryFleet.listAll_eq hlists (by rw [hcluster]; exact h.room)
    rw [hcluster] at hlisted
    exact congrArg Except.ok hlisted
  rw [clusters, screened_bind, hscreen]
  simp only [bind_apply, hclient]
  generalize attempt (InMemoryFleet.backend.listAll (.management other) .cluster) f' = listed'
    at hlist
  obtain ⟨outcome, f₁⟩ := listed'
  subst hlist
  simp only [listed_apply, Except.mapError]
  rw [List.map_map, show ClusterSummary.ofObject ∘ ResourceType.cluster.stamp
    = ClusterSummary.ofObject from funext ofObject_stamp, ← clustersOf]
  cases filter.apply (clustersOf f.clients.world.management) with
  | ok found => rfl
  | error e => rfl

/-! ## One cluster by its name -/

/-- The first of the objects of a name is the one that is looked for, on the first page already. -/
theorem named?_first_page (name : String) (objects : List Object) {limit : ℕ} (hlimit : 0 < limit) :
    Construction.named? name (((objects.filter fun o => o.metadata.name? = some name).take
        limit).map ResourceType.cluster.stamp)
      = (Construction.named? name objects).map ResourceType.cluster.stamp := by
  have hname (o : Object) : (ResourceType.cluster.stamp o).metadata = o.metadata := by
    rw [ResourceType.stamp]
    split
    · rfl
    · rfl
  have hfirst := List.head?_filter (p := fun o : Object => decide (o.metadata.name? = some name))
    (l := objects)
  rw [Construction.named?, Construction.named?, ← hfirst]
  cases hfilter : objects.filter fun o => o.metadata.name? = some name with
  | nil => rw [List.take_nil]; rfl
  | cons o rest =>
      have ho : o ∈ objects.filter fun o => o.metadata.name? = some name := by
        rw [hfilter]
        exact List.mem_cons_self
      obtain ⟨limit, rfl⟩ := Nat.exists_eq_succ_of_ne_zero (Nat.ne_of_gt hlimit)
      rw [List.take_succ_cons, List.map_cons, List.find?_cons_of_pos]
      · rfl
      · rw [hname]
        exact (List.mem_filter.mp ho).2

/-- The caller is told of the first object of the name. -/
theorem Serves.cluster_eq (h : f.Serves caller) {name : String}
    (hscreen : f.screen name identity? = .ok caller)
    (hname : Validation.clusterName name = .ok ()) :
    (cluster InMemoryFleet.backend name identity? f).1
      = match Construction.named? name (f.clients.world.management.kept .cluster) with
        | some o => .ok (.ofObject o)
        | none => .error (Construction.absent name) := by
  obtain ⟨other, f', hclient, hsame⟩ := h.clientFor_eq
  have hcluster : f'.clients.world.clusterOf (.management other) = f.clients.world.management :=
    hsame
  have hselected : f.clients.world.management.selected .cluster none
      (Construction.searchOptions name)
        = (f.clients.world.management.kept .cluster).filter
            fun o => o.metadata.name? = some name :=
    selected_searchOptions hname f.clients.world.management
  have hlength := length_selected_le f.clients.world.management .cluster none
    (Construction.searchOptions name)
  have hlists : (f'.clients.world.clusterOf (.management other)).Lists .cluster := by
    rw [hcluster]
    exact h.lists
  obtain ⟨s', hcall, -⟩ := InMemoryFleet.call_list hlists none (Construction.searchOptions name)
  rw [hcluster] at hcall
  rw [hselected] at hcall hlength
  have hstart : offset (Construction.searchOptions name) = 0 := rfl
  have hitems := pageOf_items hstart (Nat.zero_le _) (hlength.trans h.room) .cluster
  rw [List.drop_zero] at hitems
  have hfirst := named?_first_page name (f.clients.world.management.kept .cluster)
    (effectiveLimit_bounds (Construction.searchOptions name)).1
  rw [cluster, screened_bind, hscreen]
  simp only [String.isEmpty_iff, if_neg (Validation.chars_of_clusterName hname).1, bind_apply,
    hclient, call, attempt, hcall, listed_apply, Except.mapError, pure, hitems, hfirst]
  cases Construction.named? name (f.clients.world.management.kept .cluster) with
  | none => rfl
  | some o => exact congrArg Except.ok (ofObject_stamp o)

/-! ## The two ways agree -/

/-- A cluster has a name that is not empty if its object has it. -/
theorem ofObject_name_iff {name : String} (hname : name ≠ "") (o : Object) :
    (ClusterSummary.ofObject o).name = name ↔ o.metadata.name? = some name := by
  have hdefault : (ClusterSummary.ofObject o).name = o.metadata.name?.getD "" := rfl
  rw [hdefault]
  cases o.metadata.name? with
  | none => simp [hname.symm]
  | some other => simp

/-- The first cluster of a name is that of the first object of the name. -/
theorem find?_clustersOf {name : String} (hname : name ≠ "") (c : InMemoryCluster) :
    (clustersOf c).find? (fun c => c.name = name)
      = (Construction.named? name (c.kept .cluster)).map ClusterSummary.ofObject := by
  rw [clustersOf, List.find?_map, Construction.named?]
  simp only [Function.comp_def, ofObject_name_iff hname]

/-- Without conditions nothing is left out. -/
theorem apply_empty (found : List ClusterSummary) :
    ClusterFilter.apply {} found = .ok found := by
  have hselector : Selector.parse "" = .ok {} := rfl
  have hempty : (Text.lowercase "").isEmpty = true := by decide
  simp [ClusterFilter.apply, hselector, ClusterFilter.admits, hempty, Selector.matchesLabels]

/-- Two calls of the same caller, one for all clusters and one for a cluster by its name, on
federations with the same clusters. The one gets what is the first of the name for the other, and
so does whoever takes the name for a part of one; and who gets nothing is told that there is none. -/
theorem lookups_agree {name : String} (h₁ : f₁.Serves caller) (h₂ : f₂.Serves caller)
    (same : f₁.clients.world.management.objects = f₂.clients.world.management.objects)
    (normal : raw.normalize = .ok caller) (hname : Validation.clusterName name = .ok ()) :
    ∃ all, (clusters InMemoryFleet.backend (some raw) {} f₁).1 = .ok all ∧
      ((∃ c, (cluster InMemoryFleet.backend name (some raw) f₂).1 = .ok c) ↔
        ∃ c ∈ all, c.name = name) ∧
      (∀ c, (cluster InMemoryFleet.backend name (some raw) f₂).1 = .ok c →
        all.find? (fun c => c.name = name) = some c ∧
          (resolveName all name).resolved? = some c) ∧
      ((∀ c ∈ all, c.name ≠ name) →
        (cluster InMemoryFleet.backend name (some raw) f₂).1
          = .error (.clusterNotFound name "no CAPI Cluster resource found with this name")) := by
  have hne := (Validation.chars_of_clusterName hname).1
  have hscreen₁ : f₁.screen "" (some raw) = .ok caller :=
    screen_eq_ok_iff.mpr ⟨h₁.idle.opened, raw, rfl, normal, Or.inl rfl⟩
  have hscreen₂ : f₂.screen name (some raw) = .ok caller :=
    screen_eq_ok_iff.mpr ⟨h₂.idle.opened, raw, rfl, normal, Or.inr hname⟩
  have hkept : f₂.clients.world.management.kept .cluster
      = f₁.clients.world.management.kept .cluster := by
    rw [kept, kept, same]
  have hfind := find?_clustersOf hne f₁.clients.world.management
  have hcluster := h₂.cluster_eq hscreen₂ hname
  rw [hkept] at hcluster
  refine ⟨clustersOf f₁.clients.world.management,
    (h₁.clusters_eq hscreen₁ {}).trans (apply_empty _), ?_⟩
  rw [hcluster]
  cases hnamed : Construction.named? name (f₁.clients.world.management.kept .cluster) with
  | none =>
      rw [hnamed, Option.map_none, List.find?_eq_none] at hfind
      refine ⟨?_, ?_, fun _ => rfl⟩
      · constructor
        · rintro ⟨c, hc⟩
          cases hc
        · rintro ⟨c, hc, heq⟩
          exact absurd (decide_eq_true heq) (hfind c hc)
      · intro c hc
        cases hc
  | some o =>
      rw [hnamed, Option.map_some] at hfind
      have hmem := List.mem_of_find?_eq_some hfind
      have heq : (ClusterSummary.ofObject o).name = name := by
        simpa using List.find?_some hfind
      refine ⟨⟨fun _ => ⟨_, hmem, heq⟩, fun _ => ⟨_, rfl⟩⟩, ?_, ?_⟩
      · intro c hc
        cases hc
        exact ⟨hfind, by rw [resolveName, hfind]⟩
      · intro hnone
        exact absurd heq (hnone _ hmem)

/-- Two clusters of one name in two namespaces. -/
def sameNames : InMemoryCluster :=
  (InMemoryCluster.add {} .cluster "org-zeta" "prod" (.obj [])).add .cluster "org-acme" "prod"
    (.obj [])

/-- A federation that has just started serves every caller from these two. -/
theorem serves_sameNames (caller : Identity) :
    (start .user {} ({ management := sameNames } : InMemoryFleet)).Serves caller where
  reached := ⟨.user, {}, _, [], rfl⟩
  idle := (quiet_start .user {} _ _).idle
  connects := rfl
  lists := ⟨by decide, rfl, rfl⟩
  room := by decide

/-- The client for the second call is kept from the first. -/
theorem lookups_agree_on_same_names :
    let identity? : Option RawIdentity := some { email := "jane@example.com" }
    let f₁ := start .user {} ({ management := sameNames } : InMemoryFleet)
    let f₂ := (clusters InMemoryFleet.backend identity? {} f₁).2
    ∃ all c, (clusters InMemoryFleet.backend identity? {} f₁).1 = .ok all ∧ all.length = 2 ∧
      (cluster InMemoryFleet.backend "prod" identity? f₂).1 = .ok c ∧ c.ns = "org-acme" ∧
      (resolveName all "prod").resolved? = some c := by
  intro identity? f₁ f₂
  let caller : Identity := ⟨"jane@example.com", [], []⟩
  have h₁ : f₁.Serves caller := serves_sameNames caller
  have hrest : f₂.clients.callers.length = 1 ∧ (f₂.clients.nextEvent? 0).isNone = true ∧
      f₂.clients.closed = false ∧ f₂.clients.registered = [] ∧
      f₂.clients.world.managementFailure? = none ∧
      ResourceType.cluster.qualifiedName ∉ f₂.clients.world.management.missing ∧
      f₂.clients.world.management.nextFailures = [] ∧
      f₂.clients.world.management.failures = [] ∧
      f₁.clients.world.management.objects = f₂.clients.world.management.objects := by
    decide +kernel
  obtain ⟨hcallers, hreturned, hopened, hregistered, hconnects, hinstalled, hnext, hplanned,
    same⟩ := hrest
  have h₂ : f₂.Serves caller := {
    reached := by
      obtain ⟨events, hrun, -⟩ := clusters_does InMemoryFleet.backend identity? {} f₁
      exact ⟨.user, {}, _, events, hrun.symm⟩
    idle := {
      still := fun j => by
        rcases Nat.eq_zero_or_pos j with rfl | hj
        · exact Option.isNone_iff_eq_none.mp hreturned
        · rw [nextEvent?, callerPhase?, List.getElem?_eq_none (by omega), Option.map_none]
      opened := hopened
      free := by rw [hregistered]; rfl }
    connects := hconnects
    lists := ⟨hinstalled, hnext, by rw [hplanned]; rfl⟩
    room := by rw [← same]; decide }
  have hlength : ((clusters InMemoryFleet.backend identity? {} f₁).1.map List.length) = .ok 2 := by
    decide +kernel
  have hns : ((cluster InMemoryFleet.backend "prod" identity? f₂).1.map ClusterSummary.ns)
      = .ok "org-acme" := by
    decide +kernel
  obtain ⟨c, hc, hns⟩ := map_eq_ok_iff.mp hns
  have normal : RawIdentity.normalize { email := "jane@example.com" } = .ok caller := rfl
  have hname : Validation.clusterName "prod" = .ok () := by decide
  obtain ⟨all, hall, -, hfirst, -⟩ := lookups_agree h₁ h₂ same normal hname
  rw [hall] at hlength
  exact ⟨all, c, hall, Except.ok.inj hlength, hc, hns, (hfirst c hc).2⟩

end FleetGate.Federation
