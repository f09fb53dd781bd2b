import FleetGate.Fleet.InMemory
import FleetGate.Proofs.Cluster.Listing
import FleetGate.Proofs.Keyed
import FleetGate.Proofs.Number.Numeral

/-! # A listing page by page

Read in pages, a listing is what it would be in one piece: the objects that it is about, in the
order in which they are kept, each once (`listAll_eq`). A page goes on where the one before it
stopped, and the last is reached before the pages run out.
-/

namespace FleetGate

namespace InMemoryCluster

variable {c : InMemoryCluster} {resource : ResourceType} {ns? : Option String}
  {options : ListOptions} {all : List Object} {start : Nat}

/-- Nothing stands in the way of listing the objects of a resource. -/
structure Lists (c : InMemoryCluster) (resource : ResourceType) : Prop where
  installed : resource.qualifiedName ∉ c.missing
  nothingNext : c.nextFailures = []
  nothingPlanned : Keyed.get? "list" c.failures = none

/-- The objects that are kept under a resource, in the order in which they are kept. -/
def kept (c : InMemoryCluster) (resource : ResourceType) : List Object :=
  (c.objects.filter fun p => p.1.resource = resource.qualifiedName).map (·.2)

/-- A cluster after a call was counted. -/
def counted (c : InMemoryCluster) (method : String) : InMemoryCluster :=
  { c with calls := Keyed.count method c.calls }

theorem Lists.counted (h : c.Lists resource) (method : String) : (c.counted method).Lists resource :=
  ⟨h.installed, h.nothingNext, h.nothingPlanned⟩

/-- A listing that nothing stands in the way of is answered with a page. -/
theorem Lists.perform_eq (h : c.Lists resource) (ns? : Option String) (options : ListOptions) :
    perform (.list resource ns? options) c
      = (.ok (pageOf resource options (c.selected resource ns? options)), c.counted "list") := by
  have hrecord : c.record (ClusterCall.list resource ns? options).method
      = (none, c.counted "list") := by
    simp only [record, h.nothingNext, h.nothingPlanned, ClusterCall.method, InMemoryCluster.counted]
  have hinstalled : resource.qualifiedName ∉ (c.counted "list").missing := h.installed
  rw [perform, hrecord]
  simp only [answer, if_neg hinstalled]
  rfl

/-- A listing over everything without selectors is about all that is kept. -/
theorem selected_everything (c : InMemoryCluster) (resource : ResourceType) (limit? : Option Int) :
    c.selected resource none { allNamespaces := true, limit? } = c.kept resource := by
  simp [selected, kept]

theorem length_selected_le (c : InMemoryCluster) (resource : ResourceType) (ns? : Option String)
    (options : ListOptions) : (c.selected resource ns? options).length ≤ c.objects.length := by
  rw [selected]
  refine Nat.le_trans (List.length_filter_le _ _) ?_
  rw [List.length_map]
  exact List.length_filter_le _ _

/-! ## One page -/

/-- A page has room for at least one object, and for no more than the cap allows. -/
theorem effectiveLimit_bounds (options : ListOptions) :
    0 < options.effectiveLimit ∧ options.effectiveLimit ≤ ListOptions.maxLimit := by
  have hcap : 0 < ListOptions.maxLimit := by decide
  have hdefault : 0 < ListOptions.defaultLimit ∧
      ListOptions.defaultLimit ≤ ListOptions.maxLimit := by decide
  rw [ListOptions.effectiveLimit]
  split
  · split
    · omega
    · exact hdefault
  · exact hdefault

/-- The most objects that a list in memory can have. Their positions, and those of a page behind
them, do not leave the range of 64 bits. -/
def maxObjects : Nat := 2 ^ 63 - 1

section
variable (hstart : offset options = start) (hle : start ≤ all.length)
  (hroom : all.length ≤ maxObjects)
include hstart hle hroom

/-- A page stops where its room ends, or with the last object. -/
theorem pageOf_stop :
    min ((offset options + options.effectiveLimit) % (Number.maxUnsigned64 + 1)) all.length
      = min (start + options.effectiveLimit) all.length := by
  have hlimit := (effectiveLimit_bounds options).2
  have hbounds : maxObjects + ListOptions.maxLimit < Number.maxUnsigned64 + 1 := by decide
  rw [hstart, Nat.mod_eq_of_lt (by omega)]

/-- A page holds the objects from its position on, as many as there is room for. -/
theorem pageOf_items (resource : ResourceType) :
    (pageOf resource options all).items
      = ((all.drop start).take options.effectiveLimit).map resource.stamp := by
  have hstop := pageOf_stop hstart hle hroom
  simp only [pageOf, hstop]
  rw [hstart, List.drop_take]
  congr 1
  rw [List.take_eq_take_iff, List.length_drop]
  omega

/-- Where objects are left, a page names the position behind it. -/
theorem pageOf_continue? (resource : ResourceType) (hmore : start + options.effectiveLimit < all.length) :
    (pageOf resource options all).continue?
      = some (Number.natString (start + options.effectiveLimit)) := by
  have hstop := pageOf_stop hstart hle hroom
  simp only [pageOf, hstop]
  rw [Nat.min_eq_left (Nat.le_of_lt hmore), if_pos (by omega)]

/-- Where none are left, a page says so. -/
theorem pageOf_last (resource : ResourceType) (hlast : all.length ≤ start + options.effectiveLimit) :
    (pageOf resource options all).continue? = none := by
  have hstop := pageOf_stop hstart hle hroom
  simp only [pageOf, hstop]
  rw [Nat.min_eq_right hlast, if_neg (by omega)]

/-- Where objects are left, and only there, another page follows. -/
theorem pageOf_hasMore (resource : ResourceType) :
    (pageOf resource options all).hasMore = decide (start + options.effectiveLimit < all.length) := by
  rcases Nat.lt_or_ge (start + options.effectiveLimit) all.length with hmore | hlast
  · simp [Page.hasMore, pageOf_continue? hstart hle hroom resource hmore, Number.natString_ne, hmore]
  · simp [Page.hasMore, pageOf_last hstart hle hroom resource hlast, hlast]

/-- What a page holds and what is left behind it is what is left at its position. -/
theorem pageOf_append (resource : ResourceType) :
    (pageOf resource options all).items
        ++ (all.drop (start + options.effectiveLimit)).map resource.stamp
      = (all.drop start).map resource.stamp := by
  rw [pageOf_items hstart hle hroom, ← List.map_append, ← List.drop_drop, List.take_append_drop]

/-- Where objects are left, a page counts them. -/
theorem pageOf_remaining? (resource : ResourceType) :
    (pageOf resource options all).remaining?
      = if start + options.effectiveLimit < all.length
        then some ((all.length - (start + options.effectiveLimit) : ℕ) : ℤ) else none := by
  have hstop := pageOf_stop hstart hle hroom
  simp only [pageOf, hstop]
  split
  · rw [if_pos (by omega), Nat.min_eq_left (by omega)]
  · rw [if_neg (by omega)]

end

/-- The position that a page names is where the next one starts. -/
theorem offset_next (hroom : start ≤ maxObjects) :
    offset { options with continue? := some (Number.natString start) } = start := by
  have hbound : start ≤ Number.maxUnsigned64 := Nat.le_trans hroom (by decide)
  rw [offset, Option.bind_some, Number.natUpTo?_natString hbound, Option.getD_some]

end InMemoryCluster

namespace InMemoryFleet

open InMemoryCluster

variable {s : InMemoryFleet} {client : Client} {resource : ResourceType} {options : ListOptions}
  {all : List Object} {start pages : Nat}

/-! ## All pages -/

/-- What a client calls is the cluster that was put there. -/
theorem clusterOf_setCluster (s : InMemoryFleet) (client : Client) (c : InMemoryCluster) :
    (s.setCluster client c).clusterOf client = c := by
  cases client with
  | management caller => rfl
  | service => rfl
  | workload name kubeconfig caller =>
      simp [setCluster, clusterOf, workload, Keyed.get?_put]

/-- A page is asked for through a client; the cluster counts the call. -/
theorem call_list (h : (s.clusterOf client).Lists resource) (ns? : Option String)
    (options : ListOptions) :
    ∃ s', backend.call client (.list resource ns? options) s
        = (.ok (pageOf resource options ((s.clusterOf client).selected resource ns? options)), s') ∧
      s'.clusterOf client = (s.clusterOf client).counted "list" := by
  refine ⟨s.setCluster client ((s.clusterOf client).counted "list"), ?_, clusterOf_setCluster ..⟩
  simp only [backend, h.perform_eq]

/-- From its position on, a listing has all objects that are left. -/
theorem listPages_eq (hlists : (s.clusterOf client).Lists resource)
    (hall : (s.clusterOf client).selected resource none options = all)
    (hstart : offset options = start) (hle : start ≤ all.length) (hroom : all.length ≤ maxObjects)
    (hpages : all.length - start < pages) :
    (backend.listPages client resource pages options s).1
      = .ok ((all.drop start).map resource.stamp) := by
  induction pages generalizing s options start with
  | zero => omega
  | succ pages ih =>
      have hlimit := (effectiveLimit_bounds options).1
      have hmore? := pageOf_hasMore hstart hle hroom resource
      have happend := pageOf_append hstart hle hroom resource
      obtain ⟨s₁, hcall, hs₁⟩ := call_list hlists none options
      rw [hall] at hcall
      rw [Backend.listPages]
      simp only [hcall]
      rcases Nat.lt_or_ge (start + options.effectiveLimit) all.length with hmore | hlast
      · -- the next page goes on from the position that this one names
        have htoken := pageOf_continue? hstart hle hroom resource hmore
        have hlists₁ : (s₁.clusterOf client).Lists resource := by
          rw [hs₁]
          exact hlists.counted "list"
        have hall₁ : (s₁.clusterOf client).selected resource none
            { options with continue? := (pageOf resource options all).continue? } = all := by
          rw [hs₁]
          exact hall
        have hrest := ih hlists₁ hall₁ (by rw [htoken]; exact offset_next (by omega))
          (Nat.le_of_lt hmore) (by omega)
        rw [hmore?, decide_eq_true hmore, if_pos rfl]
        generalize backend.listPages client resource pages
          { options with continue? := (pageOf resource options all).continue? } s₁ = next at hrest
        obtain ⟨outcome, s₂⟩ := next
        subst hrest
        exact congrArg _ happend
      · rw [List.drop_of_length_le hlast, List.map_nil, List.append_nil] at happend
        rw [hmore?, decide_eq_false (Nat.not_lt.mpr hlast), if_neg Bool.false_ne_true, happend]

/-- Everything is listed that is kept, in the order in which it is kept, each object once. -/
theorem listAll_eq (hlists : (s.clusterOf client).Lists resource)
    (hroom : (s.clusterOf client).objects.length ≤ maxObjects) :
    (backend.listAll client resource s).1
      = .ok (((s.clusterOf client).kept resource).map resource.stamp) := by
  have hselected := selected_everything (s.clusterOf client) resource (some ListOptions.maxLimit)
  have hlength := length_selected_le (s.clusterOf client) resource none
    { allNamespaces := true, limit? := some ListOptions.maxLimit }
  rw [hselected] at hlength
  have hpages : ((s.clusterOf client).kept resource).length - 0 < backend.pageBound client s :=
    Nat.lt_succ_of_le hlength
  have hstart : offset { allNamespaces := true, limit? := some ListOptions.maxLimit } = 0 := rfl
  rw [Backend.listAll, listPages_eq hlists hselected hstart (Nat.zero_le _) (by omega) hpages,
    List.drop_zero]

end InMemoryFleet

end FleetGate
