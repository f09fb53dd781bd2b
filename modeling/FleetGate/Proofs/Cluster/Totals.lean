import FleetGate.Proofs.Cluster.Pages

/-! # The total that a page tells

A page of a listing tells a total: what is on it and what it says is left. What was read before it
enters into neither, so the total falls by a page with every page of a walk and is the number of
objects asked for on the first page alone (`total_of_walk`).
-/

namespace FleetGate

namespace InMemoryCluster

variable {c : InMemoryCluster} {resource : ResourceType} {ns? : Option String}
  {options : ListOptions} {all : List Object} {start : ℕ} {before : List Page} {page : Page}

/-! ## One page -/

section
variable (hstart : offset options = start) (hle : start ≤ all.length)
  (hroom : all.length ≤ maxObjects)
include hstart hle hroom

theorem pageOf_length (resource : ResourceType) :
    (pageOf resource options all).items.length
      = min options.effectiveLimit (all.length - start) := by
  rw [pageOf_items hstart hle hroom, List.length_map, List.length_take, List.length_drop]

/-- A page tells as the total what a listing has from the position of the page on. -/
theorem pageOf_total? (resource : ResourceType) :
    (pageOf resource options all).total? = some (all.length - start) := by
  have hlength := pageOf_length hstart hle hroom resource
  have hremaining := pageOf_remaining? hstart hle hroom resource
  have hmore? := pageOf_hasMore hstart hle hroom resource
  rcases Nat.lt_or_ge (start + options.effectiveLimit) all.length with hmore | hlast
  · rw [if_pos hmore] at hremaining
    simp only [Page.total?, hremaining, Int.natCast_nonneg, if_true, Int.toNat_natCast, hlength]
    congr 1
    omega
  · rw [if_neg (Nat.not_lt.mpr hlast)] at hremaining
    rw [decide_eq_false (Nat.not_lt.mpr hlast)] at hmore?
    simp only [Page.total?, hremaining, Page.total?.fromToken, hmore?, Bool.false_eq_true, if_false,
      hlength]
    congr 1
    omega

end

/-! ## Walks -/

/-- Pages of one listing that were read one after another, and the page that was read then. Each
call but the first passes the token of the page before it. Between the calls there may be others,
also ones that failed, as long as the objects that are kept stay the same. -/
inductive Walks (c : InMemoryCluster) (resource : ResourceType) (ns? : Option String)
    (options : ListOptions) : List Page → Page → Prop
  | first {c' : InMemoryCluster} {page : Page} (hkept : c'.objects = c.objects)
      (hcall : (perform (.list resource ns? options) c').1 = .ok page) :
      Walks c resource ns? options [] page
  | next {c' : InMemoryCluster} {before : List Page} {page page' : Page}
      (h : Walks c resource ns? options before page) (hmore : page.hasMore = true)
      (hkept : c'.objects = c.objects)
      (hcall : (perform (.list resource ns? { options with continue? := page.continue? }) c').1
        = .ok page') :
      Walks c resource ns? options (before ++ [page]) page'

/-- A token makes no difference to the size of a page. -/
theorem effectiveLimit_token (options : ListOptions) (token? : Option String) :
    { options with continue? := token? }.effectiveLimit = options.effectiveLimit :=
  rfl

/-- A call with any token gives a page of what is asked for. -/
theorem page_of_call {c' : InMemoryCluster} {token? : Option String}
    (hkept : c'.objects = c.objects)
    (hcall : (perform (.list resource ns? { options with continue? := token? }) c').1 = .ok page) :
    page = pageOf resource { options with continue? := token? }
      (c.selected resource ns? options) := by
  obtain ⟨c'', hsame, rfl⟩ := perform_list hcall
  rw [selected, selected, hsame, hkept]

/-- A walk stands at the position behind the objects that it has read, which moved on from the
start with the first page. -/
theorem Walks.position (h : c.Walks resource ns? options before page)
    (hroom : c.objects.length ≤ maxObjects) (hfirst : options.continue? = none) :
    ∃ token?, page = pageOf resource { options with continue? := token? }
        (c.selected resource ns? options) ∧
      offset { options with continue? := token? } = (before.flatMap (·.items)).length ∧
      (before.flatMap (·.items)).length ≤ (c.selected resource ns? options).length ∧
      (before ≠ [] → 0 < (before.flatMap (·.items)).length) := by
  have hlength := length_selected_le c resource ns? options
  have hlimit := (effectiveLimit_bounds options).1
  induction h with
  | first hkept hcall =>
      refine ⟨none, ?_, rfl, Nat.zero_le _, fun h => absurd rfl h⟩
      refine page_of_call hkept ?_
      rwa [← hfirst]
  | @next c' before page page' _ hmore hkept hcall ih =>
      obtain ⟨token?, hpage, hstart, hle, -⟩ := ih
      have hroom' : (c.selected resource ns? options).length ≤ maxObjects := by omega
      have hitems := pageOf_length hstart hle hroom' resource
      have hmore? := pageOf_hasMore hstart hle hroom' resource
      rw [← hpage, effectiveLimit_token] at hitems hmore?
      rw [hmore, eq_comm, decide_eq_true_eq] at hmore?
      have htoken := pageOf_continue? hstart hle hroom' resource hmore?
      rw [← hpage, effectiveLimit_token] at htoken
      -- a page that is followed is full
      have hread : ((before ++ [page]).flatMap (·.items)).length
          = (before.flatMap (·.items)).length + options.effectiveLimit := by
        rw [List.flatMap_append, List.flatMap_singleton, List.length_append, hitems]
        omega
      refine ⟨page.continue?, page_of_call hkept hcall, ?_, by omega, fun _ => by omega⟩
      rw [htoken, hread]
      exact offset_next (by omega)

/-- The total that a page of a walk tells is what was asked for less what the walk has read before.
So it is the number of all that is asked for, on this page and all others, exactly if the page is
the first. -/
theorem total_of_walk (hroom : c.objects.length ≤ maxObjects) (hfirst : options.continue? = none)
    (h : c.Walks resource ns? options before page) :
    let asked := c.objects.filter fun kept => Asked resource ns? options kept
    page.total? = some (asked.length - (before.flatMap (·.items)).length) ∧
      (page.total? = some asked.length ↔ before = []) := by
  intro asked
  have hasked : (c.selected resource ns? options).length = asked.length := by
    rw [selected_eq, List.length_map]
  have hlength := length_selected_le c resource ns? options
  obtain ⟨token?, rfl, hstart, hle, hpositive⟩ := h.position hroom hfirst
  rw [pageOf_total? hstart hle (by omega) resource, hasked]
  rw [hasked] at hle
  refine ⟨rfl, ?_⟩
  rw [Option.some_inj]
  constructor
  · intro htotal
    by_contra hbefore
    have := hpositive hbefore
    omega
  · rintro rfl
    rfl

/-! ### Five pods in pages of two -/

/-- Five pods of a namespace, beside a pod of another one. -/
def fivePods : InMemoryCluster :=
  ["web-0", "web-1", "web-2", "web-3", "web-4"].foldl
    (fun c name => c.add .pod "dev" name (.obj []))
    (({} : InMemoryCluster).add .pod "prod" "web-0" .null)

/-- The page that starts at a token. -/
def podsFrom (token? : Option String) : Page :=
  pageOf .pod { limit? := some 2, continue? := token? }
    (fivePods.selected .pod (some "dev") { limit? := some 2 })

theorem fivePods_call (token? : Option String) :
    (perform (.list .pod (some "dev") { limit? := some 2, continue? := token? }) fivePods).1
      = .ok (podsFrom token?) := by
  have hlists : fivePods.Lists .pod := ⟨by decide, rfl, rfl⟩
  rw [hlists.perform_eq]
  rfl

theorem fivePods_walks :
    fivePods.Walks .pod (some "dev") { limit? := some 2 } [podsFrom none] (podsFrom (some "2")) ∧
      fivePods.Walks .pod (some "dev") { limit? := some 2 } [podsFrom none, podsFrom (some "2")]
        (podsFrom (some "4")) := by
  have hfirst := Walks.first rfl (fivePods_call none)
  have hsecond := hfirst.next (by decide) rfl (fivePods_call (some "2"))
  exact ⟨hsecond, hsecond.next (by decide) rfl (fivePods_call (some "4"))⟩

/-- The second page of five pods tells three of them as the total, and the last page one. -/
theorem later_totals_fall_short :
    ¬ ∀ (c : InMemoryCluster) (resource : ResourceType) (ns? : Option String)
      (options : ListOptions) (before : List Page) (page : Page) (n : ℕ),
      options.continue? = none → c.Walks resource ns? options before page →
      page.total? = some n →
      n = (c.objects.filter fun kept => Asked resource ns? options kept).length := by
  intro hclaim
  have hthree := hclaim _ _ _ _ _ _ 3 rfl fivePods_walks.1 (by decide)
  exact absurd hthree (by decide)

/-- On the last page the four pods before it are missing. -/
theorem total_of_last_page :
    let before := [podsFrom none, podsFrom (some "2")]
    fivePods.Walks .pod (some "dev") { limit? := some 2 } before (podsFrom (some "4")) ∧
      (podsFrom (some "4")).total? = some (5 - 4) ∧
      ((podsFrom (some "4")).total? = some 5 ↔ before = []) :=
  ⟨fivePods_walks.2, total_of_walk (by decide) rfl fivePods_walks.2⟩

end InMemoryCluster

end FleetGate
