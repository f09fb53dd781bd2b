import FleetGate.Proofs.Cluster.Paging
import Mathlib.Tactic.MkIffOfInductiveProp

/-! # Reading a listing to its end

Who reads a listing passes the token of each page back, until a page says that nothing follows
(`readOut`). Which objects a listing is about does not depend on the token (`selected_eq`), and a
page goes on exactly where the one before it stopped; so for as long as the objects stay as they
are, the pages cut one list into pieces, full but for the last, and the reading comes to an end with
the last piece (`readOut_paginates`).
-/

namespace FleetGate

namespace InMemoryCluster

variable {c : InMemoryCluster} {resource : ResourceType} {ns? : Option String}
  {options : ListOptions} {limit start : ℕ} {page : Page} {pages : List Page}
  {items all : List Object}

/-! ## What is asked for -/

/-- An object that is kept is asked for: it is of the resource, in the namespace that is named, and
selected by the selectors that are given. A namespace means nothing to a resource without
namespaces, nor where all of them are asked for, and an empty one names none. -/
@[mk_iff]
structure Asked (resource : ResourceType) (ns? : Option String) (options : ListOptions)
    (kept : ObjectKey × Object) : Prop where
  type : kept.1.resource = resource.qualifiedName
  scope : resource.namespaced = true → options.allNamespaces = false →
    ∀ ns ∈ ns?, ns ≠ "" → kept.1.ns = ns
  fields : ∀ selector ∈ options.fieldSelector?, kept.2.matchesFields selector = true
  labels : ∀ selector ∈ options.labelSelector?, kept.2.matchesLabels selector = true

instance : DecidablePred (Asked resource ns? options) := fun _ => decidable_of_iff' _ (asked_iff ..)

/-- A listing is about what is asked for, in the order in which it is kept. -/
theorem selected_eq (c : InMemoryCluster) (resource : ResourceType) (ns? : Option String)
    (options : ListOptions) :
    c.selected resource ns? options
      = (c.objects.filter fun kept => Asked resource ns? options kept).map (·.2) := by
  rw [selected, List.filter_map, List.filter_filter]
  congr 1
  refine List.filter_congr fun kept _ => ?_
  rw [Bool.eq_iff_iff, decide_eq_true_iff, asked_iff]
  have hscope : ((if options.allNamespaces || !resource.namespaced then none
        else ns?.filter fun ns => !ns.isEmpty).all fun ns => ns = kept.1.ns) = true ↔
      (resource.namespaced = true → options.allNamespaces = false →
        ∀ ns ∈ ns?, ns ≠ "" → kept.1.ns = ns) := by
    rcases ns? with _ | ns
    · simp
    · rcases eq_or_ne ns "" with rfl | hns
      · simp [Option.filter]
      · cases resource.namespaced <;> cases options.allNamespaces <;>
          simp [hns, eq_comm (a := ns)]
  simp only [Function.comp_apply, Bool.and_eq_true, hscope, Option.all_eq_true, decide_eq_true_iff]
  tauto

/-! ## Reading on -/

/-- The pages of a listing, each asked for with the token of the one before it, until one says that
nothing follows. None if a call fails, or if the calls do not suffice. -/
def readOut (resource : ResourceType) (ns? : Option String) :
    ℕ → ListOptions → InMemoryCluster → Option (List Page)
  | 0, _, _ => none
  | calls + 1, options, c =>
    match perform (.list resource ns? options) c with
    | (.error _, _) => none
    | (.ok page, c) =>
      if page.hasMore then
        (readOut resource ns? calls { options with continue? := page.continue? } c).map (page :: ·)
      else some [page]

/-- How the pages of a listing are to divide what it is about. -/
structure Paginates (limit : ℕ) (pages : List Page) (items : List Object) : Prop where
  /-- Nothing is lost, added, repeated or put elsewhere. -/
  whole : pages.flatMap (·.items) = items
  /-- No page but the last has room left. -/
  full : ∀ page ∈ pages.dropLast, page.items.length = limit
  bounded : ∀ page ∈ pages, page.items.length ≤ limit
  /-- No page is empty unless the listing is about nothing. -/
  inhabited : items ≠ [] → ∀ page ∈ pages, page.items ≠ []
  /-- A page counts what is on the pages after it; the last says that nothing is left. -/
  remaining : ∀ before page after, pages = before ++ page :: after →
    page.remaining? = if after = [] then none else some ((after.flatMap (·.items)).length : ℤ)

/-- A page that says that nothing is left divides what is on it. -/
theorem Paginates.last (hbound : page.items.length ≤ limit) (hleft : page.remaining? = none) :
    Paginates limit [page] page.items where
  whole := List.flatMap_singleton ..
  full := by simp
  bounded := by simpa using hbound
  inhabited := by simp
  remaining := by
    intro before page' after h
    obtain ⟨-, rfl, rfl⟩ : before = [] ∧ page' = page ∧ after = [] := by
      cases before <;> simp_all
    simpa using hleft

/-- A full page that counts what is left stands before the pages that divide it. -/
theorem Paginates.cons (h : Paginates limit pages items) (hpages : pages ≠ [])
    (hitems : items ≠ []) (hlimit : 0 < limit) (hfull : page.items.length = limit)
    (hleft : page.remaining? = some (items.length : ℤ)) :
    Paginates limit (page :: pages) (page.items ++ items) where
  whole := by rw [List.flatMap_cons, h.whole]
  full := by
    rw [List.dropLast_cons_of_ne_nil hpages]
    exact List.forall_mem_cons.mpr ⟨hfull, h.full⟩
  bounded := List.forall_mem_cons.mpr ⟨hfull.le, h.bounded⟩
  inhabited _ := List.forall_mem_cons.mpr
    ⟨List.ne_nil_of_length_pos (hfull ▸ hlimit), h.inhabited hitems⟩
  remaining
    | [], page', after, heq => by
        obtain ⟨rfl, rfl⟩ := List.cons.inj heq
        rw [if_neg hpages, h.whole, hleft]
    | _ :: before, page', after, heq => h.remaining before page' after (List.cons.inj heq).2

/-- Read to its end, a listing gives these pages, one for each call; with fewer calls it is not read
to its end. -/
def ReadsAs (c : InMemoryCluster) (resource : ResourceType) (ns? : Option String)
    (options : ListOptions) (pages : List Page) : Prop :=
  ∀ calls, readOut resource ns? calls options c
    = if pages.length ≤ calls then some pages else none

section
variable (hlists : c.Lists resource)
  (hpage : pageOf resource options (c.selected resource ns? options) = page)
include hlists hpage

/-- As long as nothing stands in the way, a call gives a page. -/
theorem readOut_succ (calls : ℕ) :
    readOut resource ns? (calls + 1) options c
      = if page.hasMore then
          (readOut resource ns? calls { options with continue? := page.continue? }
            (c.counted "list")).map (page :: ·)
        else some [page] := by
  rw [readOut, hlists.perform_eq, hpage]

/-- The reading ends with a page that nothing follows. -/
theorem readsAs_last (hlast : page.hasMore = false) : c.ReadsAs resource ns? options [page] := by
  intro calls
  cases calls with
  | zero => rfl
  | succ calls => rw [readOut_succ hlists hpage, hlast, if_neg Bool.false_ne_true, if_pos (by simp)]

/-- A page that is followed comes before those that are read with its token. -/
theorem readsAs_cons (hmore : page.hasMore = true)
    (hrest : (c.counted "list").ReadsAs resource ns? { options with continue? := page.continue? }
      pages) :
    c.ReadsAs resource ns? options (page :: pages) := by
  intro calls
  cases calls with
  | zero => rfl
  | succ calls =>
      rw [readOut_succ hlists hpage, if_pos hmore, hrest, List.length_cons,
        apply_ite (Option.map _)]
      simp only [Nat.succ_le_succ_iff, Option.map_some, Option.map_none]

end

/-- From any position on, the pages divide what is left there. -/
theorem readsAs_from (hlists : c.Lists resource) (hall : c.selected resource ns? options = all)
    (hroom : all.length ≤ maxObjects) (hstart : offset options = start)
    (hle : start ≤ all.length) :
    ∃ pages ≠ [], c.ReadsAs resource ns? options pages ∧
      Paginates options.effectiveLimit pages ((all.drop start).map resource.stamp) := by
  induction hleft : all.length - start using Nat.strong_induction_on
    generalizing c options start with
  | _ left ih =>
    have hlimit := (effectiveLimit_bounds options).1
    have hpage := congrArg (pageOf resource options) hall
    have hmore? := pageOf_hasMore hstart hle hroom resource
    have hremaining := pageOf_remaining? hstart hle hroom resource
    have happend := pageOf_append hstart hle hroom resource
    have hlength : (pageOf resource options all).items.length
        = min options.effectiveLimit (all.length - start) := by
      rw [pageOf_items hstart hle hroom, List.length_map, List.length_take, List.length_drop]
    rcases Nat.lt_or_ge (start + options.effectiveLimit) all.length with hmore | hlast
    · -- the next page goes on from the position that this one names
      have hnext : offset { options with continue? := (pageOf resource options all).continue? }
          = start + options.effectiveLimit := by
        rw [pageOf_continue? hstart hle hroom resource hmore]
        exact offset_next (by omega)
      have hsame : (c.counted "list").selected resource ns?
          { options with continue? := (pageOf resource options all).continue? } = all := hall
      obtain ⟨pages, hpages, hreads, hdivided⟩ :=
        ih (all.length - (start + options.effectiveLimit)) (by omega) (hlists.counted "list") hsame
          hnext hmore.le rfl
      rw [decide_eq_true hmore] at hmore?
      rw [if_pos hmore] at hremaining
      refine ⟨_, List.cons_ne_nil _ _, readsAs_cons hlists hpage hmore? hreads, ?_⟩
      have hitems : (all.drop (start + options.effectiveLimit)).map resource.stamp ≠ [] := by
        simpa using hmore
      have hfull : (pageOf resource options all).items.length = options.effectiveLimit := by omega
      rw [← happend]
      refine hdivided.cons hpages hitems hlimit hfull ?_
      rw [hremaining, List.length_map, List.length_drop]
    · rw [decide_eq_false (Nat.not_lt.mpr hlast)] at hmore?
      rw [if_neg (Nat.not_lt.mpr hlast)] at hremaining
      rw [List.drop_of_length_le hlast, List.map_nil, List.append_nil] at happend
      refine ⟨_, List.cons_ne_nil _ _, readsAs_last hlists hpage hmore?, ?_⟩
      rw [← happend]
      exact .last (by omega) hremaining

/-- Whatever is kept and whatever is asked for, reading a listing from its start comes to an end,
after exactly as many calls as it has pages. Put together, the pages are what is asked for, in the
order in which it is kept and each object once, with its type stated; every page but the last is
full; and each counts what is on the pages after it. -/
theorem readOut_paginates (hlists : c.Lists resource) (hroom : c.objects.length ≤ maxObjects)
    (hfirst : options.continue? = none) :
    ∃ pages, c.ReadsAs resource ns? options pages ∧
      Paginates options.effectiveLimit pages
        ((c.objects.filter fun kept => Asked resource ns? options kept).map fun kept =>
          resource.stamp kept.2) := by
  have hlength := length_selected_le c resource ns? options
  have hstart : offset options = 0 := by rw [offset, hfirst, Option.bind_none, Option.getD_none]
  obtain ⟨pages, -, hreads, hdivided⟩ :=
    readsAs_from hlists rfl (by omega) hstart (Nat.zero_le (c.selected resource ns? options).length)
  rw [List.drop_zero, selected_eq, List.map_map] at hdivided
  exact ⟨pages, hreads, hdivided⟩

/-- Five pods of a namespace in pages of two, beside a pod of another namespace and a secret. -/
theorem readOut_five_pods :
    let names := ["web-0", "web-1", "web-2", "web-3", "web-4"]
    let c := names.foldl (fun c name => c.add .pod "dev" name (.obj []))
      ((({} : InMemoryCluster).add .pod "prod" "web-0" (.obj [])).add .secret "dev" "web-0" (.obj []))
    ∃ pages, c.ReadsAs .pod (some "dev") { limit? := some 2 } pages ∧
      pages.map (·.items.length) = [2, 2, 1] ∧
      pages.map (·.remaining?) = [some 3, some 1, none] ∧
      (pages.flatMap (·.items)).map (·.name) = names := by
  intro names c
  have hlists : c.Lists .pod := ⟨by decide, rfl, rfl⟩
  obtain ⟨pages, hreads, hdivided⟩ : ∃ pages,
      c.ReadsAs .pod (some "dev") { limit? := some 2 } pages ∧ Paginates 2 pages _ :=
    readOut_paginates hlists (by decide) rfl
  refine ⟨pages, hreads, ?_⟩
  have hread : (readOut .pod (some "dev") 3 { limit? := some 2 } c).map
      (fun pages => (pages.map (·.items.length), pages.map (·.remaining?)))
        = some ([2, 2, 1], [some 3, some 1, none]) := by decide
  have henough : pages.length ≤ 3 := by
    by_contra hmore
    rw [hreads, if_neg hmore] at hread
    cases hread
  rw [hreads, if_pos henough] at hread
  obtain ⟨hsizes, hcounts⟩ := Prod.mk.inj (Option.some.inj hread)
  refine ⟨hsizes, hcounts, ?_⟩
  rw [hdivided.whole]
  decide

end InMemoryCluster

end FleetGate
