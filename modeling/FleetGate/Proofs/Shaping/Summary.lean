import FleetGate.Proofs.Shaping.Statuses
import FleetGate.Proofs.Shaping.Tally
import FleetGate.Shaping.Slim
import Mathlib.Data.List.Forall2

/-! # What a summary says

A summary is exact (`summarize_exact`). Its maps are tallies of what items carry, told here of the
items themselves: their status, which is the label that the rule of their kind gives them
(`hasStatus_iff`), the text at the path of the cluster, their kind. Of the namespaces those with
most items are kept. Only the sample depends on the order of the items.
-/

namespace FleetGate.Shaping

/-! ## What items carry -/

/-- An item has a status that says something. -/
def HasStatus (status : String) (v : Json) : Prop := statusLabel v = status ∧ status ≠ ""

/-- The text at a dotted path of an item is the name of a cluster. -/
def InCluster (path cluster : String) (v : Json) : Prop :=
  v.stringAt? (pathSegments path) = some cluster ∧ cluster ≠ ""

/-- An item is in a namespace. -/
def InNamespace (ns : String) (v : Json) : Prop := v.stringAt? ["metadata", "namespace"] = some ns

/-- An item is of a kind. -/
def OfKind (kind : String) (v : Json) : Prop := v.stringAt? ["kind"] = some kind

/-- An item has a name. -/
def IsNamed (v : Json) : Prop := (v.stringAt? ["metadata", "name"]).isSome = true

/-- A text is the name of an item, with its namespace before it unless that is missing or empty. -/
inductive IsQualifiedName (v : Json) : String → Prop
  | bare {name : String} (named : v.stringAt? ["metadata", "name"] = some name)
      (outside : ∀ ns, InNamespace ns v → ns = "") : IsQualifiedName v name
  | within {name ns : String} (named : v.stringAt? ["metadata", "name"] = some name)
      (inside : InNamespace ns v) (filled : ns ≠ "") : IsQualifiedName v (ns ++ "/" ++ name)

instance (status : String) : DecidablePred (HasStatus status) :=
  fun _ => inferInstanceAs (Decidable (_ ∧ _))

instance (path cluster : String) : DecidablePred (InCluster path cluster) :=
  fun _ => inferInstanceAs (Decidable (_ ∧ _))

instance (ns : String) : DecidablePred (InNamespace ns) :=
  fun _ => inferInstanceAs (Decidable (_ = _))

instance (kind : String) : DecidablePred (OfKind kind) :=
  fun _ => inferInstanceAs (Decidable (_ = _))

instance : DecidablePred IsNamed :=
  fun _ => inferInstanceAs (Decidable (_ = _))

/-- A map of a summary: a tally if it is wanted, and empty otherwise. -/
def IsTallyIf (wanted : Bool) (carries : String → Json → Prop) [∀ key, DecidablePred (carries key)]
    (items : List Json) (m : List (String × ℕ)) : Prop :=
  if wanted = true then IsTally carries items m else m = []

variable {opts : SummaryOptions} {items others : List Json} {v : Json} {key text : String}
  {wanted : Bool} {label : Json → Option String} {carries : String → Json → Prop}
  [∀ key, DecidablePred (carries key)] {m m' m'' : List (String × ℕ)}

/-! ## Labels -/

theorem hasStatus_iff : HasStatus key v ↔ Labelled v key ∧ key ≠ "" := by
  rw [HasStatus, statusLabel_eq_iff]

theorem statusKey?_eq_some_iff : statusKey? v = some key ↔ HasStatus key v := by
  rw [statusKey?, HasStatus]
  split
  · rename_i hempty
    refine iff_of_false nofun fun ⟨hkey, hne⟩ => hne ?_
    rw [← hkey]
    exact String.isEmpty_iff.mp hempty
  · rename_i hfilled
    rw [Option.some.injEq]
    refine (and_iff_left_of_imp fun hkey hempty => hfilled ?_).symm
    rw [hkey, hempty]
    rfl

theorem clusterKey?_eq_some_iff {path : String} :
    clusterKey? path v = some key ↔ InCluster path key v := by
  rw [clusterKey?, Option.filter_eq_some_iff, InCluster, pathSegments]
  simp

/-- The name that a sample shows of an item is its qualified name. -/
theorem isQualifiedName_of_sampleName? (h : sampleName? v = some text) :
    IsQualifiedName v text := by
  obtain ⟨name, hname, rfl⟩ := Option.map_eq_some_iff.mp h
  cases hns : namespaceKey? v with
  | none => exact .bare hname fun ns hinside => nomatch hns.symm.trans hinside
  | some ns =>
      simp only
      split
      · rename_i hempty
        refine .bare hname fun ns' hinside => ?_
        obtain rfl : ns = ns' := Option.some.inj (hns.symm.trans hinside)
        exact String.isEmpty_iff.mp hempty
      · rename_i hfilled
        exact .within hname hns (mt String.isEmpty_iff.mpr hfilled)

theorem isSome_sampleName? : (sampleName? v).isSome = true ↔ IsNamed v := by
  rw [sampleName?, Option.isSome_map, IsNamed]

/-! ## Maps that are wanted or not -/

/-- The tally of labels, if it is wanted. -/
theorem isTallyIf_tally (wanted : Bool) (hcarries : ∀ key v, label v = some key ↔ carries key v)
    (items : List Json) :
    IsTallyIf wanted carries items (if wanted then tally label items else []) := by
  rw [IsTallyIf]
  split
  · exact isTally_tally hcarries items
  · rfl

theorem IsTallyIf.nodup (h : IsTallyIf wanted carries items m) : (Keyed.keys m).Nodup := by
  rw [IsTallyIf] at h
  split at h
  · exact h.ordered.nodup
  · subst h
    exact List.nodup_nil

/-- The counts of two lists add up to those of both in a row. -/
theorem IsTallyIf.countOf_append (h : IsTallyIf wanted carries items m)
    (h' : IsTallyIf wanted carries others m') (h'' : IsTallyIf wanted carries (items ++ others) m'')
    (key : String) : countOf key m'' = countOf key m + countOf key m' := by
  rw [IsTallyIf] at h h' h''
  split at h
  · rename_i hwanted
    rw [if_pos hwanted] at h' h''
    rw [h.countOf_eq, h'.countOf_eq, h''.countOf_eq, List.countP_append]
  · rename_i hwanted
    rw [if_neg hwanted] at h' h''
    subst h h' h''
    rfl

/-! ## The parts of a summary -/

theorem byStatus_isTally (opts : SummaryOptions) (items : List Json) :
    IsTallyIf opts.byStatus HasStatus items (summarize opts items).byStatus :=
  isTallyIf_tally _ (fun _ _ => statusKey?_eq_some_iff) items

theorem byCluster_isTally (opts : SummaryOptions) (items : List Json) :
    IsTallyIf opts.byCluster (InCluster opts.clusterField) items (summarize opts items).byCluster :=
  isTallyIf_tally _ (fun _ _ => clusterKey?_eq_some_iff) items

theorem byKind_isTally (opts : SummaryOptions) (items : List Json) :
    IsTallyIf opts.byKind OfKind items (summarize opts items).byKind :=
  isTallyIf_tally _ (fun _ _ => Iff.rfl) items

/-- Those of the namespaces that are kept are the leading ones. -/
theorem byNamespace_isLeading (opts : SummaryOptions) (items : List Json) :
    ∃ all, IsTallyIf opts.byNamespace InNamespace items all ∧
      IsLeading opts.maxNamespaces all (summarize opts items).byNamespace ∧
      ((summarize opts items).namespacesTruncated = true ↔
        ∃ p ∈ all, p ∉ (summarize opts items).byNamespace) := by
  have hall : IsTallyIf opts.byNamespace InNamespace items
      (if opts.byNamespace then tally namespaceKey? items else []) :=
    isTallyIf_tally _ (fun _ _ => Iff.rfl) items
  have hleading := isLeading_topCounts hall.nodup opts.maxNamespaces
  refine ⟨_, hall, hleading, ?_⟩
  refine Iff.trans ?_ (hleading.left_out_iff hall.nodup).symm
  simp [summarize]

/-- The sample holds the qualified names, in order, of the first items that have a name. -/
theorem sample_isQualifiedName (opts : SummaryOptions) (items : List Json) :
    List.Forall₂ IsQualifiedName
      ((items.take opts.maxSampleSize).filter fun v => IsNamed v)
      (summarize opts items).sample := by
  change List.Forall₂ _ _ ((items.take opts.maxSampleSize).filterMap sampleName?)
  induction items.take opts.maxSampleSize with
  | nil => exact .nil
  | cons v rest ih =>
      cases hv : sampleName? v with
      | none =>
          have hnamed : ¬ IsNamed v := by simp [← isSome_sampleName?, hv]
          rw [List.filter_cons_of_neg (by simpa using hnamed), List.filterMap_cons_none hv]
          exact ih
      | some text =>
          have hnamed : IsNamed v := by simp [← isSome_sampleName?, hv]
          rw [List.filter_cons_of_pos (by simpa using hnamed), List.filterMap_cons_some hv]
          exact .cons (isQualifiedName_of_sampleName? hv) ih

/-- Items in another order have the same summary, but for the sample. -/
theorem summarize_perm (opts : SummaryOptions) (hperm : others.Perm items) :
    summarize opts others =
      { summarize opts items with sample := (summarize opts others).sample } := by
  simp only [summarize, tally_perm _ hperm, hperm.length_eq]

/-- A summary is exact. It tells how many items there are, and for every status, cluster and kind,
where these are wanted, how many items carry it. Of the namespaces, with the same exactness, those
are kept that come first by count and then by name, and it tells whether some are left out. The
sample holds, in order, the qualified names of the first items that have a name, and it tells
whether there are more items than are looked at. So nothing but the sample depends on the order of
the items, and the counts of two lists add up to those of both in a row. -/
theorem summarize_exact (opts : SummaryOptions) (items : List Json) :
    let summary := summarize opts items
    summary.total = items.length ∧
    IsTallyIf opts.byStatus HasStatus items summary.byStatus ∧
    IsTallyIf opts.byCluster (InCluster opts.clusterField) items summary.byCluster ∧
    IsTallyIf opts.byKind OfKind items summary.byKind ∧
    (∃ all, IsTallyIf opts.byNamespace InNamespace items all ∧
      IsLeading opts.maxNamespaces all summary.byNamespace ∧
      (summary.namespacesTruncated = true ↔ ∃ p ∈ all, p ∉ summary.byNamespace)) ∧
    List.Forall₂ IsQualifiedName ((items.take opts.maxSampleSize).filter fun v => IsNamed v)
      summary.sample ∧
    (summary.hasMore = true ↔ opts.maxSampleSize < items.length) ∧
    (∀ others, others.Perm items →
      summarize opts others = { summary with sample := (summarize opts others).sample }) ∧
    ∀ part ∈ [ResourceSummary.byStatus, ResourceSummary.byCluster, ResourceSummary.byKind],
      ∀ others key, countOf key (part (summarize opts (items ++ others))) =
        countOf key (part summary) + countOf key (part (summarize opts others)) := by
  intro summary
  refine ⟨rfl, byStatus_isTally opts items, byCluster_isTally opts items, byKind_isTally opts items,
    byNamespace_isLeading opts items, sample_isQualifiedName opts items, decide_eq_true_iff,
    fun others hperm => summarize_perm opts hperm, ?_⟩
  simp only [List.forall_mem_cons, List.not_mem_nil, false_imp_iff, implies_true, and_true]
  refine ⟨fun others => ?_, fun others => ?_, fun others => ?_⟩
  · exact (byStatus_isTally opts items).countOf_append (byStatus_isTally opts others)
      (byStatus_isTally opts _)
  · exact (byCluster_isTally opts items).countOf_append (byCluster_isTally opts others)
      (byCluster_isTally opts _)
  · exact (byKind_isTally opts items).countOf_append (byKind_isTally opts others)
      (byKind_isTally opts _)

end FleetGate.Shaping
