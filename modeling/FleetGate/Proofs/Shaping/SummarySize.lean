import FleetGate.Proofs.Shaping.Summary

/-! # How large a summary gets

Of the parts of a summary only the sample and the namespaces are capped. Its other maps have an
entry for every label that some item carries, and labels are taken from the items as they are. So
the size of a summary has a bound that does not depend on the items exactly if none of these maps is
wanted (`entries_bounded_iff`).
-/

namespace FleetGate.Shaping

/-- How many entries a summary has. -/
def ResourceSummary.entries (s : ResourceSummary) : ℕ :=
  s.byStatus.length + s.byCluster.length + s.byNamespace.length + s.byKind.length + s.sample.length

/-- All that is wanted of a summary is capped. -/
structure SummaryOptions.IsCapped (opts : SummaryOptions) : Prop where
  status : opts.byStatus = false
  cluster : opts.byCluster = false
  kind : opts.byKind = false
  namespaces : opts.byNamespace = true → 0 < opts.maxNamespaces

variable {opts : SummaryOptions} {key : String} {bound : ℕ}

/-! ## Labels without end -/

/-- Texts of every length. -/
def longText (n : ℕ) : String := String.ofList (List.replicate (n + 1) 'a')

theorem longText_injective : Function.Injective longText := by
  intro m n h
  have hlength := congrArg List.length (String.ofList_injective h)
  simpa using hlength

theorem longText_ne (n : ℕ) : longText n ≠ "" := by
  intro h
  have hnil : List.replicate (n + 1) 'a' = [] := String.ofList_injective h
  simp at hnil

/-- If there is an item for every label, a tally has no greatest length. -/
theorem exists_long_tally (label : Json → Option String) {make : String → Json}
    (hmake : ∀ key, key ≠ "" → label (make key) = some key) (bound : ℕ) :
    ∃ items, bound < (tally label items).length := by
  -- one item for each of more labels than the bound
  let labels := (List.range (bound + 1)).map longText
  refine ⟨labels.map make, ?_⟩
  have htally : IsTally (fun key v => label v = some key) _ (tally label (labels.map make)) :=
    isTally_tally (fun _ _ => Iff.rfl) _
  have hsub : labels ⊆ Keyed.keys (tally label (labels.map make)) := by
    intro key hkey
    obtain ⟨n, -, rfl⟩ := List.mem_map.mp hkey
    have hcarried : label (make (longText n)) = some (longText n) := hmake _ (longText_ne n)
    have hpos : 0 < (labels.map make).countP fun v => label v = some (longText n) :=
      List.countP_pos_iff.mpr ⟨_, List.mem_map_of_mem hkey, by simpa using hcarried⟩
    exact List.mem_map_of_mem ((htally.exact _ _).mpr ⟨hpos, rfl⟩)
  have hnodup : labels.Nodup := List.nodup_range.map longText_injective
  have hle := (List.subperm_of_subset hnodup hsub).length_le
  rw [List.length_map, List.length_range, Keyed.keys, List.length_map] at hle
  exact Nat.lt_of_succ_le hle

/-- An object with one text at the end of a path. -/
def nested (path : List String) (text : String) : Json :=
  path.foldr (fun name v => .obj [(name, v)]) (.str text)

theorem stringAt?_nested (path : List String) (text : String) :
    (nested path text).stringAt? path = some text := by
  induction path with
  | nil => rfl
  | cons name rest ih => simpa [nested, Json.stringAt?, Json.at?, Json.member?, Keyed.get?] using ih

theorem statusKey?_nested (hkey : key ≠ "") :
    statusKey? (nested ["status", "phase"] key) = some key := by
  rw [statusKey?_eq_some_iff, hasStatus_iff]
  -- without a kind there is no rule but that of the phase
  exact ⟨.other (show "" ∉ _ by decide) ⟨rfl, hkey⟩, hkey⟩

theorem clusterKey?_nested (path : String) (hkey : key ≠ "") :
    clusterKey? path (nested (pathSegments path) key) = some key := by
  rw [clusterKey?_eq_some_iff]
  exact ⟨stringAt?_nested _ _, hkey⟩

/-! ## Parts without end -/

theorem exists_many_statuses (h : opts.byStatus = true) (bound : ℕ) :
    ∃ items, bound < (summarize opts items).byStatus.length := by
  obtain ⟨items, hmany⟩ := exists_long_tally statusKey? (fun _ => statusKey?_nested) bound
  exact ⟨items, by rwa [summarize, h]⟩

theorem exists_many_clusters (h : opts.byCluster = true) (bound : ℕ) :
    ∃ items, bound < (summarize opts items).byCluster.length := by
  obtain ⟨items, hmany⟩ := exists_long_tally (clusterKey? opts.clusterField)
    (fun _ => clusterKey?_nested opts.clusterField) bound
  exact ⟨items, by rwa [summarize, h]⟩

theorem exists_many_kinds (h : opts.byKind = true) (bound : ℕ) :
    ∃ items, bound < (summarize opts items).byKind.length := by
  obtain ⟨items, hmany⟩ := exists_long_tally kindKey?
    (fun key _ => stringAt?_nested ["kind"] key) bound
  exact ⟨items, by rwa [summarize, h]⟩

theorem exists_many_namespaces (h : opts.byNamespace = true) (hall : opts.maxNamespaces = 0)
    (bound : ℕ) : ∃ items, bound < (summarize opts items).byNamespace.length := by
  obtain ⟨items, hmany⟩ := exists_long_tally namespaceKey?
    (fun key _ => stringAt?_nested ["metadata", "namespace"] key) bound
  obtain ⟨all, hcounts, hleading, -⟩ := byNamespace_isLeading opts items
  rw [IsTallyIf, if_pos h] at hcounts
  obtain rfl : all = tally namespaceKey? items :=
    hcounts.unique (isTally_tally (fun _ _ => Iff.rfl) items)
  refine ⟨items, ?_⟩
  rwa [hleading.length, if_pos hall]

/-! ## Parts with a cap -/

theorem length_sample_le (opts : SummaryOptions) (items : List Json) :
    (summarize opts items).sample.length ≤ opts.maxSampleSize :=
  (List.length_filterMap_le _ _).trans (List.length_take_le _ _)

theorem length_byNamespace_le (h : opts.byNamespace = true → 0 < opts.maxNamespaces)
    (items : List Json) : (summarize opts items).byNamespace.length ≤ opts.maxNamespaces := by
  obtain ⟨all, hcounts, hleading, -⟩ := byNamespace_isLeading opts items
  rw [hleading.length]
  split
  · rename_i hzero
    have hunwanted : ¬ opts.byNamespace = true := fun hwanted => (h hwanted).ne' hzero
    rw [IsTallyIf, if_neg hunwanted] at hcounts
    subst hcounts
    exact Nat.zero_le _
  · exact min_le_left _ _

/-! ## The size of a summary -/

theorem SummaryOptions.IsCapped.entries_le (h : opts.IsCapped) (items : List Json) :
    (summarize opts items).entries ≤ opts.maxNamespaces + opts.maxSampleSize := by
  have hsample := length_sample_le opts items
  have hnamespaces := length_byNamespace_le h.namespaces items
  have hstatus : (summarize opts items).byStatus = [] := by rw [summarize, h.status]; rfl
  have hcluster : (summarize opts items).byCluster = [] := by rw [summarize, h.cluster]; rfl
  have hkind : (summarize opts items).byKind = [] := by rw [summarize, h.kind]; rfl
  rw [ResourceSummary.entries, hstatus, hcluster, hkind]
  simp only [List.length_nil]
  omega

/-- A summary has no more entries than some number only if nothing is wanted but what is capped. -/
theorem isCapped_of_entries_le (h : ∀ items, (summarize opts items).entries ≤ bound) :
    opts.IsCapped := by
  simp only [ResourceSummary.entries] at h
  constructor
  · by_contra hwanted
    obtain ⟨items, hmany⟩ := exists_many_statuses (eq_true_of_ne_false hwanted) bound
    have hle := h items
    omega
  · by_contra hwanted
    obtain ⟨items, hmany⟩ := exists_many_clusters (eq_true_of_ne_false hwanted) bound
    have hle := h items
    omega
  · by_contra hwanted
    obtain ⟨items, hmany⟩ := exists_many_kinds (eq_true_of_ne_false hwanted) bound
    have hle := h items
    omega
  · intro hwanted
    by_contra hzero
    obtain ⟨items, hmany⟩ := exists_many_namespaces hwanted (Nat.eq_zero_of_not_pos hzero) bound
    have hle := h items
    omega

/-- The sample, and the namespaces unless all of them are kept, never exceed their caps. But the
summary as a whole has a bound that does not depend on the items only if nothing is wanted of it
that has no cap, that is no status, no cluster and no kind; then the two caps together are such a
bound. -/
theorem entries_bounded_iff (opts : SummaryOptions) :
    ((∃ bound, ∀ items, (summarize opts items).entries ≤ bound) ↔ opts.IsCapped) ∧
    ((∀ items, (summarize opts items).entries ≤ opts.maxNamespaces + opts.maxSampleSize) ↔
      opts.IsCapped) ∧
    ∀ items, (summarize opts items).sample.length ≤ opts.maxSampleSize ∧
      (0 < opts.maxNamespaces →
        (summarize opts items).byNamespace.length ≤ opts.maxNamespaces) := by
  refine ⟨⟨?_, fun h => ⟨_, h.entries_le⟩⟩, ⟨isCapped_of_entries_le, fun h => h.entries_le⟩,
    fun items => ⟨length_sample_le opts items, fun hpos => length_byNamespace_le (fun _ => hpos) _⟩⟩
  rintro ⟨bound, h⟩
  exact isCapped_of_entries_le h

/-- By default statuses are wanted, so the summary has no bound, though its namespaces have. -/
theorem status_counts_unbounded :
    let opts : SummaryOptions := {}
    0 < opts.maxNamespaces ∧ ¬ ∃ bound, ∀ items, (summarize opts items).entries ≤ bound := by
  refine ⟨by decide, ?_⟩
  rintro ⟨bound, h⟩
  have hunwanted := (isCapped_of_entries_le h).status
  cases hunwanted

end FleetGate.Shaping
