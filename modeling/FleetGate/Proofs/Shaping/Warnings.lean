import FleetGate.Proofs.Shaping.Budget

/-! # What the warnings of a response say

A response can carry two warnings, one for each of its cuts. Each of them is written when its cut is
made, so it tells how many items are left then. The byte budget comes last, and its warning tells how
many items the response has; the warning of the count limit does so only if the budget drops none of
the items that it counted. That is so exactly if there is no second warning
(`warnings_agree_iff`).

A response that is cut has a warning. The converse has one exception: the brackets of an empty array
take two bytes, and under a budget of one byte a list without items is said to be over it.
-/

namespace FleetGate.Shaping

/-- The tighter of the caller's and the configured limit on items, where a limit of the caller that
is not positive does not count. -/
def countLimit (config : OutputConfig) (limit : ℤ) : ℤ :=
  if 0 < limit then min limit config.validated.maxItems else config.validated.maxItems

/-- The first items, in their shaped form, up to the count limit. -/
def countedItems (config : OutputConfig) (limit : ℤ) (items : List Json) : List Json :=
  (items.map (processSingle config)).take (countLimit config limit).toNat

variable {config : OutputConfig} {limit : ℤ} {items : List Json}

/-! ## The count limit -/

theorem countLimit_pos (config : OutputConfig) (limit : ℤ) : 0 < countLimit config limit := by
  have hpos : 0 < config.validated.maxItems := clamp_pos (by decide) (by decide)
  rw [countLimit]
  split <;> omega

theorem countLimit_le (config : OutputConfig) (limit : ℤ) :
    countLimit config limit ≤ OutputConfig.ceilingItems := by
  have hle : config.validated.maxItems ≤ OutputConfig.ceilingItems := clamp_le (by decide)
  rw [countLimit]
  split <;> omega

theorem effectiveLimit_validated (config : OutputConfig) (limit : ℤ) :
    effectiveLimit limit config.validated.maxItems = countLimit config limit :=
  effectiveLimit_eq (clamp_pos (by decide) (by decide)) (clamp_le (by decide))

theorem length_countedItems (config : OutputConfig) (limit : ℤ) (items : List Json) :
    (countedItems config limit items).length = min (countLimit config limit).toNat items.length := by
  rw [countedItems, List.length_take, List.length_map]

theorem countedItems_eq_nil_iff : countedItems config limit items = [] ↔ items = [] := by
  have hpos := countLimit_pos config limit
  rw [← List.length_eq_zero_iff, length_countedItems, ← List.length_eq_zero_iff]
  omega

/-- Within its range a limit warns of the items that it leaves out. -/
theorem truncate_warning {α : Type*} {limit : ℤ} (hpos : 0 < limit)
    (hle : limit ≤ OutputConfig.ceilingItems) (items : List α) :
    (truncate limit items).2 =
      if (items.length : ℤ) ≤ limit then none
      else some (itemWarning limit.toNat items.length) := by
  have hbounded : bounded limit OutputConfig.defaultMaxItems OutputConfig.ceilingItems
      = limit.toNat := by
    rw [bounded, if_neg (by omega), min_eq_left hle]
  have hlength : items.length ≤ limit.toNat ↔ (items.length : ℤ) ≤ limit := by omega
  rw [truncate, hbounded, keepFirst]
  simp only [hlength]
  split <;> rfl

/-! ## The byte budget -/

/-- The budget warns of the items that it leaves. -/
theorem fitToBudget_warning (budget total : ℕ) (items : List Json) :
    (fitToBudget budget total items).2 =
      if Json.compactSize (.arr items) ≤ budget then none
      else some (budgetWarning budget (fitToBudget budget total items).1.length total) := by
  simp only [fitToBudget, ← Json.compactSize_arr]
  split <;> rfl

theorem length_fitToBudget_le (budget total : ℕ) (items : List Json) :
    (fitToBudget budget total items).1.length ≤ items.length := by
  obtain ⟨k, hkept, -⟩ := fitToBudget_spec budget total items
  rw [hkept]
  exact (List.take_sublist k items).length_le

/-- The budget leaves all items exactly if they are within it, or if there are none. -/
theorem length_fitToBudget_eq_iff (budget total : ℕ) (items : List Json) :
    (fitToBudget budget total items).1.length = items.length ↔
      Json.compactSize (.arr items) ≤ budget ∨ items = [] := by
  obtain ⟨k, hkept, hgreatest⟩ := fitToBudget_spec budget total items
  have hk : k ≤ items.length := hgreatest.1.1
  rw [hkept, List.length_take, min_eq_left hk]
  constructor
  · rintro rfl
    refine hgreatest.1.2.symm.imp (fun hfits => ?_) List.length_eq_zero_iff.mp
    rwa [List.take_length] at hfits
  · rintro (hfits | rfl)
    · refine le_antisymm hk (hgreatest.2 ⟨le_rfl, Or.inr ?_⟩)
      rwa [List.take_length]
    · exact Nat.le_zero.mp hk

/-! ## The response -/

theorem processWithLimit_items (config : OutputConfig) (limit : ℤ) (items : List Json) :
    (processWithLimit config limit items).items =
      (fitToBudget config.validated.maxResponseBytes.toNat items.length
        (countedItems config limit items)).1 := by
  change (fitToBudget _ items.length (truncate (effectiveLimit limit _) _).1).1 = _
  rw [effectiveLimit_validated,
    truncate_items (countLimit_pos config limit) (countLimit_le config limit)]
  rfl

/-- The warnings of a response, one for each limit that does not hold all there is. -/
theorem processWithLimit_warnings (config : OutputConfig) (limit : ℤ) (items : List Json) :
    (processWithLimit config limit items).warnings =
      (if (items.length : ℤ) ≤ countLimit config limit then []
        else [itemWarning (countLimit config limit).toNat items.length]) ++
      if Json.compactSize (.arr (countedItems config limit items)) ≤
          config.validated.maxResponseBytes.toNat then []
        else [budgetWarning config.validated.maxResponseBytes.toNat
          (processWithLimit config limit items).items.length items.length] := by
  have hpos := countLimit_pos config limit
  have hle := countLimit_le config limit
  have hwarnings : (processWithLimit config limit items).warnings =
      (truncate (countLimit config limit) (items.map (processSingle config))).2.toList ++
        (fitToBudget config.validated.maxResponseBytes.toNat items.length
          (countedItems config limit items)).2.toList := by
    change (truncate (effectiveLimit limit _) _).2.toList ++
      (fitToBudget _ items.length (truncate (effectiveLimit limit _) _).1).2.toList = _
    rw [effectiveLimit_validated, truncate_items hpos hle]
    rfl
  rw [hwarnings, truncate_warning hpos hle, fitToBudget_warning, List.length_map,
    processWithLimit_items]
  congr 1
  · split <;> rfl
  · split <;> rfl

/-- A response has at most what the count limit leaves, and all of it exactly if that is within the
budget, or nothing. -/
theorem finalCount_spec (config : OutputConfig) (limit : ℤ) (items : List Json) :
    let counted := countedItems config limit items
    let finalCount := (processWithLimit config limit items).items.length
    finalCount ≤ counted.length ∧
      (finalCount = counted.length ↔
        Json.compactSize (.arr counted) ≤ config.validated.maxResponseBytes.toNat ∨ items = []) := by
  intro counted finalCount
  have hfinal : finalCount = (fitToBudget config.validated.maxResponseBytes.toNat items.length
      counted).1.length := congrArg List.length (processWithLimit_items config limit items)
  rw [hfinal, length_fitToBudget_eq_iff, countedItems_eq_nil_iff]
  exact ⟨length_fitToBudget_le _ _ _, Iff.rfl⟩

/-- A warning is that of the count limit, which has something to cut, or that of the budget, which
tells how many items the response has. -/
theorem mem_warnings_iff {w : TruncationWarning} :
    w ∈ (processWithLimit config limit items).warnings ↔
      (countLimit config limit < items.length ∧
        w = itemWarning (countLimit config limit).toNat items.length) ∨
      (config.validated.maxResponseBytes.toNat <
          Json.compactSize (.arr (countedItems config limit items)) ∧
        w = budgetWarning config.validated.maxResponseBytes.toNat
          (processWithLimit config limit items).items.length items.length) := by
  rw [processWithLimit_warnings, List.mem_append]
  refine or_congr ?_ ?_
  · split
    · rename_i hmany
      exact iff_of_false List.not_mem_nil fun h => h.1.not_ge hmany
    · rename_i hmany
      exact List.mem_singleton.trans (and_iff_right (lt_of_not_ge hmany)).symm
  · split
    · rename_i hfits
      exact iff_of_false List.not_mem_nil fun h => h.1.not_ge hfits
    · rename_i hfits
      exact List.mem_singleton.trans (and_iff_right (lt_of_not_ge hfits)).symm

theorem shown_itemWarning (shown total : ℕ) : (itemWarning shown total).shown = shown := by
  rw [itemWarning]
  split <;> rfl

theorem total_itemWarning (shown total : ℕ) : (itemWarning shown total).total = total := by
  rw [itemWarning]
  split <;> rfl

theorem length_warnings_le_one_iff : (processWithLimit config limit items).warnings.length ≤ 1 ↔
    (items.length : ℤ) ≤ countLimit config limit ∨
      Json.compactSize (.arr (countedItems config limit items)) ≤
        config.validated.maxResponseBytes.toNat := by
  rw [processWithLimit_warnings]
  split <;> split <;> simp [*]

/-- Items were dropped, or there were none and the budget does not hold an empty array, exactly if
there is a warning. -/
theorem warnings_ne_nil_iff : (processWithLimit config limit items).warnings ≠ [] ↔
    (processWithLimit config limit items).items.length < items.length ∨
      items = [] ∧ config.validated.maxResponseBytes.toNat < 2 := by
  have hpos := countLimit_pos config limit
  obtain ⟨hle, hall⟩ := finalCount_spec config limit items
  have hempty : items = [] → Json.compactSize (.arr (countedItems config limit items)) = 2 := by
    intro h
    rw [countedItems_eq_nil_iff.mpr h]
    decide
  have hnil : items = [] ↔ items.length = 0 := List.length_eq_zero_iff.symm
  have hthere : (processWithLimit config limit items).warnings ≠ [] ↔
      ∃ w, w ∈ (processWithLimit config limit items).warnings :=
    ⟨List.exists_mem_of_ne_nil _, fun ⟨_, hw⟩ => List.ne_nil_of_mem hw⟩
  rw [hthere]
  simp only [mem_warnings_iff, exists_or, exists_and_left, exists_eq, and_true]
  rw [length_countedItems] at hle hall
  rw [hnil] at hall hempty ⊢
  omega

/-- A warning tells how many items there were, and at least as many as there are for shown. -/
theorem of_mem_warnings {w : TruncationWarning}
    (h : w ∈ (processWithLimit config limit items).warnings) :
    w.total = items.length ∧ (processWithLimit config limit items).items.length ≤ w.shown ∧
      (w = itemWarning w.shown w.total ∨
        w = budgetWarning config.validated.maxResponseBytes.toNat w.shown w.total) := by
  obtain ⟨hle, -⟩ := finalCount_spec config limit items
  rw [length_countedItems] at hle
  rcases mem_warnings_iff.mp h with ⟨-, rfl⟩ | ⟨-, rfl⟩
  · rw [shown_itemWarning, total_itemWarning]
    exact ⟨rfl, hle.trans (min_le_left _ _), Or.inl rfl⟩
  · exact ⟨rfl, le_rfl, Or.inr rfl⟩

/-- The warning of the count limit tells how many items the response has exactly if the budget drops
none of them. -/
theorem shown_eq_iff (hmany : countLimit config limit < items.length) :
    (countLimit config limit).toNat = (processWithLimit config limit items).items.length ↔
      Json.compactSize (.arr (countedItems config limit items)) ≤
        config.validated.maxResponseBytes.toNat := by
  have hpos := countLimit_pos config limit
  obtain ⟨-, hall⟩ := finalCount_spec config limit items
  have hcounted : (countedItems config limit items).length = (countLimit config limit).toNat := by
    rw [length_countedItems]
    omega
  have hsome : items ≠ [] := by
    rintro rfl
    exact (hpos.trans hmany).false
  rw [hcounted, or_iff_left hsome] at hall
  rw [← hall, eq_comm]

/-- The last warning tells how many items the response has. -/
theorem shown_of_getLast? {w : TruncationWarning}
    (h : w ∈ (processWithLimit config limit items).warnings.getLast?) :
    w.shown = (processWithLimit config limit items).items.length := by
  rw [processWithLimit_warnings] at h
  -- only where the budget holds all is the last warning that of the count limit
  split at h
  · split at h
    · cases h
    · obtain rfl := Option.mem_some.mp h
      rfl
  · rename_i hmany
    split at h
    · rename_i hfits
      rw [List.append_nil] at h
      obtain rfl := Option.mem_some.mp h
      change (itemWarning _ _).shown = _
      rw [shown_itemWarning]
      exact (shown_eq_iff (lt_of_not_ge hmany)).mpr hfits
    · obtain rfl := Option.mem_some.mp h
      rfl

/-- All warnings tell how many items the response has exactly if there are not two. -/
theorem forall_shown_iff : (∀ w ∈ (processWithLimit config limit items).warnings,
      w.shown = (processWithLimit config limit items).items.length) ↔
    (processWithLimit config limit items).warnings.length ≤ 1 := by
  rw [length_warnings_le_one_iff]
  constructor
  · intro h
    by_cases hmany : (items.length : ℤ) ≤ countLimit config limit
    · exact Or.inl hmany
    · have hcount := h _ (mem_warnings_iff.mpr (Or.inl ⟨lt_of_not_ge hmany, rfl⟩))
      rw [shown_itemWarning] at hcount
      exact Or.inr ((shown_eq_iff (lt_of_not_ge hmany)).mp hcount)
  · intro h w hw
    rcases mem_warnings_iff.mp hw with ⟨hmany, rfl⟩ | ⟨-, rfl⟩
    · rw [shown_itemWarning]
      exact (shown_eq_iff hmany).mpr (h.resolve_left hmany.not_ge)
    · rfl

/-- Every warning tells how many items there were, and at least as many as the response has for
shown. The last warning tells just that many; all of them do exactly if there are not two, which is
so unless both limits have something to cut. There is a warning exactly if items were dropped or the
budget does not even hold the brackets of an empty array. -/
theorem warnings_agree_iff (config : OutputConfig) (limit : ℤ) (items : List Json) :
    let budget := config.validated.maxResponseBytes.toNat
    let response := processWithLimit config limit items
    let counts := response.metadata
    (response.warnings ≠ [] ↔ counts.truncated = true ∨ items = [] ∧ budget < 2) ∧
    (∀ w ∈ response.warnings, w.total = counts.originalCount ∧ counts.finalCount ≤ w.shown ∧
      (w = itemWarning w.shown w.total ∨ w = budgetWarning budget w.shown w.total)) ∧
    (∀ w ∈ response.warnings.getLast?, w.shown = counts.finalCount) ∧
    ((∀ w ∈ response.warnings, w.shown = counts.finalCount) ↔ response.warnings.length ≤ 1) ∧
    (response.warnings.length ≤ 1 ↔ (items.length : ℤ) ≤ countLimit config limit ∨
      Json.compactSize (.arr (countedItems config limit items)) ≤ budget) := by
  intro budget response counts
  have htruncated : counts.truncated = true ↔ response.items.length < items.length :=
    decide_eq_true_iff
  refine ⟨?_, fun w hw => of_mem_warnings hw, fun w hw => shown_of_getLast? hw, forall_shown_iff,
    length_warnings_le_one_iff⟩
  rw [htruncated]
  exact warnings_ne_nil_iff

/-- Three items under a limit of two and a budget for one: the first warning tells that two are
shown. And no items under a budget of one byte, which are said to be over it. -/
theorem warnings_overstate :
    let config := { OutputConfig.default with maxItems := 2, maxResponseBytes := 20 }
    let item := Json.obj [("kind", .str "Pod")]
    let response := processWithLimit config 0 [item, item, item]
    let empty := processWithLimit { OutputConfig.default with maxResponseBytes := 1 } 0 []
    (response.warnings.map fun w => (w.shown, w.total)) = [(2, 3), (1, 3)] ∧
      response.metadata.finalCount = 1 ∧ response.metadata.originalCount = 3 ∧
      empty.warnings ≠ [] ∧ empty.metadata.truncated = false := by
  decide +kernel

end FleetGate.Shaping
