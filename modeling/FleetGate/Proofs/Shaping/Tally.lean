import FleetGate.Proofs.Keyed
import FleetGate.Shaping.Summary
import Mathlib.Data.List.Induction
import Mathlib.Data.Prod.Lex

/-! # Tallies

A tally holds each label that some item carries, with the number of items that carry it (`IsTally`).
That says everything about it, so items in another order have the same tally, and the counts of two
lists add up to those of both in a row. Taking a tally is counting one label after another
(`isTally_tally`).

Of counts, the leading ones are as many as wanted, each of them before all that are left out
(`IsLeading`).
-/

namespace FleetGate.Shaping

/-! ## Exact counts -/

/-- The map holds each label that some item carries, with the number of items that carry it. -/
structure IsTally (carries : String → Json → Prop) [∀ key, DecidablePred (carries key)]
    (items : List Json) (m : List (String × ℕ)) : Prop where
  ordered : Keyed.Ordered m
  exact : ∀ key n, (key, n) ∈ m ↔ 0 < n ∧ n = items.countP fun v => carries key v

/-- The count of a label, zero for one that is not held. -/
def countOf (key : String) (m : List (String × ℕ)) : ℕ := (Keyed.get? key m).getD 0

variable {carries : String → Json → Prop} [∀ key, DecidablePred (carries key)]
  {label : Json → Option String} {items others : List Json} {m m' counts kept : List (String × ℕ)}
  {key : String} {n : ℕ}

theorem IsTally.countOf_eq (h : IsTally carries items m) (key : String) :
    countOf key m = items.countP fun v => carries key v := by
  rw [countOf]
  cases hkey : Keyed.get? key m with
  | some n => exact ((h.exact key n).mp (Keyed.mem_of_get? hkey)).2
  | none =>
      refine (Nat.eq_zero_of_not_pos fun hpos => ?_).symm
      have hmem := (h.exact key _).mpr ⟨hpos, rfl⟩
      exact Keyed.get?_eq_none_iff.mp hkey (List.mem_map_of_mem hmem)

/-- There is one tally only. -/
theorem IsTally.unique (h : IsTally carries items m) (h' : IsTally carries items m') : m = m' :=
  h.ordered.ext h'.ordered fun ⟨key, n⟩ => (h.exact key n).trans (h'.exact key n).symm

/-- A tally does not depend on the order of the items. -/
theorem IsTally.perm (h : IsTally carries items m) (hperm : items.Perm others) :
    IsTally carries others m where
  ordered := h.ordered
  exact key n := by rw [h.exact, hperm.countP_eq]

/-- Counting label after label, each count is that of the labels so far. -/
theorem counted_labels (labels : List String) :
    Keyed.Ordered (labels.foldl (fun m key => Keyed.count key m) []) ∧
    ∀ key, Keyed.get? key (labels.foldl (fun m key => Keyed.count key m) []) =
      if labels.count key = 0 then none else some (labels.count key) := by
  induction labels using List.reverseRecOn with
  | nil => exact ⟨List.Pairwise.nil, fun key => rfl⟩
  | append_singleton labels last ih =>
      obtain ⟨hordered, hcounts⟩ := ih
      rw [List.foldl_append, List.foldl_cons, List.foldl_nil]
      -- only the count of the last label changes; it is there from now on
      refine ⟨hordered.put, fun key => ?_⟩
      rw [Keyed.get?_count, hcounts, hcounts, List.count_append]
      by_cases hkey : key = last
      · subst hkey
        by_cases hnone : labels.count key = 0 <;> simp [hnone]
      · simp [hkey, Ne.symm hkey]

/-- The tally of the labels that items carry. -/
theorem isTally_tally (hcarries : ∀ key v, label v = some key ↔ carries key v)
    (items : List Json) : IsTally carries items (tally label items) := by
  obtain ⟨hordered, hcounts⟩ := counted_labels (items.filterMap label)
  refine ⟨hordered, fun key n => ?_⟩
  have hcount : (items.filterMap label).count key = items.countP fun v => carries key v := by
    rw [List.count_filterMap]
    exact List.countP_congr fun v _ => by simp [hcarries]
  rw [tally, hordered.mem_iff, hcounts, hcount]
  split <;> grind

/-- Items in another order have the same tally. -/
theorem tally_perm (label : Json → Option String) (hperm : items.Perm others) :
    tally label items = tally label others := by
  have hcarries (key : String) (v : Json) : label v = some key ↔ label v = some key := Iff.rfl
  exact ((isTally_tally hcarries items).perm hperm).unique (isTally_tally hcarries others)

/-! ## Leading counts -/

/-- The order of counts: the larger first, equal ones by name. -/
def Before (p q : String × ℕ) : Prop := q.2 < p.2 ∨ p.2 = q.2 ∧ p.1 < q.1

/-- As many counts as wanted are kept, or all of them for zero, and each that is kept comes before
each that is not. -/
structure IsLeading (wanted : ℕ) (counts kept : List (String × ℕ)) : Prop where
  ordered : Keyed.Ordered kept
  sub : kept ⊆ counts
  length : kept.length = if wanted = 0 then counts.length else min wanted counts.length
  first : ∀ p ∈ kept, ∀ q ∈ counts, q ∉ kept → Before p q

/-- Where a count stands in the order. -/
def rank (p : String × ℕ) : ℕᵒᵈ ×ₗ String := toLex (OrderDual.toDual p.2, p.1)

theorem rank_lt_iff {p q : String × ℕ} : rank p < rank q ↔ Before p q := by
  simp [rank, Prod.Lex.toLex_lt_toLex, Before]

theorem rank_injective {p q : String × ℕ} (h : rank p = rank q) : p = q := by
  obtain ⟨hcount, hname⟩ := Prod.mk.inj h
  exact Prod.ext hname hcount

theorem countBefore_iff {p q : String × ℕ} : countBefore p q = true ↔ rank p ≤ rank q := by
  simp [countBefore, rank, Prod.Lex.toLex_le_toLex]

theorem countBefore_trans (p q r : String × ℕ) (hpq : countBefore p q = true)
    (hqr : countBefore q r = true) : countBefore p r = true := by
  rw [countBefore_iff] at *
  exact hpq.trans hqr

theorem countBefore_total (p q : String × ℕ) : (countBefore p q || countBefore q p) = true := by
  rw [Bool.or_eq_true, countBefore_iff, countBefore_iff]
  exact le_total _ _

theorem sorted_pairwise (counts : List (String × ℕ)) :
    (counts.mergeSort countBefore).Pairwise fun p q => rank p ≤ rank q :=
  (List.pairwise_mergeSort countBefore_trans countBefore_total counts).imp countBefore_iff.mp

theorem topCounts_eq (wanted : ℕ) (counts : List (String × ℕ)) : topCounts wanted counts =
    (counts.mergeSort countBefore).take (if wanted = 0 then counts.length else wanted) := by
  rw [topCounts]
  split
  · rw [List.take_of_length_le]
    rw [List.length_mergeSort]
  · rfl

/-- The leading counts of a map are those that come first when its counts are sorted. -/
theorem isLeading_topCounts (hcounts : (Keyed.keys counts).Nodup) (wanted : ℕ) :
    IsLeading wanted counts (Keyed.ofPairs (topCounts wanted counts)) := by
  have hperm : (counts.mergeSort countBefore).Perm counts := List.mergeSort_perm counts _
  have hsorted := sorted_pairwise counts
  rw [topCounts_eq]
  generalize counts.mergeSort countBefore = sorted at hperm hsorted
  generalize hk : (if wanted = 0 then counts.length else wanted) = k
  have hnodup : (Keyed.keys sorted).Nodup := (hperm.map Prod.fst).nodup_iff.mpr hcounts
  have hkept : (Keyed.ofPairs (sorted.take k)).Perm (sorted.take k) :=
    Keyed.ofPairs_perm (hnodup.sublist ((List.take_sublist k sorted).map _))
  refine ⟨Keyed.ordered_ofPairs _, fun p hp => ?_, ?_, fun p hp q hq hleft => ?_⟩
  · exact hperm.subset (List.take_subset k sorted (hkept.subset hp))
  · rw [hkept.length_eq, List.length_take, hperm.length_eq, ← hk]
    split
    · exact min_self _
    · rfl
  · -- what is not among the first stands behind them
    have hp : p ∈ sorted.take k := hkept.subset hp
    have hq : q ∈ sorted.drop k := by
      have hq : q ∈ sorted.take k ++ sorted.drop k := by
        rw [List.take_append_drop]
        exact hperm.mem_iff.mpr hq
      exact (List.mem_append.mp hq).resolve_left fun h => hleft (hkept.mem_iff.mpr h)
    rw [← List.take_append_drop k sorted] at hsorted
    have hle : rank p ≤ rank q := (List.pairwise_append.mp hsorted).2.2 p hp q hq
    refine rank_lt_iff.mp (lt_of_le_of_ne hle fun hsame => hleft ?_)
    rw [← rank_injective hsame, hkept.mem_iff]
    exact hp

/-- Some counts are left out exactly if there are more than wanted. -/
theorem IsLeading.left_out_iff (h : IsLeading n counts kept) (hcounts : (Keyed.keys counts).Nodup) :
    (∃ p ∈ counts, p ∉ kept) ↔ 0 < n ∧ n < counts.length := by
  have hlength := h.length
  constructor
  · rintro ⟨p, hp, hleft⟩
    by_contra hall
    have hle : counts.length ≤ kept.length := by
      rw [hlength]
      split <;> omega
    have hkept : kept.Nodup := .of_map _ h.ordered.nodup
    exact hleft (((List.subperm_of_subset hkept h.sub).perm_of_length_le hle).mem_iff.mpr hp)
  · rintro ⟨hpos, hmore⟩
    by_contra! hall
    have hle : counts.length ≤ kept.length :=
      (List.subperm_of_subset (.of_map _ hcounts) hall).length_le
    rw [hlength, if_neg hpos.ne', min_eq_left hmore.le] at hle
    exact hle.not_gt hmore

end FleetGate.Shaping
