import FleetGate.Shaping.Pipeline
import Mathlib.Algebra.BigOperators.Group.List.Basic
import Mathlib.Algebra.GroupWithZero.Nat
import Mathlib.Data.List.Induction
import Mathlib.Order.Bounds.Basic

/-! # What fits a response

A response is cut twice, by a count and by a byte budget, and what is left is as long as both allow.
The size that is kept on the books while items are dropped is the size of the array as it would be
written (`compactSize_arr`): it starts so, and an item takes off what it adds to the written form,
its own bytes and the comma before it (`arraySize_cons`). So the books never go below zero, which
`dropChecked` makes visible: the same loop, in arithmetic that refuses to take off more than is
there.

A longer list never takes fewer bytes, so the first length that fits, coming from the end, is the
greatest one (`isGreatest_dropUntilFits`).
-/

namespace FleetGate

theorem Shaping.arraySize_eq (sizes : List ℕ) :
    Shaping.arraySize sizes = 2 + sizes.sum + (sizes.length - 1) := rfl

namespace Json

/-! ## Written sizes -/

theorem utf8ByteSize_ofList_append (a b : List Char) :
    (String.ofList (a ++ b)).utf8ByteSize =
      (String.ofList a).utf8ByteSize + (String.ofList b).utf8ByteSize := by
  rw [String.ofList_append, String.utf8ByteSize_append]

theorem utf8ByteSize_ofList_cons (c : Char) (a : List Char) :
    (String.ofList (c :: a)).utf8ByteSize = c.utf8Size + (String.ofList a).utf8ByteSize := by
  rw [String.ofList_cons, String.utf8ByteSize_append, String.utf8ByteSize_singleton]

/-- Items take their own sizes and a comma between any two. -/
theorem utf8ByteSize_compactItems (items : List Json) :
    (String.ofList (compactItems items)).utf8ByteSize =
      (items.map compactSize).sum + (items.length - 1) := by
  induction items with
  | nil => rfl
  | cons x rest ih =>
      cases rest with
      | nil => simp [compactItems, compactSize, compact]
      | cons y rest =>
          have hcomma : (',' : Char).utf8Size = 1 := by decide
          rw [compactItems, utf8ByteSize_ofList_append, utf8ByteSize_ofList_cons, ih, hcomma]
          · simp only [List.map_cons, List.sum_cons, List.length_cons, compactSize, compact]
            omega
          · simp

/-- The size of an array is the size that is reckoned from its items. -/
theorem compactSize_arr (items : List Json) :
    compactSize (.arr items) = Shaping.arraySize (items.map compactSize) := by
  have hopen : ('[' : Char).utf8Size = 1 := by decide
  have hclose : (String.ofList [']']).utf8ByteSize = 1 := by decide
  rw [compactSize, compact, compactChars, utf8ByteSize_ofList_cons, utf8ByteSize_ofList_append,
    utf8ByteSize_compactItems, hopen, hclose, Shaping.arraySize_eq, List.length_map]
  omega

end Json

namespace Shaping

/-! ## The loop that drops items -/

/-- What the last of some items takes in an array, beside the sizes of those before it: its own size
and the comma before it, if it is not the only one. -/
def share (size : ℕ) (before : List ℕ) : ℕ :=
  size + if before.isEmpty then 0 else 1

/-- Drops sizes as `dropUntilFits` does, but gives up where more would be taken off the size than is
there. -/
def dropChecked (budget used : ℕ) : List ℕ → Option (List ℕ)
  | [] => some []
  | size :: rest =>
    if used ≤ budget then some (size :: rest)
    else if share size rest ≤ used then dropChecked budget (used - share size rest) rest
    else none

/-- An array with one item more takes the share of that item more. -/
theorem arraySize_cons (size : ℕ) (rest : List ℕ) :
    arraySize (size :: rest) = share size rest + arraySize rest := by
  cases rest with
  | nil =>
      rw [arraySize_eq, arraySize_eq, share, List.sum_singleton]
      exact Nat.add_comm 2 size
  | cons next _ =>
      rw [arraySize_eq, arraySize_eq, share, List.sum_cons, List.isEmpty_cons, List.length_cons,
        List.length_cons, if_neg Bool.false_ne_true]
      omega

/-- The order of the items does not matter for the size. -/
theorem arraySize_reverse (sizes : List ℕ) : arraySize sizes.reverse = arraySize sizes := by
  rw [arraySize_eq, arraySize_eq, List.sum_reverse, List.length_reverse]

/-- Started with the size of the array, the loop never takes off more than is there. -/
theorem dropChecked_eq (budget : ℕ) (sizes : List ℕ) :
    dropChecked budget (arraySize sizes) sizes =
      some (dropUntilFits budget (arraySize sizes) sizes) := by
  induction sizes with
  | nil => rfl
  | cons size rest ih =>
      have hused : arraySize (size :: rest) - share size rest = arraySize rest := by
        rw [arraySize_cons, Nat.add_sub_cancel_left]
      have hle : share size rest ≤ arraySize (size :: rest) := by
        rw [arraySize_cons]
        exact Nat.le_add_right _ _
      rw [dropChecked, dropUntilFits]
      by_cases hfits : arraySize (size :: rest) ≤ budget
      · rw [if_pos hfits, if_pos hfits]
      · rw [if_neg hfits, if_neg hfits, if_pos hle, ← share, hused, ih]

/-- What the loop keeps is as long as the budget allows. -/
theorem isGreatest_dropUntilFits (budget : ℕ) (sizes : List ℕ) :
    IsGreatest {n | n ≤ sizes.length ∧ (n = 0 ∨ arraySize (sizes.take n) ≤ budget)}
      (dropUntilFits budget (arraySize sizes) sizes.reverse).length := by
  induction sizes using List.reverseRecOn with
  | nil => exact ⟨⟨Nat.le_refl 0, Or.inl rfl⟩, fun n hn => hn.1⟩
  | append_singleton before size ih =>
      have hsize : arraySize (before ++ [size]) = share size before.reverse + arraySize before := by
        rw [← arraySize_reverse, List.reverse_concat, arraySize_cons, arraySize_reverse]
      rw [List.reverse_concat, dropUntilFits]
      split
      · rename_i hfits
        refine ⟨⟨by simp, Or.inr ?_⟩, fun n hn => by simpa using hn.1⟩
        rw [List.take_of_length_le (by simp)]
        exact hfits
      · rename_i hover
        rw [← share, hsize, Nat.add_sub_cancel_left]
        obtain ⟨⟨hlen, hfits⟩, hmost⟩ := ih
        refine ⟨⟨?_, ?_⟩, ?_⟩
        · rw [List.length_append]
          exact Nat.le_add_right_of_le hlen
        · rwa [List.take_append_of_le_length hlen]
        · rintro n ⟨hn, hn'⟩
          rcases Nat.lt_or_ge before.length n with hlt | hle
          · -- with the last item the array is over the budget
            rcases hn' with rfl | hn'
            · exact Nat.zero_le _
            · rw [List.take_of_length_le (by rwa [List.length_append])] at hn'
              exact absurd hn' hover
          · refine hmost ⟨hle, ?_⟩
            rwa [List.take_append_of_le_length hle] at hn'

/-- The budget leaves the first items, as many as fit into an array of its size. -/
theorem fitToBudget_spec (budget total : ℕ) (items : List Json) :
    ∃ k, (fitToBudget budget total items).1 = items.take k ∧
      IsGreatest {n | n ≤ items.length ∧
        (n = 0 ∨ Json.compactSize (.arr (items.take n)) ≤ budget)} k := by
  have hgreatest := isGreatest_dropUntilFits budget (items.map Json.compactSize)
  simp only [List.length_map, ← List.map_take, ← Json.compactSize_arr] at hgreatest
  simp only [fitToBudget, ← Json.compactSize_arr]
  split
  · rename_i hfits
    refine ⟨items.length, (List.take_length).symm, ⟨⟨Nat.le_refl _, Or.inr ?_⟩, fun n hn => hn.1⟩⟩
    rwa [List.take_length]
  · exact ⟨_, rfl, hgreatest⟩

/-! ## Limits in range -/

theorem clamp_pos {value fallback ceiling : ℤ} (hfallback : 0 < fallback) (hceiling : 0 < ceiling) :
    0 < OutputConfig.clamp value fallback ceiling := by
  rw [OutputConfig.clamp]
  split <;> omega

theorem clamp_le {value fallback ceiling : ℤ} (h : fallback ≤ ceiling) :
    OutputConfig.clamp value fallback ceiling ≤ ceiling := by
  rw [OutputConfig.clamp]
  split <;> omega

/-- A configured limit in range is only ever tightened. -/
theorem effectiveLimit_eq {limit maxItems : ℤ} (hpos : 0 < maxItems)
    (hle : maxItems ≤ OutputConfig.ceilingItems) :
    effectiveLimit limit maxItems = if 0 < limit then min limit maxItems else maxItems := by
  rw [effectiveLimit, combineLimits]
  split <;> omega

/-- Within its range a limit keeps the first so many items. -/
theorem truncate_items {α : Type*} {limit : ℤ} (hpos : 0 < limit)
    (hle : limit ≤ OutputConfig.ceilingItems) (items : List α) :
    (truncate limit items).1 = items.take limit.toNat := by
  have hbounded : bounded limit OutputConfig.defaultMaxItems OutputConfig.ceilingItems
      = limit.toNat := by
    rw [bounded, if_neg (by omega), min_eq_left hle]
  rw [truncate, hbounded, keepFirst]
  split
  · rename_i hlen
    exact (List.take_of_length_le hlen).symm
  · rfl

/-! ## The response -/

/-- A response holds the first shaped items, as many as the tighter limit and the byte budget allow:
no longer list of them is within both. Reckoning the size never takes off more than is there, and
what is told beside the items agrees with them. -/
theorem keeps_most_that_fit (config : OutputConfig) (limit : ℤ) (items : List Json) :
    let c := config.validated
    let shaped := items.map (processSingle config)
    let most := if 0 < limit then min limit c.maxItems else c.maxItems
    let sizes := (shaped.take most.toNat).map Json.compactSize
    let response := processWithLimit config limit items
    ∃ k, response.items = shaped.take k ∧
      IsGreatest {n : ℕ | n ≤ items.length ∧ (n : ℤ) ≤ most ∧
        (n = 0 ∨ (Json.compactSize (.arr (shaped.take n)) : ℤ) ≤ c.maxResponseBytes)} k ∧
      0 < most ∧ most ≤ 1000 ∧
      dropChecked c.maxResponseBytes.toNat (arraySize sizes) sizes.reverse =
        some (dropUntilFits c.maxResponseBytes.toNat (arraySize sizes) sizes.reverse) ∧
      response.metadata.originalCount = items.length ∧
      response.metadata.finalCount = k ∧
      (response.metadata.truncated = true ↔ k < items.length) ∧
      (response.metadata.secretsMasked = true ↔
        c.maskSecrets = true ∧ ∃ v ∈ items, isSecret v = true) := by
  intro c shaped most sizes response
  have hpos : 0 < c.maxItems := clamp_pos (by decide) (by decide)
  have hle : c.maxItems ≤ OutputConfig.ceilingItems := clamp_le (by decide)
  have hbudget : 0 < c.maxResponseBytes := clamp_pos (by decide) (by decide)
  have hmost : 0 < most ∧ most ≤ OutputConfig.ceilingItems := by
    simp only [most]
    split <;> omega
  have hcounted : (truncate (effectiveLimit limit c.maxItems) shaped).1 = shaped.take most.toNat :=
    by rw [effectiveLimit_eq hpos hle, truncate_items hmost.1 hmost.2]
  obtain ⟨k, hitems, hgreatest⟩ :=
    fitToBudget_spec c.maxResponseBytes.toNat items.length (shaped.take most.toNat)
  -- within the counted items and within the limit is the same
  have hset : {n : ℕ | n ≤ (shaped.take most.toNat).length ∧ (n = 0 ∨
        Json.compactSize (.arr ((shaped.take most.toNat).take n)) ≤ c.maxResponseBytes.toNat)} =
      {n : ℕ | n ≤ items.length ∧ (n : ℤ) ≤ most ∧
        (n = 0 ∨ (Json.compactSize (.arr (shaped.take n)) : ℤ) ≤ c.maxResponseBytes)} := by
    ext n
    have hlength : n ≤ (shaped.take most.toNat).length ↔ n ≤ items.length ∧ (n : ℤ) ≤ most := by
      rw [List.length_take, List.length_map]
      omega
    rw [Set.mem_ofPred_eq, Set.mem_ofPred_eq, hlength, and_assoc]
    refine and_congr_right fun _ => and_congr_right fun hn => or_congr_right ?_
    rw [List.take_take, min_eq_left (by omega)]
    omega
  rw [hset] at hgreatest
  have hwithin : (k : ℤ) ≤ most := hgreatest.1.2.1
  have hresponse : response.items = shaped.take k := by
    change (fitToBudget c.maxResponseBytes.toNat items.length
      (truncate (effectiveLimit limit c.maxItems) shaped).1).1 = _
    rw [hcounted, hitems, List.take_take, min_eq_left (by omega)]
  have hfinal : response.metadata.finalCount = k := by
    change response.items.length = k
    rw [hresponse, List.length_take, List.length_map, min_eq_left hgreatest.1.1]
  refine ⟨k, hresponse, hgreatest, hmost.1, hmost.2, ?_, rfl, hfinal, ?_, ?_⟩
  · rw [← arraySize_reverse sizes]
    exact dropChecked_eq _ _
  · rw [← hfinal]
    exact decide_eq_true_iff
  · change (c.maskSecrets && items.any isSecret) = true ↔ _
    rw [Bool.and_eq_true, List.any_eq_true]

end Shaping

end FleetGate
