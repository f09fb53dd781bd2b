import FleetGate.Identity.Validation
import FleetGate.Proofs.Except
import FleetGate.Proofs.Text.Search

/-! # What the field checks let through

For each check of an identity, the values that pass it. A list passes if every element does, so the
checks of groups and of extra claims come down to those of one group, key or value.
-/

namespace FleetGate.Validation

variable {s key value : String} {gs : List String} {claims : List (String × List String)}

/-- No control character stands in a text. -/
theorem hasControl_eq_false_iff :
    hasControl s = false ↔ ∀ c ∈ s.toList, Text.isControl c = false := by
  simp [hasControl]

/-- The emails that pass. -/
theorem email_eq_ok_iff : email s = .ok () ↔
    s ≠ "" ∧ s.utf8ByteSize ≤ Limits.emailLength ∧ hasControl s = false ∧
      isEmailForm s.toList = true := by
  simp only [email, refuse_eq_ok_iff]
  simp

/-- The group names that pass. -/
theorem group_eq_ok_iff : group s = .ok () ↔
    s ≠ "" ∧ s.utf8ByteSize ≤ Limits.groupLength ∧ hasControl s = false := by
  simp only [group, refuse_eq_ok_iff]
  simp

/-- The lists of groups that pass. -/
theorem groups_eq_ok_iff : groups gs = .ok () ↔
    gs.length ≤ Limits.groupCount ∧ ∀ g ∈ gs, group g = .ok () := by
  rw [groups, refuse_eq_ok_iff, forM_eq_ok_iff, gt_iff_lt, Nat.not_lt]

/-- The keys of extra claims that pass. -/
theorem extraKey_eq_ok_iff : extraKey key = .ok () ↔
    key ≠ "" ∧ key.utf8ByteSize ≤ Limits.extraKeyLength ∧
      ∀ c ∈ key.toList, isExtraKeyChar c = true := by
  simp only [extraKey, refuse_eq_ok_iff]
  simp [and_assoc]

/-- The values of extra claims that pass. -/
theorem extraValue_eq_ok_iff : extraValue value = .ok () ↔
    value.utf8ByteSize ≤ Limits.extraValueLength ∧ hasControl value = false := by
  simp only [extraValue, refuse_eq_ok_iff]
  simp

/-- The extra claims that pass. -/
theorem extra_eq_ok_iff : extra claims = .ok () ↔
    claims.length ≤ Limits.extraCount ∧
      ∀ claim ∈ claims, extraKey claim.1 = .ok () ∧ ∀ v ∈ claim.2, extraValue v = .ok () := by
  simp only [extra, refuse_eq_ok_iff, forM_eq_ok_iff, check_bind_eq_ok_iff, gt_iff_lt,
    Nat.not_lt]

/-- A label is made of small letters, digits and hyphens. -/
theorem chars_of_isLabelForm {cs : List Char} (h : isLabelForm cs = true) :
    ∀ c ∈ cs, isNameChar c = true ∨ c = '-' := by
  simp only [isLabelForm, Bool.and_eq_true, List.all_eq_true, Bool.or_eq_true,
    decide_eq_true_eq] at h
  exact h.1.1

/-- The names of workload clusters that pass. A label has no path steps, so the form says that
there are none. -/
theorem clusterName_eq_ok_iff : clusterName s = .ok () ↔
    s ≠ "" ∧ s.utf8ByteSize ≤ Limits.clusterNameLength ∧ isLabelForm s.toList = true := by
  simp only [clusterName, refuse_eq_ok_iff]
  constructor
  · rintro ⟨hne, hsize, -, hform, -⟩
    exact ⟨by simpa using hne, Nat.not_lt.mp hsize, by simpa using hform⟩
  · rintro ⟨hne, hsize, hform⟩
    have hstep {c : Char} (hc : c ∈ ['.', '/', '\\']) : c ∉ s.toList := by
      intro hmem
      have hplain : ∀ c ∈ ['.', '/', '\\'], ¬ (isNameChar c = true ∨ c = '-') := by
        simp [isNameChar]
      exact hplain c hc (chars_of_isLabelForm hform c hmem)
    have hdots : Text.contains s ".." = false :=
      Text.contains_eq_false (c := '.') (by decide) (hstep (by decide))
    have hslash : Text.contains s "/" = false :=
      Text.contains_eq_false (c := '/') (by decide) (hstep (by decide))
    have hback : Text.contains s "\\" = false :=
      Text.contains_eq_false (c := '\\') (by decide) (hstep (by decide))
    simpa [hdots, hslash, hback, hform, hne] using hsize

/-- The names of workload clusters that pass are made of small letters, digits and hyphens. -/
theorem chars_of_clusterName (h : clusterName s = .ok ()) :
    s ≠ "" ∧ ∀ c ∈ s.toList, isNameChar c = true ∨ c = '-' := by
  obtain ⟨hne, -, hform⟩ := clusterName_eq_ok_iff.mp h
  exact ⟨hne, chars_of_isLabelForm hform⟩

/-- An email has no white space. -/
theorem isSpace_eq_false_of_isEmailForm {cs : List Char} (h : isEmailForm cs = true) :
    ∀ c ∈ cs, Text.isSpace c = false := by
  simp only [isEmailForm, Bool.and_eq_true] at h
  simpa using h.1

end FleetGate.Validation
