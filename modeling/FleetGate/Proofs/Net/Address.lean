import FleetGate.Net.Address
import FleetGate.Proofs.Text.Search
import Mathlib.Data.List.Basic

/-! # What address literals are made of

An IPv4 literal is written with digits and points, an IPv6 literal with hexadecimal digits, points
and colons. Nothing that divides the parts of a host stands in either, but for the colon, and of
colons an IPv6 literal has at least two while an IPv4 literal has none: so a single colon is never
part of an address.
-/

namespace FleetGate.Net

open Text

variable {s piece : List Char} {pieces : List (List Char)} {c : Char} {n : Nat} {last : Bool}

/-- A character with which addresses are written. -/
def IsAddressChar (c : Char) : Prop :=
  (Encoding.hexValue? c).isSome = true ∨ c = '.' ∨ c = ':'

instance : DecidablePred IsAddressChar := fun _ => inferInstanceAs (Decidable (_ ∨ _ ∨ _))

theorem isAddressChar_of_digit (h : '0' ≤ c ∧ c ≤ '9') : IsAddressChar c := by
  left
  rw [Encoding.hexValue?, if_pos h]
  rfl

/-! ## IPv4 -/

/-- What is read as digits consists of digits. -/
theorem digit_of_mem {value : Nat} (h : Number.digitsValue? value s = some n) (hc : c ∈ s) :
    '0' ≤ c ∧ c ≤ '9' := by
  induction s generalizing value with
  | nil => cases hc
  | cons d rest ih =>
      rw [Number.digitsValue?] at h
      split at h
      · rename_i hd
        rcases List.mem_cons.mp hc with rfl | hc
        · by_contra hno
          rw [Number.digitValue?, if_neg hno] at hd
          cases hd
        · exact ih h hc
      · cases h

theorem digit_of_mem_octet (h : isOctet s = true) (hc : c ∈ s) : '0' ≤ c ∧ c ≤ '9' := by
  simp only [isOctet, Bool.and_eq_true, Option.any_eq_true] at h
  obtain ⟨-, value, hvalue, -⟩ := h
  cases s with
  | nil => cases hc
  | cons d rest => exact digit_of_mem hvalue hc

/-- An IPv4 literal has digits and points only. -/
theorem digit_or_point_of_mem (h : isIPv4 s = true) (hc : c ∈ s) :
    ('0' ≤ c ∧ c ≤ '9') ∨ c = '.' := by
  simp only [isIPv4, Bool.and_eq_true, List.all_eq_true] at h
  rcases eq_or_ne c '.' with rfl | hpoint
  · exact Or.inr rfl
  · obtain ⟨octet, hoctet, hmem⟩ := exists_mem_splitOn hc hpoint
    exact Or.inl (digit_of_mem_octet (h.2 octet hoctet) hmem)

theorem colon_notMem_of_isIPv4 (h : isIPv4 s = true) : ':' ∉ s := by
  intro hc
  rcases digit_or_point_of_mem h hc with hdigit | hpoint
  · exact absurd hdigit (by decide)
  · exact absurd hpoint (by decide)

theorem ne_nil_of_isIPv4 (h : isIPv4 s = true) : s ≠ [] := by
  rintro rfl
  exact absurd h (by decide)

theorem isAddressChar_of_isIPv4 (h : isIPv4 s = true) (hc : c ∈ s) : IsAddressChar c := by
  rcases digit_or_point_of_mem h hc with hdigit | hpoint
  · exact isAddressChar_of_digit hdigit
  · exact Or.inr (Or.inl hpoint)

/-! ## IPv6 -/

/-- The pieces of a run are groups, or an IPv4 literal in the last place, and fill at most one group
more than they are. -/
theorem groupCount?_spec (h : groupCount? last pieces = some n) :
    n ≤ pieces.length + 1 ∧ ∀ piece ∈ pieces, isHexGroup piece = true ∨ isIPv4 piece = true := by
  induction pieces generalizing n with
  | nil =>
      cases h
      exact ⟨Nat.zero_le _, nofun⟩
  | cons piece rest ih =>
      cases rest with
      | nil =>
          rw [groupCount?] at h
          split at h
          · rename_i hgroup
            cases h
            exact ⟨Nat.le_succ _, List.forall_mem_singleton.mpr (Or.inl hgroup)⟩
          · split at h
            · rename_i hIPv4
              cases h
              exact ⟨Nat.le_refl _,
                List.forall_mem_singleton.mpr (Or.inr (Bool.and_eq_true_iff.mp hIPv4).2)⟩
            · cases h
      | cons next rest =>
          rw [groupCount?] at h
          · split at h
            · rename_i hgroup
              obtain ⟨m, hm, rfl⟩ := Option.map_eq_some_iff.mp h
              obtain ⟨hle, hall⟩ := ih hm
              exact ⟨Nat.succ_le_succ hle, List.forall_mem_cons.mpr ⟨Or.inl hgroup, hall⟩⟩
            · cases h
          · exact List.cons_ne_nil next rest

/-- A run is written with the characters of addresses, and has at most two more groups than
colons. -/
theorem runLength?_spec (h : runLength? last s = some n) :
    n ≤ s.count ':' + 2 ∧ ∀ c ∈ s, IsAddressChar c := by
  rw [runLength?] at h
  split at h
  · rename_i hempty
    cases h
    rw [List.isEmpty_iff.mp hempty]
    exact ⟨Nat.zero_le _, nofun⟩
  · obtain ⟨hle, hall⟩ := groupCount?_spec h
    rw [length_splitOn] at hle
    refine ⟨hle, fun c hc => ?_⟩
    rcases eq_or_ne c ':' with rfl | hcolon
    · exact Or.inr (Or.inr rfl)
    · obtain ⟨piece, hpiece, hmem⟩ := exists_mem_splitOn hc hcolon
      rcases hall piece hpiece with hgroup | hIPv4
      · simp only [isHexGroup, Bool.and_eq_true, List.all_eq_true] at hgroup
        exact Or.inl (hgroup.2 c hmem)
      · exact isAddressChar_of_isIPv4 hIPv4 hmem

theorem isIPv6_spec (h : isIPv6 s = true) : 2 ≤ s.count ':' ∧ ∀ c ∈ s, IsAddressChar c := by
  rw [isIPv6] at h
  split at h
  · -- eight groups are written with six colons at least
    simp only [Bool.and_eq_true, beq_iff_eq] at h
    obtain ⟨hcount, hchars⟩ := runLength?_spec h.2
    exact ⟨by omega, hchars⟩
  · rename_i front back hsplit
    split at h
    · rename_i hfront hback
      rw [eq_of_splitOnce? hsplit]
      refine ⟨by simp [List.count_append]; omega, fun c hc => ?_⟩
      rcases List.mem_append.mp hc with hc | hc
      · rcases List.mem_append.mp hc with hc | hc
        · exact (runLength?_spec hfront).2 c hc
        · exact Or.inr (Or.inr (by simpa using hc))
      · exact (runLength?_spec hback).2 c hc
    · cases h

/-- An IPv6 literal has at least two colons. -/
theorem two_le_count_of_isIPv6 (h : isIPv6 s = true) : 2 ≤ s.count ':' := (isIPv6_spec h).1

theorem ne_nil_of_isIPv6 (h : isIPv6 s = true) : s ≠ [] := by
  rintro rfl
  exact absurd h (by decide)

/-! ## Both -/

/-- An address is written with the characters of addresses. -/
theorem isAddressChar_of_mem (h : isAddress s = true) (hc : c ∈ s) : IsAddressChar c := by
  rcases Bool.or_eq_true_iff.mp h with h | h
  · exact isAddressChar_of_isIPv4 h hc
  · exact (isIPv6_spec h).2 c hc

/-- What does not stand in addresses does not stand in this one. -/
theorem notMem_of_isAddress (h : isAddress s = true) (hc : ¬ IsAddressChar c) : c ∉ s :=
  fun hmem => hc (isAddressChar_of_mem h hmem)

/-- Without a colon only an IPv4 literal is an address. -/
theorem isAddress_eq_false (hcolon : ':' ∉ s) (hIPv4 : isIPv4 s = false) : isAddress s = false := by
  rw [isAddress, hIPv4, Bool.false_or, ← Bool.not_eq_true]
  intro hIPv6
  have hcount := two_le_count_of_isIPv6 hIPv6
  rw [List.count_eq_zero.mpr hcolon] at hcount
  omega

end FleetGate.Net
