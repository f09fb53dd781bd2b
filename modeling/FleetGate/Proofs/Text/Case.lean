import FleetGate.Proofs.Text.Ascii

/-! # Lower case

Lower-casing a text that is in lower case changes nothing (`lowercase_lowercase`), so of two texts
that are compared in lower case either may have been lower-cased before. No text becomes empty by it
either (`lowercase_eq_empty_iff`). In a comparison with an ASCII text that has no `k` it does not
matter whether all letters are lower-cased or those of ASCII alone (`lowercase_eq_iff_lowerText_eq`).

Beyond ASCII this rests on the table: no small letter of one of its runs is a capital of another.
The small letters of a run fill an interval or every second place of one, as the capitals of a run
do, so the table is checked run by run (`apart_of_mem`) and not letter by letter.
-/

namespace FleetGate.Text

namespace Case.Run

variable {r q : Run} {n : ℕ}

/-- Whether a code point is a capital of a run. -/
def Covers (r : Run) (n : ℕ) : Prop :=
  r.first ≤ n ∧ n ≤ r.last ∧ (n - r.first) % r.step = 0

instance (r : Run) (n : ℕ) : Decidable (r.Covers n) := inferInstanceAs (Decidable (_ ∧ _ ∧ _))

/-- The small letter of a code point. -/
def small (r : Run) (n : ℕ) : ℕ := (n + r.shift).toNat

/-- The small letter at the end of a run. -/
def lastSmall (r : Run) : ℕ := r.small r.first + (r.last - r.first)

/-- Whether no two capitals of a run are neighbours. -/
def sparse (r : Run) : Bool := Nat.beq r.step 2 || Nat.beq r.first r.last

/-- Whether the capitals of `q` lie before or behind the small letters of `r`, or in the gaps
between them. -/
def apart (r q : Run) : Bool :=
  Nat.blt r.lastSmall q.first || (Nat.blt q.last (r.small r.first) ||
    (r.sparse && (Nat.beq q.step 2 && Nat.beq ((r.small r.first + q.first) % 2) 1)))

/-- Whether the small letters of a run are characters, and neither ASCII capitals nor the dotted
capital I. -/
def proper (r : Run) : Bool :=
  decide (0 ≤ (r.first : ℤ) + r.shift) && Nat.blt 0x5a (r.small r.first) &&
    (Nat.blt r.lastSmall 0xd800 ||
      (Nat.blt 0xdfff (r.small r.first) && Nat.blt r.lastSmall 0x110000)) &&
    (Nat.blt r.lastSmall 0x130 || (Nat.blt 0x130 (r.small r.first) ||
      (r.sparse && Nat.beq (r.small r.first % 2) 1)))

/-- Every run of the table has proper small letters. -/
theorem proper_of_mem : ∀ r ∈ capitals.toList, r.proper = true := by decide +kernel

/-- The small letters of a run of the table are apart from the capitals of every run. -/
theorem apart_of_mem : ∀ r ∈ capitals.toList, capitals.toList.all r.apart = true := by
  decide +kernel

/-- The small letters of a run are beyond ASCII, or it is the run of the Kelvin sign. -/
theorem beyond_ascii_of_mem : ∀ r ∈ capitals.toList,
    (Nat.blt 0x7f (r.small r.first) ||
      (Nat.beq r.first r.last && Nat.beq (r.small r.first) 'k'.toNat)) = true := by
  decide +kernel

/-- A capital has its small letter as far behind the first one as it is behind the first capital;
in a sparse run that is an even way. -/
theorem Covers.small_eq (h : r.Covers n) (hproper : r.proper = true) :
    r.small n = r.small r.first + (n - r.first) ∧ n - r.first ≤ r.last - r.first ∧
      (r.sparse = true → (n - r.first) % 2 = 0) := by
  obtain ⟨hfirst, hlast, hstep⟩ := h
  have hshift : 0 ≤ (r.first : ℤ) + r.shift := by
    simp only [proper, Bool.and_eq_true, decide_eq_true_eq] at hproper
    exact hproper.1.1.1
  refine ⟨?_, by omega, fun hsparse => ?_⟩
  · rw [small, small]
    omega
  · rcases Bool.or_eq_true_iff.mp hsparse with htwo | hone
    · rwa [Nat.eq_of_beq_eq_true htwo] at hstep
    · have heq := Nat.eq_of_beq_eq_true hone
      omega

/-- The small letter of a capital is no capital of a run that is apart. -/
theorem Covers.not_covers (h : r.Covers n) (hproper : r.proper = true) (hapart : r.apart q = true) :
    ¬ q.Covers (r.small n) := by
  obtain ⟨hsmall, hbound, heven⟩ := h.small_eq hproper
  rintro ⟨hfirst, hlast, hstep⟩
  simp only [apart, lastSmall, Bool.or_eq_true, Bool.and_eq_true, Nat.blt_eq, Nat.beq_eq] at hapart
  rcases hapart with hbefore | hbehind | ⟨hsparse, htwo, hodd⟩
  · omega
  · omega
  · have := heven hsparse
    rw [htwo] at hstep
    omega

/-- The small letter of a capital is a character. -/
theorem Covers.toNat_ofNat (h : r.Covers n) (hproper : r.proper = true) :
    (Char.ofNat (r.small n)).toNat = r.small n := by
  obtain ⟨hsmall, hbound, -⟩ := h.small_eq hproper
  simp only [proper, lastSmall, Bool.or_eq_true, Bool.and_eq_true, Nat.blt_eq, decide_eq_true_eq,
    Nat.beq_eq] at hproper
  have hvalid : (r.small n).isValidChar := by
    rw [Nat.isValidChar]
    omega
  rw [Char.ofNat, dif_pos hvalid]
  rfl

/-- The small letter of a capital is beyond ASCII capitals and not the dotted capital I. -/
theorem Covers.small_ne (h : r.Covers n) (hproper : r.proper = true) :
    0x5a < r.small n ∧ r.small n ≠ 0x130 := by
  obtain ⟨hsmall, hbound, heven⟩ := h.small_eq hproper
  simp only [proper, lastSmall, Bool.or_eq_true, Bool.and_eq_true, Nat.blt_eq, decide_eq_true_eq,
    Nat.beq_eq] at hproper
  obtain ⟨⟨⟨-, hascii⟩, -⟩, hdotted⟩ := hproper
  refine ⟨by omega, ?_⟩
  rcases hdotted with hbefore | hbehind | ⟨hsparse, hodd⟩
  · omega
  · omega
  · have := heven hsparse
    omega

/-- What looking a code point up in the table tells. -/
theorem covers_of_find? (h : capitals.find? (fun r => r.first ≤ n && n ≤ r.last &&
    (n - r.first) % r.step == 0) = some r) : r ∈ capitals.toList ∧ r.Covers n := by
  have hcovers := Array.find?_some h
  simp only [Bool.and_eq_true, decide_eq_true_eq, beq_iff_eq] at hcovers
  exact ⟨(Array.mem_of_find?_eq_some h).val, hcovers.1.1, hcovers.1.2, hcovers.2⟩

/-- A code point that no run covers is not in the table. -/
theorem find?_eq_none (h : ∀ r ∈ capitals.toList, ¬ r.Covers n) :
    capitals.find? (fun r => r.first ≤ n && n ≤ r.last && (n - r.first) % r.step == 0) = none := by
  rw [Array.find?_eq_none]
  intro r hr hcovers
  simp only [Bool.and_eq_true, decide_eq_true_eq, beq_iff_eq] at hcovers
  exact h r hr.val ⟨hcovers.1.1, hcovers.1.2, hcovers.2⟩

end Case.Run

open Case

variable {c d : Char}

/-- A character that lower-casing leaves as it is. -/
def Settled (c : Char) : Prop := c ≠ 'Σ' ∧ lowerChar c = [c]

instance : Decidable (Settled c) := inferInstanceAs (Decidable (_ ∧ _))

/-- What is no ASCII capital, no capital of the table and not the dotted capital I is settled. -/
theorem settled_of_not_covers (hascii : 0x5a < c.toNat) (hdotted : c.toNat ≠ 0x130)
    (h : ∀ r ∈ capitals.toList, ¬ r.Covers c.toNat) : Settled c := by
  have hsigma : c ≠ 'Σ' := by
    rintro rfl
    have hcapital : ∃ r ∈ capitals.toList, r.Covers 'Σ'.toNat := by decide +kernel
    obtain ⟨r, hr, hcovers⟩ := hcapital
    exact h r hr hcovers
  refine ⟨hsigma, ?_⟩
  rw [lowerChar]
  by_cases hsmall : c.toNat < 0x80
  · have hkept : lowerAscii c = c := by
      rw [lowerAscii, if_neg]
      rintro ⟨-, hZ⟩
      have hle : c.toNat ≤ 0x5a := Char.le_def.mp hZ
      omega
    rw [if_pos hsmall, hkept]
  · rw [if_neg hsmall, if_neg hdotted, Run.find?_eq_none h]

/-- What a character becomes in lower case is settled. -/
theorem settled_of_mem_lowerChar (hc : c ≠ 'Σ') (h : d ∈ lowerChar c) : Settled d := by
  rw [lowerChar] at h
  by_cases hsmall : c.toNat < 0x80
  · rw [if_pos hsmall, List.mem_singleton] at h
    rw [h]
    exact ascii_forall (P := fun c => Settled (lowerAscii c)) (by decide +kernel) hsmall
  · by_cases hdotted : c.toNat = 0x130
    · rw [if_neg hsmall, if_pos hdotted, List.mem_pair] at h
      have hboth : Settled 'i' ∧ Settled (Char.ofNat 0x307) := by decide +kernel
      rcases h with rfl | rfl
      · exact hboth.1
      · exact hboth.2
    · rw [if_neg hsmall, if_neg hdotted] at h
      split at h
      · rename_i r hfind
        obtain ⟨hr, hcovers⟩ := Run.covers_of_find? hfind
        have hproper := Run.proper_of_mem r hr
        obtain rfl := List.mem_singleton.mp h
        have htoNat := hcovers.toNat_ofNat hproper
        obtain ⟨hascii, hdotted⟩ := hcovers.small_ne hproper
        rw [← htoNat] at hascii hdotted
        -- the small letter could only change by being a capital of the same run or another
        refine settled_of_not_covers hascii hdotted fun q hq => ?_
        rw [Run.small] at htoNat
        rw [htoNat]
        exact hcovers.not_covers hproper (List.all_eq_true.mp (Run.apart_of_mem r hr) q hq)
      · rename_i hnone
        obtain rfl := List.mem_singleton.mp h
        refine ⟨hc, ?_⟩
        rw [lowerChar, if_neg hsmall, if_neg hdotted, hnone]

/-- Every character of a text in lower case is settled. -/
theorem settled_of_mem_lowerFrom {before cs : List Char} (h : d ∈ lowerFrom before cs) :
    Settled d := by
  induction cs generalizing before with
  | nil => cases h
  | cons c rest ih =>
      rw [lowerFrom] at h
      rcases List.mem_append.mp h with h | h
      · split at h
        · have hboth : Settled 'ς' ∧ Settled 'σ' := by decide +kernel
          rw [List.mem_singleton.mp h]
          split
          · exact hboth.1
          · exact hboth.2
        · exact settled_of_mem_lowerChar ‹_› h
      · exact ih h

/-- Settled characters stay as they are, whatever is around them. -/
theorem lowerFrom_of_settled {before cs : List Char} (h : ∀ c ∈ cs, Settled c) :
    lowerFrom before cs = cs := by
  induction cs generalizing before with
  | nil => rfl
  | cons c rest ih =>
      obtain ⟨hc, hrest⟩ := List.forall_mem_cons.mp h
      rw [lowerFrom, if_neg hc.1, hc.2, ih hrest, List.singleton_append]

/-- Lower-casing a text again changes nothing. -/
@[simp] theorem lowercase_lowercase (s : String) : lowercase (lowercase s) = lowercase s := by
  have hsettled : ∀ c ∈ lowerFrom [] s.toList, Settled c := fun _ => settled_of_mem_lowerFrom
  rw [lowercase, lowercase, String.toList_ofList, lowerFrom_of_settled hsettled]

/-- Lower-casing empties no text. -/
@[simp] theorem lowercase_eq_empty_iff {s : String} : lowercase s = "" ↔ s = "" := by
  constructor
  · intro h
    rw [lowercase, String.ofList_eq_empty_iff] at h
    cases hs : s.toList with
    | nil => exact String.toList_eq_nil_iff.mp hs
    | cons c rest =>
        rw [hs, lowerFrom, List.append_eq_nil_iff] at h
        have hchar : lowerChar c ≠ [] := by
          rw [lowerChar]
          split
          · exact List.cons_ne_nil _ _
          split
          · exact List.cons_ne_nil _ _
          split
          · exact List.cons_ne_nil _ _
          · exact List.cons_ne_nil _ _
        split at h
        · exact absurd h.1 (List.cons_ne_nil _ _)
        · exact absurd h.1 hchar
  · rintro rfl
    decide

/-! ## Lower case and ASCII

Of the characters beyond ASCII only the Kelvin sign is wholly ASCII in lower case, a `k`. So if a
text in lower case is ASCII and has no `k` the text was ASCII, and lower-casing its ASCII letters
does the same.
-/

/-- What is not ASCII leaves something in lower case that is not ASCII either, or a `k`. -/
theorem exists_mem_lowerChar (hc : 0x80 ≤ c.toNat) :
    ∃ d ∈ lowerChar c, 0x80 ≤ d.toNat ∨ d = 'k' := by
  rw [lowerChar, if_neg hc.not_gt]
  split
  · exact ⟨Char.ofNat 0x307, by simp, Or.inl (by decide)⟩
  split
  · rename_i r hfind
    obtain ⟨hr, hcovers⟩ := Run.covers_of_find? hfind
    have hproper := Run.proper_of_mem r hr
    refine ⟨_, List.mem_singleton.mpr rfl, ?_⟩
    obtain ⟨hsmall, hbound, -⟩ := hcovers.small_eq hproper
    have hbeyond := Run.beyond_ascii_of_mem r hr
    simp only [Bool.or_eq_true, Bool.and_eq_true, Nat.blt_eq, Nat.beq_eq] at hbeyond
    rcases hbeyond with hbeyond | ⟨hone, hk⟩
    · refine Or.inl (le_of_le_of_eq ?_ (hcovers.toNat_ofNat hproper).symm)
      omega
    · refine Or.inr ?_
      have hkelvin : r.small c.toNat = 'k'.toNat := by omega
      rw [Run.small] at hkelvin
      rw [hkelvin, Char.ofNat_toNat]
  · exact ⟨c, List.mem_singleton.mpr rfl, Or.inl hc⟩

/-- If a text in lower case is ASCII and has no `k`, the text was ASCII. -/
theorem ascii_of_lowerFrom {before cs : List Char}
    (h : ∀ d ∈ lowerFrom before cs, d.toNat < 0x80 ∧ d ≠ 'k') : ∀ c ∈ cs, c.toNat < 0x80 := by
  induction cs generalizing before with
  | nil => exact fun _ hc => absurd hc List.not_mem_nil
  | cons c rest ih =>
      rw [lowerFrom, List.forall_mem_append] at h
      obtain ⟨hsmall, hrest⟩ := h
      refine List.forall_mem_cons.mpr ⟨?_, ih hrest⟩
      by_contra hc
      split at hsmall
      · -- neither form of the small sigma is ASCII
        have hforms : 0x80 ≤ 'ς'.toNat ∧ 0x80 ≤ 'σ'.toNat := by decide
        have := (hsmall _ (List.mem_singleton.mpr rfl)).1
        split at this <;> omega
      · obtain ⟨d, hd, hbeyond | hk⟩ := exists_mem_lowerChar (not_lt.mp hc)
        · exact absurd (hsmall d hd).1 hbeyond.not_gt
        · exact (hsmall d hd).2 hk

/-- Of an ASCII text only the ASCII letters change in lower case. -/
theorem lowerFrom_of_ascii {before cs : List Char} (h : ∀ c ∈ cs, c.toNat < 0x80) :
    lowerFrom before cs = cs.map lowerAscii := by
  induction cs generalizing before with
  | nil => rfl
  | cons c rest ih =>
      obtain ⟨hc, hrest⟩ := List.forall_mem_cons.mp h
      have hsigma : c ≠ 'Σ' := by
        rintro rfl
        exact absurd hc (by decide)
      rw [lowerFrom, if_neg hsigma, lowerChar, if_pos hc, ih hrest, List.map_cons,
        List.singleton_append]

/-- A character whose small ASCII letter is ASCII is ASCII itself. -/
theorem toNat_lt_of_lowerAscii (h : (lowerAscii c).toNat < 0x80) : c.toNat < 0x80 := by
  rw [lowerAscii] at h
  split at h
  · rename_i hcapital
    exact Nat.lt_of_le_of_lt (Char.le_def.mp hcapital.2) (by decide)
  · exact h

/-- Lower-casing reaches an ASCII text without a `k` from where lower-casing ASCII letters does. -/
theorem lowercase_eq_iff_lowerText_eq {s t : String}
    (ht : ∀ c ∈ t.toList, c.toNat < 0x80 ∧ c ≠ 'k') : lowercase s = t ↔ lowerText s = t := by
  have hascii (h : ∀ c ∈ s.toList, c.toNat < 0x80) : lowercase s = lowerText s := by
    rw [lowercase, lowerFrom_of_ascii h, lowerText]
  constructor
  · intro h
    rw [← h, lowercase, String.toList_ofList] at ht
    rw [← hascii (ascii_of_lowerFrom ht), h]
  · intro h
    rw [← h, lowerText, String.toList_ofList, List.forall_mem_map] at ht
    rw [hascii fun c hc => toNat_lt_of_lowerAscii (ht c hc).1, h]

theorem eqIgnoringAsciiCase_iff {s t : String} :
    eqIgnoringAsciiCase s t = true ↔ lowerText s = lowerText t := by
  rw [eqIgnoringAsciiCase, decide_eq_true_eq, lowerText, lowerText, String.ofList_inj]

end FleetGate.Text
