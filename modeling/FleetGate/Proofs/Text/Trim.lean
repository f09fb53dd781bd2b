import FleetGate.Text.Class
import Mathlib.Data.List.DropRight

/-! # Trimming

Dropping white space behind a text brings none to the front, so a text that was trimmed stays as it
is when it is trimmed again.
-/

namespace FleetGate.Text

/-- Whether a text is white space and nothing else. -/
def Blank (s : List Char) : Prop := ∀ c ∈ s, isSpace c = true

/-- Whether a text has no white space in it. -/
def Solid (s : List Char) : Prop := ∀ c ∈ s, isSpace c = false

instance (s : List Char) : Decidable (Blank s) := decidable_of_iff _ List.all_eq_true

instance (s : List Char) : Decidable (Solid s) :=
  decidable_of_iff ((s.all fun c => !isSpace c) = true) (by simp [Solid])

theorem Blank.notMem {s : List Char} {c : Char} (h : Blank s) (hc : isSpace c = false) : c ∉ s := by
  intro hmem
  rw [h c hmem] at hc
  cases hc

theorem Blank.reverse {s : List Char} (h : Blank s) : Blank s.reverse :=
  fun c hc => h c (List.mem_reverse.mp hc)

theorem Solid.reverse {s : List Char} (h : Solid s) : Solid s.reverse :=
  fun c hc => h c (List.mem_reverse.mp hc)

theorem Solid.append {s t : List Char} (hs : Solid s) (ht : Solid t) : Solid (s ++ t) :=
  List.forall_mem_append.mpr ⟨hs, ht⟩

/-- The characters are without white space in front. -/
theorem trimStartChars_eq_self_iff {s : List Char} :
    trimStartChars s = s ↔ ∀ c ∈ s.head?, isSpace c = false := by
  cases s with
  | nil => simp [trimStartChars]
  | cons c rest => simp [trimStartChars, List.dropWhile_eq_self_iff]

/-- What is left after dropping white space behind stood in front. -/
theorem trimEndChars_prefix (s : List Char) : trimEndChars s <+: s :=
  List.rdropWhile_prefix isSpace s

theorem trimStartChars_idem (s : List Char) :
    trimStartChars (trimStartChars s) = trimStartChars s :=
  List.dropWhile_idempotent isSpace s

theorem trimEndChars_idem (s : List Char) : trimEndChars (trimEndChars s) = trimEndChars s :=
  List.rdropWhile_idempotent isSpace s

/-- Dropping white space behind brings none to the front. -/
theorem trimStartChars_trimEndChars {s : List Char} (h : trimStartChars s = s) :
    trimStartChars (trimEndChars s) = trimEndChars s := by
  rw [trimStartChars_eq_self_iff] at h ⊢
  intro c hc
  obtain ⟨dropped, hs⟩ := trimEndChars_prefix s
  refine h c ?_
  rw [← hs, List.head?_append, hc]
  rfl

/-- A text with no white space on either side is left as it is. -/
theorem trimChars_eq_self {s : List Char} (hfirst : ∀ c ∈ s.head?, isSpace c = false)
    (hlast : ∀ c ∈ s.getLast?, isSpace c = false) : trimChars s = s := by
  have hstart : trimStartChars s = s := trimStartChars_eq_self_iff.mpr hfirst
  have hend : trimStartChars s.reverse = s.reverse :=
    trimStartChars_eq_self_iff.mpr (by rwa [List.head?_reverse])
  rw [trimChars, hstart, trimEndChars]
  rw [trimStartChars] at hend
  rw [hend, List.reverse_reverse]

/-- What was trimmed starts and ends with no white space. -/
theorem not_isSpace_of_trimChars {s : List Char} (h : trimChars s = s) {c : Char}
    (hc : c ∈ s.head? ∨ c ∈ s.getLast?) : isSpace c = false := by
  have hend : trimEndChars (trimStartChars s) = s := h
  have hstart : trimStartChars s = s := by
    rw [← hend]
    exact trimStartChars_trimEndChars (trimStartChars_idem s)
  rcases hc with hc | hc
  · exact trimStartChars_eq_self_iff.mp hstart c hc
  · rw [hstart, trimEndChars, List.reverse_eq_iff] at hend
    exact trimStartChars_eq_self_iff.mp hend c (by rwa [List.head?_reverse])

/-- A text stays as it is if it starts and ends with characters that are not white space. -/
theorem trimChars_enclosed {front last : List Char} (mid : List Char)
    (hfront : Solid front) (hlast : Solid last)
    (hfront_ne : front ≠ []) (hlast_ne : last ≠ []) :
    trimChars (front ++ mid ++ last) = front ++ mid ++ last := by
  apply trimChars_eq_self
  · intro c hc
    rw [List.append_assoc, List.head?_append_of_ne_nil _ hfront_ne] at hc
    exact hfront c (List.mem_of_mem_head? hc)
  · intro c hc
    rw [List.getLast?_append_of_ne_nil _ hlast_ne] at hc
    exact hlast c (List.mem_of_getLast? hc)

/-- A text without white space stays as it is. -/
theorem trimChars_of_forall {s : List Char} (h : Solid s) : trimChars s = s :=
  trimChars_eq_self (fun c hc => h c (List.mem_of_mem_head? hc))
    fun c hc => h c (List.mem_of_getLast? hc)

/-- White space behind a text is dropped. -/
theorem trimChars_append_right {gap : List Char} (h : Blank gap) (s : List Char) :
    trimChars (s ++ gap) = trimChars s := by
  rw [trimChars, trimChars, trimStartChars, trimStartChars, List.dropWhile_append]
  split
  · rename_i hblank
    rw [List.isEmpty_iff.mp hblank, List.dropWhile_eq_nil_iff.mpr h]
  · rw [trimEndChars, trimEndChars, List.reverse_append, List.dropWhile_append_of_pos h.reverse]

/-- A text is what is left of it when it is trimmed, with white space around. -/
theorem exists_gaps (s : List Char) :
    ∃ lead trail, s = lead ++ trimChars s ++ trail ∧ Blank lead ∧ Blank trail := by
  refine ⟨s.takeWhile isSpace, (trimStartChars s).rtakeWhile isSpace, ?_,
    fun c hc => List.mem_takeWhile_imp hc, fun c hc => List.mem_rtakeWhile_imp hc⟩
  have hend : trimChars s ++ (trimStartChars s).rtakeWhile isSpace = trimStartChars s :=
    List.rdropWhile_append_rtakeWhile
  rw [List.append_assoc, hend]
  exact List.takeWhile_append_dropWhile.symm

/-- What is no white space is left by trimming. -/
theorem mem_trimChars_iff {s : List Char} {c : Char} (hc : isSpace c = false) :
    c ∈ trimChars s ↔ c ∈ s := by
  obtain ⟨lead, trail, hs, hlead, htrail⟩ := exists_gaps s
  conv_rhs => rw [hs]
  simp [hlead.notMem hc, htrail.notMem hc]

/-- Trimming once is enough. -/
theorem trimChars_trimChars (s : List Char) : trimChars (trimChars s) = trimChars s := by
  have hstart : trimStartChars (trimEndChars (trimStartChars s))
      = trimEndChars (trimStartChars s) :=
    trimStartChars_trimEndChars (trimStartChars_idem s)
  rw [trimChars, trimChars, hstart, trimEndChars_idem]

theorem trim_trim (s : String) : trim (trim s) = trim s := by
  rw [trim, trim, String.toList_ofList, trimChars_trimChars]

end FleetGate.Text
