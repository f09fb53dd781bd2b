import FleetGate.Labels.Selector
import FleetGate.Proofs.Except
import FleetGate.Proofs.Text.Ascii
import FleetGate.Proofs.Text.Search
import FleetGate.Proofs.Text.Trim

/-! # Keys and values of labels

What a selector may name: proper keys and proper values, told by the characters in them and not by
the tests that the reader makes. Each test is shown to let exactly those through, and a key or a
value that is let through is read as it stands (`parseKey_eq_ok_iff`, `parseValue_eq_ok_iff`).

The text of either is plain: it has no space and no character that separates one thing from another
in a selector.
-/

namespace FleetGate

open Text

namespace Selector

variable {s key value : String} {cs : List Char} {c d : Char}

/-! ## Keys and values -/

/-- One to 63 letters, digits, hyphens, underscores and dots, the first and the last being a letter
or digit. -/
structure ProperName (s : String) : Prop where
  nonempty : s ≠ ""
  short : s.length ≤ 63
  chars : ∀ c ∈ s.toList, c.isAlphanum = true ∨ c = '-' ∨ c = '_' ∨ c = '.'
  first : ∀ c ∈ s.toList.head?, c.isAlphanum = true
  last : ∀ c ∈ s.toList.getLast?, c.isAlphanum = true

/-- Small letters, digits and hyphens, no hyphen being first or last. -/
structure ProperLabel (s : String) : Prop where
  nonempty : s ≠ ""
  chars : ∀ c ∈ s.toList, c.isDigit = true ∨ c.isLower = true ∨ c = '-'
  first : '-' ∉ s.toList.head?
  last : '-' ∉ s.toList.getLast?

/-- Labels with dots between. -/
def Dotted (s : String) : Prop :=
  ∃ labels, labels ≠ [] ∧ s = ".".intercalate labels ∧ ∀ label ∈ labels, ProperLabel label

/-- Labels with dots between, of at most 253 bytes. -/
structure ProperDomain (s : String) : Prop where
  short : s.utf8ByteSize ≤ 253
  dotted : Dotted s

/-- A name, with or without a domain and a slash in front. -/
inductive ProperKey : String → Prop
  | plain {name : String} (hname : ProperName name) : ProperKey name
  | qualified {domain name : String} (hdomain : ProperDomain domain) (hname : ProperName name) :
      ProperKey (domain ++ "/" ++ name)

/-- A name or nothing. -/
def ProperValue (s : String) : Prop := s = "" ∨ ProperName s

/-- A test of the end of a text that is not empty. -/
theorem any_eq_true_iff {x : Option Char} {p : Char → Bool} :
    x.any p = true ↔ x ≠ none ∧ ∀ c ∈ x, p c = true := by
  cases x <;> simp

theorem isName_iff : isName s.toList = true ↔ ProperName s := by
  simp only [isName, Bool.and_eq_true, decide_eq_true_eq, List.all_eq_true, isNameChar,
    Bool.or_eq_true, any_eq_true_iff, ne_eq, List.head?_eq_none_iff, List.getLast?_eq_none_iff,
    String.length_toList, String.toList_eq_nil_iff, or_assoc]
  constructor
  · rintro ⟨⟨⟨hshort, hchars⟩, hne, hfirst⟩, -, hlast⟩
    exact ⟨hne, hshort, hchars, hfirst, hlast⟩
  · rintro ⟨hne, hshort, hchars, hfirst, hlast⟩
    exact ⟨⟨⟨hshort, hchars⟩, hne, hfirst⟩, hne, hlast⟩

/-- Where only small letters, digits and hyphens stand, not being a hyphen is being one of the
others. -/
theorem isSmallAlphanum_iff (h : c.isDigit = true ∨ c.isLower = true ∨ c = '-') :
    isSmallAlphanum c = true ↔ c ≠ '-' := by
  rw [isSmallAlphanum, Bool.or_eq_true]
  constructor
  · rintro hc rfl
    exact absurd hc (by decide)
  · intro hc
    rcases h with h | h | h
    · exact Or.inl h
    · exact Or.inr h
    · exact absurd h hc

/-- An end of a text of such characters is tested for not being a hyphen. -/
theorem any_isSmallAlphanum_iff {x : Option Char}
    (h : ∀ c ∈ x, c.isDigit = true ∨ c.isLower = true ∨ c = '-') :
    x.any isSmallAlphanum = true ↔ x ≠ none ∧ '-' ∉ x := by
  rw [any_eq_true_iff, and_congr_right_iff]
  intro _
  constructor
  · intro hall hc
    exact (isSmallAlphanum_iff (h '-' hc)).mp (hall '-' hc) rfl
  · intro hnot c hc
    refine (isSmallAlphanum_iff (h c hc)).mpr ?_
    rintro rfl
    exact hnot hc

theorem isDomainLabel_iff : isDomainLabel s.toList = true ↔ ProperLabel s := by
  have hchars : (s.toList.all fun c => isSmallAlphanum c || decide (c = '-')) = true ↔
      ∀ c ∈ s.toList, c.isDigit = true ∨ c.isLower = true ∨ c = '-' := by
    simp [isSmallAlphanum, or_assoc]
  rw [isDomainLabel, Bool.and_eq_true, Bool.and_eq_true, hchars]
  constructor
  · rintro ⟨⟨h, hfirst⟩, hlast⟩
    rw [any_isSmallAlphanum_iff fun c hc => h c (List.mem_of_mem_head? hc)] at hfirst
    rw [any_isSmallAlphanum_iff fun c hc => h c (List.mem_of_getLast? hc)] at hlast
    exact ⟨by simpa using hfirst.1, h, hfirst.2, hlast.2⟩
  · rintro ⟨hne, h, hfirst, hlast⟩
    rw [any_isSmallAlphanum_iff fun c hc => h c (List.mem_of_mem_head? hc),
      any_isSmallAlphanum_iff fun c hc => h c (List.mem_of_getLast? hc)]
    exact ⟨⟨h, by simpa using hne, hfirst⟩, by simpa using hne, hlast⟩

/-- A label has no dot in it. -/
theorem ProperLabel.dot_notMem (h : ProperLabel s) : '.' ∉ s.toList := by
  intro hdot
  exact absurd (h.chars '.' hdot) (by decide)

/-! ## Domains -/

theorem isNameChar_iff :
    isNameChar c = true ↔ c.isAlphanum = true ∨ c = '-' ∨ c = '_' ∨ c = '.' := by
  simp [isNameChar, or_assoc]

/-- The characters of labels may stand in names too. -/
theorem isNameChar_of_label (h : c.isDigit = true ∨ c.isLower = true ∨ c = '-') :
    isNameChar c = true := by
  rw [isNameChar_iff]
  rcases h with h | h | h
  · exact Or.inl (Bool.or_eq_true_iff.mpr (Or.inr h))
  · have hletter : c.isAlpha = true := Bool.or_eq_true_iff.mpr (Or.inr h)
    exact Or.inl (Bool.or_eq_true_iff.mpr (Or.inl hletter))
  · exact Or.inr (Or.inl h)

/-- They are ASCII. -/
theorem toNat_lt_of_isNameChar (h : isNameChar c = true) : c.toNat < 128 := by
  rcases isNameChar_iff.mp h with h | rfl | rfl | rfl
  · exact toNat_lt_of_isAlphanum h
  all_goals decide

/-- ASCII text has as many bytes as characters. -/
theorem utf8ByteSize_of_ascii (h : ∀ c ∈ cs, c.toNat < 128) :
    (String.ofList cs).utf8ByteSize = cs.length := by
  induction cs with
  | nil => rfl
  | cons c rest ih =>
      have hc : c.utf8Size = 1 := by
        rw [Char.utf8Size_eq_one_iff, UInt32.le_iff_toNat_le]
        exact Nat.le_of_lt_succ (h c List.mem_cons_self)
      rw [String.ofList_cons, String.utf8ByteSize_append, String.utf8ByteSize_singleton, hc,
        ih fun d hd => h d (List.mem_cons_of_mem c hd), List.length_cons, Nat.add_comm]

/-- Pieces with a separator between have the characters of the pieces and the separator. -/
theorem mem_of_mem_intercalate {pieces : List (List Char)} (h : c ∈ [d].intercalate pieces) :
    c = d ∨ ∃ piece ∈ pieces, c ∈ piece := by
  induction pieces with
  | nil => exact absurd h List.not_mem_nil
  | cons p ps ih =>
      cases ps with
      | nil =>
          rw [List.intercalate_singleton] at h
          exact Or.inr ⟨p, List.mem_cons_self, h⟩
      | cons q qs =>
          rw [List.intercalate_cons_cons, List.append_assoc, List.mem_append,
            List.mem_append, List.mem_singleton] at h
          rcases h with h | h | h
          · exact Or.inr ⟨p, List.mem_cons_self, h⟩
          · exact Or.inl h
          · refine (ih h).imp_right ?_
            rintro ⟨piece, hpiece, hc⟩
            exact ⟨piece, List.mem_cons_of_mem p hpiece, hc⟩

/-- The characters of a domain may stand in names too. -/
theorem Dotted.chars (h : Dotted s) : ∀ c ∈ s.toList, isNameChar c = true := by
  obtain ⟨labels, -, rfl, hlabels⟩ := h
  intro c hc
  rw [String.toList_intercalate] at hc
  rcases mem_of_mem_intercalate hc with rfl | ⟨piece, hpiece, hc⟩
  · decide
  · obtain ⟨label, hlabel, rfl⟩ := List.mem_map.mp hpiece
    exact isNameChar_of_label ((hlabels label hlabel).chars c hc)

/-- The dots are found again between the labels. -/
theorem all_isDomainLabel_iff :
    (splitOn '.' s.toList).all isDomainLabel = true ↔ Dotted s := by
  rw [List.all_eq_true]
  constructor
  · intro h
    refine ⟨(splitOn '.' s.toList).map String.ofList, ?_, ?_, ?_⟩
    · exact mt List.map_eq_nil_iff.mp (splitOn_ne_nil '.' s.toList)
    · rw [← String.toList_inj, String.toList_intercalate, List.map_map]
      simp [Function.comp_def, intercalate_splitOn]
    · intro label hlabel
      obtain ⟨piece, hpiece, rfl⟩ := List.mem_map.mp hlabel
      rw [← isDomainLabel_iff, String.toList_ofList]
      exact h piece hpiece
  · rintro ⟨labels, hne, rfl, hlabels⟩ piece hpiece
    have hdots : ∀ piece ∈ labels.map String.toList, '.' ∉ piece := by
      intro piece hpiece
      obtain ⟨label, hlabel, rfl⟩ := List.mem_map.mp hpiece
      exact (hlabels label hlabel).dot_notMem
    rw [String.toList_intercalate, show ".".toList = ['.'] from rfl,
      splitOn_intercalate hdots (mt List.map_eq_nil_iff.mp hne)] at hpiece
    obtain ⟨label, hlabel, rfl⟩ := List.mem_map.mp hpiece
    exact isDomainLabel_iff.mpr (hlabels label hlabel)

theorem isDomain_iff : isDomain s.toList = true ↔ ProperDomain s := by
  have hsize (h : Dotted s) : s.utf8ByteSize = s.toList.length := by
    have hascii : ∀ c ∈ s.toList, c.toNat < 128 :=
      fun c hc => toNat_lt_of_isNameChar (h.chars c hc)
    simpa using utf8ByteSize_of_ascii hascii
  rw [isDomain, Bool.and_eq_true, decide_eq_true_iff, all_isDomainLabel_iff]
  constructor
  · rintro ⟨hshort, h⟩
    exact ⟨(hsize h).trans_le hshort, h⟩
  · rintro ⟨hshort, h⟩
    exact ⟨(hsize h).symm.trans_le hshort, h⟩

/-! ## Plain text -/

/-- The characters of keys and values. -/
def isPlain (c : Char) : Bool :=
  isNameChar c || c = '/'

/-- Whether keys and values could be made of some characters. -/
def Plain (cs : List Char) : Prop := ∀ c ∈ cs, isPlain c = true

instance (cs : List Char) : Decidable (Plain cs) := decidable_of_iff _ List.all_eq_true

theorem isPlain_of_isNameChar (h : isNameChar c = true) : isPlain c = true := by
  rw [isPlain, h, Bool.true_or]

/-- There is no white space in plain text. -/
theorem isSpace_of_isPlain (h : isPlain c = true) : isSpace c = false := by
  have hascii : c.toNat < 128 := by
    rcases Bool.or_eq_true_iff.mp h with h | h
    · exact toNat_lt_of_isNameChar h
    · rw [of_decide_eq_true h]
      decide
  exact ascii_forall (P := fun c => isPlain c = true → isSpace c = false) (by decide +kernel)
    hascii h

theorem Plain.solid (h : Plain cs) : Solid cs := fun c hc => isSpace_of_isPlain (h c hc)

/-- What is not plain does not stand in plain text. -/
theorem Plain.notMem (h : Plain cs) (hd : isPlain d = false) : d ∉ cs := by
  intro hmem
  rw [h d hmem] at hd
  exact absurd hd (by decide)

theorem ProperName.plain (h : ProperName s) : Plain s.toList :=
  fun c hc => isPlain_of_isNameChar (isNameChar_iff.mpr (h.chars c hc))

theorem ProperValue.plain (h : ProperValue s) : Plain s.toList := by
  rcases h with rfl | h
  · exact fun c hc => absurd hc List.not_mem_nil
  · exact h.plain

theorem ProperKey.plain_toList (h : ProperKey s) : Plain s.toList := by
  cases h with
  | plain hname => exact hname.plain
  | qualified hdomain hname =>
      intro c hc
      simp only [String.toList_append, List.mem_append] at hc
      rcases hc with (hc | hc) | hc
      · exact isPlain_of_isNameChar (hdomain.dotted.chars c hc)
      · rw [List.mem_singleton.mp hc]
        decide
      · exact hname.plain c hc

theorem ProperKey.nonempty (h : ProperKey s) : s ≠ "" := by
  cases h with
  | plain hname => exact hname.nonempty
  | qualified hdomain hname => simp

/-! ## Reading them -/

/-- There is no slash among the characters of names. -/
theorem slash_notMem (h : ∀ c ∈ cs, isNameChar c = true) : '/' ∉ cs :=
  fun hmem => absurd (h '/' hmem) (by decide)

/-- Proper keys are read, as they stand. -/
theorem parseKey_eq_ok_iff : parseKey cs = .ok key ↔ key.toList = cs ∧ ProperKey key := by
  constructor
  · intro h
    obtain ⟨s, rfl⟩ : ∃ s : String, s.toList = cs := ⟨String.ofList cs, String.toList_ofList⟩
    cases hsplit : splitOnce? ['/'] s.toList with
    | none =>
        simp only [parseKey, hsplit, String.ofList_toList] at h
        split at h
        · rename_i hname
          cases h
          exact ⟨rfl, .plain (isName_iff.mp hname)⟩
        · cases h
    | some sides =>
        obtain ⟨domain, name⟩ := sides
        have hs : s = String.ofList domain ++ "/" ++ String.ofList name := by
          rw [← String.toList_inj, eq_of_splitOnce? hsplit]
          simp
        simp only [parseKey, hsplit, String.ofList_toList, Bool.not_eq_true',
          ← Bool.not_eq_true, refuse_eq_ok_iff] at h
        obtain ⟨hdomain, h⟩ := h
        split at h
        · rename_i hname
          cases h
          rw [Decidable.not_not, ← String.toList_ofList (l := domain), isDomain_iff] at hdomain
          rw [← String.toList_ofList (l := name), isName_iff] at hname
          refine ⟨rfl, ?_⟩
          rw [hs]
          exact .qualified hdomain hname
        · cases h
  · rintro ⟨rfl, h⟩
    cases h with
    | plain hname =>
        have hsplit : splitOnce? ['/'] key.toList = none :=
          splitOnce?_of_notMem (slash_notMem fun c hc => isNameChar_iff.mpr (hname.chars c hc))
        simp only [parseKey, hsplit, if_pos (isName_iff.mpr hname), String.ofList_toList]
    | @qualified domain name hdomain hname =>
        have hsplit : splitOnce? ['/'] (domain ++ "/" ++ name).toList
            = some (domain.toList, name.toList) := by
          rw [String.toList_append, String.toList_append]
          exact splitOnce?_append (slash_notMem hdomain.dotted.chars) name.toList
        simp only [parseKey, hsplit, isDomain_iff.mpr hdomain, Bool.not_true, Bool.false_eq_true,
          if_false, if_pos (isName_iff.mpr hname), String.ofList_toList]

/-- Proper values are read, as they stand. -/
theorem parseValue_eq_ok_iff :
    parseValue cs = .ok value ↔ value.toList = cs ∧ ProperValue value := by
  obtain ⟨s, rfl⟩ : ∃ s : String, s.toList = cs := ⟨String.ofList cs, String.toList_ofList⟩
  have htest : (s.toList.isEmpty || isName s.toList) = true ↔ ProperValue s := by
    rw [Bool.or_eq_true, List.isEmpty_iff, String.toList_eq_nil_iff, isName_iff, ProperValue]
  simp only [parseValue, String.ofList_toList, String.toList_inj]
  split
  · rename_i hs
    rw [Except.ok.injEq]
    constructor
    · rintro rfl
      exact ⟨rfl, htest.mp hs⟩
    · rintro ⟨rfl, -⟩
      rfl
  · rename_i hs
    constructor
    · rintro ⟨⟩
    · rintro ⟨rfl, h⟩
      exact absurd (htest.mpr h) hs

end Selector

end FleetGate
