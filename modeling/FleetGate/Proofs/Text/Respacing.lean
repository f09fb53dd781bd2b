import FleetGate.Proofs.Text.Search
import FleetGate.Proofs.Text.Trim
import Mathlib.Data.List.Forall2

/-! # Texts that differ in their white space

Two texts differ in their white space only if the one has a run of it wherever the other has one
(`Respaced`). What is found in the one is then found in the other, provided that it has no white
space in it, and the pieces around it differ in their white space only again. So do the texts once
they are trimmed, and where no white space is left they are equal.
-/

namespace FleetGate.Text

variable {s t a b pattern gap front back rest : List Char} {c sep : Char}

/-- Some white space, and nothing else. -/
def IsGap (s : List Char) : Prop := s ≠ [] ∧ Blank s

/-- Texts that are the same but for the white space in their gaps. -/
inductive Respaced : List Char → List Char → Prop
  | nil : Respaced [] []
  | char {c : Char} {s t : List Char} (hc : isSpace c = false) (h : Respaced s t) :
      Respaced (c :: s) (c :: t)
  | gap {g g' s t : List Char} (hg : IsGap g) (hg' : IsGap g') (h : Respaced s t) :
      Respaced (g ++ s) (g' ++ t)

/-! ## As a relation -/

theorem Respaced.refl (s : List Char) : Respaced s s := by
  induction s with
  | nil => exact .nil
  | cons c s ih =>
      by_cases hc : isSpace c = true
      · have hgap : IsGap [c] := ⟨List.cons_ne_nil c [], by simpa [Blank] using hc⟩
        exact .gap hgap hgap ih
      · exact .char (Bool.eq_false_iff.mpr hc) ih

theorem Respaced.symm (h : Respaced s t) : Respaced t s := by
  induction h with
  | nil => exact .nil
  | char hc _ ih => exact .char hc ih
  | gap hg hg' _ ih => exact .gap hg' hg ih

theorem Respaced.append (h : Respaced s t) (h' : Respaced a b) : Respaced (s ++ a) (t ++ b) := by
  induction h with
  | nil => exact h'
  | char hc _ ih => exact .char hc ih
  | gap hg hg' _ ih =>
      rw [List.append_assoc, List.append_assoc]
      exact .gap hg hg' ih

theorem Respaced.reverse (h : Respaced s t) : Respaced s.reverse t.reverse := by
  induction h with
  | nil => exact .nil
  | char hc _ ih =>
      rw [List.reverse_cons, List.reverse_cons]
      exact ih.append (.char hc .nil)
  | @gap g g' s t hg hg' _ ih =>
      have hturned {g : List Char} (h : IsGap g) : IsGap g.reverse :=
        ⟨mt List.reverse_eq_nil_iff.mp h.1, h.2.reverse⟩
      have hlast : Respaced (g.reverse ++ []) (g'.reverse ++ []) :=
        .gap (hturned hg) (hturned hg') .nil
      rw [List.append_nil, List.append_nil] at hlast
      rw [List.reverse_append, List.reverse_append]
      exact ih.append hlast

/-- What is no white space stands in both or in neither. -/
theorem Respaced.mem_iff (h : Respaced s t) (hc : isSpace c = false) : c ∈ s ↔ c ∈ t := by
  induction h with
  | nil => exact Iff.rfl
  | char _ _ ih => rw [List.mem_cons, List.mem_cons, ih]
  | gap hg hg' _ ih =>
      rw [List.mem_append, List.mem_append, or_iff_right (hg.2.notMem hc),
        or_iff_right (hg'.2.notMem hc), ih]

theorem Respaced.eq_nil_iff (h : Respaced s t) : s = [] ↔ t = [] := by
  cases h with
  | nil => exact Iff.rfl
  | char => simp
  | gap hg hg' _ => simp [hg.1, hg'.1]

/-- An empty text is among the one list or among both. -/
theorem nil_mem_iff {xs ys : List (List Char)} (h : List.Forall₂ Respaced xs ys) :
    [] ∈ xs ↔ [] ∈ ys := by
  induction h with
  | nil => exact Iff.rfl
  | cons hfirst _ ih =>
      rw [List.mem_cons, List.mem_cons, ih, eq_comm, hfirst.eq_nil_iff, eq_comm]

/-- Texts start with the same characters up to the first white space. -/
theorem Respaced.of_append (h : Respaced (front ++ s) t) (hfront : Solid front) :
    ∃ t', t = front ++ t' ∧ Respaced s t' := by
  induction front generalizing t with
  | nil => exact ⟨t, rfl, h⟩
  | cons c front ih =>
      obtain ⟨hc, hfront⟩ := List.forall_mem_cons.mp hfront
      generalize hwhole : c :: front ++ s = whole at h
      cases h with
      | nil => cases hwhole
      | char _ h =>
          obtain ⟨rfl, rfl⟩ := List.cons.inj hwhole
          obtain ⟨t', rfl, ht'⟩ := ih h hfront
          exact ⟨t', rfl, ht'⟩
      | @gap g g' _ _ hg _ _ =>
          obtain ⟨d, g, rfl⟩ := List.exists_cons_of_ne_nil hg.1
          obtain ⟨rfl, -⟩ := List.cons.inj hwhole
          exact absurd List.mem_cons_self (hg.2.notMem hc)

/-- Texts end with the same characters behind the last white space. -/
theorem Respaced.of_append_right (h : Respaced (s ++ back) t)
    (hback : Solid back) : ∃ t', t = t' ++ back ∧ Respaced s t' := by
  have hturned := h.reverse
  rw [List.reverse_append] at hturned
  obtain ⟨t', ht', hs⟩ := hturned.of_append hback.reverse
  refine ⟨t'.reverse, ?_, ?_⟩
  · rw [← List.reverse_reverse t, ht', List.reverse_append, List.reverse_reverse]
  · rw [← List.reverse_reverse s]
    exact hs.reverse

/-- Where the one text ends with white space, the other does. -/
theorem Respaced.exists_space (h : Respaced (s ++ [c]) t) (hc : isSpace c = true) :
    ∃ t' d, t = t' ++ [d] ∧ isSpace d = true := by
  have hfirst {s t : List Char} (h : Respaced (c :: s) t) :
      ∃ d t', t = d :: t' ∧ isSpace d = true := by
    generalize hwhole : c :: s = whole at h
    cases h with
    | nil => cases hwhole
    | char hd _ =>
        obtain ⟨rfl, -⟩ := List.cons.inj hwhole
        exact absurd hc (Bool.eq_false_iff.mp hd)
    | @gap _ g' _ t _ hg' _ =>
        obtain ⟨d, g', rfl⟩ := List.exists_cons_of_ne_nil hg'.1
        exact ⟨d, g' ++ t, rfl, hg'.2 d List.mem_cons_self⟩
  have hturned := h.reverse
  rw [List.reverse_append] at hturned
  obtain ⟨d, t', ht', hd⟩ := hfirst hturned
  refine ⟨t'.reverse, d, ?_, hd⟩
  rw [← List.reverse_reverse t, ht', List.reverse_cons]

/-- Where there is no white space, texts are equal. -/
theorem Respaced.eq_of_solid (h : Respaced s t) (hs : Solid s) : s = t := by
  rw [← List.append_nil s] at h
  obtain ⟨t', rfl, ht'⟩ := h.of_append hs
  rw [ht'.eq_nil_iff.mp rfl, List.append_nil]

/-! ## Trimming and cutting -/

theorem Respaced.trimStartChars (h : Respaced s t) :
    Respaced (trimStartChars s) (trimStartChars t) := by
  induction h with
  | nil => exact .nil
  | char hc h _ =>
      have hkept {c : Char} {s : List Char} (hc : isSpace c = false) :
          Text.trimStartChars (c :: s) = c :: s :=
        trimStartChars_eq_self_iff.mpr (by simpa using hc)
      rw [hkept hc, hkept hc]
      exact .char hc h
  | gap hg hg' _ ih =>
      rw [Text.trimStartChars, Text.trimStartChars, List.dropWhile_append_of_pos hg.2,
        List.dropWhile_append_of_pos hg'.2]
      exact ih

theorem Respaced.trimChars (h : Respaced s t) : Respaced (trimChars s) (trimChars t) :=
  h.trimStartChars.reverse.trimStartChars.reverse

/-- Nothing is found in the one text where nothing was found in the other. -/
theorem eq_none_of_rel {α : Type} {R : α → α → Prop} {y : Option α} (h : Option.Rel R none y) :
    y = none := by
  cases h
  rfl

/-- What was found in the one text is found in the other. -/
theorem exists_of_rel {α : Type} {R : α → α → Prop} {x : α} {y : Option α}
    (h : Option.Rel R (some x) y) : ∃ x', y = some x' ∧ R x x' := by
  cases h with
  | some hx => exact ⟨_, rfl, hx⟩

theorem Respaced.stripStart? (h : Respaced s t) (hpattern : Solid pattern) :
    Option.Rel Respaced (stripStart? pattern s) (stripStart? pattern t) := by
  cases hs : Text.stripStart? pattern s with
  | some a =>
      obtain rfl := stripStart?_eq_some_iff.mp hs
      obtain ⟨b, rfl, hb⟩ := h.of_append hpattern
      rw [stripStart?_append]
      exact .some hb
  | none =>
      cases ht : Text.stripStart? pattern t with
      | none => exact .none
      | some b =>
          obtain rfl := stripStart?_eq_some_iff.mp ht
          obtain ⟨a, rfl, -⟩ := h.symm.of_append hpattern
          rw [stripStart?_append] at hs
          cases hs

theorem Respaced.stripEnd? (h : Respaced s t) (hpattern : Solid pattern) :
    Option.Rel Respaced (stripEnd? pattern s) (stripEnd? pattern t) := by
  have hstart := h.reverse.stripStart? hpattern.reverse
  rw [Text.stripEnd?, Text.stripEnd?]
  generalize Text.stripStart? pattern.reverse s.reverse = x,
    Text.stripStart? pattern.reverse t.reverse = y at hstart ⊢
  cases hstart with
  | some hrest => exact .some hrest.reverse
  | none => exact .none

theorem Respaced.splitOnce? {ps : List Char} (h : Respaced s t)
    (hpattern : Solid (c :: ps)) :
    Option.Rel (fun x y => Respaced x.1 y.1 ∧ Respaced x.2 y.2) (splitOnce? (c :: ps) s)
      (splitOnce? (c :: ps) t) := by
  have hc : isSpace c = false := hpattern c List.mem_cons_self
  induction h with
  | nil => exact .none
  | @char d s t hd h ih =>
      have hstrip := (Respaced.char hd h).stripStart? hpattern
      rw [Text.splitOnce?, Text.splitOnce?]
      generalize Text.stripStart? (c :: ps) (d :: s) = x,
        Text.stripStart? (c :: ps) (d :: t) = y at hstrip ⊢
      cases hstrip with
      | some hrest => exact .some ⟨.nil, hrest⟩
      | none =>
          generalize Text.splitOnce? (c :: ps) s = x, Text.splitOnce? (c :: ps) t = y at ih ⊢
          cases ih with
          | some hsides => exact .some ⟨.char hd hsides.1, hsides.2⟩
          | none => exact .none
  | @gap g g' s t hg hg' _ ih =>
      rw [splitOnce?_append_left (hg.2.notMem hc), splitOnce?_append_left (hg'.2.notMem hc)]
      generalize Text.splitOnce? (c :: ps) s = x, Text.splitOnce? (c :: ps) t = y at ih ⊢
      cases ih with
      | some hsides => exact .some ⟨.gap hg hg' hsides.1, hsides.2⟩
      | none => exact .none

theorem Respaced.splitOn (h : Respaced s t) (hsep : isSpace sep = false) :
    List.Forall₂ Respaced (splitOn sep s) (splitOn sep t) := by
  induction h with
  | nil => exact .cons .nil .nil
  | @char c s t hc _ ih =>
      rw [Text.splitOn, Text.splitOn]
      split
      · exact .cons .nil ih
      · generalize Text.splitOn sep s = x, Text.splitOn sep t = y at ih ⊢
        cases ih with
        | nil => exact .cons (.char hc .nil) .nil
        | cons hfirst hmore => exact .cons (.char hc hfirst) hmore
  | @gap g g' s t hg hg' _ ih =>
      rw [splitOn_append_left (hg.2.notMem hsep), splitOn_append_left (hg'.2.notMem hsep)]
      generalize Text.splitOn sep s = x, Text.splitOn sep t = y at ih ⊢
      cases ih with
      | nil => exact .nil
      | cons hfirst hmore => exact .cons (.gap hg hg' hfirst) hmore

end FleetGate.Text
