import FleetGate.Text.Search

/-! # Cutting texts

What a piece of a text tells about the text it was cut from. A piece is cut off a front or an end
exactly if the text is that piece and what is left, and the first occurrence of a separator is found
where its first character stands for the first time. A piece occurs in a text if there is something
before and after it that makes up the text.
-/

namespace FleetGate.Text

variable {pattern ps s before after rest : List Char} {c sep : Char}

/-! ## Occurrences -/

theorem occursIn_iff : occursIn pattern s = true ↔ pattern <:+: s := by
  induction s with
  | nil => simp [occursIn]
  | cons c rest ih => simp [occursIn, ih, List.infix_cons_iff]

theorem contains_iff {s pattern : String} :
    contains s pattern = true ↔ pattern.toList <:+: s.toList :=
  occursIn_iff

/-- A pattern is not found where one of its characters does not stand. -/
theorem contains_eq_false {s pattern : String} (hpattern : c ∈ pattern.toList)
    (hc : c ∉ s.toList) : contains s pattern = false := by
  rw [← Bool.not_eq_true, contains_iff]
  exact fun hwithin => hc (hwithin.subset hpattern)

/-- A text without a character occurs on the one or the other side of it. -/
theorem infix_append_cons_iff (hne : pattern ≠ []) (h : c ∉ pattern) :
    pattern <:+: before ++ c :: after ↔ pattern <:+: before ∨ pattern <:+: after := by
  have hfront {l : List Char} (hl : l ≠ []) (hbegins : l <+: c :: after) : c ∈ l := by
    obtain ⟨d, rest, rfl⟩ := List.exists_cons_of_ne_nil hl
    obtain ⟨rfl, -⟩ := List.cons_prefix_cons.mp hbegins
    exact List.mem_cons_self
  rw [List.infix_append_iff, List.infix_cons_iff]
  constructor
  · rintro (hwithin | (hbegins | hwithin) | ⟨l, l', rfl, hsuffix, hbegins⟩)
    · exact Or.inl hwithin
    · exact absurd (hfront hne hbegins) h
    · exact Or.inr hwithin
    · by_cases hl : l' = []
      · subst hl
        rw [List.append_nil]
        exact Or.inl hsuffix.isInfix
      · exact absurd (List.mem_append_right l (hfront hl hbegins)) h
  · rintro (hwithin | hwithin)
    · exact Or.inl hwithin
    · exact Or.inr (Or.inl (Or.inr hwithin))

/-! ## Fronts and ends -/

/-- A front is cut off the texts that start with it. -/
theorem stripStart?_eq_some_iff : stripStart? pattern s = some rest ↔ s = pattern ++ rest := by
  induction pattern generalizing s with
  | nil => simp [stripStart?]
  | cons p ps ih =>
      cases s with
      | nil => simp [stripStart?]
      | cons c cs =>
          by_cases hc : p = c
          · simp [stripStart?, hc, ih]
          · simp [stripStart?, hc, Ne.symm hc]

theorem stripStart?_eq_none_iff : stripStart? pattern s = none ↔ ¬ pattern <+: s := by
  rw [Option.eq_none_iff_forall_ne_some]
  constructor
  · rintro h ⟨rest, rfl⟩
    exact h rest (stripStart?_eq_some_iff.mpr rfl)
  · rintro h rest hstrip
    exact h ⟨rest, (stripStart?_eq_some_iff.mp hstrip).symm⟩

/-- An end is cut off the texts that end with it. -/
theorem stripEnd?_eq_some_iff : stripEnd? pattern s = some rest ↔ s = rest ++ pattern := by
  simp only [stripEnd?, Option.map_eq_some_iff, stripStart?_eq_some_iff]
  constructor
  · rintro ⟨r, hr, rfl⟩
    rw [← List.reverse_reverse s, hr, List.reverse_append, List.reverse_reverse]
  · rintro rfl
    exact ⟨rest.reverse, List.reverse_append, List.reverse_reverse rest⟩

theorem stripStart?_append (pattern rest : List Char) :
    stripStart? pattern (pattern ++ rest) = some rest :=
  stripStart?_eq_some_iff.mpr rfl

theorem stripEnd?_append (rest pattern : List Char) :
    stripEnd? pattern (rest ++ pattern) = some rest :=
  stripEnd?_eq_some_iff.mpr rfl

/-- Where an end stands but for its first character, the character in its place decides. -/
theorem stripEnd?_cons (front ps : List Char) (c d : Char) :
    stripEnd? (d :: ps) (front ++ c :: ps) = if c = d then some front else none := by
  split
  · subst d
    exact stripEnd?_append front (c :: ps)
  · rename_i hne
    cases h : stripEnd? (d :: ps) (front ++ c :: ps) with
    | none => rfl
    | some rest =>
        have hsame := (List.append_inj' (stripEnd?_eq_some_iff.mp h) rfl).2
        exact absurd (List.cons.inj hsame).1 hne

/-- What starts with another character does not start with a pattern. -/
theorem stripStart?_of_ne {p : Char} (h : p ≠ c) :
    stripStart? (p :: ps) (c :: rest) = none := by
  rw [stripStart?, if_neg h]

/-- Nothing is cut off a text in which the first character of the pattern does not stand. -/
theorem stripStart?_of_notMem (h : c ∉ s) : stripStart? (c :: ps) s = none := by
  cases s with
  | nil => rfl
  | cons d rest => exact stripStart?_of_ne (List.ne_of_not_mem_cons h)

/-! ## The first occurrence -/

/-- A pattern is not found where its first character does not stand. -/
theorem splitOnce?_of_notMem (h : c ∉ s) : splitOnce? (c :: ps) s = none := by
  induction s with
  | nil => rfl
  | cons d rest ih =>
      rw [List.mem_cons, not_or] at h
      rw [splitOnce?, stripStart?_of_ne h.1, ih h.2]
      rfl

/-- A pattern is found where its first character stands for the first time, if it follows there. -/
theorem splitOnce?_append (h : c ∉ before) (after : List Char) :
    splitOnce? (c :: ps) (before ++ c :: ps ++ after) = some (before, after) := by
  induction before with
  | nil =>
      rw [List.nil_append, List.cons_append, splitOnce?, ← List.cons_append, stripStart?_append]
  | cons d rest ih =>
      rw [List.mem_cons, not_or] at h
      rw [List.cons_append, List.cons_append, splitOnce?, stripStart?_of_ne h.1, ih h.2]
      rfl

/-- A pattern is looked for behind a text in which its first character does not stand. -/
theorem splitOnce?_append_left {front : List Char} (h : c ∉ front) (s : List Char) :
    splitOnce? (c :: ps) (front ++ s)
      = (splitOnce? (c :: ps) s).map fun (before, after) => (front ++ before, after) := by
  induction front with
  | nil => simp
  | cons d rest ih =>
      rw [List.mem_cons, not_or] at h
      rw [List.cons_append, splitOnce?, stripStart?_of_ne h.1, ih h.2]
      cases splitOnce? (c :: ps) s <;> rfl

/-- The text is what stands before and after the pattern that was found in it. -/
theorem eq_of_splitOnce? (h : splitOnce? pattern s = some (before, after)) :
    s = before ++ pattern ++ after := by
  induction s generalizing before with
  | nil =>
      cases pattern with
      | nil =>
          cases h
          rfl
      | cons p ps => cases h
  | cons d rest ih =>
      rw [splitOnce?] at h
      split at h
      · rename_i tail hstrip
        cases h
        exact stripStart?_eq_some_iff.mp hstrip
      · obtain ⟨⟨front, tail⟩, hrest, heq⟩ := Option.map_eq_some_iff.mp h
        cases heq
        rw [ih hrest]
        rfl

/-- A pattern is found where it occurs. -/
theorem splitOnce?_eq_none_iff : splitOnce? pattern s = none ↔ ¬ pattern <:+: s := by
  induction s with
  | nil => simp [splitOnce?]
  | cons d rest ih =>
      rw [splitOnce?, List.infix_cons_iff, not_or, ← stripStart?_eq_none_iff, ← ih]
      cases stripStart? pattern (d :: rest) <;> simp

/-- A pattern is not found where one of its characters does not stand. -/
theorem splitOnce?_eq_none (hpattern : c ∈ pattern) (hc : c ∉ s) : splitOnce? pattern s = none :=
  splitOnce?_eq_none_iff.mpr fun hwithin => hc (hwithin.subset hpattern)

/-- Where a pattern is found first does not depend on what follows it there. -/
theorem splitOnce?_of_splitOnce? (h : splitOnce? pattern s = some (before, after))
    (other : List Char) : splitOnce? pattern (before ++ pattern ++ other) = some (before, other) := by
  induction s generalizing before with
  | nil =>
      obtain ⟨rfl, rfl, rfl⟩ : before = [] ∧ pattern = [] ∧ after = [] := by
        simpa using eq_of_splitOnce? h
      cases other <;> rfl
  | cons d rest ih =>
      rw [splitOnce?] at h
      split at h
      · cases h
        rw [List.nil_append]
        cases hwhole : pattern ++ other with
        | nil =>
            obtain ⟨rfl, rfl⟩ := List.append_eq_nil_iff.mp hwhole
            rfl
        | cons e tail => rw [splitOnce?, ← hwhole, stripStart?_append]
      · rename_i hstrip
        obtain ⟨⟨front, tail⟩, hrest, heq⟩ := Option.map_eq_some_iff.mp h
        cases heq
        -- a pattern that stood in front would do so in the old text too
        have hnot : ¬ pattern <+: d :: (front ++ pattern ++ other) := by
          intro hfront
          rw [eq_of_splitOnce? hrest] at hstrip
          refine stripStart?_eq_none_iff.mp hstrip ?_
          have hshort : pattern <+: d :: (front ++ pattern) :=
            List.prefix_of_prefix_length_le hfront ⟨other, by simp⟩ (by simp; omega)
          exact hshort.trans ⟨after, by simp⟩
        rw [List.cons_append, List.cons_append, splitOnce?, stripStart?_eq_none_iff.mpr hnot,
          ih hrest]
        rfl

/-- A character that a text was cut at does not stand before the cut. -/
theorem notMem_of_splitOnce? (h : splitOnce? [c] s = some (before, after)) : c ∉ before := by
  induction s generalizing before with
  | nil => cases h
  | cons d rest ih =>
      rw [splitOnce?] at h
      split at h
      · cases h
        exact List.not_mem_nil
      · rename_i hstrip
        obtain ⟨⟨front, tail⟩, hrest, heq⟩ := Option.map_eq_some_iff.mp h
        cases heq
        have hne : c ≠ d := by
          rintro rfl
          rw [stripStart?, if_pos rfl] at hstrip
          cases hstrip
        exact List.not_mem_cons_of_ne_of_not_mem hne (ih hrest)

/-- One character is not two. -/
theorem splitOnce?_twice (hbefore : c ∉ before) (hafter : c ∉ after) :
    splitOnce? [c, c] (before ++ [c] ++ after) = none := by
  cases h : splitOnce? [c, c] (before ++ [c] ++ after) with
  | none => rfl
  | some sides =>
      -- the text would hold the character twice
      have hcount := congrArg (List.count c) (eq_of_splitOnce? h)
      simp [List.count_eq_zero.mpr hbefore, List.count_eq_zero.mpr hafter] at hcount
      omega

/-! ## Separators -/

/-- The pieces are those of the library's function. -/
theorem splitOn_eq (sep : Char) (s : List Char) : splitOn sep s = s.splitOn sep := by
  induction s with
  | nil => rfl
  | cons c rest ih =>
      rw [splitOn, ih, List.splitOn_cons_eq_if_modifyHead]
      by_cases hc : c = sep
      · simp [hc]
      · simp only [hc, if_false, beq_iff_eq]
        cases h : rest.splitOn sep with
        | nil => exact absurd h (List.splitOn_ne_nil sep rest)
        | cons piece pieces => rfl

/-- Pieces without the separator are found again between the separators. -/
theorem splitOn_intercalate {pieces : List (List Char)} (h : ∀ piece ∈ pieces, sep ∉ piece)
    (hne : pieces ≠ []) : splitOn sep ([sep].intercalate pieces) = pieces := by
  rw [splitOn_eq]
  exact List.splitOn_intercalate sep h hne

/-- The text is its pieces with the separator between them. -/
theorem intercalate_splitOn (sep : Char) (s : List Char) :
    [sep].intercalate (splitOn sep s) = s := by
  rw [splitOn_eq]
  exact List.intercalate_splitOn sep

theorem splitOn_ne_nil (sep : Char) (s : List Char) : splitOn sep s ≠ [] := by
  rw [splitOn_eq]
  exact List.splitOn_ne_nil sep s

/-- What stands in front of a text and does not hold the separator stands in front of its first
piece. -/
theorem splitOn_append_left {front : List Char} (h : sep ∉ front) (s : List Char) :
    splitOn sep (front ++ s) = (splitOn sep s).modifyHead (front ++ ·) := by
  obtain ⟨piece, pieces, hs⟩ := List.exists_cons_of_ne_nil (splitOn_ne_nil sep s)
  rw [hs]
  induction front with
  | nil => exact hs
  | cons d rest ih =>
      rw [List.mem_cons, not_or] at h
      rw [List.cons_append, splitOn, if_neg (Ne.symm h.1), ih h.2]
      rfl

/-- No piece holds the separator. -/
theorem notMem_of_mem_splitOn {piece : List Char} (h : piece ∈ splitOn sep s) : sep ∉ piece := by
  induction s generalizing piece with
  | nil =>
      obtain rfl := List.mem_singleton.mp h
      exact List.not_mem_nil
  | cons c rest ih =>
      rw [splitOn] at h
      split at h
      · rcases List.mem_cons.mp h with rfl | h
        · exact List.not_mem_nil
        · exact ih h
      · rename_i hc
        split at h
        · obtain rfl := List.mem_singleton.mp h
          exact mt List.mem_singleton.mp (Ne.symm hc)
        · rename_i first pieces hsplit
          rcases List.mem_cons.mp h with rfl | h
          · -- the first piece got one more character
            have hfirst : sep ∉ first := ih (hsplit ▸ List.mem_cons_self)
            exact List.not_mem_cons_of_ne_of_not_mem (Ne.symm hc) hfirst
          · exact ih (hsplit ▸ List.mem_cons_of_mem first h)

/-- What is no separator stands in one of the pieces. -/
theorem exists_mem_splitOn (h : c ∈ s) (hc : c ≠ sep) : ∃ piece ∈ splitOn sep s, c ∈ piece := by
  induction s with
  | nil => cases h
  | cons d rest ih =>
      rcases List.mem_cons.mp h with rfl | h
      · rw [splitOn, if_neg hc]
        split <;> simp
      · obtain ⟨piece, hpiece, hmem⟩ := ih h
        rw [splitOn]
        split
        · exact ⟨piece, List.mem_cons_of_mem _ hpiece, hmem⟩
        · split
          · rename_i hsplit
            rw [hsplit] at hpiece
            cases hpiece
          · rename_i first pieces hsplit
            rw [hsplit] at hpiece
            rcases List.mem_cons.mp hpiece with rfl | hpiece
            · exact ⟨_, List.mem_cons_self, List.mem_cons_of_mem d hmem⟩
            · exact ⟨piece, List.mem_cons_of_mem _ hpiece, hmem⟩

/-- There is one more piece than there are separators. -/
theorem length_splitOn (sep : Char) (s : List Char) :
    (splitOn sep s).length = s.count sep + 1 := by
  induction s with
  | nil => rfl
  | cons d rest ih =>
      rw [splitOn]
      split
      · rename_i hd
        rw [hd, List.count_cons_self, List.length_cons, ih]
      · rename_i hd
        rw [List.count_cons_of_ne hd, ← ih]
        split
        · rename_i hsplit
          exact absurd hsplit (splitOn_ne_nil sep rest)
        · rename_i hsplit
          rw [hsplit, List.length_cons, List.length_cons]

/-- A text without the separator is one piece. -/
theorem splitOn_of_notMem (h : sep ∉ s) : splitOn sep s = [s] := by
  rw [splitOn_eq]
  exact List.splitOn_eq_singleton h

end FleetGate.Text
