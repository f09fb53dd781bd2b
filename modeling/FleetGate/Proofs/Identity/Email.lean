import FleetGate.Proofs.Identity.Validation
import FleetGate.Proofs.Text.Search
import Mathlib.Computability.Language

/-! # What an email is

An email passes its check exactly if it is well formed in the sense of `IsEmail` (`email_grammar`):
within the length, free of control characters and white space, with one at sign, something before
it, and after it a dot between other characters.

The form of an email is the pattern `^[^\s@]+@[^\s@]+\.[^\s@]+$`. Its language is `emailPattern`,
put together as the pattern is. A domain with several dots matches in several ways, by taking one
dot or another for the dot of the pattern. The check does not search: it cuts the text at its at
sign and looks for any inner dot. Both come to the same (`isEmailForm_iff_mem_emailPattern`), since
a dot is itself one of the characters that may stand around the dot of the pattern.
-/

namespace FleetGate.Validation

open scoped Computability

variable {s domain : List Char}

/-! ## The pattern -/

/-- One character that is neither white space nor an at sign: `[^\s@]`. -/
def wordChar : Language Char := {s | ∃ c, s = [c] ∧ Text.isSpace c = false ∧ c ≠ '@'}

/-- One such character or more: `[^\s@]+`. -/
def word : Language Char := wordChar * wordChar∗

/-- The texts that match the pattern of emails. -/
def emailPattern : Language Char := word * {['@']} * word * {['.']} * word

/-- Of a repetition only the characters matter. -/
theorem mem_word_iff : s ∈ word ↔ s ≠ [] ∧ (∀ c ∈ s, Text.isSpace c = false) ∧ '@' ∉ s := by
  constructor
  · rintro ⟨_, ⟨c, rfl, hspace, hat⟩, _, hrest, rfl⟩
    obtain ⟨pieces, rfl, hpieces⟩ := Language.mem_kstar.mp hrest
    have hchars : ∀ d ∈ pieces.flatten, Text.isSpace d = false ∧ d ≠ '@' := by
      intro d hd
      obtain ⟨piece, hpiece, hd⟩ := List.mem_flatten.mp hd
      obtain ⟨e, rfl, he⟩ := hpieces piece hpiece
      exact List.mem_singleton.mp hd ▸ he
    refine ⟨List.cons_ne_nil _ _, ?_, ?_⟩
    · exact List.forall_mem_cons.mpr ⟨hspace, fun d hd => (hchars d hd).1⟩
    · exact List.not_mem_cons_of_ne_of_not_mem hat.symm fun hd => (hchars _ hd).2 rfl
  · rintro ⟨hne, hspace, hat⟩
    cases s with
    | nil => exact absurd rfl hne
    | cons c rest =>
        have hchar : ∀ d ∈ c :: rest, [d] ∈ wordChar :=
          fun d hd => ⟨d, rfl, hspace d hd, ne_of_mem_of_not_mem hd hat⟩
        have hpieces : rest = (rest.map fun d => [d]).flatten := by
          rw [← List.flatMap_def, List.flatMap_singleton']
        refine ⟨[c], hchar c List.mem_cons_self, rest, Language.mem_kstar.mpr ?_, rfl⟩
        refine ⟨_, hpieces, List.forall_mem_map.mpr fun d hd => ?_⟩
        exact hchar d (List.mem_cons_of_mem c hd)

/-- A text matches the pattern if it can be cut into what the pattern is made of. -/
theorem mem_emailPattern_iff : s ∈ emailPattern ↔
    ∃ name ∈ word, ∃ before ∈ word, ∃ after ∈ word,
      s = name ++ '@' :: (before ++ '.' :: after) := by
  constructor
  · rintro ⟨_, ⟨_, ⟨_, ⟨name, hname, _, rfl, rfl⟩, before, hbefore, rfl⟩, _, rfl, rfl⟩, after,
      hafter, rfl⟩
    exact ⟨name, hname, before, hbefore, after, hafter, by simp⟩
  · rintro ⟨name, hname, before, hbefore, after, hafter, rfl⟩
    exact ⟨_, ⟨_, ⟨_, ⟨name, hname, ['@'], rfl, rfl⟩, before, hbefore, rfl⟩, ['.'], rfl, rfl⟩,
      after, hafter, by simp⟩

/-- An at sign is the only one if there is none on either side of it. -/
theorem count_at_eq_one_iff {front back : List Char} :
    (front ++ '@' :: back).count '@' = 1 ↔ '@' ∉ front ∧ '@' ∉ back := by
  rw [List.count_append, List.count_cons_self, ← List.count_eq_zero, ← List.count_eq_zero]
  omega

/-- A text matches the pattern if it has no white space and one at sign, something before the at
sign, and after it a dot with something on either side. -/
theorem mem_emailPattern_iff_sides : s ∈ emailPattern ↔
    (∀ c ∈ s, Text.isSpace c = false) ∧ s.count '@' = 1 ∧
      ∃ name before after, s = name ++ '@' :: (before ++ '.' :: after) ∧
        name ≠ [] ∧ before ≠ [] ∧ after ≠ [] := by
  rw [mem_emailPattern_iff]
  constructor
  · rintro ⟨name, hname, before, hbefore, after, hafter, rfl⟩
    obtain ⟨hname_ne, hname_space, hname_at⟩ := mem_word_iff.mp hname
    obtain ⟨hbefore_ne, hbefore_space, hbefore_at⟩ := mem_word_iff.mp hbefore
    obtain ⟨hafter_ne, hafter_space, hafter_at⟩ := mem_word_iff.mp hafter
    refine ⟨?_, ?_, name, before, after, rfl, hname_ne, hbefore_ne, hafter_ne⟩
    · simp only [List.forall_mem_append, List.forall_mem_cons]
      exact ⟨hname_space, by decide, hbefore_space, by decide, hafter_space⟩
    · rw [count_at_eq_one_iff]
      simp [hname_at, hbefore_at, hafter_at]
  · rintro ⟨hspace, hat, name, before, after, rfl, hname, hbefore, hafter⟩
    simp only [List.forall_mem_append, List.forall_mem_cons] at hspace
    obtain ⟨hname_space, -, hbefore_space, -, hafter_space⟩ := hspace
    rw [count_at_eq_one_iff, List.mem_append, List.mem_cons, not_or, not_or] at hat
    obtain ⟨hname_at, hbefore_at, -, hafter_at⟩ := hat
    exact ⟨name, mem_word_iff.mpr ⟨hname, hname_space, hname_at⟩,
      before, mem_word_iff.mpr ⟨hbefore, hbefore_space, hbefore_at⟩,
      after, mem_word_iff.mpr ⟨hafter, hafter_space, hafter_at⟩, rfl⟩

/-! ## The check -/

/-- A dot stands between the first and the last character if there is something on either side of
it. -/
theorem hasInnerDot_iff : hasInnerDot domain = true ↔
    ∃ before after, domain = before ++ '.' :: after ∧ before ≠ [] ∧ after ≠ [] := by
  cases domain with
  | nil => simp [hasInnerDot]
  | cons first rest =>
      simp only [hasInnerDot, List.any_eq_true, decide_eq_true_eq, exists_eq_right]
      constructor
      · intro hdot
        have hrest : rest ≠ [] := by
          rintro rfl
          exact List.not_mem_nil hdot
        obtain ⟨before, after, hsplit⟩ := List.append_of_mem hdot
        refine ⟨first :: before, after ++ [rest.getLast hrest], ?_, List.cons_ne_nil _ _, by simp⟩
        conv_lhs => rw [← List.dropLast_append_getLast hrest, hsplit]
        simp
      · rintro ⟨before, after, hsplit, hbefore, hafter⟩
        obtain ⟨c, before, rfl⟩ := List.exists_cons_of_ne_nil hbefore
        rw [List.cons_append] at hsplit
        obtain ⟨-, rfl⟩ := List.cons.inj hsplit
        rw [List.dropLast_append_of_ne_nil (List.cons_ne_nil _ _),
          List.dropLast_cons_of_ne_nil hafter]
        exact List.mem_append_right before List.mem_cons_self

/-- The check of the form accepts what matches the pattern. -/
theorem isEmailForm_iff_mem_emailPattern : isEmailForm s = true ↔ s ∈ emailPattern := by
  rw [mem_emailPattern_iff_sides]
  constructor
  · intro h
    have hspace := isSpace_eq_false_of_isEmailForm h
    rw [isEmailForm, Bool.and_eq_true] at h
    obtain ⟨-, h⟩ := h
    split at h
    · rename_i name domain hsplit
      simp only [Bool.and_eq_true, Bool.not_eq_true', List.isEmpty_eq_false_iff,
        hasInnerDot_iff] at h
      obtain ⟨hname, before, after, rfl, hbefore, hafter⟩ := h
      have hs : s = name ++ '@' :: (before ++ '.' :: after) := by
        rw [← Text.intercalate_splitOn '@' s, hsplit]
        simp
      have hat {piece : List Char} (hpiece : piece ∈ [name, before ++ '.' :: after]) :
          '@' ∉ piece := Text.notMem_of_mem_splitOn (hsplit ▸ hpiece)
      refine ⟨hspace, ?_, name, before, after, hs, hname, hbefore, hafter⟩
      rw [hs, count_at_eq_one_iff]
      exact ⟨hat List.mem_cons_self, hat (List.mem_cons_of_mem _ List.mem_cons_self)⟩
    · cases h
  · rintro ⟨hspace, hat, name, before, after, rfl, hname, hbefore, hafter⟩
    obtain ⟨hname_at, hdomain_at⟩ := count_at_eq_one_iff.mp hat
    -- the pieces between the at signs are the two sides
    have hsplit : Text.splitOn '@' (['@'].intercalate [name, before ++ '.' :: after]) =
        [name, before ++ '.' :: after] :=
      Text.splitOn_intercalate (by simp [hname_at, hdomain_at]) (List.cons_ne_nil _ _)
    have hjoin : ['@'].intercalate [name, before ++ '.' :: after] =
        name ++ '@' :: (before ++ '.' :: after) := by simp
    have hdot : hasInnerDot (before ++ '.' :: after) = true :=
      hasInnerDot_iff.mpr ⟨before, after, rfl, hbefore, hafter⟩
    rw [hjoin] at hsplit
    rw [isEmailForm, List.any_eq_false.mpr fun c hc => by simp [hspace c hc], hsplit]
    simp [hname, hdot]

/-! ## Emails -/

/-- What an email is. -/
structure IsEmail (s : String) : Prop where
  nonempty : s ≠ ""
  size : s.utf8ByteSize ≤ 254
  control_free : ∀ c ∈ s.toList, Text.isControl c = false
  space_free : ∀ c ∈ s.toList, Text.isSpace c = false
  one_at : s.toList.count '@' = 1
  /-- Something stands before the at sign, and after it a dot that is neither the first nor the last
  character of its side. -/
  sides : ∃ name domain, s.toList = name ++ '@' :: domain ∧ name ≠ [] ∧
    ∃ before after, domain = before ++ '.' :: after ∧ before ≠ [] ∧ after ≠ []

/-- The check accepts emails and nothing else, and takes an email for missing if it is empty and not
otherwise. Of its form it asks what the pattern asks. -/
theorem email_grammar (s : String) :
    (email s = .ok () ↔ IsEmail s) ∧ (email s = .error .missingEmail ↔ s = "") ∧
      (isEmailForm s.toList = true ↔ s.toList ∈ emailPattern) := by
  refine ⟨?_, ?_, isEmailForm_iff_mem_emailPattern⟩
  · rw [email_eq_ok_iff, hasControl_eq_false_iff, isEmailForm_iff_mem_emailPattern,
      mem_emailPattern_iff_sides]
    constructor
    · rintro ⟨hne, hsize, hcontrol, hspace, hat, name, before, after, hs, hname, hsides⟩
      exact ⟨hne, hsize, hcontrol, hspace, hat, name, _, hs, hname, before, after, rfl, hsides⟩
    · rintro ⟨hne, hsize, hcontrol, hspace, hat, name, _, hs, hname, before, after, rfl, hsides⟩
      exact ⟨hne, hsize, hcontrol, hspace, hat, name, before, after, hs, hname, hsides⟩
  · rw [email]
    by_cases hempty : s = ""
    · simp [hempty]
    · simp only [String.isEmpty_iff, hempty, if_false, iff_false]
      split_ifs <;> simp

/-- Any of several dots will do, also where two of them are neighbours. -/
example : email "a@.b..c" = .ok () := by decide


end FleetGate.Validation
