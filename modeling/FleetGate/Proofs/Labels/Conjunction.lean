import FleetGate.Labels.Selector
import FleetGate.Proofs.Except

/-! # Selectors joined by a comma

Two selectors with a comma between them ask for what either of them asks for
(`parse_conjunction`). Commas inside a set separate values and not requirements, so what stands in
front of the comma must leave no parenthesis open; a text that can be read by itself does not.
-/

namespace FleetGate.Selector

variable {s t : List Char} {pieces more : List (List Char)} {depth : ℕ}

/-! ## Cutting -/

/-- A character is refused, or it changes the front of the pieces that the text behind it is cut
into and leaves the rest of them alone. -/
theorem splitTerms_cons (depth : ℕ) (c : Char) :
    (∀ s pieces, splitTerms depth (c :: s) ≠ .ok pieces) ∨
      ∃ inside front, (∀ s, splitTerms depth (c :: s) = (splitTerms inside s).map front) ∧
        ∀ pieces more, pieces ≠ [] →
          front pieces ≠ [] ∧ front (pieces ++ more) = front pieces ++ more := by
  have hprepend (front : List (List Char) → List (List Char))
      (hfront : ∀ term terms, front (term :: terms) = (c :: term) :: terms)
      (pieces more : List (List Char)) (hne : pieces ≠ []) :
      front pieces ≠ [] ∧ front (pieces ++ more) = front pieces ++ more := by
    obtain ⟨term, terms, rfl⟩ := List.exists_cons_of_ne_nil hne
    rw [List.cons_append, hfront, hfront]
    exact ⟨List.cons_ne_nil _ _, rfl⟩
  simp only [splitTerms]
  by_cases hopen : c = '('
  · simp only [if_pos hopen]
    exact Or.inr ⟨_, _, fun s => rfl, hprepend _ fun _ _ => rfl⟩
  by_cases hclose : c = ')'
  · simp only [if_neg hopen, if_pos hclose]
    by_cases hdepth : depth = 0
    · simp only [if_pos hdepth]
      exact Or.inl nofun
    · simp only [if_neg hdepth]
      exact Or.inr ⟨_, _, fun s => rfl, hprepend _ fun _ _ => rfl⟩
  simp only [if_neg hopen, if_neg hclose]
  by_cases hcomma : c = ',' ∧ depth = 0
  · simp only [if_pos hcomma]
    exact Or.inr ⟨_, _, fun s => rfl, fun pieces more _ => ⟨List.cons_ne_nil _ _, rfl⟩⟩
  · simp only [if_neg hcomma]
    exact Or.inr ⟨_, _, fun s => rfl, hprepend _ fun _ _ => rfl⟩

/-- A text that can be cut leaves no parenthesis open, so a comma behind it ends its last piece. -/
theorem splitTerms_comma (h : splitTerms depth s = .ok pieces) (t : List Char) :
    pieces ≠ [] ∧
      splitTerms depth (s ++ ',' :: t) = (splitTerms 0 t).map fun more => pieces ++ more := by
  induction s generalizing depth pieces with
  | nil =>
      rw [splitTerms] at h
      split at h
      · rename_i hdepth
        cases h
        refine ⟨List.cons_ne_nil _ _, ?_⟩
        rw [hdepth, List.nil_append, splitTerms, if_neg (by decide), if_neg (by decide),
          if_pos ⟨rfl, rfl⟩]
        rfl
      · cases h
  | cons c rest ih =>
      rcases splitTerms_cons depth c with hrefused | ⟨inside, front, hstep, hfront⟩
      · exact absurd h (hrefused rest pieces)
      rw [hstep] at h
      obtain ⟨behind, hbehind, rfl⟩ := map_eq_ok_iff.mp h
      obtain ⟨hne, hjoined⟩ := ih hbehind
      refine ⟨(hfront behind [] hne).1, ?_⟩
      rw [List.cons_append, hstep, hjoined]
      cases splitTerms 0 t with
      | error e => rfl
      | ok more => exact congrArg Except.ok (hfront behind more hne).2

/-! ## Requirements -/

/-- The requirements of a text that has some: the trimmed pieces, none of them blank. -/
theorem terms_eq_ok_iff (hne : pieces ≠ []) :
    terms s = .ok pieces ↔ [] ∉ pieces ∧
      ∃ raw, splitTerms 0 s = .ok raw ∧ raw.map Text.trimChars = pieces := by
  have hblank {l : List (List Char)} : l.any List.isEmpty = true ↔ [] ∈ l := by simp
  rw [terms, bind_eq_ok_iff]
  dsimp only
  constructor
  · rintro ⟨raw, hraw, h⟩
    split at h
    · cases h
      exact absurd rfl hne
    split at h
    · cases h
    · rename_i hproper
      cases h
      exact ⟨mt hblank.mpr hproper, raw, hraw, rfl⟩
  · rintro ⟨hproper, raw, hraw, rfl⟩
    have hsingle : raw.map Text.trimChars ≠ [[]] := by
      intro heq
      rw [heq] at hproper
      exact hproper List.mem_cons_self
    refine ⟨raw, hraw, ?_⟩
    rw [if_neg hsingle, if_neg (mt hblank.mp hproper)]
    rfl

/-- The requirements of two texts with a comma between them are those of both. -/
theorem terms_comma (hs : terms s = .ok pieces) (hpieces : pieces ≠ []) (ht : terms t = .ok more)
    (hmore : more ≠ []) : terms (s ++ ',' :: t) = .ok (pieces ++ more) := by
  obtain ⟨hproper, raw, hraw, rfl⟩ := (terms_eq_ok_iff hpieces).mp hs
  obtain ⟨hproper', raw', hraw', rfl⟩ := (terms_eq_ok_iff hmore).mp ht
  refine (terms_eq_ok_iff (List.append_ne_nil_of_left_ne_nil hpieces _)).mpr
    ⟨?_, raw ++ raw', ?_, List.map_append⟩
  · rw [List.mem_append, not_or]
    exact ⟨hproper, hproper'⟩
  · rw [(splitTerms_comma hraw t).2, hraw']
    rfl

/-! ## Selectors -/

section
variable {a b : String} {p q : Selector}

/-- Reading a selector is reading its requirements one by one. -/
theorem parse_eq_ok_iff :
    parse a = .ok p ↔ ∃ pieces, terms a.toList = .ok pieces ∧
      pieces.mapM parseTerm = .ok p.requirements := by
  rw [parse, bind_eq_ok_iff]
  constructor
  · rintro ⟨pieces, hpieces, h⟩
    obtain ⟨rs, hrs, h⟩ := bind_eq_ok_iff.mp h
    cases h
    exact ⟨pieces, hpieces, hrs⟩
  · rintro ⟨pieces, hpieces, hrs⟩
    exact ⟨pieces, hpieces, bind_eq_ok_iff.mpr ⟨_, hrs, rfl⟩⟩

/-- Two selectors that ask for something are read together as they are read apart. -/
theorem parse_comma (ha : parse a = .ok p) (hb : parse b = .ok q) (hp : p.requirements ≠ [])
    (hq : q.requirements ≠ []) :
    parse (a ++ "," ++ b) = .ok ⟨p.requirements ++ q.requirements⟩ := by
  have hne {pieces : List (List Char)} {r : Selector}
      (h : pieces.mapM parseTerm = .ok r.requirements) (hr : r.requirements ≠ []) :
      pieces ≠ [] := by
    rintro rfl
    exact hr (Except.ok.inj h).symm
  obtain ⟨pieces, hpieces, hread⟩ := parse_eq_ok_iff.mp ha
  obtain ⟨more, hmore, hread'⟩ := parse_eq_ok_iff.mp hb
  refine parse_eq_ok_iff.mpr ⟨pieces ++ more, ?_, ?_⟩
  · rw [String.toList_append, String.toList_append, List.append_assoc]
    exact terms_comma hpieces (hne hread hp) hmore (hne hread' hq)
  · rw [List.mapM_append, hread, hread']
    rfl

theorem matchesLabels_append (rs rs' : List Requirement) (labels : List (String × String)) :
    matchesLabels ⟨rs ++ rs'⟩ labels = (matchesLabels ⟨rs⟩ labels && matchesLabels ⟨rs'⟩ labels) :=
  List.all_append

/-- Two texts that are read as selectors and ask for something, with a comma between them: the whole
is read as the requirements of the first and then those of the second. So labels match it if they
match both, and it makes no difference which of the texts stands in front. -/
theorem parse_conjunction (ha : parse a = .ok p) (hb : parse b = .ok q)
    (hp : p.requirements ≠ []) (hq : q.requirements ≠ []) :
    ∃ both swapped, parse (a ++ "," ++ b) = .ok both ∧
      both.requirements = p.requirements ++ q.requirements ∧
      parse (b ++ "," ++ a) = .ok swapped ∧
      ∀ labels, (both.matchesLabels labels = true ↔
          p.matchesLabels labels = true ∧ q.matchesLabels labels = true) ∧
        swapped.matchesLabels labels = both.matchesLabels labels := by
  refine ⟨_, _, parse_comma ha hb hp hq, rfl, parse_comma hb ha hq hp, fun labels => ⟨?_, ?_⟩⟩
  · rw [matchesLabels_append, Bool.and_eq_true]
  · rw [matchesLabels_append, matchesLabels_append, Bool.and_comm]

/-- Commas in sets at the seam, and white space around it. -/
theorem parse_conjunction_of_sets :
    let a := " tier, env in (prod,staging) "
    let b := "\tzone notin (a, b),!legacy"
    ∃ both, parse (a ++ "," ++ b) = .ok both ∧
      both.requirements = [.present "tier", .oneOf "env" ["prod", "staging"],
        .noneOf "zone" ["a", "b"], .absent "legacy"] ∧
      both.matchesLabels [("env", "prod"), ("tier", "web")] = true := by
  have ha : parse " tier, env in (prod,staging) "
      = .ok ⟨[.present "tier", .oneOf "env" ["prod", "staging"]]⟩ := by rfl
  have hb : parse "\tzone notin (a, b),!legacy"
      = .ok ⟨[.noneOf "zone" ["a", "b"], .absent "legacy"]⟩ := by rfl
  obtain ⟨both, _, hboth, hrequirements, -, hmatches⟩ :=
    parse_conjunction ha hb (List.cons_ne_nil _ _) (List.cons_ne_nil _ _)
  exact ⟨both, hboth, hrequirements, (hmatches _).1.mpr (by decide)⟩

end

end FleetGate.Selector
