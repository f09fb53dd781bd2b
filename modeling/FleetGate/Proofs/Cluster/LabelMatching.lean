import FleetGate.Cluster.Matching
import FleetGate.Proofs.Labels.Terms

/-! # Asking for objects by their labels

An in-memory cluster does not read a label selector as requirements. It cuts the text at all commas
and looks for the marks in an order of its own, taking a doubled sign for one sign with another in
front of the value. Where the text can be read as requirements, and none of them has a set, it asks
for the same as those requirements do (`matchesLabels_eq`): keys and values have no marks in them,
so it makes no difference which mark is looked for first. A blank text, which is read as no
requirement at all, is to the cluster a label without a name.
-/

namespace FleetGate.Object

open Text Selector

variable {s term : List Char} {sides : List Char × List Char} {key value text : String}
  {make : String → String → Requirement} {r : Requirement} {selector : Selector}

/-! ## One term -/

theorem trimmed_of_parseKey (h : parseKey (trimChars s) = .ok key) : trimmed s = key := by
  rw [trimmed, ← (parseKey_eq_ok_iff.mp h).1, String.ofList_toList]

theorem trimmed_of_parseValue (h : parseValue (trimChars s) = .ok value) : trimmed s = value := by
  rw [trimmed, ← (parseValue_eq_ok_iff.mp h).1, String.ofList_toList]

/-- There is no sign beside the one that was found. -/
theorem sign_notMem (h : parseSides make sides = .ok r) : '=' ∉ sides.1 ∧ '=' ∉ sides.2 := by
  obtain ⟨hkey, hvalue⟩ := plain_of_parseSides h
  exact ⟨notMem_of_plain hkey (by decide) (by decide),
    notMem_of_plain hvalue (by decide) (by decide)⟩

/-- Where there is no sign, none is dropped. -/
theorem dropWhile_of_notMem (h : '=' ∉ s) : s.dropWhile (· = '=') = s := by
  rw [List.dropWhile_eq_self_iff]
  intro hpos hsign
  exact h (of_decide_eq_true hsign ▸ List.getElem_mem hpos)

/-- A term with a sign compares the label with the value behind all signs. -/
theorem meetsLabelTerm_of_sign (hdiffers : splitOnce? ['!', '='] (trimChars term) = none)
    (hsides : splitOnce? ['='] (trimChars term) = some sides)
    (hkey : trimmed sides.1 = key) (hvalue : trimmed (sides.2.dropWhile (· = '=')) = value)
    (o : Object) :
    o.meetsLabelTerm term = (Requirement.equals key value).holds o.metadata.labels := by
  simp only [meetsLabelTerm, hdiffers, hsides, hkey, hvalue, Requirement.holds]

/-- A term that is read as a requirement without a set asks for the same as that requirement. -/
theorem meetsLabelTerm_eq (hread : parseTerm (trimChars term) = .ok r) (hr : r.Setless)
    (o : Object) : o.meetsLabelTerm term = r.holds o.metadata.labels := by
  cases parseTerm_eq_ok_iff.mp hread with
  | absent hmark hkey =>
      have hsign : '=' ∉ trimChars term := by
        rw [stripStart?_eq_some_iff.mp hmark]
        exact List.not_mem_cons_of_ne_of_not_mem (by decide)
          (notMem_of_plain (plain_of_parseKey hkey) (by decide) (by decide))
      have hdiffers : splitOnce? ['!', '='] (trimChars term) = none :=
        splitOnce?_eq_none (by decide) hsign
      have hequals : splitOnce? ['='] (trimChars term) = none :=
        splitOnce?_eq_none (by decide) hsign
      simp only [meetsLabelTerm, hdiffers, hequals, hmark, trimmed_of_parseKey hkey,
        Requirement.holds]
  | differs _ hsides hread =>
      obtain ⟨key, value, hkey, hvalue, rfl⟩ := parseSides_eq_ok_iff.mp hread
      simp only [meetsLabelTerm, hsides, trimmed_of_parseKey hkey, trimmed_of_parseValue hvalue,
        Requirement.holds]
  | @equalsTwice sides _ _ hdiffers htwice hread =>
      obtain ⟨hfront, hback⟩ := sign_notMem hread
      obtain ⟨key, value, hkey, hvalue, rfl⟩ := parseSides_eq_ok_iff.mp hread
      -- the first sign is found, and the second stands in front of the value
      have hsides : splitOnce? ['='] (trimChars term) = some (sides.1, '=' :: sides.2) := by
        have htext : trimChars term = sides.1 ++ ['='] ++ '=' :: sides.2 := by
          simpa using eq_of_splitOnce? htwice
        rw [htext]
        exact splitOnce?_append hfront ('=' :: sides.2)
      refine meetsLabelTerm_of_sign hdiffers hsides (trimmed_of_parseKey hkey) ?_ o
      rw [List.dropWhile_cons_of_pos (by decide), dropWhile_of_notMem hback]
      exact trimmed_of_parseValue hvalue
  | equals _ hdiffers _ hsides hread =>
      obtain ⟨-, hback⟩ := sign_notMem hread
      obtain ⟨key, value, hkey, hvalue, rfl⟩ := parseSides_eq_ok_iff.mp hread
      refine meetsLabelTerm_of_sign hdiffers hsides (trimmed_of_parseKey hkey) ?_ o
      rw [dropWhile_of_notMem hback]
      exact trimmed_of_parseValue hvalue
  | set _ _ _ _ _ hread => exact absurd hr (not_setless_of_parseSet hread)
  | @present key hmark hdiffers _ hequals _ hkey =>
      have hname : String.ofList (trimChars term) = key := trimmed_of_parseKey hkey
      simp only [meetsLabelTerm, hdiffers, hequals, hmark, hname, Keyed.has, Requirement.holds]

/-! ## The whole selector -/

/-- The terms of a text that is read as requirements without sets are the pieces that were read. -/
theorem selectorTerms_eq {raw : List (List Char)} {rs : List Requirement}
    (hraw : splitTerms 0 text.toList = .ok raw)
    (hread : (raw.mapM fun piece => parseTerm (trimChars piece)) = .ok rs)
    (hsets : ∀ r ∈ rs, r.Setless) : selectorTerms text = raw := by
  have hparen : ∀ piece ∈ raw, '(' ∉ piece := by
    intro piece hpiece
    obtain ⟨r, hr, hterm⟩ := exists_of_mem_of_mapM hread hpiece
    rw [← mem_trimChars_iff (by decide)]
    exact (parseTerm_eq_ok_iff.mp hterm).paren_notMem (hsets r hr)
  have hblank : ∀ piece ∈ raw, (!piece.isEmpty) = true := by
    intro piece hpiece
    obtain ⟨r, -, hterm⟩ := exists_of_mem_of_mapM hread hpiece
    cases piece with
    | nil => exact absurd hterm parseTerm_nil_ne
    | cons c rest => rfl
  rw [selectorTerms, splitOn_of_splitTerms hraw hparen, List.filter_eq_self]
  exact hblank

/-- Terms that are read as requirements without sets ask together for what those requirements ask
for. -/
theorem all_meetsLabelTerm {raw : List (List Char)} {rs : List Requirement}
    (hread : List.Forall₂ (fun piece r => parseTerm (trimChars piece) = .ok r) raw rs)
    (hsets : ∀ r ∈ rs, r.Setless) (o : Object) :
    raw.all o.meetsLabelTerm = rs.all (Requirement.holds o.metadata.labels) := by
  induction hread with
  | nil => rfl
  | cons hterm _ ih =>
      obtain ⟨hr, hrest⟩ := List.forall_mem_cons.mp hsets
      rw [List.all_cons, List.all_cons, meetsLabelTerm_eq hterm hr o, ih hrest]

/-- On every text that is read as requirements without sets, an in-memory cluster selects the
objects whose labels meet those requirements. -/
theorem matchesLabels_eq (hparse : Selector.parse text = .ok selector)
    (hne : selector.requirements ≠ []) (hsets : ∀ r ∈ selector.requirements, r.Setless)
    (o : Object) : o.matchesLabels text = selector.matchesLabels o.metadata.labels := by
  obtain ⟨raw, hraw, hread⟩ := (parse_eq_ok_iff_pieces hne).mp hparse
  rw [Object.matchesLabels, selectorTerms_eq hraw hread hsets]
  exact all_meetsLabelTerm (mapM_eq_ok_iff.mp hread) hsets o

/-- Every mark once, an empty value, and white space wherever it may stand. -/
theorem matchesLabels_every_mark :
    let text := " app == web,tier\t!=db , ! legacy,zone= ,ready "
    let web : Object :=
      { metadata := { labels? := some [("app", "web"), ("ready", "yes"), ("zone", "")] } }
    let old : Object :=
      { metadata := { labels? := some [("app", "web"), ("legacy", ""), ("ready", "yes"),
        ("zone", "")] } }
    ∃ selector, Selector.parse text = .ok selector ∧
      selector.requirements = [.equals "app" "web", .differs "tier" "db", .absent "legacy",
        .equals "zone" "", .present "ready"] ∧
      (∀ r ∈ selector.requirements, r.Setless) ∧
      web.matchesLabels text = true ∧ old.matchesLabels text = false := by
  intro text web old
  have hparse : Selector.parse " app == web,tier\t!=db , ! legacy,zone= ,ready " =
      .ok ⟨[.equals "app" "web", .differs "tier" "db", .absent "legacy", .equals "zone" "",
        .present "ready"]⟩ := by
    rfl
  have hsets : ∀ r ∈ [Requirement.equals "app" "web", .differs "tier" "db", .absent "legacy",
      .equals "zone" "", .present "ready"], r.Setless := by
    simp [Requirement.Setless]
  have hmatches := matchesLabels_eq hparse (List.cons_ne_nil _ _) hsets
  exact ⟨_, hparse, rfl, hsets, (hmatches web).trans (by decide), (hmatches old).trans (by decide)⟩

end FleetGate.Object
