import FleetGate.Proofs.Labels.Terms
import FleetGate.Proofs.Text.Respacing

/-! # White space in selectors

A selector may have white space around its commas, marks, parentheses, keys and values, and it makes
no difference which. Only the words in front of a set are words behind a space, and nothing else
(`SpacedWords`): in `env in (prod)` the first space may not be a tab, the second may. So a selector
with other white space is read as before exactly if its words stand behind spaces, and otherwise it
is refused (`parse_respaced_iff`).
-/

namespace FleetGate.Selector

open Text

variable {s t before before' body body' head head' tail tail' front gap word : List Char}
  {pieces raw raw' : List (List Char)} {sides sides' : List Char × List Char} {key value : String}
  {r : Requirement} {c : Char} {depth : ℕ}

/-! ## Words -/

/-- The words in front of a set. -/
def setWords : List (List Char) := ["in".toList, "notin".toList]

/-- White space in front of a word in front of a parenthesis ends with a space. -/
def SpacedWords (s : List Char) : Prop :=
  ∀ c word gap, c :: (word ++ gap ++ ['(']) <:+: s → isSpace c = true → word ∈ setWords →
    Blank gap → c = ' '

theorem plain_of_mem_setWords (h : word ∈ setWords) : Plain word := by
  simp only [setWords, List.mem_cons, List.not_mem_nil, or_false] at h
  rcases h with rfl | rfl
  all_goals decide

theorem ne_nil_of_mem_setWords (h : word ∈ setWords) : word ≠ [] := by
  simp only [setWords, List.mem_cons, List.not_mem_nil, or_false] at h
  rcases h with rfl | rfl
  all_goals decide

/-- What is read as an operator is a word behind a space, and the word is no operator behind other
white space. -/
theorem setOperator?_word {make : String → List String → Requirement}
    (h : setOperator? s = some (before, make)) :
    ∃ word ∈ setWords, s = before ++ ' ' :: word ∧ ∀ a c, isSpace c = true →
      setOperator? (a ++ c :: word) = if c = ' ' then some (a, make) else none := by
  rw [setOperator?] at h
  split at h
  · rename_i key hkey
    cases h
    refine ⟨"notin".toList, by decide, stripEnd?_eq_some_iff.mp hkey, fun a c _ => ?_⟩
    have hin : stripEnd? " in".toList (a ++ c :: "notin".toList) = none := by
      simp [stripEnd?, stripStart?]
    rw [setOperator?, hin, show " notin".toList = ' ' :: "notin".toList from rfl, stripEnd?_cons]
    by_cases hspace : c = ' '
    · rw [if_pos hspace, if_pos hspace]
    · rw [if_neg hspace, if_neg hspace]
      rfl
  · obtain ⟨key, hkey, heq⟩ := Option.map_eq_some_iff.mp h
    cases heq
    refine ⟨"in".toList, by decide, stripEnd?_eq_some_iff.mp hkey, fun a c hc => ?_⟩
    have hnotin : stripEnd? " notin".toList (a ++ c :: "in".toList) = none := by
      -- the longer word has a letter where the white space stands
      have hletter : 't' ≠ c := by
        rintro rfl
        exact absurd hc (by decide)
      simp [stripEnd?, stripStart?, hletter]
    rw [setOperator?, hnotin, show " in".toList = ' ' :: "in".toList from rfl, stripEnd?_cons]
    by_cases hspace : c = ' '
    · rw [if_pos hspace, if_pos hspace]
      rfl
    · rw [if_neg hspace, if_neg hspace]
      rfl

/-- A text without a parenthesis has no such words. -/
theorem spacedWords_of_notMem (h : '(' ∉ s) : SpacedWords s := by
  intro c word gap hwithin _ _ _
  exact absurd (hwithin.subset (by simp)) h

/-- The white space in front of the last word of a text, looked for from the end. -/
def spaceBeforeWord? (s : List Char) : Option Char :=
  ((s.reverse.dropWhile isSpace).dropWhile fun c => !isSpace c).head?

theorem spaceBeforeWord?_append (hc : isSpace c = true) (hword : word ∈ setWords)
    (hgap : Blank gap) : spaceBeforeWord? (front ++ c :: (word ++ gap)) = some c := by
  have hsolid : Solid word.reverse := (plain_of_mem_setWords hword).solid.reverse
  have hturned : (front ++ c :: (word ++ gap)).reverse
      = gap.reverse ++ (word.reverse ++ c :: front.reverse) := by simp
  have hkept : (word.reverse ++ c :: front.reverse).dropWhile isSpace
      = word.reverse ++ c :: front.reverse := by
    obtain ⟨d, rest, hd⟩ := List.exists_cons_of_ne_nil
      (mt List.reverse_eq_nil_iff.mp (ne_nil_of_mem_setWords hword))
    rw [hd] at hsolid ⊢
    rw [List.cons_append, List.dropWhile_cons_of_neg]
    simp [hsolid d List.mem_cons_self]
  rw [spaceBeforeWord?, hturned, List.dropWhile_append_of_pos hgap.reverse, hkept,
    List.dropWhile_append_of_pos fun d hd => by simp [hsolid d hd],
    List.dropWhile_cons_of_neg (by simp [hc])]
  rfl

/-- At the one parenthesis of a text stands the one word to look at. -/
theorem spacedWords_iff (hc : isSpace c = true) (hword : word ∈ setWords) (hgap : Blank gap)
    (hfront : '(' ∉ front) (htail : '(' ∉ tail) :
    SpacedWords (front ++ c :: (word ++ gap) ++ '(' :: tail) ↔ c = ' ' := by
  constructor
  · intro h
    exact h c word gap ⟨front, tail, by simp⟩ hc hword hgap
  · rintro rfl d word' gap' ⟨x, y, hxy⟩ hd hword' hgap'
    have hplain : '(' ∉ word := (plain_of_mem_setWords hword).notMem (by decide)
    have hblank : '(' ∉ gap := hgap.notMem (by decide)
    have hcut : front ++ ' ' :: (word ++ gap) ++ '(' :: tail
        = x ++ d :: (word' ++ gap') ++ '(' :: y := by
      rw [← hxy]
      simp
    obtain ⟨hsame, -, -⟩ := (List.append_cons_inj_of_notMem
      (by simp [hfront, hplain, hblank]) htail).mp hcut
    have hspace := congrArg spaceBeforeWord? hsame
    rw [spaceBeforeWord?_append hc hword hgap, spaceBeforeWord?_append hd hword' hgap'] at hspace
    exact (Option.some.inj hspace).symm

/-! ## Keys, values and sets -/

/-- A key or a value is the same whatever white space is around it. -/
theorem trimChars_respaced (h : Respaced s t) (hs : Plain (trimChars s)) :
    trimChars t = trimChars s :=
  (h.trimChars.eq_of_solid hs.solid).symm

theorem parseKey_respaced (h : Respaced s t) (hs : parseKey (trimChars s) = .ok key) :
    parseKey (trimChars t) = .ok key := by
  rw [trimChars_respaced h (plain_of_parseKey hs)]
  exact hs

theorem parseValue_respaced (h : Respaced s t) (hs : parseValue (trimChars s) = .ok value) :
    parseValue (trimChars t) = .ok value := by
  rw [trimChars_respaced h (plain_of_parseValue hs)]
  exact hs

theorem parseSides_respaced {make : String → String → Requirement}
    (h : Respaced sides.1 sides'.1 ∧ Respaced sides.2 sides'.2)
    (hs : parseSides make sides = .ok r) : parseSides make sides' = .ok r := by
  obtain ⟨key, value, hkey, hvalue, rfl⟩ := parseSides_eq_ok_iff.mp hs
  exact parseSides_eq_ok_iff.mpr
    ⟨key, value, parseKey_respaced h.1 hkey, parseValue_respaced h.2 hvalue, rfl⟩

theorem parseValues_respaced {values : List String} (h : List.Forall₂ Respaced raw raw')
    (hs : (raw.mapM fun piece => parseValue (trimChars piece)) = .ok values) :
    (raw'.mapM fun piece => parseValue (trimChars piece)) = .ok values := by
  rw [mapM_eq_ok_iff] at hs ⊢
  induction h generalizing values with
  | nil => exact hs
  | cons hpiece _ ih =>
      cases hs with
      | cons hvalue hmore => exact .cons (parseValue_respaced hpiece hvalue) (ih hmore)

theorem readSet_respaced {make : String → List String → Requirement} (h : Respaced body body')
    (hbefore : trimChars before' = trimChars before) (hs : readSet make before body = .ok r) :
    readSet make before' body' = .ok r := by
  obtain ⟨key, values, hvalues, hset, hkey, rfl⟩ := readSet_eq_ok_iff.mp hs
  have hvalues' := parseValues_respaced (h.splitOn (by decide)) hvalues
  exact readSet_eq_ok_iff.mpr ⟨key, values, hvalues', hset, hbefore ▸ hkey, rfl⟩

/-- No parenthesis is opened among the values of a set. -/
theorem paren_notMem_of_readSet {make : String → List String → Requirement}
    (h : readSet make before body = .ok r) : '(' ∉ body := by
  obtain ⟨-, values, hvalues, -, -, -⟩ := readSet_eq_ok_iff.mp h
  intro hmem
  rw [← intercalate_splitOn ',' body] at hmem
  rcases mem_of_mem_intercalate hmem with hcomma | ⟨piece, hpiece, hmem⟩
  · exact absurd hcomma (by decide)
  · obtain ⟨value, -, hvalue⟩ := exists_of_mem_of_mapM hvalues hpiece
    exact notMem_of_plain (plain_of_parseValue hvalue) (by decide) (by decide) hmem

/-! ## One requirement -/

/-- A requirement without a set is read whatever white space is in its text. -/
theorem ReadAs.respaced (h : ReadAs s r) (hr : r.Setless) (hst : Respaced s t) : ReadAs t r := by
  have hmissing {c : Char} {ps : List Char} (hpattern : Solid (c :: ps))
      (h : splitOnce? (c :: ps) s = none) : splitOnce? (c :: ps) t = none :=
    eq_none_of_rel (h ▸ hst.splitOnce? hpattern)
  have hunmarked (h : stripStart? ['!'] s = none) : stripStart? ['!'] t = none :=
    eq_none_of_rel (h ▸ hst.stripStart? (by decide))
  cases h with
  | absent hmark hkey =>
      obtain ⟨rest, hmark', hrest⟩ := exists_of_rel (hmark ▸ hst.stripStart? (by decide))
      exact .absent hmark' (parseKey_respaced hrest hkey)
  | differs hmark hsides hread =>
      obtain ⟨sides', hsides', h⟩ := exists_of_rel (hsides ▸ hst.splitOnce? (by decide))
      exact .differs (hunmarked hmark) hsides' (parseSides_respaced h hread)
  | equalsTwice hmark hdiffers hsides hread =>
      obtain ⟨sides', hsides', h⟩ := exists_of_rel (hsides ▸ hst.splitOnce? (by decide))
      exact .equalsTwice (hunmarked hmark) (hmissing (by decide) hdiffers) hsides'
        (parseSides_respaced h hread)
  | equals hmark hdiffers htwice hsides hread =>
      obtain ⟨sides', hsides', h⟩ := exists_of_rel (hsides ▸ hst.splitOnce? (by decide))
      exact .equals (hunmarked hmark) (hmissing (by decide) hdiffers)
        (hmissing (by decide) htwice) hsides' (parseSides_respaced h hread)
  | set _ _ _ _ _ hread => exact absurd hr (not_setless_of_parseSet hread)
  | present hmark hdiffers htwice hequals hset hkey =>
      obtain rfl : s = t := hst.eq_of_solid (plain_of_parseKey hkey).solid
      exact .present hmark hdiffers htwice hequals hset hkey

/-- A requirement with a set is read if its word is behind a space still. -/
theorem parseSet_respaced {term : List Char} (h : parseSet term head tail = .ok r)
    (hhead : Respaced head head') (htail : Respaced tail tail') (term' : List Char) :
    '(' ∉ tail' ∧ ∃ front c word gap, head' = front ++ c :: (word ++ gap) ∧ isSpace c = true ∧
      word ∈ setWords ∧ Blank gap ∧
      parseSet term' head' tail' =
        if c = ' ' then .ok r else .error (.unknownOperator (String.ofList term')) := by
  rw [parseSet_eq] at h
  split at h
  · cases h
  · cases h
  rename_i before make body hmake hbody
  obtain ⟨word, hword, htrim, hoperator⟩ := setOperator?_word hmake
  have htrimmed : Respaced (before ++ [' '] ++ word) (trimChars head') := by
    rw [List.append_assoc]
    exact htrim ▸ hhead.trimChars
  obtain ⟨t, ht, hfront⟩ := htrimmed.of_append_right (plain_of_mem_setWords hword).solid
  obtain ⟨front, c, rfl, hc⟩ := hfront.exists_space (by decide)
  obtain ⟨lead, gap, hhead', -, hgap⟩ := exists_gaps head'
  obtain ⟨body', hbody', hbodies⟩ := exists_of_rel (hbody ▸ htail.stripEnd? (by decide))
  -- the same key stands in front of the word
  have hkey : trimChars front = trimChars before := by
    obtain ⟨key, -, -, -, hkey, -⟩ := readSet_eq_ok_iff.mp h
    have hbefore : trimChars (before ++ [' ']) = trimChars before :=
      trimChars_append_right (by decide) before
    have hsame : trimChars (front ++ [c]) = trimChars front :=
      trimChars_append_right (by simpa [Blank] using hc) front
    rw [← hbefore, ← hsame]
    exact trimChars_respaced hfront (hbefore ▸ plain_of_parseKey hkey)
  refine ⟨?_, lead ++ front, c, word, gap, ?_, hc, hword, hgap, ?_⟩
  · have hparen : '(' ∉ body' :=
      mt (hbodies.mem_iff (by decide)).mpr (paren_notMem_of_readSet h)
    rw [stripEnd?_eq_some_iff.mp hbody']
    simp [hparen]
  · rw [hhead', ht]
    simp
  · rw [parseSet_eq, ht, List.append_assoc, List.singleton_append, hoperator front c hc, hbody']
    by_cases hspace : c = ' '
    · rw [if_pos hspace, if_pos hspace]
      exact readSet_respaced hbodies hkey h
    · rw [if_neg hspace, if_neg hspace]

/-- At the parenthesis of a requirement with a set stands the white space that decides how the text
is read. -/
theorem ReadAs.exists_word (h : ReadAs (trimChars s) r) (hr : ¬ r.Setless) (hst : Respaced s t) :
    ∃ c, (SpacedWords t ↔ c = ' ') ∧ parseTerm (trimChars t) =
      if c = ' ' then .ok r else .error (.unknownOperator (String.ofList (trimChars t))) := by
  obtain ⟨head, tail, hmark, hdiffers, htwice, hequals, hsides, hset⟩ := h.exists_set hr
  have htrim := hst.trimChars
  have hmark' := eq_none_of_rel (hmark ▸ htrim.stripStart? (by decide))
  have hdiffers' := eq_none_of_rel (hdiffers ▸ htrim.splitOnce? (by decide))
  have htwice' := eq_none_of_rel (htwice ▸ htrim.splitOnce? (by decide))
  have hequals' := eq_none_of_rel (hequals ▸ htrim.splitOnce? (by decide))
  obtain ⟨⟨head', tail'⟩, hsides', hhead, htail⟩ :=
    exists_of_rel (hsides ▸ htrim.splitOnce? (by decide))
  have hread : parseTerm (trimChars t) = parseSet (trimChars t) head' tail' := by
    rw [parseTerm, hmark', hdiffers', htwice', hequals', hsides']
  obtain ⟨hparen, front, c, word, gap, rfl, hc, hword, hgap, hset'⟩ :=
    parseSet_respaced hset hhead htail (trimChars t)
  refine ⟨c, ?_, hread.trans hset'⟩
  obtain ⟨lead, trail, ht, hlead, htrail⟩ := exists_gaps t
  have hwhole : t = lead ++ front ++ c :: (word ++ gap) ++ '(' :: (tail' ++ trail) := by
    rw [eq_of_splitOnce? hsides'] at ht
    simpa using ht
  have hblank {gap : List Char} (hgap : Blank gap) : '(' ∉ gap := hgap.notMem (by decide)
  have hfront : '(' ∉ front :=
    fun hmem => notMem_of_splitOnce? hsides' (List.mem_append_left _ hmem)
  have htail' : '(' ∉ tail' := hparen
  rw [hwhole]
  exact spacedWords_iff hc hword hgap (by simp [hblank hlead, hfront])
    (by simp [hblank htrail, htail'])

/-- A requirement is read as before if its word, where it has one, is behind a space. -/
theorem parseTerm_respaced (h : parseTerm (trimChars s) = .ok r) (hst : Respaced s t) :
    (SpacedWords t → parseTerm (trimChars t) = .ok r) ∧
      (¬ SpacedWords t → ∃ term, parseTerm (trimChars t) = .error (.unknownOperator term)) := by
  rw [parseTerm_eq_ok_iff] at h
  by_cases hr : r.Setless
  · have hparen : '(' ∉ t := by
      rw [← hst.mem_iff (by decide), ← mem_trimChars_iff (by decide)]
      exact h.paren_notMem hr
    exact ⟨fun _ => parseTerm_eq_ok_iff.mpr (h.respaced hr hst.trimChars),
      fun hnot => absurd (spacedWords_of_notMem hparen) hnot⟩
  · obtain ⟨c, hspaced, hread⟩ := h.exists_word hr hst
    rw [hread, hspaced]
    by_cases hspace : c = ' '
    · simp [hspace]
    · simp [hspace]

/-! ## Cutting -/

/-- White space in front of a text stays in front of its first piece. -/
theorem splitTerms_gap (hgap : Blank gap) (h : splitTerms depth (gap ++ s) = .ok pieces) :
    ∃ first more, splitTerms depth s = .ok (first :: more) ∧ pieces = (gap ++ first) :: more := by
  induction gap generalizing pieces with
  | nil =>
      obtain ⟨first, more, rfl⟩ := List.exists_cons_of_ne_nil (splitTerms_comma h []).1
      exact ⟨first, more, h, rfl⟩
  | cons c gap ih =>
      obtain ⟨hc, hgap⟩ := List.forall_mem_cons.mp hgap
      have hother {d : Char} (hd : isSpace d = false) : c ≠ d := by
        rintro rfl
        rw [hc] at hd
        cases hd
      rcases splitTerms_cons_eq_ok h with
        ⟨hcomma, -⟩ | ⟨inside, first, more, hrest, rfl, -, hopen, hclose, -⟩
      · exact absurd hcomma (hother (by decide))
      · obtain rfl : inside = depth :=
          le_antisymm (hopen (hother (by decide))) (hclose (hother (by decide)))
        obtain ⟨first', more', hs, heq⟩ := ih hgap hrest
        cases heq
        exact ⟨first', more, hs, rfl⟩

/-- A text is cut at the same commas whatever white space is in it. -/
theorem splitTerms_respaced (h : splitTerms depth s = .ok raw) (hst : Respaced s t) :
    ∃ raw', splitTerms depth t = .ok raw' ∧ List.Forall₂ Respaced raw raw' := by
  induction hst generalizing depth raw with
  | nil =>
      have hsame := h
      rw [splitTerms] at h
      split at h
      · cases h
        exact ⟨[[]], hsame, .cons .nil .nil⟩
      · cases h
  | char hc _ ih =>
      rcases splitTerms_cons_eq_ok h with
        ⟨rfl, rfl, more, hmore, rfl⟩ | ⟨inside, first, more, hrest, rfl, -, -, -, hagain⟩
      · obtain ⟨more', hmore', hpieces⟩ := ih hmore
        refine ⟨[] :: more', ?_, .cons .nil hpieces⟩
        rw [splitTerms, if_neg (by decide), if_neg (by decide), if_pos ⟨rfl, rfl⟩, hmore']
        rfl
      · obtain ⟨_, hraw', hpieces⟩ := ih hrest
        cases hpieces with
        | cons hfirst hmore => exact ⟨_, hagain _ _ _ hraw', .cons (.char hc hfirst) hmore⟩
  | gap hg hg' _ ih =>
      obtain ⟨first, more, hrest, rfl⟩ := splitTerms_gap hg.2 h
      obtain ⟨_, hraw', hpieces⟩ := ih hrest
      cases hpieces with
      | cons hfirst hmore =>
          exact ⟨_, splitTerms_run (hg'.2.notMem (by decide)) (hg'.2.notMem (by decide))
            (Or.inl (hg'.2.notMem (by decide))) hraw', .cons (.gap hg hg' hfirst) hmore⟩

/-- A comma ends what is in front of a word. -/
theorem spacedWords_comma : SpacedWords (s ++ ',' :: t) ↔ SpacedWords s ∧ SpacedWords t := by
  have hsides {c : Char} {word gap : List Char} (hc : isSpace c = true) (hword : word ∈ setWords)
      (hgap : Blank gap) :
      c :: (word ++ gap ++ ['(']) <:+: s ++ ',' :: t ↔
        c :: (word ++ gap ++ ['(']) <:+: s ∨ c :: (word ++ gap ++ ['(']) <:+: t := by
    refine infix_append_cons_iff (List.cons_ne_nil _ _) ?_
    have hplain : ',' ∉ word := (plain_of_mem_setWords hword).notMem (by decide)
    have hother : ',' ≠ c := by
      rintro rfl
      exact absurd hc (by decide)
    simp [hother, hplain, hgap.notMem (show isSpace ',' = false by decide)]
  constructor
  · intro h
    exact ⟨fun c word gap hwithin hc hword hgap =>
        h c word gap ((hsides hc hword hgap).mpr (Or.inl hwithin)) hc hword hgap,
      fun c word gap hwithin hc hword hgap =>
        h c word gap ((hsides hc hword hgap).mpr (Or.inr hwithin)) hc hword hgap⟩
  · rintro ⟨hs, ht⟩ c word gap hwithin hc hword hgap
    rcases (hsides hc hword hgap).mp hwithin with hwithin | hwithin
    · exact hs c word gap hwithin hc hword hgap
    · exact ht c word gap hwithin hc hword hgap

theorem spacedWords_intercalate :
    SpacedWords ([','].intercalate pieces) ↔ ∀ piece ∈ pieces, SpacedWords piece := by
  induction pieces with
  | nil => simpa using spacedWords_of_notMem List.not_mem_nil
  | cons piece rest ih =>
      cases rest with
      | nil => simp
      | cons piece' rest =>
          rw [List.intercalate_cons_cons, List.append_assoc, List.singleton_append,
            spacedWords_comma, ih]
          exact List.forall_mem_cons.symm

/-! ## The whole selector -/

section
variable {a b : String} {selector : Selector}

/-- Pieces are read as before if their words are behind spaces, and one of them is refused if its
word is not. -/
theorem mapM_respaced {rs : List Requirement}
    (hread : List.Forall₂ (fun piece r => parseTerm (trimChars piece) = .ok r) raw rs)
    (h : List.Forall₂ Respaced raw raw') :
    ((∀ piece ∈ raw', SpacedWords piece) →
        (raw'.mapM fun piece => parseTerm (trimChars piece)) = .ok rs) ∧
      ((¬ ∀ piece ∈ raw', SpacedWords piece) →
        ∃ term, (raw'.mapM fun piece => parseTerm (trimChars piece))
          = .error (.unknownOperator term)) := by
  induction h generalizing rs with
  | nil =>
      exact ⟨fun _ => mapM_eq_ok_iff.mpr hread, fun hnot => absurd (List.forall_mem_nil _) hnot⟩
  | @cons _ piece _ _ hpiece _ ih =>
      cases hread with
      | cons hr hrs =>
          obtain ⟨hok, herror⟩ := parseTerm_respaced hr hpiece
          obtain ⟨hoks, herrors⟩ := ih hrs
          rw [List.forall_mem_cons, List.mapM_cons]
          constructor
          · rintro ⟨hspaced, hmore⟩
            rw [hok hspaced, hoks hmore]
            rfl
          · intro hnot
            by_cases hspaced : SpacedWords piece
            · obtain ⟨term, hterm⟩ := herrors fun hmore => hnot ⟨hspaced, hmore⟩
              rw [hok hspaced, hterm]
              exact ⟨term, rfl⟩
            · obtain ⟨term, hterm⟩ := herror hspaced
              rw [hterm]
              exact ⟨term, rfl⟩

/-- The pieces of a text that asks for something are found again in it. -/
theorem terms_respaced (h : terms s = .ok pieces) (hne : pieces ≠ []) (hst : Respaced s t) :
    ∃ raw raw', raw.map trimChars = pieces ∧ t = [','].intercalate raw' ∧
      List.Forall₂ Respaced raw raw' ∧ terms t = .ok (raw'.map trimChars) := by
  obtain ⟨hproper, raw, hraw, rfl⟩ := (terms_eq_ok_iff hne).mp h
  obtain ⟨raw', hraw', hpieces⟩ := splitTerms_respaced hraw hst
  have htrimmed : List.Forall₂ Respaced (raw.map trimChars) (raw'.map trimChars) := by
    rw [List.forall₂_map_left_iff, List.forall₂_map_right_iff]
    exact hpieces.imp fun _ _ h => h.trimChars
  have hne' : raw'.map trimChars ≠ [] := by
    intro heq
    rw [heq, List.forall₂_nil_right_iff] at htrimmed
    exact hne htrimmed
  exact ⟨raw, raw', rfl, (intercalate_splitTerms hraw').symm, hpieces,
    (terms_eq_ok_iff hne').mpr ⟨mt (nil_mem_iff htrimmed).mpr hproper, raw', hraw', rfl⟩⟩

theorem parse_of_terms (h : terms a.toList = .ok pieces) :
    parse a = (pieces.mapM parseTerm).map Selector.mk := by
  rw [parse, h]
  rfl

/-- A blank text asks for nothing, whatever white space it is made of. -/
theorem parse_respaced_blank (h : Respaced a.toList b.toList) (hblank : trimChars a.toList = []) :
    parse b = .ok ⟨[]⟩ ∧ SpacedWords b.toList := by
  have hb : trimChars b.toList = [] := h.trimChars.eq_nil_iff.mp hblank
  refine ⟨parse_eq_ok_iff.mpr ⟨[], terms_eq_nil_iff.mpr hb, rfl⟩, spacedWords_of_notMem ?_⟩
  rw [← mem_trimChars_iff (by decide), hb]
  exact List.not_mem_nil

/-- A selector with other white space is read as before if its words are behind spaces, and refused
if one of them is not. -/
theorem parse_respaced (hparse : parse a = .ok selector) (h : Respaced a.toList b.toList) :
    (SpacedWords b.toList → parse b = .ok selector) ∧
      (¬ SpacedWords b.toList → ∃ term, parse b = .error (.unknownOperator term)) := by
  obtain ⟨pieces, hterms, hread⟩ := parse_eq_ok_iff.mp hparse
  by_cases hne : pieces = []
  · subst hne
    obtain rfl : selector = ⟨[]⟩ := by
      cases selector
      cases hread
      rfl
    obtain ⟨hb, hspaced⟩ := parse_respaced_blank h (terms_eq_nil_iff.mp hterms)
    exact ⟨fun _ => hb, fun hnot => absurd hspaced hnot⟩
  obtain ⟨raw, raw', rfl, hwhole, hpieces, hterms'⟩ := terms_respaced hterms hne h
  rw [List.mapM_map, mapM_eq_ok_iff] at hread
  obtain ⟨hok, herror⟩ := mapM_respaced hread hpieces
  rw [parse_of_terms hterms', List.mapM_map, hwhole, spacedWords_intercalate]
  constructor
  · intro hspaced
    rw [Function.comp_def, hok hspaced]
    rfl
  · intro hnot
    obtain ⟨term, hterm⟩ := herror hnot
    rw [Function.comp_def, hterm]
    exact ⟨term, rfl⟩

/-- A selector with other white space where it has some is read as before exactly if the words in
front of its sets stand behind spaces. Otherwise it is refused, as one with an unknown operator. -/
theorem parse_respaced_iff (hparse : parse a = .ok selector) (h : Respaced a.toList b.toList) :
    (parse b = .ok selector ↔ SpacedWords b.toList) ∧
      (¬ SpacedWords b.toList → ∃ term, parse b = .error (.unknownOperator term)) := by
  obtain ⟨hok, herror⟩ := parse_respaced hparse h
  refine ⟨⟨fun hb => ?_, hok⟩, herror⟩
  by_contra hnot
  obtain ⟨term, hterm⟩ := herror hnot
  rw [hb] at hterm
  cases hterm

/-- Lines and tabs, with a space in front of the word still. -/
theorem parse_respaced_lines :
    Respaced "env in (prod, dev)".toList "env\n in\t(prod,\r\ndev)".toList ∧
      parse "env in (prod, dev)" = .ok ⟨[.oneOf "env" ["prod", "dev"]]⟩ ∧
      parse "env\n in\t(prod,\r\ndev)" = .ok ⟨[.oneOf "env" ["prod", "dev"]]⟩ := by
  have hparse : parse "env in (prod, dev)" = .ok ⟨[.oneOf "env" ["prod", "dev"]]⟩ := by rfl
  have hspace : IsGap [' '] := ⟨by decide, by decide⟩
  have hset : Respaced ("(prod,".toList ++ ([' '] ++ "dev)".toList))
      ("(prod,".toList ++ (['\r', '\n'] ++ "dev)".toList)) :=
    (Respaced.refl _).append (.gap hspace ⟨by decide, by decide⟩ (.refl _))
  have hword : Respaced ("in".toList ++ ([' '] ++ "(prod, dev)".toList))
      ("in".toList ++ (['\t'] ++ "(prod,\r\ndev)".toList)) :=
    (Respaced.refl _).append (.gap hspace ⟨by decide, by decide⟩ hset)
  have hlines : Respaced ("env".toList ++ ([' '] ++ "in (prod, dev)".toList))
      ("env".toList ++ (['\n', ' '] ++ "in\t(prod,\r\ndev)".toList)) :=
    (Respaced.refl _).append (.gap hspace ⟨by decide, by decide⟩ hword)
  have hrespaced : Respaced "env in (prod, dev)".toList "env\n in\t(prod,\r\ndev)".toList :=
    hlines
  have hspaced : SpacedWords ("env\n".toList ++ ' ' :: ("in".toList ++ ['\t']) ++ '(' ::
      "prod,\r\ndev)".toList) :=
    (spacedWords_iff (by decide) (by decide) (by decide) (by decide) (by decide)).mpr rfl
  exact ⟨hrespaced, hparse, (parse_respaced_iff hparse hrespaced).1.mpr hspaced⟩

/-- A tab in front of the word, where the selector has a space: it is refused. -/
theorem tab_in_front_of_word :
    Respaced "env in (prod)".toList "env\tin (prod)".toList ∧
      parse "env in (prod)" = .ok ⟨[.oneOf "env" ["prod"]]⟩ ∧
      parse "env\tin (prod)" = .error (.unknownOperator "env\tin (prod)") := by
  have hrespaced : Respaced ("env".toList ++ ([' '] ++ "in (prod)".toList))
      ("env".toList ++ (['\t'] ++ "in (prod)".toList)) :=
    (Respaced.refl _).append (.gap ⟨by decide, by decide⟩ ⟨by decide, by decide⟩ (.refl _))
  exact ⟨hrespaced, by rfl, by rfl⟩

end

end FleetGate.Selector
