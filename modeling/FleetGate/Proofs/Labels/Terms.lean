import FleetGate.Proofs.Labels.Conjunction
import FleetGate.Proofs.Labels.Selector

/-! # How one requirement is read

The reader of a requirement looks for the marks of the forms in a fixed order, and reads it by the
first mark that it finds (`ReadAs`). Around the marks stand keys and values, with white space at
their ends, so that no mark of another form is hidden there.
-/

namespace FleetGate

open Text

/-- A requirement without a set of values. -/
def Requirement.Setless : Requirement → Prop
  | .equals _ _ | .differs _ _ | .present _ | .absent _ => True
  | .oneOf _ _ | .noneOf _ _ => False

namespace Selector

variable {s head tail : List Char} {sides : List Char × List Char} {key value : String}
  {r : Requirement} {c : Char} {pieces : List (List Char)}

/-- How a text is read as a requirement. -/
inductive ReadAs (s : List Char) : Requirement → Prop
  | absent {rest : List Char} {key : String} (hmark : stripStart? ['!'] s = some rest)
      (hkey : parseKey (trimChars rest) = .ok key) : ReadAs s (.absent key)
  | differs {sides : List Char × List Char} {r : Requirement} (hmark : stripStart? ['!'] s = none)
      (hsides : splitOnce? ['!', '='] s = some sides) (hread : parseSides .differs sides = .ok r) :
      ReadAs s r
  | equalsTwice {sides : List Char × List Char} {r : Requirement}
      (hmark : stripStart? ['!'] s = none) (hdiffers : splitOnce? ['!', '='] s = none)
      (hsides : splitOnce? ['=', '='] s = some sides) (hread : parseSides .equals sides = .ok r) :
      ReadAs s r
  | equals {sides : List Char × List Char} {r : Requirement} (hmark : stripStart? ['!'] s = none)
      (hdiffers : splitOnce? ['!', '='] s = none) (htwice : splitOnce? ['=', '='] s = none)
      (hsides : splitOnce? ['='] s = some sides) (hread : parseSides .equals sides = .ok r) :
      ReadAs s r
  | set {head tail : List Char} {r : Requirement} (hmark : stripStart? ['!'] s = none)
      (hdiffers : splitOnce? ['!', '='] s = none) (htwice : splitOnce? ['=', '='] s = none)
      (hequals : splitOnce? ['='] s = none) (hsides : splitOnce? ['('] s = some (head, tail))
      (hread : parseSet s head tail = .ok r) : ReadAs s r
  | present {key : String} (hmark : stripStart? ['!'] s = none)
      (hdiffers : splitOnce? ['!', '='] s = none) (htwice : splitOnce? ['=', '='] s = none)
      (hequals : splitOnce? ['='] s = none) (hset : splitOnce? ['('] s = none)
      (hkey : parseKey s = .ok key) : ReadAs s (.present key)

theorem parseTerm_eq_ok_iff : parseTerm s = .ok r ↔ ReadAs s r := by
  constructor
  · intro h
    rw [parseTerm] at h
    split at h
    · obtain ⟨key, hkey, rfl⟩ := map_eq_ok_iff.mp h
      exact .absent ‹_› hkey
    split at h
    · exact .differs ‹_› ‹_› h
    split at h
    · exact .equalsTwice ‹_› ‹_› ‹_› h
    split at h
    · exact .equals ‹_› ‹_› ‹_› ‹_› h
    split at h
    · exact .set ‹_› ‹_› ‹_› ‹_› ‹_› h
    · obtain ⟨key, hkey, rfl⟩ := map_eq_ok_iff.mp h
      exact .present ‹_› ‹_› ‹_› ‹_› ‹_› hkey
  · intro h
    cases h with
    | absent hmark hkey => simp [parseTerm, hmark, hkey, Except.map]
    | differs hmark hsides hread => simp [parseTerm, hmark, hsides, hread]
    | equalsTwice hmark hdiffers hsides hread => simp [parseTerm, hmark, hdiffers, hsides, hread]
    | equals hmark hdiffers htwice hsides hread =>
        simp [parseTerm, hmark, hdiffers, htwice, hsides, hread]
    | set hmark hdiffers htwice hequals hsides hread =>
        simp [parseTerm, hmark, hdiffers, htwice, hequals, hsides, hread]
    | present hmark hdiffers htwice hequals hset hkey =>
        simp [parseTerm, hmark, hdiffers, htwice, hequals, hset, hkey, Except.map]

/-! ## What stands around the marks -/

/-- Around a key or a value there is white space only. -/
theorem notMem_of_plain (h : Plain (trimChars s)) (hc : isPlain c = false)
    (hspace : isSpace c = false) : c ∉ s :=
  mt (mem_trimChars_iff hspace).mpr (h.notMem hc)

theorem plain_of_parseKey (h : parseKey s = .ok key) : Plain s := by
  obtain ⟨rfl, hkey⟩ := parseKey_eq_ok_iff.mp h
  exact hkey.plain_toList

theorem plain_of_parseValue (h : parseValue s = .ok value) : Plain s := by
  obtain ⟨rfl, hvalue⟩ := parseValue_eq_ok_iff.mp h
  exact hvalue.plain

theorem plain_of_parseSides {make : String → String → Requirement}
    (h : parseSides make sides = .ok r) :
    Plain (trimChars sides.1) ∧ Plain (trimChars sides.2) := by
  obtain ⟨key, value, hkey, hvalue, -⟩ := parseSides_eq_ok_iff.mp h
  exact ⟨plain_of_parseKey hkey, plain_of_parseValue hvalue⟩

/-- A set is read as a requirement with a set. -/
theorem not_setless_of_parseSet (h : parseSet s head tail = .ok r) : ¬ r.Setless := by
  rw [parseSet_eq] at h
  split at h
  · cases h
  · cases h
  rename_i _ make _ hmake _
  obtain ⟨key, values, -, -, -, rfl⟩ := readSet_eq_ok_iff.mp h
  rcases setOperator?_eq_some hmake with rfl | rfl
  · exact not_false
  · exact not_false

/-- Only a requirement with a set has a parenthesis. -/
theorem ReadAs.paren_notMem (h : ReadAs s r) (hr : r.Setless) : '(' ∉ s := by
  have hparen {s : List Char} (h : Plain (trimChars s)) : '(' ∉ s :=
    notMem_of_plain h (by decide) (by decide)
  have hsides {pattern : List Char} {sides : List Char × List Char}
      {make : String → String → Requirement} (hpattern : '(' ∉ pattern)
      (h : splitOnce? pattern s = some sides) (hread : parseSides make sides = .ok r) :
      '(' ∉ s := by
    obtain ⟨hfront, hback⟩ := plain_of_parseSides hread
    rw [eq_of_splitOnce? h]
    simp [hparen hfront, hparen hback, hpattern]
  cases h with
  | absent hmark hkey =>
      obtain rfl := stripStart?_eq_some_iff.mp hmark
      simpa using hparen (plain_of_parseKey hkey)
  | differs _ h hread => exact hsides (by decide) h hread
  | equalsTwice _ _ h hread => exact hsides (by decide) h hread
  | equals _ _ _ h hread => exact hsides (by decide) h hread
  | set _ _ _ _ _ hread => exact absurd hr (not_setless_of_parseSet hread)
  | present _ _ _ _ _ hkey => exact (plain_of_parseKey hkey).notMem (by decide)

/-- A requirement with a set is read by its parenthesis. -/
theorem ReadAs.exists_set (h : ReadAs s r) (hr : ¬ r.Setless) :
    ∃ head tail, stripStart? ['!'] s = none ∧ splitOnce? ['!', '='] s = none ∧
      splitOnce? ['=', '='] s = none ∧ splitOnce? ['='] s = none ∧
      splitOnce? ['('] s = some (head, tail) ∧ parseSet s head tail = .ok r := by
  have hsides {make : String → String → Requirement} {sides : List Char × List Char}
      (hread : parseSides make sides = .ok r) (hmake : ∀ key value, (make key value).Setless) :
      r.Setless := by
    obtain ⟨key, value, -, -, rfl⟩ := parseSides_eq_ok_iff.mp hread
    exact hmake key value
  cases h with
  | absent => exact absurd trivial hr
  | differs _ _ hread => exact absurd (hsides hread fun _ _ => trivial) hr
  | equalsTwice _ _ _ hread => exact absurd (hsides hread fun _ _ => trivial) hr
  | equals _ _ _ _ hread => exact absurd (hsides hread fun _ _ => trivial) hr
  | @set head tail _ hmark hdiffers htwice hequals hsides hread =>
      exact ⟨head, tail, hmark, hdiffers, htwice, hequals, hsides, hread⟩
  | present => exact absurd trivial hr

/-! ## Cutting at commas -/

/-- Where a text can be cut, its first character is a comma that ends a piece, or it stands in front
of the first piece of what is behind it. -/
theorem splitTerms_cons_eq_ok (h : splitTerms depth (c :: s) = .ok pieces) :
    (c = ',' ∧ depth = 0 ∧ ∃ more, splitTerms 0 s = .ok more ∧ pieces = [] :: more) ∨
      ∃ inside first more, splitTerms inside s = .ok (first :: more) ∧
        pieces = (c :: first) :: more ∧ (c = ',' → depth ≠ 0) ∧ (c ≠ '(' → inside ≤ depth) ∧
        (c ≠ ')' → depth ≤ inside) ∧
        ∀ t first more, splitTerms inside t = .ok (first :: more) →
          splitTerms depth (c :: t) = .ok ((c :: first) :: more) := by
  have hprepend (inside : ℕ) {front : List (List Char) → List (List Char)}
      (hstep : ∀ t, splitTerms depth (c :: t) = (splitTerms inside t).map front)
      (hfront : ∀ first more, front (first :: more) = (c :: first) :: more) :
      ∃ first more, splitTerms inside s = .ok (first :: more) ∧ pieces = (c :: first) :: more ∧
        ∀ t first more, splitTerms inside t = .ok (first :: more) →
          splitTerms depth (c :: t) = .ok ((c :: first) :: more) := by
    rw [hstep] at h
    obtain ⟨behind, hbehind, rfl⟩ := map_eq_ok_iff.mp h
    obtain ⟨first, more, rfl⟩ := List.exists_cons_of_ne_nil (splitTerms_comma hbehind []).1
    refine ⟨first, more, hbehind, hfront first more, fun t first' more' ht => ?_⟩
    rw [hstep, ht]
    exact congrArg Except.ok (hfront first' more')
  by_cases hopen : c = '('
  · obtain ⟨first, more, hrest, hpieces, hagain⟩ := hprepend (depth + 1)
      (fun t => by rw [splitTerms, if_pos hopen]) fun _ _ => rfl
    exact Or.inr ⟨_, first, more, hrest, hpieces, by simp [hopen], absurd hopen,
      fun _ => Nat.le_succ depth, hagain⟩
  by_cases hclose : c = ')'
  · by_cases hdepth : depth = 0
    · rw [splitTerms, if_neg hopen, if_pos hclose, if_pos hdepth] at h
      cases h
    · obtain ⟨first, more, hrest, hpieces, hagain⟩ := hprepend (depth - 1)
        (fun t => by rw [splitTerms, if_neg hopen, if_pos hclose, if_neg hdepth]) fun _ _ => rfl
      exact Or.inr ⟨_, first, more, hrest, hpieces, fun _ => hdepth, fun _ => Nat.sub_le depth 1,
        absurd hclose, hagain⟩
  by_cases hcomma : c = ',' ∧ depth = 0
  · rw [splitTerms, if_neg hopen, if_neg hclose, if_pos hcomma] at h
    obtain ⟨more, hmore, rfl⟩ := map_eq_ok_iff.mp h
    exact Or.inl ⟨hcomma.1, hcomma.2, more, hmore, rfl⟩
  · obtain ⟨first, more, hrest, hpieces, hagain⟩ := hprepend depth
      (fun t => by rw [splitTerms, if_neg hopen, if_neg hclose, if_neg hcomma]) fun _ _ => rfl
    exact Or.inr ⟨_, first, more, hrest, hpieces, not_and.mp hcomma, fun _ => le_rfl,
      fun _ => le_rfl, hagain⟩

/-- The text is its pieces with commas between them. -/
theorem intercalate_splitTerms (h : splitTerms depth s = .ok pieces) :
    [','].intercalate pieces = s := by
  induction s generalizing depth pieces with
  | nil =>
      rw [splitTerms] at h
      split at h
      · cases h
        rfl
      · cases h
  | cons c rest ih =>
      rcases splitTerms_cons_eq_ok h with
        ⟨rfl, -, more, hmore, rfl⟩ | ⟨inside, first, more, hrest, rfl, -⟩
      · have hwhole := ih hmore
        obtain ⟨piece, more, rfl⟩ := List.exists_cons_of_ne_nil (splitTerms_comma hmore []).1
        rw [List.intercalate_cons_cons, hwhole]
        rfl
      · have hwhole := ih hrest
        cases more with
        | nil => simpa using hwhole
        | cons piece more =>
            rw [List.intercalate_cons_cons] at hwhole ⊢
            exact congrArg (c :: ·) hwhole

/-- Where no piece has a parenthesis, the text is cut at all commas. -/
theorem splitOn_of_splitTerms (h : splitTerms 0 s = .ok pieces)
    (hparen : ∀ piece ∈ pieces, '(' ∉ piece) : splitOn ',' s = pieces := by
  induction s generalizing pieces with
  | nil =>
      cases h
      rfl
  | cons c rest ih =>
      rcases splitTerms_cons_eq_ok h with
        ⟨rfl, -, more, hmore, rfl⟩ | ⟨inside, first, more, hrest, rfl, hcomma, hopen, -⟩
      · rw [splitOn, if_pos rfl, ih hmore (List.forall_mem_cons.mp hparen).2]
      · obtain ⟨hfirst, hmore⟩ := List.forall_mem_cons.mp hparen
        rw [List.mem_cons, not_or] at hfirst
        obtain rfl : inside = 0 := Nat.le_zero.mp (hopen (Ne.symm hfirst.1))
        rw [splitOn, if_neg fun hc => hcomma hc rfl,
          ih hrest (List.forall_mem_cons.mpr ⟨hfirst.2, hmore⟩)]

/-! ## The whole text -/

/-- A blank text is read as no requirement. -/
theorem parseTerm_nil_ne : parseTerm [] ≠ .ok r := by
  intro h
  obtain ⟨key, hkey, -⟩ := map_eq_ok_iff.mp (show (parseKey []).map .present = .ok r from h)
  obtain ⟨hnil, hproper⟩ := parseKey_eq_ok_iff.mp hkey
  exact hproper.nonempty (String.toList_eq_nil_iff.mp hnil)

/-- Exactly the blank texts ask for nothing. -/
theorem terms_eq_nil_iff : terms s = .ok [] ↔ trimChars s = [] := by
  rw [terms, bind_eq_ok_iff]
  dsimp only
  constructor
  · rintro ⟨raw, hraw, h⟩
    split at h
    · rename_i hblank
      obtain ⟨piece, rfl, hpiece⟩ := List.map_eq_singleton_iff.mp hblank
      obtain rfl : piece = s := by simpa using intercalate_splitTerms hraw
      exact hpiece
    split at h
    · cases h
    · obtain rfl : raw = [] := List.map_eq_nil_iff.mp (Except.ok.inj h)
      exact absurd rfl (splitTerms_comma hraw []).1
  · intro h
    have hmissing {d : Char} (hd : isSpace d = false) : d ∉ s := by
      rw [← mem_trimChars_iff hd, h]
      exact List.not_mem_nil
    have hflat : ∀ d ∈ ['(', ')', ','], d ∉ s := by
      intro d hd
      simp only [List.mem_cons, List.not_mem_nil, or_false] at hd
      rcases hd with rfl | rfl | rfl
      all_goals exact hmissing (by decide)
    have hone := splitTerms_flat hflat (show splitTerms 0 [] = .ok ([] :: []) from rfl)
    rw [List.append_nil] at hone
    refine ⟨[s], hone, ?_⟩
    rw [List.map_singleton, h, if_pos rfl]
    rfl

/-- A text that asks for something is cut at commas, and each piece is read as a requirement without
the white space around it. -/
theorem parse_eq_ok_iff_pieces {text : String} {selector : Selector}
    (hne : selector.requirements ≠ []) :
    parse text = .ok selector ↔ ∃ raw, splitTerms 0 text.toList = .ok raw ∧
      (raw.mapM fun piece => parseTerm (trimChars piece)) = .ok selector.requirements := by
  rw [parse_eq_ok_iff]
  constructor
  · rintro ⟨pieces, hterms, hread⟩
    have hpieces : pieces ≠ [] := by
      rintro rfl
      exact hne (Except.ok.inj hread).symm
    obtain ⟨-, raw, hraw, rfl⟩ := (terms_eq_ok_iff hpieces).mp hterms
    rw [List.mapM_map] at hread
    exact ⟨raw, hraw, hread⟩
  · rintro ⟨raw, hraw, hread⟩
    have hpieces : raw.map trimChars ≠ [] := by
      rw [ne_eq, List.map_eq_nil_iff]
      rintro rfl
      exact hne (Except.ok.inj hread).symm
    refine ⟨raw.map trimChars, (terms_eq_ok_iff hpieces).mpr ⟨?_, raw, hraw, rfl⟩, ?_⟩
    · intro hblank
      obtain ⟨piece, hpiece, htrim⟩ := List.mem_map.mp hblank
      obtain ⟨r, -, hr⟩ := exists_of_mem_of_mapM hread hpiece
      rw [htrim] at hr
      exact parseTerm_nil_ne hr
    · rw [List.mapM_map]
      exact hread

end Selector

end FleetGate
