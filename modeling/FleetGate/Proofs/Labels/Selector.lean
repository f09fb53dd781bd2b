import FleetGate.Proofs.Labels.Names

/-! # The grammar of label selectors

What requirements are well formed and how they are written. Reading gives nothing else, and the text
of well formed requirements is read as those requirements again (`Selector.grammar`).

Neither a key nor a value holds a character that the reader cuts at. So the text of a requirement
has its operator where the reader finds it, whatever the key is called: `in in (in)` is a
requirement on the key `in`.
-/

namespace FleetGate

open Text

namespace Requirement

open Selector

/-- What a requirement may consist of. A set has a value in it that is not empty; that an equality
has exactly one value, and that the presence of a key has none, needs no saying. -/
def WellFormed : Requirement → Prop
  | .equals key value | .differs key value => ProperKey key ∧ ProperValue value
  | .oneOf key values | .noneOf key values =>
    ProperKey key ∧ (∀ value ∈ values, ProperValue value) ∧ ∃ value ∈ values, value ≠ ""
  | .present key | .absent key => ProperKey key

/-- The canonical text of a requirement. -/
def written : Requirement → String
  | .equals key value => key ++ "=" ++ value
  | .differs key value => key ++ "!=" ++ value
  | .oneOf key values => key ++ " in (" ++ ",".intercalate values ++ ")"
  | .noneOf key values => key ++ " notin (" ++ ",".intercalate values ++ ")"
  | .present key => key
  | .absent key => "!" ++ key

end Requirement

namespace Selector

variable {text key value : String} {values : List String} {s before after front mid last t rest
  first : List Char} {more : List (List Char)} {d : Char} {depth : ℕ} {r : Requirement}

/-- The canonical text of a selector. -/
def written (s : Selector) : String :=
  ",".intercalate (s.requirements.map Requirement.written)

/-! ## What is read is well formed -/

theorem parseSides_eq_ok_iff {make : String → String → Requirement}
    {sides : List Char × List Char} :
    parseSides make sides = .ok r ↔ ∃ key value, parseKey (trimChars sides.1) = .ok key ∧
      parseValue (trimChars sides.2) = .ok value ∧ r = make key value := by
  simp only [parseSides, bind_eq_ok_iff]
  constructor
  · rintro ⟨key, hkey, value, hvalue, h⟩
    cases h
    exact ⟨key, value, hkey, hvalue, rfl⟩
  · rintro ⟨key, value, hkey, hvalue, rfl⟩
    exact ⟨key, hkey, value, hvalue, rfl⟩

/-- The operator at the end of what stands before a set, and the text of the key. -/
def setOperator? (head : List Char) :
    Option (List Char × (String → List String → Requirement)) :=
  match stripEnd? " notin".toList head with
  | some key => some (key, .noneOf)
  | none => (stripEnd? " in".toList head).map fun key => (key, .oneOf)

/-- Reads the values of a set and then its key. -/
def readSet (make : String → List String → Requirement) (key body : List Char) :
    Except SelectorError Requirement := do
  let values ← (splitOn ',' body).mapM fun v => parseValue (trimChars v)
  if values.all String.isEmpty then .error .emptySet
  else (parseKey (trimChars key)).map fun key => make key values

theorem parseSet_eq (term head tail : List Char) :
    parseSet term head tail =
      match setOperator? (trimChars head), stripEnd? [')'] tail with
      | none, _ => .error (.unknownOperator (String.ofList term))
      | some _, none => .error .openSet
      | some (key, make), some body => readSet make key body := by
  rw [parseSet, setOperator?]
  cases hnotin : stripEnd? " notin".toList (trimChars head) with
  | some key =>
      cases hbody : stripEnd? [')'] tail with
      | none => rfl
      | some body => rfl
  | none =>
      cases hin : stripEnd? " in".toList (trimChars head) with
      | none => rfl
      | some key =>
          cases hbody : stripEnd? [')'] tail with
          | none => rfl
          | some body => rfl

theorem setOperator?_eq_some {make : String → List String → Requirement}
    (h : setOperator? s = some (before, make)) : make = .noneOf ∨ make = .oneOf := by
  rw [setOperator?] at h
  split at h
  · cases h
    exact Or.inl rfl
  · obtain ⟨key, -, hkey⟩ := Option.map_eq_some_iff.mp h
    cases hkey
    exact Or.inr rfl

theorem readSet_eq_ok_iff {make : String → List String → Requirement} :
    readSet make before s = .ok r ↔ ∃ key values,
      ((splitOn ',' s).mapM fun v => parseValue (trimChars v)) = .ok values ∧
      (∃ value ∈ values, value ≠ "") ∧ parseKey (trimChars before) = .ok key ∧
      r = make key values := by
  simp only [readSet, bind_eq_ok_iff, refuse_eq_ok_iff, map_eq_ok_iff, List.all_eq_true,
    String.isEmpty_iff, not_forall]
  constructor
  · rintro ⟨values, hvalues, ⟨value, hvalue, hne⟩, key, hkey, rfl⟩
    exact ⟨key, values, hvalues, ⟨value, hvalue, hne⟩, hkey, rfl⟩
  · rintro ⟨key, values, hvalues, ⟨value, hvalue, hne⟩, hkey, rfl⟩
    exact ⟨values, hvalues, ⟨value, hvalue, hne⟩, key, hkey, rfl⟩

theorem wellFormed_of_parseSet {term : List Char} (h : parseSet term before after = .ok r) :
    r.WellFormed := by
  rw [parseSet_eq] at h
  split at h
  · cases h
  · cases h
  rename_i key make body hmake _
  obtain ⟨key, values, hvalues, hset, hkey, rfl⟩ := readSet_eq_ok_iff.mp h
  have hproper : ∀ value ∈ values, ProperValue value := by
    intro value hvalue
    obtain ⟨piece, -, hpiece⟩ := exists_of_mem_mapM hvalues hvalue
    exact (parseValue_eq_ok_iff.mp hpiece).2
  rcases setOperator?_eq_some hmake with rfl | rfl
  · exact ⟨(parseKey_eq_ok_iff.mp hkey).2, hproper, hset⟩
  · exact ⟨(parseKey_eq_ok_iff.mp hkey).2, hproper, hset⟩

/-- Reading gives well formed requirements. -/
theorem wellFormed_of_parseTerm (h : parseTerm s = .ok r) : r.WellFormed := by
  have hsides {make : String → String → Requirement} {sides : List Char × List Char}
      (h : parseSides make sides = .ok r) :
      ∃ key value, ProperKey key ∧ ProperValue value ∧ r = make key value := by
    obtain ⟨key, value, hkey, hvalue, rfl⟩ := parseSides_eq_ok_iff.mp h
    exact ⟨key, value, (parseKey_eq_ok_iff.mp hkey).2, (parseValue_eq_ok_iff.mp hvalue).2, rfl⟩
  have hname {make : String → Requirement} {keyText : List Char}
      (h : (parseKey keyText).map make = .ok r) : ∃ key, ProperKey key ∧ r = make key := by
    obtain ⟨key, hkey, rfl⟩ := map_eq_ok_iff.mp h
    exact ⟨key, (parseKey_eq_ok_iff.mp hkey).2, rfl⟩
  -- one case for each form, in the order in which the reader tries them
  rw [parseTerm] at h
  split at h
  · obtain ⟨key, hkey, rfl⟩ := hname h
    exact hkey
  split at h
  · obtain ⟨key, value, hkey, hvalue, rfl⟩ := hsides h
    exact ⟨hkey, hvalue⟩
  split at h
  · obtain ⟨key, value, hkey, hvalue, rfl⟩ := hsides h
    exact ⟨hkey, hvalue⟩
  split at h
  · obtain ⟨key, value, hkey, hvalue, rfl⟩ := hsides h
    exact ⟨hkey, hvalue⟩
  split at h
  · exact wellFormed_of_parseSet h
  · obtain ⟨key, hkey, rfl⟩ := hname h
    exact hkey

/-! ## What is written is read -/

theorem trimChars_plain (h : Plain s) : trimChars s = s :=
  trimChars_of_forall h.solid

/-- The text of a key does not start with a mark. -/
theorem stripStart?_key (h : ProperKey key) (rest : List Char) :
    stripStart? ['!'] (key.toList ++ rest) = none := by
  cases hkey : key.toList with
  | nil => exact absurd (String.toList_eq_nil_iff.mp hkey) h.nonempty
  | cons c cs =>
      have hc : isPlain c = true := h.plain_toList c (by rw [hkey]; exact List.mem_cons_self)
      refine stripStart?_of_ne ?_
      rintro rfl
      exact absurd hc (by decide)

theorem parseSides_proper {make : String → String → Requirement} (hkey : ProperKey key)
    (hvalue : ProperValue value) :
    parseSides make (key.toList, value.toList) = .ok (make key value) := by
  refine parseSides_eq_ok_iff.mpr ⟨key, value, ?_, ?_, rfl⟩
  · exact parseKey_eq_ok_iff.mpr ⟨(trimChars_plain hkey.plain_toList).symm, hkey⟩
  · exact parseValue_eq_ok_iff.mpr ⟨(trimChars_plain hvalue.plain).symm, hvalue⟩

theorem parseTerm_equals (hkey : ProperKey key) (hvalue : ProperValue value) :
    parseTerm (key.toList ++ ['='] ++ value.toList) = .ok (.equals key value) := by
  have hkey_mark : '!' ∉ key.toList := hkey.plain_toList.notMem (by decide)
  have hvalue_mark : '!' ∉ value.toList := hvalue.plain.notMem (by decide)
  have hkey_sign : '=' ∉ key.toList := hkey.plain_toList.notMem (by decide)
  have hvalue_sign : '=' ∉ value.toList := hvalue.plain.notMem (by decide)
  have hstart : stripStart? ['!'] (key.toList ++ ['='] ++ value.toList) = none := by
    rw [List.append_assoc]
    exact stripStart?_key hkey _
  have hdiffers : splitOnce? ['!', '='] (key.toList ++ ['='] ++ value.toList) = none :=
    splitOnce?_of_notMem (by simp [hkey_mark, hvalue_mark])
  -- the doubled sign is looked for first, and the value does not begin with the second one
  rw [parseTerm, hstart, hdiffers, splitOnce?_twice hkey_sign hvalue_sign,
    splitOnce?_append hkey_sign value.toList]
  exact parseSides_proper hkey hvalue

theorem parseTerm_differs (hkey : ProperKey key) (hvalue : ProperValue value) :
    parseTerm (key.toList ++ ['!', '='] ++ value.toList) = .ok (.differs key value) := by
  have hkey_mark : '!' ∉ key.toList := hkey.plain_toList.notMem (by decide)
  have hstart : stripStart? ['!'] (key.toList ++ ['!', '='] ++ value.toList) = none := by
    rw [List.append_assoc]
    exact stripStart?_key hkey _
  rw [parseTerm, hstart, splitOnce?_append hkey_mark value.toList]
  exact parseSides_proper hkey hvalue

theorem parseTerm_present (hkey : ProperKey key) :
    parseTerm key.toList = .ok (.present key) := by
  have hmark : '!' ∉ key.toList := hkey.plain_toList.notMem (by decide)
  have hsign : '=' ∉ key.toList := hkey.plain_toList.notMem (by decide)
  have hset : '(' ∉ key.toList := hkey.plain_toList.notMem (by decide)
  have hstart : stripStart? ['!'] key.toList = none := by
    rw [← List.append_nil key.toList]
    exact stripStart?_key hkey []
  rw [parseTerm, hstart, splitOnce?_of_notMem hmark, splitOnce?_of_notMem hsign,
    splitOnce?_of_notMem hsign, splitOnce?_of_notMem hset]
  exact map_eq_ok_iff.mpr ⟨key, parseKey_eq_ok_iff.mpr ⟨rfl, hkey⟩, rfl⟩

theorem parseTerm_absent (hkey : ProperKey key) :
    parseTerm ('!' :: key.toList) = .ok (.absent key) := by
  rw [parseTerm, show '!' :: key.toList = ['!'] ++ key.toList from rfl, stripStart?_append]
  refine map_eq_ok_iff.mpr ⟨key, parseKey_eq_ok_iff.mpr ⟨?_, hkey⟩, rfl⟩
  exact (trimChars_plain hkey.plain_toList).symm

/-! ### Sets -/

/-- The values of a set are found again between its commas. -/
theorem readSet_proper {make : String → List String → Requirement} (hkey : ProperKey key)
    (hvalues : ∀ value ∈ values, ProperValue value) (hset : ∃ value ∈ values, value ≠ "") :
    readSet make key.toList (",".intercalate values).toList = .ok (make key values) := by
  have hne : values ≠ [] := by
    obtain ⟨value, hvalue, -⟩ := hset
    exact List.ne_nil_of_mem hvalue
  have hcommas : ∀ piece ∈ values.map String.toList, ',' ∉ piece := by
    intro piece hpiece
    obtain ⟨value, hvalue, rfl⟩ := List.mem_map.mp hpiece
    exact (hvalues value hvalue).plain.notMem (by decide)
  have hread : ∀ value ∈ values, parseValue (trimChars value.toList) = .ok (id value) := by
    intro value hvalue
    rw [trimChars_plain (hvalues value hvalue).plain]
    exact parseValue_eq_ok_iff.mpr ⟨rfl, hvalues value hvalue⟩
  refine readSet_eq_ok_iff.mpr ⟨key, values, ?_, hset, ?_, rfl⟩
  · rw [String.toList_intercalate, show ",".toList = [','] from rfl,
      splitOn_intercalate hcommas (mt List.map_eq_nil_iff.mp hne), List.mapM_map,
      Function.comp_def, mapM_eq_ok hread, List.map_id]
  · rw [trimChars_plain hkey.plain_toList]
    exact parseKey_eq_ok_iff.mpr ⟨rfl, hkey⟩

/-- The text of values has no marks of other forms. -/
theorem notMem_values (hvalues : ∀ value ∈ values, ProperValue value) (hd : isPlain d = false)
    (hcomma : d ≠ ',') : d ∉ (",".intercalate values).toList := by
  rw [String.toList_intercalate]
  intro hmem
  rcases mem_of_mem_intercalate hmem with h | ⟨piece, hpiece, hmem⟩
  · exact hcomma h
  · obtain ⟨value, hvalue, rfl⟩ := List.mem_map.mp hpiece
    exact (hvalues value hvalue).plain.notMem hd hmem

/-- Where the marks of the other forms are missing, a parenthesis opens a set. -/
theorem parseTerm_paren (hmark : '!' ∉ before ++ ['('] ++ after)
    (hsign : '=' ∉ before ++ ['('] ++ after) (hparen : '(' ∉ before) :
    parseTerm (before ++ ['('] ++ after) = parseSet (before ++ ['('] ++ after) before after := by
  rw [parseTerm, stripStart?_of_notMem hmark, splitOnce?_of_notMem hmark,
    splitOnce?_of_notMem hsign, splitOnce?_of_notMem hsign, splitOnce?_append hparen]

/-- The word in front of a set is found behind the key, whatever the key ends with. -/
theorem parseTerm_set {word : List Char} {make : String → List String → Requirement}
    (hword : Plain word) (hne : word ≠ [])
    (hmake : setOperator? (key.toList ++ [' '] ++ word) = some (key.toList, make))
    (hkey : ProperKey key) (hvalues : ∀ value ∈ values, ProperValue value)
    (hset : ∃ value ∈ values, value ≠ "") :
    parseTerm (key.toList ++ [' '] ++ word ++ [' '] ++ ['('] ++
      ((",".intercalate values).toList ++ [')'])) = .ok (make key values) := by
  have hhead {d : Char} (hd : isPlain d = false) (hspace : d ≠ ' ') :
      d ∉ key.toList ++ [' '] ++ word ++ [' '] := by
    simp [hkey.plain_toList.notMem hd, hword.notMem hd, hspace]
  have hterm {d : Char} (hd : isPlain d = false) (hother : d ∉ [' ', '(', ',', ')']) :
      d ∉ key.toList ++ [' '] ++ word ++ [' '] ++ ['('] ++
        ((",".intercalate values).toList ++ [')']) := by
    simp only [List.mem_cons, List.not_mem_nil, or_false, not_or] at hother
    obtain ⟨hspace, hopen, hcomma, hclose⟩ := hother
    intro hmem
    rcases List.mem_append.mp hmem with hmem | hmem
    · rcases List.mem_append.mp hmem with hmem | hmem
      · exact hhead hd hspace hmem
      · exact hopen (List.mem_singleton.mp hmem)
    · rcases List.mem_append.mp hmem with hmem | hmem
      · exact notMem_values hvalues hd hcomma hmem
      · exact hclose (List.mem_singleton.mp hmem)
  have htrim : trimChars (key.toList ++ [' '] ++ word ++ [' ']) = key.toList ++ [' '] ++ word := by
    rw [trimChars_append_right (by decide)]
    exact trimChars_enclosed [' '] hkey.plain_toList.solid hword.solid
      (mt String.toList_eq_nil_iff.mp hkey.nonempty) hne
  rw [parseTerm_paren (hterm (by decide) (by decide)) (hterm (by decide) (by decide))
    (hhead (by decide) (by decide)), parseSet_eq, htrim, hmake, stripEnd?_append]
  exact readSet_proper hkey hvalues hset

theorem parseTerm_oneOf (hkey : ProperKey key) (hvalues : ∀ value ∈ values, ProperValue value)
    (hset : ∃ value ∈ values, value ≠ "") :
    parseTerm (Requirement.oneOf key values).written.toList = .ok (.oneOf key values) := by
  have hmake : setOperator? (key.toList ++ [' '] ++ ['i', 'n'])
      = some (key.toList, Requirement.oneOf) := by
    -- a space stands before the word, where `notin` has more of itself
    have hnotin : stripEnd? " notin".toList (key.toList ++ [' '] ++ ['i', 'n']) = none := by
      simp [stripEnd?, stripStart?]
    rw [setOperator?, hnotin, List.append_assoc]
    exact congrArg (Option.map _) (stripEnd?_append key.toList " in".toList)
  have hterm := parseTerm_set (by decide) (by decide) hmake hkey hvalues hset
  simpa [Requirement.written] using hterm

theorem parseTerm_noneOf (hkey : ProperKey key) (hvalues : ∀ value ∈ values, ProperValue value)
    (hset : ∃ value ∈ values, value ≠ "") :
    parseTerm (Requirement.noneOf key values).written.toList = .ok (.noneOf key values) := by
  have hmake : setOperator? (key.toList ++ [' '] ++ ['n', 'o', 't', 'i', 'n'])
      = some (key.toList, Requirement.noneOf) := by
    rw [setOperator?, List.append_assoc,
      show [' '] ++ ['n', 'o', 't', 'i', 'n'] = " notin".toList from rfl, stripEnd?_append]
  have hterm := parseTerm_set (by decide) (by decide) hmake hkey hvalues hset
  simpa [Requirement.written] using hterm

/-- The text of a well formed requirement is read as that requirement. -/
theorem parseTerm_written (h : r.WellFormed) : parseTerm r.written.toList = .ok r := by
  cases r with
  | equals key value =>
      rw [Requirement.written, String.toList_append, String.toList_append]
      exact parseTerm_equals h.1 h.2
  | differs key value =>
      rw [Requirement.written, String.toList_append, String.toList_append]
      exact parseTerm_differs h.1 h.2
  | oneOf key values => exact parseTerm_oneOf h.1 h.2.1 h.2.2
  | noneOf key values => exact parseTerm_noneOf h.1 h.2.1 h.2.2
  | present key => exact parseTerm_present h
  | absent key =>
      rw [Requirement.written, String.toList_append]
      exact parseTerm_absent h

/-! ### Commas -/

/-- Text without parentheses, and without commas outside of parentheses, stays in one piece. -/
theorem splitTerms_run (hopen : '(' ∉ t) (hclose : ')' ∉ t) (hcomma : ',' ∉ t ∨ depth ≠ 0)
    (hrest : splitTerms depth rest = .ok (first :: more)) :
    splitTerms depth (t ++ rest) = .ok ((t ++ first) :: more) := by
  induction t with
  | nil => exact hrest
  | cons c cs ih =>
      rw [List.mem_cons, not_or] at hopen hclose
      have hcs : ',' ∉ cs ∨ depth ≠ 0 :=
        hcomma.imp_left fun h hmem => h (List.mem_cons_of_mem c hmem)
      have hc : ¬ (c = ',' ∧ depth = 0) := by
        rintro ⟨rfl, hdepth⟩
        rcases hcomma with h | h
        · exact h List.mem_cons_self
        · exact h hdepth
      rw [List.cons_append, splitTerms, if_neg (Ne.symm hopen.1), if_neg (Ne.symm hclose.1),
        if_neg hc, ih hopen.2 hclose.2 hcs]
      rfl

theorem splitTerms_open (hrest : splitTerms (depth + 1) rest = .ok (first :: more)) :
    splitTerms depth ('(' :: rest) = .ok (('(' :: first) :: more) := by
  rw [splitTerms, if_pos rfl, hrest]
  rfl

theorem splitTerms_close (hrest : splitTerms depth rest = .ok (first :: more)) :
    splitTerms (depth + 1) (')' :: rest) = .ok ((')' :: first) :: more) := by
  rw [splitTerms, if_neg (by decide), if_pos rfl, if_neg (by omega), Nat.add_sub_cancel, hrest]
  rfl

/-- Text of one level stays in one piece. -/
theorem splitTerms_flat (h : ∀ d ∈ ['(', ')', ','], d ∉ t)
    (hrest : splitTerms 0 rest = .ok (first :: more)) :
    splitTerms 0 (t ++ rest) = .ok ((t ++ first) :: more) :=
  splitTerms_run (h '(' (by decide)) (h ')' (by decide)) (Or.inl (h ',' (by decide))) hrest

/-- The text of a set stays in one piece, its commas being inside. -/
theorem splitTerms_set (word : List Char) (hword : ∀ d ∈ ['(', ')', ','], d ∉ word)
    (hkey : ProperKey key) (hvalues : ∀ value ∈ values, ProperValue value)
    (hrest : splitTerms 0 rest = .ok (first :: more)) :
    splitTerms 0 (key.toList ++ (word ++ '(' :: ((",".intercalate values).toList ++ ')' :: rest)))
      = .ok ((key.toList ++ (word ++ '(' :: ((",".intercalate values).toList ++ ')' :: first)))
          :: more) := by
  apply splitTerms_flat
  · intro d hd
    refine hkey.plain_toList.notMem ?_
    simp only [List.mem_cons, List.not_mem_nil, or_false] at hd
    rcases hd with rfl | rfl | rfl <;> decide
  apply splitTerms_flat hword
  apply splitTerms_open
  apply splitTerms_run (notMem_values hvalues (by decide) (by decide))
    (notMem_values hvalues (by decide) (by decide)) (Or.inr (by decide))
  exact splitTerms_close hrest

/-- The text of a well formed requirement stays in one piece. -/
theorem splitTerms_written (h : r.WellFormed)
    (hrest : splitTerms 0 rest = .ok (first :: more)) :
    splitTerms 0 (r.written.toList ++ rest) = .ok ((r.written.toList ++ first) :: more) := by
  have hflat {d : Char} (hd : d ∈ ['(', ')', ',']) : isPlain d = false ∧ d ≠ '!' ∧ d ≠ '=' := by
    simp only [List.mem_cons, List.not_mem_nil, or_false] at hd
    rcases hd with rfl | rfl | rfl <;> decide
  cases r with
  | equals key value =>
      refine splitTerms_flat (fun d hd => ?_) hrest
      obtain ⟨hd, -, hsign⟩ := hflat hd
      simp [Requirement.written, h.1.plain_toList.notMem hd, h.2.plain.notMem hd, hsign]
  | differs key value =>
      refine splitTerms_flat (fun d hd => ?_) hrest
      obtain ⟨hd, hmark, hsign⟩ := hflat hd
      simp [Requirement.written, h.1.plain_toList.notMem hd, h.2.plain.notMem hd, hmark, hsign]
  | oneOf key values =>
      have hset := splitTerms_set " in ".toList (by simp) h.1 h.2.1 hrest
      simpa [Requirement.written] using hset
  | noneOf key values =>
      have hset := splitTerms_set " notin ".toList (by simp) h.1 h.2.1 hrest
      simpa [Requirement.written] using hset
  | present key =>
      refine splitTerms_flat (fun d hd => ?_) hrest
      exact ProperKey.plain_toList h |>.notMem (hflat hd).1
  | absent key =>
      refine splitTerms_flat (fun d hd => ?_) hrest
      obtain ⟨hd, hmark, -⟩ := hflat hd
      simp [Requirement.written, ProperKey.plain_toList h |>.notMem hd, hmark]

/-- The commas between requirements are those that the text is cut at. -/
theorem splitTerms_intercalate {rs : List Requirement} (h : ∀ r ∈ rs, r.WellFormed)
    (hne : rs ≠ []) :
    splitTerms 0 ([','].intercalate (rs.map fun r => r.written.toList))
      = .ok (rs.map fun r => r.written.toList) := by
  induction rs with
  | nil => exact absurd rfl hne
  | cons r rest ih =>
      rw [List.forall_mem_cons] at h
      cases rest with
      | nil =>
          have hlast := splitTerms_written h.1 (show splitTerms 0 [] = .ok ([] :: []) from rfl)
          simpa using hlast
      | cons r' rs =>
          have hcomma : splitTerms 0 (',' ::
              [','].intercalate ((r' :: rs).map fun r => r.written.toList))
                = .ok ([] :: (r' :: rs).map fun r => r.written.toList) := by
            rw [splitTerms, if_neg (by decide), if_neg (by decide), if_pos ⟨rfl, rfl⟩,
              ih h.2 (List.cons_ne_nil r' rs)]
            rfl
          have hfirst := splitTerms_written h.1 hcomma
          rw [List.append_nil] at hfirst
          rw [List.map_cons, List.map_cons, List.intercalate_cons_cons, List.append_assoc]
          exact hfirst

/-! ### White space -/

/-- There is no white space at the ends of a well formed requirement. -/
theorem trimChars_written (h : r.WellFormed) : trimChars r.written.toList = r.written.toList := by
  have hset {key : String} (hkey : ProperKey key) (word body : String) :
      trimChars (key ++ word ++ body ++ ")").toList = (key ++ word ++ body ++ ")").toList := by
    have hclose : Solid ")".toList := by decide
    rw [String.toList_append, String.toList_append, String.toList_append,
      List.append_assoc key.toList word.toList]
    exact trimChars_enclosed _ hkey.plain_toList.solid hclose
      (mt String.toList_eq_nil_iff.mp hkey.nonempty) (List.cons_ne_nil _ _)
  cases r with
  | equals key value =>
      have hsign : Solid "=".toList := by decide
      rw [Requirement.written, String.toList_append, String.toList_append]
      exact trimChars_of_forall ((h.1.plain_toList.solid.append hsign).append h.2.plain.solid)
  | differs key value =>
      have hsign : Solid "!=".toList := by decide
      rw [Requirement.written, String.toList_append, String.toList_append]
      exact trimChars_of_forall ((h.1.plain_toList.solid.append hsign).append h.2.plain.solid)
  | oneOf key values => exact hset h.1 " in (" _
  | noneOf key values => exact hset h.1 " notin (" _
  | present key => exact trimChars_plain (ProperKey.plain_toList h)
  | absent key =>
      have hmark : Solid "!".toList := by decide
      rw [Requirement.written, String.toList_append]
      exact trimChars_of_forall (hmark.append (ProperKey.plain_toList h).solid)

/-- A well formed requirement has a text. -/
theorem written_ne (h : r.WellFormed) : r.written ≠ "" := by
  cases r with
  | present key => exact ProperKey.nonempty h
  | _ => simp [Requirement.written]

/-! ### The whole text -/

theorem terms_written {rs : List Requirement} (h : ∀ r ∈ rs, r.WellFormed) (hne : rs ≠ []) :
    terms (written ⟨rs⟩).toList = .ok (rs.map fun r => r.written.toList) := by
  have hsplit : splitTerms 0 (written ⟨rs⟩).toList = .ok (rs.map fun r => r.written.toList) := by
    rw [written, String.toList_intercalate, List.map_map]
    exact splitTerms_intercalate h hne
  have htrim : (rs.map fun r => r.written.toList).map trimChars
      = rs.map fun r => r.written.toList := by
    rw [List.map_map]
    exact List.map_congr_left fun r hr => trimChars_written (h r hr)
  have hnonempty : (rs.map fun r => r.written.toList).any List.isEmpty = false := by
    simpa using fun r hr => written_ne (h r hr)
  have hblank : (rs.map fun r => r.written.toList) ≠ [[]] := by
    intro heq
    rw [heq] at hnonempty
    exact absurd hnonempty (by decide)
  refine bind_eq_ok_iff.mpr ⟨_, hsplit, ?_⟩
  rw [htrim, if_neg hblank, hnonempty]
  rfl

/-- The text of well formed requirements is read as those requirements. -/
theorem parse_written {rs : List Requirement} (h : ∀ r ∈ rs, r.WellFormed) (hne : rs ≠ []) :
    parse (written ⟨rs⟩) = .ok ⟨rs⟩ := by
  have hread : ∀ r ∈ rs, parseTerm r.written.toList = .ok (id r) :=
    fun r hr => parseTerm_written (h r hr)
  have hterms : (rs.map fun r => r.written.toList).mapM parseTerm = .ok rs := by
    rw [List.mapM_map, Function.comp_def, mapM_eq_ok hread, List.map_id]
  exact bind_eq_ok_iff.mpr ⟨_, terms_written h hne, bind_eq_ok_iff.mpr ⟨rs, hterms, rfl⟩⟩

/-- Reading gives well formed requirements. -/
theorem wellFormed_of_parse {selector : Selector} (h : parse text = .ok selector) :
    ∀ r ∈ selector.requirements, r.WellFormed := by
  obtain ⟨pieces, -, h⟩ := bind_eq_ok_iff.mp h
  obtain ⟨rs, hrs, h⟩ := bind_eq_ok_iff.mp h
  cases h
  intro r hr
  obtain ⟨piece, -, hpiece⟩ := exists_of_mem_mapM hrs hr
  exact wellFormed_of_parseTerm hpiece

/-- What the reader of selectors reads: well formed requirements, and from their canonical text
every list of them that is not empty. -/
theorem grammar :
    (∀ text selector, parse text = .ok selector → ∀ r ∈ selector.requirements, r.WellFormed) ∧
      ∀ selector : Selector, selector.requirements ≠ [] →
        (∀ r ∈ selector.requirements, r.WellFormed) →
        parse selector.written = .ok selector :=
  ⟨fun _ _ => wellFormed_of_parse, fun _ hne h => parse_written h hne⟩

/-- Keys that are called like operators, values that are empty, and a domain: the text is read and
written without one form being taken for another. -/
theorem grammar_overlapping :
    ∃ selector, parse "in in (,a), !x.y/notin, k= ,notin notin (in,notin),in" = .ok selector ∧
      selector.requirements = [.oneOf "in" ["", "a"], .absent "x.y/notin", .equals "k" "",
        .noneOf "notin" ["in", "notin"], .present "in"] ∧
      (∀ r ∈ selector.requirements, r.WellFormed) ∧
      selector.written = "in in (,a),!x.y/notin,k=,notin notin (in,notin),in" ∧
      parse selector.written = .ok selector := by
  have hparse : parse "in in (,a), !x.y/notin, k= ,notin notin (in,notin),in" =
      .ok ⟨[.oneOf "in" ["", "a"], .absent "x.y/notin", .equals "k" "",
        .noneOf "notin" ["in", "notin"], .present "in"]⟩ := by
    rfl
  have hproper := grammar.1 _ _ hparse
  exact ⟨_, hparse, rfl, hproper, by decide, grammar.2 _ (by decide) hproper⟩

end Selector

end FleetGate
