import FleetGate.Proofs.Shaping.Masking

/-! # What slimming leaves of a secret

Whoever applies a secret with its values leaves them behind once more, in the annotation that keeps
the object as it was applied. Masking does not look there. Slimming drops the annotation if its
path is among those to remove, which it is unless other paths are configured or slimming is off.

Removing a path never spreads what values differ in (`alike_removePath`), so the annotation is the
only place where the values of a secret can be told from a response at all. A path names a key that
holds dots itself only as long as no key on the way spells out more of the path (`Unshadowed`); then
removing it leaves nothing of what stood there (`removePath_eq_of_alike`).
-/

namespace FleetGate.Shaping

open Json (AlikeBut MembersAlikeBut MemberAlikeBut Places)

variable {S : Places} {v w : Json} {ms ns : List (String × Json)} {names last : List String}
  {config : OutputConfig}

/-! ## One step of a path -/

/-- Removing a path from an object drops a member, or goes on in a member or in the items of one, or
leaves the object as it is. -/
theorem removePath_cases (head : String) (rest : List String) (ms : List (String × Json)) :
    removePath (head :: rest) (.obj ms) = .obj ms ∨
    (∃ key, removePath (head :: rest) (.obj ms) = .obj (Keyed.erase key ms)) ∨
    ∃ key f, (f = removePath rest ∨ f = mapItems (removePath rest)) ∧
      removePath (head :: rest) (.obj ms) = .obj (Keyed.modify key f ms) := by
  rw [removePath]
  split
  · exact Or.inr (Or.inl ⟨_, rfl⟩)
  split
  · split
    · exact Or.inl rfl
    · exact Or.inr (Or.inr ⟨_, _, Or.inr rfl, rfl⟩)
  · split
    · exact Or.inr (Or.inl ⟨_, rfl⟩)
    · exact Or.inr (Or.inr ⟨_, _, Or.inl rfl, rfl⟩)

/-- A value that is no object has nothing to remove. -/
theorem removePath_of_not_isObject (segments : List String) (h : v.isObject = false) :
    removePath segments v = v := by
  cases v with
  | obj ms => cases h
  | _ => cases segments <;> rfl

theorem removePath_nil (v : Json) : removePath [] v = v := by
  cases v <;> rfl

/-- Where no key spells out the whole path, removing it goes on in the member of its first name. -/
theorem removePath_descend {name : String} {rest : List String} (hname : arrayName? name = none)
    (hrest : rest ≠ []) (hkey : joinSegments (name :: rest) ∉ Keyed.keys ms) :
    removePath (name :: rest) (.obj ms) = .obj (Keyed.modify name (removePath rest) ms) := by
  have hhas : Keyed.has (joinSegments (name :: rest)) ms = false := by
    rw [← Bool.not_eq_true, Keyed.has_iff]
    exact hkey
  simp [removePath, hname, hrest, hhas]

/-! ## Agreement is kept -/

/-- A change of the items of arrays keeps agreement, for nothing is hidden within an array. -/
theorem alike_mapItems (f : Json → Json) (h : AlikeBut S v w) :
    AlikeBut S (mapItems f v) (mapItems f w) := by
  cases h with
  | hidden here => exact .hidden here
  | same => exact .same
  | obj keys values => exact .obj keys values

/-- A change of the members of one name keeps agreement if it does so there. -/
theorem alike_modify {f : Json → Json} (name : String) (h : MembersAlikeBut S ms ns)
    (hf : ∀ v w, AlikeBut (S.below name) v w → AlikeBut (S.below name) (f v) (f w)) :
    AlikeBut S (.obj (Keyed.modify name f ms)) (.obj (Keyed.modify name f ns)) := by
  rw [Json.obj_modify, Json.obj_modify]
  refine h.alike.mapMembers id fun k a b hab => ?_
  split
  · rename_i hk
    subst hk
    exact hf a b hab
  · exact hab

/-- Removing a path from values that differ at some places leaves values that differ there alone. -/
theorem alike_removePath (segments : List String) (h : AlikeBut S v w) :
    AlikeBut S (removePath segments v) (removePath segments w) := by
  induction segments generalizing S v w with
  | nil => rwa [removePath_nil, removePath_nil]
  | cons head rest ih =>
      by_cases here : [] ∈ S
      · exact .hidden here
      rcases h.cases here with rfl | ⟨ms, ns, rfl, rfl, hmembers⟩
      · exact .same
      -- which step is taken depends on the keys alone
      rw [removePath, removePath, ← hmembers.has_eq]
      split
      · exact (hmembers.erase _).alike
      split
      · split
        · exact h
        · exact alike_modify _ hmembers fun _ _ hab => alike_mapItems _ hab
      · split
        · exact (hmembers.erase _).alike
        · exact alike_modify _ hmembers fun _ _ hab => ih hab

theorem alike_slim (excluded : List String) (h : AlikeBut S v w) :
    AlikeBut S (slim excluded v) (slim excluded w) := by
  rw [slim, slim]
  induction excluded.filter fun path => !path.isEmpty generalizing v w with
  | nil => exact h
  | cons path rest ih => exact ih (alike_removePath _ h)

/-! ## Paths that end in a key with dots -/

/-- On the way along the names no key spells out the rest of the path `names ++ last`, so the path
leads to the key that `last` spells out. -/
def Unshadowed (last : List String) : List String → Json → Prop
  | name :: names, .obj ms =>
    joinSegments (name :: (names ++ last)) ∉ Keyed.keys ms ∧
      ∀ m ∈ ms, m.1 = name → Unshadowed last names m.2
  | _, _ => True

theorem unshadowed_of_not_isObject (h : v.isObject = false) : Unshadowed last names v := by
  cases v with
  | obj ms => cases h
  | _ => cases names <;> trivial

theorem unshadowed_nil (v : Json) : Unshadowed last [] v := by
  cases v <;> trivial

/-- Fewer members shadow less. -/
theorem Unshadowed.erase (key : String) (h : Unshadowed last names (.obj ms)) :
    Unshadowed last names (.obj (Keyed.erase key ms)) := by
  cases names with
  | nil => trivial
  | cons name names =>
      have hsub : Keyed.erase key ms ⊆ ms := List.filter_sublist.subset
      refine ⟨fun hmem => h.1 ?_, fun m hm => h.2 m (hsub hm)⟩
      exact List.map_subset _ hsub hmem

theorem Unshadowed.modify {key : String} {f : Json → Json} (h : Unshadowed last names (.obj ms))
    (hf : ∀ names v, Unshadowed last names v → Unshadowed last names (f v)) :
    Unshadowed last names (.obj (Keyed.modify key f ms)) := by
  cases names with
  | nil => trivial
  | cons name names =>
      refine ⟨by rw [Keyed.keys_modify]; exact h.1, ?_⟩
      rintro ⟨k, v⟩ hm rfl
      rcases (Keyed.mem_modify key f ms).mp hm with ⟨-, hold⟩ | ⟨rfl, u, hold, rfl⟩
      · exact h.2 _ hold rfl
      · exact hf names u (h.2 _ hold rfl)

theorem Unshadowed.mapItems {f : Json → Json} (h : Unshadowed last names v) :
    Unshadowed last names (mapItems f v) := by
  cases v with
  | arr xs => exact unshadowed_of_not_isObject rfl
  | _ => exact h

/-- Removing a path puts no shadow on another. -/
theorem Unshadowed.removePath (segments : List String) (h : Unshadowed last names v) :
    Unshadowed last names (removePath segments v) := by
  induction segments generalizing names v with
  | nil => rwa [removePath_nil]
  | cons head rest ih =>
      cases v with
      | obj ms =>
          rcases removePath_cases head rest ms with heq | ⟨key, heq⟩ | ⟨key, f, hf, heq⟩
          · rwa [heq]
          · rw [heq]
            exact h.erase key
          · rw [heq]
            refine h.modify fun names u hu => ?_
            rcases hf with rfl | rfl
            · exact ih hu
            · exact hu.mapItems
      | _ =>
          rw [removePath_of_not_isObject]
          · exact h
          · rfl

/-- Values that agree all along the names have the same shadows. -/
theorem Unshadowed.alike (h : Unshadowed last names v) (hS : S.Deep names.length)
    (halike : AlikeBut S v w) : Unshadowed last names w := by
  induction names generalizing S v w with
  | nil => exact unshadowed_nil w
  | cons name names ih =>
      rcases halike.cases hS.root with rfl | ⟨ms, ns, rfl, rfl, hmembers⟩
      · exact h
      refine ⟨hmembers.keys_eq ▸ h.1, fun n hn hname => ?_⟩
      obtain ⟨m, hm, hkey, hvalue⟩ := hmembers.exists_of_mem hn
      exact ih (h.2 m hm (hkey.trans hname)) (hS.below m.1) hvalue

/-- Where the path spells out a key, removing it leaves objects equal that differ there alone. -/
theorem removePath_last (hlast : last ≠ []) (hsingle : ∀ name, last = [name] → arrayName? name = none)
    (h : MembersAlikeBut S ms ns)
    (hS : ∀ name path, name :: path ∈ S → name = joinSegments last) :
    removePath last (.obj ms) = removePath last (.obj ns) := by
  have herase : Keyed.erase (joinSegments last) ms = Keyed.erase (joinSegments last) ns :=
    h.erase_eq hS
  match last with
  | [name] =>
      have hkey : joinSegments [name] = name := by simp [joinSegments]
      rw [hkey] at herase
      simp [removePath, hsingle name rfl, herase]
  | head :: next :: rest =>
      by_cases hkey : joinSegments (head :: next :: rest) ∈ Keyed.keys ms
      · have hkey' := hkey
        rw [h.keys_eq] at hkey'
        rw [← Keyed.has_iff] at hkey hkey'
        simp [removePath, hkey, hkey', herase]
      · -- no object has the key, so erasing it tells that all members are equal
        have hkey' := hkey
        rw [h.keys_eq] at hkey'
        rw [Keyed.erase_of_notMem hkey, Keyed.erase_of_notMem hkey'] at herase
        rw [herase]

/-- Removing a path leaves values equal that differ at the place alone to which the path leads. -/
theorem removePath_eq_of_alike (hnames : ∀ name ∈ names, arrayName? name = none)
    (hlast : last ≠ []) (hsingle : ∀ name, last = [name] → arrayName? name = none)
    (h : AlikeBut {names ++ [joinSegments last]} v w) (hv : Unshadowed last names v) :
    removePath (names ++ last) v = removePath (names ++ last) w := by
  induction names generalizing v w with
  | nil =>
      rcases h.cases (Places.root_notMem_singleton _ _) with rfl | ⟨ms, ns, rfl, rfl, hmembers⟩
      · rfl
      refine removePath_last hlast hsingle hmembers fun name path hpath => ?_
      exact (List.cons.inj hpath).1
  | cons name names ih =>
      rcases h.cases (Places.root_notMem_singleton _ _) with rfl | ⟨ms, ns, rfl, rfl, hmembers⟩
      · rfl
      have hname : arrayName? name = none := hnames name List.mem_cons_self
      have hrest : names ++ last ≠ [] := by simp [hlast]
      rw [List.cons_append, removePath_descend hname hrest hv.1,
        removePath_descend hname hrest (hmembers.keys_eq ▸ hv.1)]
      refine congrArg Json.obj (hmembers.map_eq fun m hm n hmn => ?_)
      -- only members of this name may differ, and the rest of the path leads on in them
      obtain ⟨hkey, hvalue⟩ := hmn
      rw [← hkey]
      split
      · rename_i hname
        rw [hname, List.cons_append, Places.below_singleton] at hvalue
        rw [ih (fun name hmem => hnames name (List.mem_cons_of_mem _ hmem)) hvalue (hv.2 m hm hname)]
      · rename_i hname
        refine Prod.ext hkey (hvalue.eq_of_empty fun path hpath => hname ?_)
        exact (List.cons.inj hpath).1

/-- Slimming leaves values equal that differ at the place alone to which one of the paths leads. -/
theorem slim_eq_of_alike {path : String} {excluded : List String} (hpath : path ∈ excluded)
    (hfilled : path.isEmpty = false) (hsegments : pathSegments path = names ++ last)
    (hnames : ∀ name ∈ names, arrayName? name = none) (hlast : last ≠ [])
    (hsingle : ∀ name, last = [name] → arrayName? name = none)
    (h : AlikeBut {names ++ [joinSegments last]} v w) (hv : Unshadowed last names v) :
    slim excluded v = slim excluded w := by
  have hmem : path ∈ excluded.filter fun path => !path.isEmpty :=
    List.mem_filter.mpr ⟨hpath, by rw [hfilled]; rfl⟩
  rw [slim, slim]
  generalize excluded.filter (fun path => !path.isEmpty) = paths at hmem
  induction paths generalizing v w with
  | nil => cases hmem
  | cons first rest ih =>
      rw [List.foldl_cons, List.foldl_cons]
      rcases List.mem_cons.mp hmem with rfl | hmem
      · rw [hsegments, removePath_eq_of_alike hnames hlast hsingle h hv]
      · exact ih (alike_removePath _ h) (hv.removePath _) hmem

/-! ## The annotation that repeats a secret -/

/-- The annotation that keeps an object as it was applied. -/
def appliedKey : String := "kubectl.kubernetes.io/last-applied-configuration"

/-- The place of the annotation that keeps an object as it was applied. -/
def appliedPlace : List String := ["metadata", "annotations", appliedKey]

/-- The path by which slimming removes that annotation. -/
def appliedPath : String := "metadata.annotations." ++ appliedKey

/-- Both items are secrets, and they differ in what is masked and in the annotation that keeps the
object as it was applied. The path to the annotation leads there. -/
structure SameButApplied (v w : Json) : Prop where
  secret : isSecret v = true
  alike : AlikeBut (secretPlaces ∪ {appliedPlace}) v w
  unshadowed : Unshadowed ["kubectl", "kubernetes", "io/last-applied-configuration"]
    ["metadata", "annotations"] v

theorem appliedPath_excluded : appliedPath ∈ OutputConfig.defaultExcludedFields := by
  decide

theorem applied_deep : Places.Deep 2 {appliedPlace} := by
  rintro path rfl
  decide

/-- Secrets that differ in what is masked and in the applied annotation differ there alone in their
shaped form, whether they are slimmed or not. -/
theorem alike_shapeItem (hmask : config.maskSecrets = true) (hv : isSecret v = true)
    (h : AlikeBut (secretPlaces ∪ {appliedPlace}) v w) :
    AlikeBut {appliedPlace} (shapeItem config v) (shapeItem config w) := by
  have hmasked : AlikeBut {appliedPlace} (maskSecrets v) (maskSecrets w) :=
    alike_maskSecrets_both applied_deep hv h
  simp only [shapeItem, hmask, if_true]
  split
  · exact alike_slim _ hmasked
  · exact hmasked

/-- Slimming that removes the applied annotation takes such secrets to one shaped form. -/
theorem SameButApplied.shapeItem_eq (hmask : config.maskSecrets = true)
    (hslim : config.slimOutput = true) (hpath : appliedPath ∈ config.excludedFields)
    (h : SameButApplied v w) : shapeItem config v = shapeItem config w := by
  have hmasked : AlikeBut {appliedPlace} (maskSecrets v) (maskSecrets w) :=
    alike_maskSecrets_both applied_deep h.secret h.alike
  have hunshadowed := h.unshadowed.alike secretPlaces_deep (alike_maskSecrets v)
  simp only [shapeItem, hmask, hslim, if_true]
  exact slim_eq_of_alike hpath (by decide) (by decide) (by decide) (by decide) (by simp) hmasked
    hunshadowed

theorem SameButApplied.isSecret_eq (h : SameButApplied v w) : isSecret v = isSecret w :=
  Shaping.isSecret_eq (secretPlaces_deep.union applied_deep) h.alike

/-- With masking on, whatever else is configured, the values of a secret can be told from its shaped
form by the applied annotation alone. Slimming that removes the annotation takes this away: then
lists of secrets that differ there and in what is masked give one result under every limit, and
single secrets one value. -/
theorem applied_copy_left_to_slimming (config : OutputConfig) (hmask : config.maskSecrets = true) :
    (∀ v w, isSecret v = true → AlikeBut (secretPlaces ∪ {appliedPlace}) v w →
      AlikeBut {appliedPlace} (processSingle config v) (processSingle config w)) ∧
    (config.slimOutput = true → appliedPath ∈ config.validated.excludedFields →
      (∀ limit items others, List.Forall₂ SameButApplied items others →
        processWithLimit config limit items = processWithLimit config limit others) ∧
      ∀ v w, SameButApplied v w → processSingle config v = processSingle config w) := by
  have hvalid : config.validated.maskSecrets = true := hmask
  refine ⟨fun v w => alike_shapeItem hvalid, fun hslim hpath => ⟨fun limit items others h => ?_, ?_⟩⟩
  · exact processWithLimit_congr (fun _ _ h => h.shapeItem_eq hvalid hslim hpath)
      (fun _ _ h => h.isSecret_eq) h
  · exact fun v w h => h.shapeItem_eq hvalid hslim hpath

/-- A secret that holds a password, as it was applied. -/
def manifest (password : String) : List (String × Json) :=
  [("apiVersion", .str "v1"), ("data", .obj [("password", .str password)]),
    ("kind", .str "Secret")]

/-- The same secret with the annotation that keeps it as it was applied. -/
def appliedSecret (password : String) : Json :=
  let text := Json.compact (.obj (manifest password))
  .obj (manifest password ++ [("metadata", .obj [("annotations", .obj [(appliedKey, .str text)])])])

theorem appliedSecret_alike (password other : String) :
    AlikeBut (secretPlaces ∪ {appliedPlace}) (appliedSecret password) (appliedSecret other) := by
  have hpayload : ["data", "password"] ∈ secretPlaces := .payload (by decide)
  have hdata : AlikeBut (Places.below (secretPlaces ∪ {appliedPlace}) "data")
      (.obj [("password", .str password)]) (.obj [("password", .str other)]) :=
    (MembersAlikeBut.cons (.hidden (Set.mem_union_left _ hpayload)) (.refl _ [])).alike
  have happlied (text text' : Json) :
      AlikeBut (Places.below (secretPlaces ∪ {appliedPlace}) "metadata")
        (.obj [("annotations", .obj [(appliedKey, text)])])
        (.obj [("annotations", .obj [(appliedKey, text')])]) := by
    have hplace : appliedPlace ∈ secretPlaces ∪ {appliedPlace} := Set.mem_union_right _ rfl
    refine (MembersAlikeBut.cons (MembersAlikeBut.alike ?_) (.refl _ [])).alike
    exact .cons (.hidden hplace) (.refl _ [])
  exact (MembersAlikeBut.cons .same (.cons hdata (.cons .same
    (.cons (happlied _ _) (.refl _ []))))).alike

theorem appliedSecret_same (password other : String) :
    SameButApplied (appliedSecret password) (appliedSecret other) where
  secret := rfl
  alike := appliedSecret_alike password other
  unshadowed := by
    have hroot : appliedPath ∉ ["apiVersion", "data", "kind", "metadata"] := by decide
    have hmetadata : "annotations." ++ appliedKey ∉ ["annotations"] := by decide
    refine ⟨hroot, ?_⟩
    rintro m hm hname
    simp only [manifest, List.cons_append, List.nil_append, List.mem_cons, List.not_mem_nil,
      or_false] at hm
    rcases hm with rfl | rfl | rfl | rfl
    · simp at hname
    · simp at hname
    · simp at hname
    · exact ⟨hmetadata, fun m _ _ => unshadowed_nil m.2⟩

/-- Under the default configuration two applied passwords give one response. -/
theorem applied_copy_slimmed :
    let v := appliedSecret "aHVudGVyMg=="
    let w := appliedSecret "c2VzYW1l"
    OutputConfig.default.maskSecrets = true ∧ OutputConfig.default.slimOutput = true ∧
      appliedPath ∈ OutputConfig.default.validated.excludedFields ∧ SameButApplied v w ∧ v ≠ w ∧
      process .default [v] = process .default [w] ∧
      processSingle .default v = processSingle .default w := by
  have hsame := appliedSecret_same "aHVudGVyMg==" "c2VzYW1l"
  obtain ⟨-, hslimmed⟩ := applied_copy_left_to_slimming .default rfl
  obtain ⟨hlist, hsingle⟩ := hslimmed rfl appliedPath_excluded
  exact ⟨rfl, rfl, appliedPath_excluded, hsame, by decide, hlist 0 _ _ (.cons hsame .nil),
    hsingle _ _ hsame⟩

/-- Without slimming the applied annotation is handed out as it is, and each of two passwords can be
read there. -/
theorem applied_copy_handed_out :
    let config := { OutputConfig.default with slimOutput := false }
    let v := appliedSecret "aHVudGVyMg=="
    let w := appliedSecret "c2VzYW1l"
    config.maskSecrets = true ∧ isSecret v = true ∧
      AlikeBut (secretPlaces ∪ {appliedPlace}) v w ∧
      (processSingle config v).stringAt? appliedPlace =
        some (Json.compact (.obj (manifest "aHVudGVyMg=="))) ∧
      processSingle config v ≠ processSingle config w := by
  refine ⟨rfl, rfl, appliedSecret_alike _ _, rfl, by decide⟩

end FleetGate.Shaping
