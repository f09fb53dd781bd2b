import FleetGate.Proofs.Shaping.Edits

/-! # What slimming leaves behind

A dotted path can be read in more than one way: at every object that it comes to, the rest of it may
be one key with dots, or its next segment a key of its own. `Addressed` says that a value has a
member at the end of some reading. Removing a path follows one reading at a time: where a key spells
the rest out, that key goes, and what the other readings address below stays. So a path leaves
something behind exactly where it is `ReadTwice` (`addressed_removePath_iff`), and removing it once
more changes something exactly as long as it addresses something (`removePath_eq_self_iff`).

That paths are removed one after another adds nothing to that, for their order does not matter: of
each it can be supposed that it goes last (`slim_eq_removePath`).
-/

namespace FleetGate.Shaping

/-! ## Readings of a path -/

/-- Where a segment leads from the members of an object: to the values of its name, or, for a
segment that walks arrays, to the items of the arrays of that name. -/
inductive Reaches (segment : String) (ms : List (String × Json)) : Json → Prop
  | member {u} (plain : arrayName? segment = none) (there : (segment, u) ∈ ms) :
      Reaches segment ms u
  | item {name xs u} (walks : arrayName? segment = some name) (there : (name, .arr xs) ∈ ms)
      (item : u ∈ xs) : Reaches segment ms u

/-- Some reading of a path ends at a member of a value. -/
inductive Addressed : List String → Json → Prop
  | spelled {head rest ms} (key : Spelled (head :: rest) ms) : Addressed (head :: rest) (.obj ms)
  | last {head ms} (plain : arrayName? head = none) (there : head ∈ Keyed.keys ms) :
      Addressed [head] (.obj ms)
  | deeper {head rest ms u} (reach : Reaches head ms u) (addressed : Addressed rest u) :
      Addressed (head :: rest) (.obj ms)

/-- A path comes to an object where a key spells the rest of it out, and where another reading ends
at a member as well. -/
inductive ReadTwice : List String → Json → Prop
  | here {head rest ms u} (key : Spelled (head :: rest) ms) (reach : Reaches head ms u)
      (addressed : Addressed rest u) : ReadTwice (head :: rest) (.obj ms)
  | deeper {head rest ms u} (reach : Reaches head ms u) (twice : ReadTwice rest u) :
      ReadTwice (head :: rest) (.obj ms)

variable {path : String} {p q rest excluded : List String} {head name : String}
  {ms : List (String × Json)} {v u : Json}

theorem addressed_cons_iff : Addressed (head :: rest) (.obj ms) ↔
    Spelled (head :: rest) ms ∨ (rest = [] ∧ arrayName? head = none ∧ head ∈ Keyed.keys ms) ∨
      ∃ u, Reaches head ms u ∧ Addressed rest u := by
  constructor
  · rintro (key | ⟨plain, there⟩ | ⟨reach, addressed⟩)
    · exact Or.inl key
    · exact Or.inr (Or.inl ⟨rfl, plain, there⟩)
    · exact Or.inr (Or.inr ⟨_, reach, addressed⟩)
  · rintro (key | ⟨rfl, plain, there⟩ | ⟨u, reach, addressed⟩)
    · exact .spelled key
    · exact .last plain there
    · exact .deeper reach addressed

theorem readTwice_cons_iff : ReadTwice (head :: rest) (.obj ms) ↔
    (Spelled (head :: rest) ms ∧ ∃ u, Reaches head ms u ∧ Addressed rest u) ∨
      ∃ u, Reaches head ms u ∧ ReadTwice rest u := by
  constructor
  · rintro (⟨key, reach, addressed⟩ | ⟨reach, twice⟩)
    · exact Or.inl ⟨key, _, reach, addressed⟩
    · exact Or.inr ⟨_, reach, twice⟩
  · rintro (⟨key, u, reach, addressed⟩ | ⟨u, reach, twice⟩)
    · exact .here key reach addressed
    · exact .deeper reach twice

/-- What is read twice is addressed. -/
theorem ReadTwice.addressed (h : ReadTwice p v) : Addressed p v := by
  induction h with
  | here key _ _ => exact .spelled key
  | deeper reach _ ih => exact .deeper reach ih

theorem not_addressed_of_not_isObject (h : v.isObject = false) : ¬ Addressed p v := by
  rintro (_ | _ | _)
  all_goals cases h

/-! ## Readings and edits -/

/-- The items of an array stay as they are exactly if each of them does. -/
theorem mapItems_arr_eq_self_iff {f : Json → Json} {xs : List Json} :
    mapItems f (.arr xs) = .arr xs ↔ ∀ u ∈ xs, f u = u := by
  have hmap : xs.map f = xs.map id ↔ ∀ u ∈ xs, f u = u := List.map_inj_left
  rw [mapItems, Json.arr.injEq]
  rwa [List.map_id] at hmap

/-- Where a segment that goes on leads is where the edit of its path changes something. -/
theorem descent_eq_self_iff (hrest : rest ≠ []) :
    (Edit.descent head rest).apply ms = ms ↔ ∀ u, Reaches head ms u → removePath rest u = u := by
  rw [Edit.descent]
  cases walks : arrayName? head with
  | none =>
      simp only [if_neg hrest, Edit.apply, Keyed.modify_eq_self_iff]
      refine forall_congr' fun u => imp_congr ⟨.member walks, ?_⟩ Iff.rfl
      rintro (⟨-, there⟩ | ⟨walks', -, -⟩)
      · exact there
      · cases walks.symm.trans walks'
  | some name =>
      simp only [if_neg hrest, Edit.apply, Keyed.modify_eq_self_iff]
      constructor
      · rintro h u (⟨plain, -⟩ | ⟨walks', there, item⟩)
        · cases walks.symm.trans plain
        · cases walks.symm.trans walks'
          exact mapItems_arr_eq_self_iff.mp (h _ there) u item
      · intro h w there
        cases w with
        | arr xs => exact mapItems_arr_eq_self_iff.mpr fun u item => h u (.item walks there item)
        | _ => rfl

/-- After the edit of a path, its first segment leads to what is left of where it led. -/
theorem reaches_descent (hrest : rest ≠ []) :
    Reaches head ((Edit.descent head rest).apply ms) u ↔
      ∃ u₀, Reaches head ms u₀ ∧ u = removePath rest u₀ := by
  rw [Edit.descent]
  cases walks : arrayName? head with
  | none =>
      simp only [if_neg hrest, Edit.apply]
      constructor
      · rintro (⟨-, there⟩ | ⟨walks', -, -⟩)
        · rcases (Keyed.mem_modify ..).mp there with ⟨hne, -⟩ | ⟨-, u₀, hu₀, rfl⟩
          · exact absurd rfl hne
          · exact ⟨u₀, .member walks hu₀, rfl⟩
        · cases walks.symm.trans walks'
      · rintro ⟨u₀, ⟨-, there⟩ | ⟨walks', -, -⟩, rfl⟩
        · exact .member walks ((Keyed.mem_modify ..).mpr (Or.inr ⟨rfl, u₀, there, rfl⟩))
        · cases walks.symm.trans walks'
  | some name =>
      simp only [if_neg hrest, Edit.apply]
      constructor
      · rintro (⟨plain, -⟩ | @⟨other, xs, _, walks', there, item⟩)
        · cases walks.symm.trans plain
        · cases walks.symm.trans walks'
          rcases (Keyed.mem_modify ..).mp there with ⟨hne, -⟩ | ⟨-, w, hw, hxs⟩
          · exact absurd rfl hne
          · -- what became an array was one
            cases w with
            | arr ys =>
                obtain rfl := Json.arr.inj hxs
                obtain ⟨u₀, hu₀, rfl⟩ := List.mem_map.mp item
                exact ⟨u₀, .item walks hw hu₀, rfl⟩
            | _ => cases hxs
      · rintro ⟨u₀, ⟨plain, -⟩ | @⟨other, xs, _, walks', there, item⟩, rfl⟩
        · cases walks.symm.trans plain
        · cases walks.symm.trans walks'
          exact .item walks ((Keyed.mem_modify ..).mpr (Or.inr ⟨rfl, _, there, rfl⟩))
            (List.mem_map_of_mem item)

theorem arrayName?_eq_some (h : arrayName? head = some name) :
    head.toList = name.toList ++ ['[', '*', ']'] := by
  obtain ⟨piece, hpiece, rfl⟩ := Option.map_eq_some_iff.mp h
  rw [String.toList_ofList]
  exact Text.stripEnd?_eq_some_iff.mp hpiece

/-- Several segments spell a key with a dot. -/
theorem dot_mem_joinSegments (hrest : rest ≠ []) :
    '.' ∈ (joinSegments (head :: rest)).toList := by
  cases rest with
  | nil => exact absurd rfl hrest
  | cons next rest =>
      rw [joinSegments, String.toList_intercalate, List.map_cons, List.map_cons,
        List.intercalate_cons_cons]
      simp

/-- A segment leads to the same values without a key that spells its path out. -/
theorem reaches_erase (hp : Dotless (head :: rest)) (hrest : rest ≠ []) :
    Reaches head (Keyed.erase (joinSegments (head :: rest)) ms) u ↔ Reaches head ms u := by
  have hhead : '.' ∉ head.toList := hp head List.mem_cons_self
  have hkey {key : String} (hkey : '.' ∉ key.toList) (w : Json) :
      (key, w) ∈ Keyed.erase (joinSegments (head :: rest)) ms ↔ (key, w) ∈ ms := by
    rw [Keyed.erase, List.mem_filter, decide_eq_true_eq]
    refine and_iff_left fun hsame => hkey ?_
    obtain rfl : key = joinSegments (head :: rest) := hsame
    exact dot_mem_joinSegments hrest
  have hname {name : String} (walks : arrayName? head = some name) : '.' ∉ name.toList := by
    intro hdot
    rw [arrayName?_eq_some walks] at hhead
    exact hhead (List.mem_append_left _ hdot)
  constructor
  · rintro (⟨plain, there⟩ | ⟨walks, there, item⟩)
    · exact .member plain ((hkey hhead _).mp there)
    · exact .item walks ((hkey (hname walks) _).mp there) item
  · rintro (⟨plain, there⟩ | ⟨walks, there, item⟩)
    · exact .member plain ((hkey hhead _).mpr there)
    · exact .item walks ((hkey (hname walks) _).mpr there) item

/-! ## Removing one path -/

/-- Removing a path changes nothing exactly if it addresses nothing. -/
theorem removePath_eq_self_iff : removePath p v = v ↔ ¬ Addressed p v := by
  induction p generalizing v with
  | nil =>
      rw [removePath_nil]
      exact iff_of_true rfl nofun
  | cons head rest ih =>
      cases v with
      | obj ms =>
          rw [removePath_obj, Json.obj.injEq]
          by_cases key : Spelled (head :: rest) ms
          · rw [Edit.ofPath_of_spelled key, Edit.apply, Keyed.erase_eq_self_iff]
            exact not_congr (iff_of_true key.2 (.spelled key))
          rw [Edit.ofPath_of_not_spelled key, addressed_cons_iff]
          by_cases hrest : rest = []
          · subst hrest
            have hnone : ¬ ∃ u, Reaches head ms u ∧ Addressed [] u := by
              rintro ⟨u, -, h⟩
              cases h
            cases plain : arrayName? head with
            | none => simp [Edit.descent, plain, Edit.apply, Keyed.erase_eq_self_iff, key, hnone]
            | some name => simp [Edit.descent, plain, Edit.apply, key, hnone]
          · rw [descent_eq_self_iff hrest]
            simp [key, hrest, ih]
      | _ => exact iff_of_true rfl (not_addressed_of_not_isObject rfl)

/-- Removing a path leaves something that it addresses exactly where it is read twice. -/
theorem addressed_removePath_iff (hp : Dotless p) :
    Addressed p (removePath p v) ↔ ReadTwice p v := by
  induction p generalizing v with
  | nil => exact iff_of_false nofun nofun
  | cons head rest ih =>
      have hrests (u : Json) : Addressed rest (removePath rest u) ↔ ReadTwice rest u :=
        ih fun s hs => hp s (List.mem_cons_of_mem head hs)
      cases v with
      | obj ms =>
          rw [removePath_obj, addressed_cons_iff, readTwice_cons_iff, Spelled,
            Edit.mem_keys_apply]
          by_cases key : Spelled (head :: rest) ms
          · -- the key goes, and what the other readings address stays
            have hrest : rest ≠ [] := key.1
            rw [Edit.ofPath_of_spelled key, Edit.apply]
            simp only [reaches_erase hp hrest, hrest, ne_eq, not_true_eq_false, and_false,
              false_and, false_or, key, true_and]
            refine (or_iff_left_of_imp ?_).symm
            rintro ⟨u, reach, twice⟩
            exact ⟨u, reach, twice.addressed⟩
          rw [Edit.ofPath_of_not_spelled key]
          by_cases hrest : rest = []
          · subst hrest
            refine iff_of_false ?_ ?_
            · rintro (⟨h, -⟩ | ⟨-, plain, there⟩ | ⟨u, -, h⟩)
              · exact h rfl
              · rw [Edit.descent, plain, if_pos rfl, Edit.mem_keys_apply] at there
                exact there.2 rfl
              · cases h
            · rintro (⟨h, -⟩ | ⟨u, -, h⟩)
              · exact key h
              · cases h
          · have hkey : ¬ joinSegments (head :: rest) ∈ Keyed.keys ms := fun h => key ⟨hrest, h⟩
            simp only [hkey, key, hrest, reaches_descent hrest, false_and, and_false, false_or]
            constructor
            · rintro ⟨_, ⟨u, reach, rfl⟩, h⟩
              exact ⟨u, reach, (hrests u).mp h⟩
            · rintro ⟨u, reach, h⟩
              exact ⟨_, ⟨u, reach, rfl⟩, (hrests u).mpr h⟩
      | _ =>
          refine iff_of_false (not_addressed_of_not_isObject rfl) fun h => ?_
          exact not_addressed_of_not_isObject rfl h.addressed

instance (p : List String) (v : Json) : Decidable (Addressed p v) :=
  decidable_of_iff (removePath p v ≠ v) (not_iff_comm.mp removePath_eq_self_iff.symm)

instance (path : String) (v : Json) : Decidable (ReadTwice (pathSegments path) v) :=
  decidable_of_iff _ (addressed_removePath_iff (pathSegments_dotless path))

/-- Nothing is addressed that was not, after another path was removed. -/
theorem addressed_of_removePath (hp : Dotless p) (hq : Dotless q)
    (h : Addressed p (removePath q v)) : Addressed p v := by
  by_contra hv
  have hsame : removePath p (removePath q v) = removePath q v := by
    rw [removePath_comm hp hq, removePath_eq_self_iff.mpr hv]
  exact removePath_eq_self_iff.mp hsame h

/-- No path is read twice that was not, after another one was removed. -/
theorem readTwice_of_removePath (hp : Dotless p) (hq : Dotless q)
    (h : ReadTwice p (removePath q v)) : ReadTwice p v := by
  rw [← addressed_removePath_iff hp, removePath_comm hp hq] at h
  exact (addressed_removePath_iff hp).mp (addressed_of_removePath hp hq h)

/-- A path that is read twice has several segments. -/
theorem ReadTwice.tail_ne_nil (h : ReadTwice p v) : p.tail ≠ [] := by
  rcases h with ⟨key, -, -⟩ | ⟨-, twice⟩
  · exact key.1
  · rintro rfl
    cases twice

/-! ## Removing makes smaller -/

/-- A value is another one, or is smaller. -/
def Shrunk {α : Type*} [SizeOf α] (x y : α) : Prop := x = y ∨ sizeOf x < sizeOf y

theorem Shrunk.trans {α : Type*} [SizeOf α] {x y z : α} (h : Shrunk x y) (h' : Shrunk y z) :
    Shrunk x z := by
  rcases h with rfl | h
  · exact h'
  · rcases h' with rfl | h'
    · exact Or.inr h
    · exact Or.inr (h.trans h')

theorem shrunk_cons {α : Type*} [SizeOf α] {x y : α} {xs ys : List α} (h : Shrunk x y)
    (hs : Shrunk xs ys) : Shrunk (x :: xs) (y :: ys) := by
  rcases h with rfl | h
  · rcases hs with rfl | hs
    · exact Or.inl rfl
    · exact Or.inr (by simp only [List.cons.sizeOf_spec]; omega)
  · have hle : sizeOf xs ≤ sizeOf ys := by
      rcases hs with rfl | hs
      · exact le_rfl
      · exact hs.le
    exact Or.inr (by simp only [List.cons.sizeOf_spec]; omega)

theorem shrunk_filter {α : Type*} [SizeOf α] (test : α → Bool) (xs : List α) :
    Shrunk (xs.filter test) xs := by
  induction xs with
  | nil => exact Or.inl rfl
  | cons x xs ih =>
      rw [List.filter_cons]
      split
      · exact shrunk_cons (Or.inl rfl) ih
      · refine ih.trans (Or.inr ?_)
        simp only [List.cons.sizeOf_spec]
        omega

theorem shrunk_map {α : Type*} [SizeOf α] {f : α → α} (h : ∀ x, Shrunk (f x) x) (xs : List α) :
    Shrunk (xs.map f) xs := by
  induction xs with
  | nil => exact Or.inl rfl
  | cons x xs ih => exact shrunk_cons (h x) ih

theorem shrunk_modify {f : Json → Json} (h : ∀ v, Shrunk (f v) v) (key : String)
    (ms : List (String × Json)) : Shrunk (Keyed.modify key f ms) ms := by
  refine shrunk_map (fun ⟨k, v⟩ => ?_) ms
  split
  · exact (h v).imp (congrArg (Prod.mk k)) fun hlt => by simpa using hlt
  · exact Or.inl rfl

theorem shrunk_mapItems {f : Json → Json} (h : ∀ v, Shrunk (f v) v) (v : Json) :
    Shrunk (mapItems f v) v := by
  cases v with
  | arr xs =>
      refine (shrunk_map h xs).imp (congrArg Json.arr) fun hlt => ?_
      simpa [mapItems] using hlt
  | _ => exact Or.inl rfl

theorem shrunk_removePath (p : List String) (v : Json) : Shrunk (removePath p v) v := by
  induction p generalizing v with
  | nil => exact Or.inl (removePath_nil v)
  | cons head rest ih =>
      cases v with
      | obj ms =>
          have hmembers : Shrunk ((Edit.ofPath head rest ms).apply ms) ms := by
            cases hedit : Edit.ofPath head rest ms with
            | keep => exact Or.inl rfl
            | drop key => exact shrunk_filter _ ms
            | change key f =>
                refine shrunk_modify (fun v => ?_) key ms
                rcases Edit.ofPath_eq_change hedit with rfl | rfl
                · exact ih v
                · exact shrunk_mapItems ih v
          rw [removePath_obj]
          exact hmembers.imp (congrArg Json.obj) fun hlt => by simpa using hlt
      | _ => exact Or.inl rfl

/-! ## Slimming -/

/-- A path addresses a member of a value: it is not empty, and one of its readings ends there. -/
def Addresses (path : String) (v : Json) : Prop := path ≠ "" ∧ Addressed (pathSegments path) v

instance (path : String) (v : Json) : Decidable (Addresses path v) :=
  inferInstanceAs (Decidable (_ ∧ _))

/-- What holds of a value and is kept whenever one of the paths is removed holds of the slimmed
value. -/
theorem slim_induction {motive : Json → Prop} (h : motive v)
    (step : ∀ path ∈ excluded, path ≠ "" → ∀ v, motive v →
      motive (removePath (pathSegments path) v)) :
    motive (slim excluded v) := by
  rw [slim]
  refine List.foldlRecOn _ _ h fun w hw path hpath => ?_
  obtain ⟨hmem, hfilled⟩ := List.mem_filter.mp hpath
  exact step path hmem (by simpa using hfilled) w hw

theorem slim_cons (hpath : path ≠ "") (excluded : List String) (v : Json) :
    slim (path :: excluded) v = slim excluded (removePath (pathSegments path) v) := by
  simp [slim, hpath]

theorem slim_concat (hpath : path ≠ "") (excluded : List String) (v : Json) :
    slim (excluded ++ [path]) v = removePath (pathSegments path) (slim excluded v) := by
  simp [slim, List.filter_append, hpath]

/-- Each of the paths may be taken for the last that is removed. -/
theorem slim_eq_removePath (h : path ∈ excluded) (hpath : path ≠ "") (v : Json) :
    slim excluded v = removePath (pathSegments path) (slim (excluded.erase path) v) := by
  rw [← slim_concat hpath]
  exact slim_perm ((List.perm_cons_erase h).trans (List.perm_append_singleton _ _).symm) v

/-- Slimming changes nothing exactly if none of the paths addresses something. -/
theorem slim_eq_self_iff : slim excluded v = v ↔ ∀ path ∈ excluded, ¬ Addresses path v := by
  constructor
  · rintro h path hmem ⟨hpath, haddressed⟩
    -- what is removed first makes the value smaller, and nothing after that makes it greater
    have hfirst : slim excluded v =
        slim (excluded.erase path) (removePath (pathSegments path) v) := by
      rw [slim_perm (List.perm_cons_erase hmem), slim_cons hpath]
    have hless : sizeOf (removePath (pathSegments path) v) < sizeOf v :=
      (shrunk_removePath _ v).resolve_left fun hsame => removePath_eq_self_iff.mp hsame haddressed
    have hrest : Shrunk (slim (excluded.erase path) (removePath (pathSegments path) v))
        (removePath (pathSegments path) v) :=
      slim_induction (motive := fun w => Shrunk w (removePath (pathSegments path) v)) (Or.inl rfl)
        fun _ _ _ w hw => (shrunk_removePath _ w).trans hw
    rw [← hfirst, h] at hrest
    rcases hrest with hsame | hlt
    · rw [← hsame] at hless
      exact hless.false
    · exact hlt.asymm hless
  · intro h
    induction excluded with
    | nil => rfl
    | cons path rest ih =>
        have hrest : slim rest v = v :=
          ih fun other hother => h other (List.mem_cons_of_mem path hother)
        by_cases hpath : path = ""
        · simpa [slim, hpath] using hrest
        · have hfirst : removePath (pathSegments path) v = v :=
            removePath_eq_self_iff.mpr fun haddressed =>
              h path List.mem_cons_self ⟨hpath, haddressed⟩
          rw [slim_cons hpath, hfirst, hrest]

/-- A path addresses a member of the slimmed value exactly if it is read twice in what the other
paths leave. -/
theorem addresses_slim_iff (h : path ∈ excluded) (v : Json) : Addresses path (slim excluded v) ↔
    ReadTwice (pathSegments path) (slim (excluded.erase path) v) := by
  by_cases hpath : path = ""
  · subst hpath
    refine iff_of_false (fun haddresses => haddresses.1 rfl) fun htwice => htwice.tail_ne_nil ?_
    decide
  · rw [Addresses, slim_eq_removePath h hpath, addressed_removePath_iff (pathSegments_dotless path)]
    exact and_iff_right hpath

/-- No path is read twice in a slimmed value that was not in the value itself. -/
theorem readTwice_of_slim (h : ReadTwice (pathSegments path) (slim excluded v)) :
    ReadTwice (pathSegments path) v := by
  revert h
  refine slim_induction (motive := fun w => ReadTwice (pathSegments path) w →
    ReadTwice (pathSegments path) v) id fun other _ _ w hw htwice => hw ?_
  exact readTwice_of_removePath (pathSegments_dotless path) (pathSegments_dotless other) htwice

/-- Slimming leaves a member that one of the paths addresses exactly where, with the other paths
removed, that path is read in two ways: by a key that spells the rest of it out, and by the names
next to that key. Slimming once more changes something exactly if such a member is left. So where
no path is read twice, none addresses a member that is left, and slimming twice is slimming once. -/
theorem slim_leaves_iff (excluded : List String) (v : Json) :
    (∀ path ∈ excluded, (Addresses path (slim excluded v) ↔
      ReadTwice (pathSegments path) (slim (excluded.erase path) v))) ∧
    (slim excluded (slim excluded v) = slim excluded v ↔
      ∀ path ∈ excluded, ¬ Addresses path (slim excluded v)) ∧
    ((∀ path ∈ excluded, ¬ ReadTwice (pathSegments path) v) →
      (∀ path ∈ excluded, ¬ Addresses path (slim excluded v)) ∧
        slim excluded (slim excluded v) = slim excluded v) := by
  refine ⟨fun path hpath => addresses_slim_iff hpath v, slim_eq_self_iff, fun honce => ?_⟩
  have hnone : ∀ path ∈ excluded, ¬ Addresses path (slim excluded v) := by
    intro path hpath haddresses
    exact honce path hpath (readTwice_of_slim ((addresses_slim_iff hpath v).mp haddresses))
  exact ⟨hnone, slim_eq_self_iff.mpr hnone⟩

/-- A deployment as a cluster reports it. -/
def deployment : Json :=
  .obj [("metadata", .obj [("annotations", .obj [("deployment.kubernetes.io/revision", .str "3")]),
      ("generation", .int 4), ("name", .str "web")]),
    ("status", .obj [("conditions", .arr [.obj [("lastProbeTime", .str "t1")]])])]

/-- In a deployment none of the default paths is read twice, and slimming leaves nothing of them. -/
theorem deployment_slimmed :
    let excluded := OutputConfig.defaultExcludedFields
    (∀ path ∈ excluded, ¬ ReadTwice (pathSegments path) deployment) ∧
    (∀ path ∈ excluded, ¬ Addresses path (slim excluded deployment)) ∧
    slim excluded (slim excluded deployment) = slim excluded deployment := by
  intro excluded
  have honce : ∀ path ∈ excluded, ¬ ReadTwice (pathSegments path) deployment := by decide +kernel
  exact ⟨honce, (slim_leaves_iff excluded deployment).2.2 honce⟩

/-- Next to a key that spells a path out, the member to which its names lead is left, and goes only
when the result is slimmed again. -/
theorem member_left_beside_spelled_key :
    let excluded := ["metadata.generation"]
    let v := Json.obj [("metadata", .obj [("generation", .int 4)]), ("metadata.generation", .int 4)]
    slim excluded v = .obj [("metadata", .obj [("generation", .int 4)])] ∧
      Addresses "metadata.generation" (slim excluded v) ∧
      slim excluded (slim excluded v) = .obj [("metadata", .obj [])] ∧
      slim excluded (slim excluded v) ≠ slim excluded v := by
  decide +kernel

end FleetGate.Shaping
