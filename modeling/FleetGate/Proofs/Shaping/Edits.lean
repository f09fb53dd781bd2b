import FleetGate.Proofs.Shaping.Slimming
import FleetGate.Proofs.Text.Search

/-! # In which order paths are removed

It makes no difference (`slim_perm`). Removing a path from an object is one edit of its members: a
key is dropped, the values of a key are changed, or everything is kept. Which edit that is depends
on the path and on whether some key spells it out as a whole; no other path drops that key, for its
edits drop what that one spells (`ofPath_apply`). Edits commute as far as their changes do, and the
changes remove the rests of the paths, so that removals commute by induction (`removePath_comm`).
-/

namespace FleetGate.Shaping

open Text (splitOn_intercalate notMem_of_mem_splitOn)

variable {path : String} {p q rest rest' : List String} {head head' key : String}
  {ms : List (String × Json)} {f g : Json → Json}

/-! ## Segments -/

/-- No segment holds a dot. -/
def Dotless (segments : List String) : Prop := ∀ segment ∈ segments, '.' ∉ segment.toList

/-- The segments are found again in the key that they spell. -/
theorem pathSegments_joinSegments (hp : Dotless p) (hne : p ≠ []) :
    pathSegments (joinSegments p) = p := by
  have hdots : ∀ piece ∈ p.map String.toList, '.' ∉ piece := by
    rintro _ hpiece
    obtain ⟨segment, hsegment, rfl⟩ := List.mem_map.mp hpiece
    exact hp segment hsegment
  rw [pathSegments, joinSegments, String.toList_intercalate, show ".".toList = ['.'] from rfl,
    splitOn_intercalate hdots (mt List.map_eq_nil_iff.mp hne), List.map_map]
  simp [Function.comp_def]

theorem pathSegments_dotless (path : String) : Dotless (pathSegments path) := by
  intro segment hsegment
  obtain ⟨piece, hpiece, rfl⟩ := List.mem_map.mp hsegment
  rw [String.toList_ofList]
  exact notMem_of_mem_splitOn hpiece

/-- Different segments spell different keys. -/
theorem joinSegments_inj (hp : Dotless p) (hq : Dotless q) (hp' : p ≠ []) (hq' : q ≠ [])
    (h : joinSegments p = joinSegments q) : p = q := by
  rw [← pathSegments_joinSegments hp hp', h, pathSegments_joinSegments hq hq']

/-! ## Edits -/

/-- What removing a path may do to the members of an object. -/
inductive Edit where
  | keep
  | drop (key : String)
  | change (key : String) (f : Json → Json)

namespace Edit

/-- The members after an edit. -/
def apply : Edit → List (String × Json) → List (String × Json)
  | keep, ms => ms
  | drop key, ms => Keyed.erase key ms
  | change key f, ms => Keyed.modify key f ms

/-- The edit by which a path goes on from its first segment. -/
def descent (head : String) (rest : List String) : Edit :=
  match arrayName? head with
  | some name => if rest = [] then keep else change name (mapItems (removePath rest))
  | none => if rest = [] then drop head else change head (removePath rest)

end Edit

/-- Some key spells a path of several segments out. -/
def Spelled (p : List String) (ms : List (String × Json)) : Prop :=
  p.tail ≠ [] ∧ joinSegments p ∈ Keyed.keys ms

instance (p : List String) (ms : List (String × Json)) : Decidable (Spelled p ms) :=
  inferInstanceAs (Decidable (_ ∧ _))

namespace Edit

/-- The edit of a path. -/
def ofPath (head : String) (rest : List String) (ms : List (String × Json)) : Edit :=
  if Spelled (head :: rest) ms then drop (joinSegments (head :: rest)) else descent head rest

theorem ofPath_of_spelled (h : Spelled (head :: rest) ms) :
    ofPath head rest ms = drop (joinSegments (head :: rest)) :=
  if_pos h

theorem ofPath_of_not_spelled (h : ¬ Spelled (head :: rest) ms) :
    ofPath head rest ms = descent head rest :=
  if_neg h

end Edit

/-- Removing a path from an object is its edit of the members. -/
theorem removePath_obj (head : String) (rest : List String) (ms : List (String × Json)) :
    removePath (head :: rest) (.obj ms) = .obj ((Edit.ofPath head rest ms).apply ms) := by
  have hspelled : (!rest.isEmpty && Keyed.has (joinSegments (head :: rest)) ms) = true ↔
      Spelled (head :: rest) ms := by
    rw [Bool.and_eq_true, Bool.not_eq_true', List.isEmpty_eq_false_iff, Keyed.has_iff]
    rfl
  rw [removePath, Edit.ofPath]
  by_cases h : Spelled (head :: rest) ms
  · rw [if_pos (hspelled.mpr h), if_pos h]
    rfl
  · rw [if_neg (mt hspelled.mp h), if_neg h, Edit.descent]
    cases arrayName? head with
    | some name => cases rest <;> rfl
    | none => cases rest <;> rfl

namespace Edit

/-- What a path drops is a key that it spells. -/
theorem ofPath_eq_drop (h : ofPath head rest ms = drop key) :
    key = joinSegments (head :: rest) := by
  rw [ofPath] at h
  split at h
  · cases h
    rfl
  · rw [descent] at h
    split at h
    · split at h <;> cases h
    · split at h
      · rename_i hrest
        cases h
        subst hrest
        simp [joinSegments, String.intercalate_singleton]
      · cases h

/-- What a path changes it changes by removing its rest, from values or from the items of arrays. -/
theorem ofPath_eq_change (h : ofPath head rest ms = change key f) :
    f = removePath rest ∨ f = mapItems (removePath rest) := by
  rw [ofPath] at h
  split at h
  · cases h
  · rw [descent] at h
    split at h
    · split at h
      · cases h
      · cases h
        exact Or.inr rfl
    · split at h
      · cases h
      · cases h
        exact Or.inl rfl

/-- An edit leaves every key but one that it drops. -/
theorem mem_keys_apply {e : Edit} : key ∈ Keyed.keys (e.apply ms) ↔
    key ∈ Keyed.keys ms ∧ e ≠ drop key := by
  cases e with
  | keep => simp [apply]
  | drop other => simp [apply, Keyed.mem_keys_erase, eq_comm]
  | change other f => simp [apply, Keyed.keys_modify]

/-- Edits may be made in either order, if their changes of values may. -/
theorem apply_comm {e e' : Edit}
    (h : ∀ key key' f g, e = change key f → e' = change key' g → ∀ v, f (g v) = g (f v))
    (ms : List (String × Json)) : e.apply (e'.apply ms) = e'.apply (e.apply ms) := by
  cases e with
  | keep => rfl
  | drop key =>
      cases e' with
      | keep => rfl
      | drop key' => exact Keyed.erase_comm key key' ms
      | change key' g => exact Keyed.erase_modify key key' g ms
  | change key f =>
      cases e' with
      | keep => rfl
      | drop key' => exact (Keyed.erase_modify key' key f ms).symm
      | change key' g => exact Keyed.modify_comm (fun _ => h key key' f g rfl rfl) ms

/-- The edit of a path is the same after that of another one. -/
theorem ofPath_apply (hp : Dotless (head :: rest)) (hq : Dotless (head' :: rest'))
    (hne : head :: rest ≠ head' :: rest') :
    ofPath head rest ((ofPath head' rest' ms).apply ms) = ofPath head rest ms := by
  have hkept : ofPath head' rest' ms ≠ drop (joinSegments (head :: rest)) := by
    intro hdrop
    have hsame := joinSegments_inj hp hq (by simp) (by simp) (ofPath_eq_drop hdrop)
    exact hne hsame
  have hspelled : Spelled (head :: rest) ((ofPath head' rest' ms).apply ms) ↔
      Spelled (head :: rest) ms := by
    rw [Spelled, Spelled, mem_keys_apply]
    simp [hkept]
  rw [ofPath]
  simp only [hspelled]
  rfl

end Edit

/-! ## Removing two paths -/

/-- What is done to the items of arrays does not matter for removing a path, nor the other way
round. -/
theorem removePath_mapItems (p : List String) (g : Json → Json) (v : Json) :
    removePath p (mapItems g v) = mapItems g (removePath p v) := by
  cases hv : v.isObject with
  | false =>
      have hmap : (mapItems g v).isObject = false := by
        cases v with
        | obj ms => cases hv
        | _ => rfl
      rw [removePath_of_not_isObject p hmap, removePath_of_not_isObject p hv]
  | true =>
      -- an object stays one, and has no items
      cases v with
      | obj ms =>
          cases p with
          | nil => rw [removePath_nil, removePath_nil]
          | cons head rest =>
              rw [removePath_obj]
              exact removePath_obj head rest ms
      | _ => cases hv

theorem mapItems_comm (h : ∀ v, f (g v) = g (f v)) (v : Json) :
    mapItems f (mapItems g v) = mapItems g (mapItems f v) := by
  cases v with
  | arr xs => simp [mapItems, Function.comp_def, h]
  | _ => rfl

/-- Two paths may be removed in either order. -/
theorem removePath_comm (hp : Dotless p) (hq : Dotless q) (v : Json) :
    removePath p (removePath q v) = removePath q (removePath p v) := by
  induction p generalizing q v with
  | nil => rw [removePath_nil, removePath_nil]
  | cons head rest ih =>
      cases q with
      | nil => rw [removePath_nil, removePath_nil]
      | cons head' rest' =>
          by_cases hsame : head :: rest = head' :: rest'
          · rw [hsame]
          have hrests := ih (fun s hs => hp s (List.mem_cons_of_mem head hs))
            (fun s hs => hq s (List.mem_cons_of_mem head' hs))
          cases v with
          | obj ms =>
              rw [removePath_obj head' rest' ms, removePath_obj head rest ms, removePath_obj,
                removePath_obj, Edit.ofPath_apply hp hq hsame,
                Edit.ofPath_apply hq hp (Ne.symm hsame)]
              refine congrArg Json.obj (Edit.apply_comm (fun key key' f g hf hg v => ?_) ms)
              -- both changes remove the rests of the paths
              rcases Edit.ofPath_eq_change hf with rfl | rfl
              · rcases Edit.ofPath_eq_change hg with rfl | rfl
                · exact hrests v
                · exact removePath_mapItems rest _ v
              · rcases Edit.ofPath_eq_change hg with rfl | rfl
                · exact (removePath_mapItems rest' _ v).symm
                · exact mapItems_comm hrests v
          | _ => rfl

/-! ## Slimming -/

theorem removePath_pathSegments_comm (path path' : String) (v : Json) :
    removePath (pathSegments path) (removePath (pathSegments path') v) =
      removePath (pathSegments path') (removePath (pathSegments path) v) :=
  removePath_comm (pathSegments_dotless path) (pathSegments_dotless path') v

/-- The same paths in another order leave the same value. -/
theorem slim_perm {excluded others : List String} (h : excluded.Perm others) (v : Json) :
    slim excluded v = slim others v :=
  (h.filter _).foldl_eq' (fun path _ path' _ v => removePath_pathSegments_comm path' path v) v

/-- A path and a longer one that goes through the same members, in either order, where one of the
two is also spelled out by a key. -/
theorem slim_perm_overlapping :
    let excluded := ["status.items[*].probe.time", "metadata.generation", "status.items[*].probe"]
    let others := ["status.items[*].probe", "status.items[*].probe.time", "metadata.generation"]
    let item := Json.obj [("probe", .obj [("time", .str "t1")]), ("probe.time", .str "t1")]
    let v := Json.obj [("metadata", .obj [("generation", .int 4)]), ("metadata.generation", .int 4),
      ("status", .obj [("items", .arr [item])])]
    excluded.Perm others ∧ slim excluded v = slim others v ∧
      slim others v = .obj [("metadata", .obj [("generation", .int 4)]),
        ("status", .obj [("items", .arr [.obj []])])] := by
  intro excluded others item v
  have hperm : excluded.Perm others := by decide
  exact ⟨hperm, slim_perm hperm v, by decide +kernel⟩

end FleetGate.Shaping
