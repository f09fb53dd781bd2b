import FleetGate.Proofs.Json.Pruning
import FleetGate.Proofs.Shaping.Leftovers

/-! # How far slimming goes

Slimming takes members away that one of the excluded paths addresses, and nothing besides
(`slim_prunes`). What a path addresses is told without a value: which way its segments lead, and
which keys they, or what is left of them, may name at its end (`LeadsTo`). Removing a path follows
it, one step for one segment (`pruned_removePath`).
-/

namespace FleetGate.Shaping

open Json (Holds MemberSet Pruned Step)

/-- A path leads along a way to an object and addresses the member of a key there. A segment leads
to the member of its name or, if it walks arrays, to any item of it. The key is the last segment, or
all that is left of the path as one key. -/
inductive LeadsTo : List String → List Step → String → Prop
  | last {name : String} (plain : arrayName? name = none) : LeadsTo [name] [] name
  | joined {head : String} {rest : List String} (more : rest ≠ []) :
      LeadsTo (head :: rest) [] (joinSegments (head :: rest))
  | member {name key : String} {rest : List String} {way : List Step}
      (plain : arrayName? name = none) (further : LeadsTo rest way key) :
      LeadsTo (name :: rest) (.member name :: way) key
  | item {head name key : String} {rest : List String} {way : List Step} (i : ℕ)
      (walks : arrayName? head = some name) (further : LeadsTo rest way key) :
      LeadsTo (head :: rest) (.member name :: .item i :: way) key

/-- The members that a path addresses. -/
def addressedBy (p : List String) : MemberSet := {m | LeadsTo p m.1 m.2}

/-- The members that one of the excluded paths addresses. -/
def addressedMembers (excluded : List String) : MemberSet :=
  {m | ∃ path ∈ excluded, path ≠ "" ∧ m ∈ addressedBy (pathSegments path)}

variable {S : MemberSet} {p rest excluded : List String} {head : String}
  {ms : List (String × Json)} {v : Json}

/-! ## Removing one path -/

/-- The edit of a path drops a member that it addresses, or goes on where its first segment leads. -/
theorem Edit.ofPath_cases (head : String) (rest : List String) (ms : List (String × Json)) :
    Edit.ofPath head rest ms = .keep ∨
    (∃ key, LeadsTo (head :: rest) [] key ∧ Edit.ofPath head rest ms = .drop key) ∨
    (arrayName? head = none ∧ Edit.ofPath head rest ms = .change head (removePath rest)) ∨
    ∃ name, arrayName? head = some name ∧
      Edit.ofPath head rest ms = .change name (mapItems (removePath rest)) := by
  by_cases key : Spelled (head :: rest) ms
  · exact Or.inr (Or.inl ⟨_, .joined key.1, ofPath_of_spelled key⟩)
  rw [ofPath_of_not_spelled key, descent]
  cases hhead : arrayName? head with
  | none =>
      by_cases hrest : rest = []
      · subst hrest
        exact Or.inr (Or.inl ⟨head, .last hhead, rfl⟩)
      · exact Or.inr (Or.inr (Or.inl ⟨rfl, if_neg hrest⟩))
  | some name =>
      by_cases hrest : rest = []
      · exact Or.inl (if_pos hrest)
      · exact Or.inr (Or.inr (Or.inr ⟨name, rfl, if_neg hrest⟩))

/-- A value whose items are pruned. -/
theorem pruned_mapItems {f : Json → Json} (hf : ∀ i u, Pruned (S.under [.item i]) u (f u))
    (v : Json) : Pruned S v (mapItems f v) := by
  cases v with
  | arr xs =>
      refine .arr (List.length_map _).symm fun i x y hx hy => ?_
      rw [List.getElem?_map, hx] at hy
      obtain rfl : f x = y := Option.some.inj hy
      exact hf i x
  | _ => exact .same

/-- Removing a path takes members away that it addresses, and nothing else. -/
theorem pruned_removePath (p : List String) (v : Json) :
    Pruned (addressedBy p) v (removePath p v) := by
  induction p generalizing v with
  | nil =>
      rw [removePath_nil]
      exact .same
  | cons head rest ih =>
      cases v with
      | obj ms =>
          rw [removePath_obj]
          rcases Edit.ofPath_cases head rest ms with
            hedit | ⟨key, hkey, hedit⟩ | ⟨plain, hedit⟩ | ⟨name, walks, hedit⟩
          all_goals rw [hedit]
          · exact .same
          · exact .erase hkey ms
          · exact .modify (fun u => (ih u).mono fun _ hm => .member plain hm) ms
          · refine .modify (fun u => pruned_mapItems (fun i u => ?_) u) ms
            exact (ih u).mono fun _ hm => .item i walks hm
      | _ => exact .same

/-! ## Addressed members -/

/-- A path addresses something in a value exactly if one of the members that it addresses is
there. -/
theorem addressed_iff : Addressed p v ↔
    ∃ way key u, LeadsTo p way key ∧ Holds v (way ++ [.member key]) u := by
  constructor
  · intro h
    induction h with
    | spelled key =>
        obtain ⟨⟨_, u⟩, there, rfl⟩ := List.mem_map.mp key.2
        exact ⟨[], _, u, .joined key.1, .member there .here⟩
    | last plain key =>
        obtain ⟨⟨_, u⟩, there, rfl⟩ := List.mem_map.mp key
        exact ⟨[], _, u, .last plain, .member there .here⟩
    | deeper reach _ ih =>
        obtain ⟨way, key, w, leads, holds⟩ := ih
        rcases reach with ⟨plain, there⟩ | ⟨walks, there, item⟩
        · exact ⟨_, key, w, .member plain leads, .member there holds⟩
        · obtain ⟨i, hi⟩ := List.mem_iff_getElem?.mp item
          exact ⟨_, key, w, .item i walks leads, .member there (.item hi holds)⟩
  · rintro ⟨way, key, u, leads, holds⟩
    induction leads generalizing v with
    | last plain =>
        cases holds with
        | member there _ => exact .last plain (List.mem_map_of_mem there)
    | joined more =>
        cases holds with
        | member there _ => exact .spelled ⟨more, List.mem_map_of_mem there⟩
    | member plain _ ih =>
        cases holds with
        | member there holds => exact .deeper (.member plain there) (ih holds)
    | item i walks _ ih =>
        cases holds with
        | member there holds =>
            cases holds with
            | item hi holds =>
                exact .deeper (.item walks there (List.mem_of_getElem? hi)) (ih holds)

/-! ## Slimming -/

theorem pruned_slim (excluded : List String) (v : Json) :
    Pruned (addressedMembers excluded) v (slim excluded v) :=
  slim_induction .same fun path hmem hpath w hw =>
    hw.trans ((pruned_removePath _ w).mono fun _ hm => ⟨path, hmem, hpath, hm⟩)

/-- Slimming takes members away that one of the excluded paths addresses, and leaves all else as it
was. So whatever the slimmed value holds somewhere stood there before, but for such members below,
and whatever stood somewhere is left there, but for such members below, unless a member on the way
was one. And if the value has no such member, it is left as it is, and only then. -/
theorem slim_prunes (excluded : List String) (v : Json) :
    let S := addressedMembers excluded
    Pruned S v (slim excluded v) ∧
    (∀ way w, Holds (slim excluded v) way w → ∃ u, Holds v way u ∧ Pruned (S.under way) u w) ∧
    (∀ way u, Holds v way u →
      (∃ w, Holds (slim excluded v) way w ∧ Pruned (S.under way) u w) ∨
        ∃ upto key, upto ++ [.member key] <+: way ∧ (upto, key) ∈ S) ∧
    (slim excluded v = v ↔ ∀ way key u, (way, key) ∈ S → ¬ Holds v (way ++ [.member key]) u) := by
  have hpruned := pruned_slim excluded v
  refine ⟨hpruned, fun _ _ hw => hpruned.holds_before hw, fun _ _ hu => hpruned.holds_after hu, ?_⟩
  rw [slim_eq_self_iff]
  constructor
  · rintro hnone way key u ⟨path, hmem, hpath, leads⟩ holds
    exact hnone path hmem ⟨hpath, addressed_iff.mpr ⟨way, key, u, leads, holds⟩⟩
  · rintro hnone path hmem ⟨hpath, haddressed⟩
    obtain ⟨way, key, u, leads, holds⟩ := addressed_iff.mp haddressed
    exact hnone way key u ⟨path, hmem, hpath, leads⟩ holds

end FleetGate.Shaping
