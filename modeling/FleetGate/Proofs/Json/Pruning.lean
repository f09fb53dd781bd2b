import FleetGate.Proofs.Json.Agreement

/-! # Values without some members

`Pruned S v w` says that `w` is `v` without some members of objects, each of them named in `S`: what
is no object keeps its items, one by one, or is the same altogether. A member is named by the way to
its object, through members and items, and by its own key.

This can be read off at any place. What stands somewhere in the pruned value stood there before, and
was pruned itself (`Pruned.holds_before`). What stood somewhere still does, pruned, unless a member
on the way there is named in `S` (`Pruned.holds_after`).
-/

namespace FleetGate.Json

/-- A step into a value, to a member of an object or to an item of an array. -/
inductive Step where
  | member (name : String)
  | item (index : ℕ)
  deriving DecidableEq

/-- A value holds another one at the end of a way. -/
inductive Holds : Json → List Step → Json → Prop
  | here {v : Json} : Holds v [] v
  | member {ms : List (String × Json)} {name : String} {u w : Json} {way : List Step}
      (there : (name, u) ∈ ms) (deeper : Holds u way w) : Holds (.obj ms) (.member name :: way) w
  | item {xs : List Json} {i : ℕ} {u w : Json} {way : List Step}
      (there : xs[i]? = some u) (deeper : Holds u way w) : Holds (.arr xs) (.item i :: way) w

/-- Members of objects, each named by the way to its object and by its key. -/
abbrev MemberSet := Set (List Step × String)

/-- The members that lie at the end of a way or behind it, named from there. -/
def MemberSet.under (S : MemberSet) (way : List Step) : MemberSet := {m | (way ++ m.1, m.2) ∈ S}

/-- The second value is the first one without some of the members named. -/
inductive Pruned : MemberSet → Json → Json → Prop
  | same {S : MemberSet} {v : Json} : Pruned S v v
  | arr {S : MemberSet} {xs ys : List Json} (length : xs.length = ys.length)
      (items : ∀ i x y, xs[i]? = some x → ys[i]? = some y → Pruned (S.under [.item i]) x y) :
      Pruned S (.arr xs) (.arr ys)
  | obj {S : MemberSet} {ms ns : List (String × Json)} (gone : List String)
      (named : ∀ key ∈ gone, ([], key) ∈ S)
      (keys : Keyed.keys (Keyed.eraseAll gone ms) = Keyed.keys ns)
      (values : ∀ m n, (m, n) ∈ (Keyed.eraseAll gone ms).zip ns →
        Pruned (S.under [.member m.1]) m.2 n.2) :
      Pruned S (.obj ms) (.obj ns)

/-- Two members have one name, and the value of the second is that of the first, pruned. -/
def PrunedMember (S : MemberSet) (m n : String × Json) : Prop :=
  m.1 = n.1 ∧ Pruned (S.under [.member m.1]) m.2 n.2

variable {S T : MemberSet} {u v w x y : Json} {ms ns : List (String × Json)} {xs : List Json}
  {gone : List String} {way : List Step} {i : ℕ}

/-! ## One container at a time -/

theorem Pruned.members (gone : List String) (named : ∀ key ∈ gone, ([], key) ∈ S)
    (h : List.Forall₂ (PrunedMember S) (Keyed.eraseAll gone ms) ns) :
    Pruned S (.obj ms) (.obj ns) := by
  refine .obj gone named ?_ fun m n hmn => (List.forall₂_zip h hmn).2
  exact List.forall₂_eq_eq_eq ▸ List.forall₂_map_left_iff.mpr
    (List.forall₂_map_right_iff.mpr (h.imp fun _ _ hmn => hmn.1))

theorem PrunedMember.refl (S : MemberSet) (m : String × Json) : PrunedMember S m m :=
  ⟨rfl, .same⟩

/-- An object is pruned to an object, from which some members are gone. -/
theorem Pruned.of_obj (h : Pruned S (.obj ms) w) : ∃ gone ns, w = .obj ns ∧
    (∀ key ∈ gone, ([], key) ∈ S) ∧
    List.Forall₂ (PrunedMember S) (Keyed.eraseAll gone ms) ns := by
  cases h with
  | same =>
      refine ⟨[], ms, rfl, nofun, ?_⟩
      rw [Keyed.eraseAll_nil]
      exact List.forall₂_same.mpr fun m _ => .refl S m
  | obj gone named keys values => exact ⟨gone, _, rfl, named, membersAlikeBut_of_zip keys values⟩

/-- An array is pruned to an array, item by item. -/
theorem Pruned.of_arr (h : Pruned S (.arr xs) w) : ∃ ys, w = .arr ys ∧ xs.length = ys.length ∧
    ∀ i x y, xs[i]? = some x → ys[i]? = some y → Pruned (S.under [.item i]) x y := by
  cases h with
  | same =>
      refine ⟨xs, rfl, rfl, fun i x y hx hy => ?_⟩
      obtain rfl : x = y := Option.some.inj (hx.symm.trans hy)
      exact .same
  | arr length items => exact ⟨_, rfl, length, items⟩

/-- Arrays of one length have items at the same places. -/
theorem exists_item_of_length_eq {ys : List Json} (length : xs.length = ys.length)
    (hx : xs[i]? = some x) : ∃ y, ys[i]? = some y := by
  obtain ⟨hi, -⟩ := List.getElem?_eq_some_iff.mp hx
  exact ⟨ys[i], List.getElem?_eq_getElem (length ▸ hi)⟩

/-- An object without a named member. -/
theorem Pruned.erase {key : String} (named : ([], key) ∈ S) (ms : List (String × Json)) :
    Pruned S (.obj ms) (.obj (Keyed.erase key ms)) := by
  refine .members [key] (List.forall_mem_singleton.mpr named) ?_
  rw [Keyed.eraseAll_singleton]
  exact List.forall₂_same.mpr fun m _ => .refl S m

/-- An object in which the value of a key is pruned. -/
theorem Pruned.modify {key : String} {f : Json → Json}
    (hf : ∀ u, Pruned (S.under [.member key]) u (f u)) (ms : List (String × Json)) :
    Pruned S (.obj ms) (.obj (Keyed.modify key f ms)) := by
  refine .members [] nofun ?_
  rw [Keyed.eraseAll_nil, Keyed.modify, List.forall₂_map_right_iff]
  refine List.forall₂_same.mpr fun m _ => ?_
  split
  · rename_i hkey
    exact ⟨rfl, hkey ▸ hf m.2⟩
  · exact .refl S m

/-- What is pruned without some members is pruned without more of them. -/
theorem Pruned.mono (h : Pruned S v w) (sub : S ⊆ T) : Pruned T v w := by
  induction h generalizing T with
  | same => exact .same
  | arr length _ ih => exact .arr length fun i x y hx hy => ih i x y hx hy fun _ hm => sub hm
  | obj gone named keys _ ih =>
      refine .obj gone (fun key hkey => sub (named key hkey)) keys fun m n hmn => ?_
      exact ih m n hmn fun _ hm => sub hm

/-- What is pruned twice is pruned. -/
theorem Pruned.trans (h : Pruned S u v) (h' : Pruned S v w) : Pruned S u w := by
  induction h generalizing w with
  | same => exact h'
  | @arr S xs ys length items ih =>
      obtain ⟨zs, rfl, length', items'⟩ := h'.of_arr
      refine .arr (length.trans length') fun i x z hx hz => ?_
      obtain ⟨y, hy⟩ := exists_item_of_length_eq length hx
      exact ih i x y hx hy (items' i y z hy hz)
  | @obj S ms ns gone named keys values ih =>
      obtain ⟨gone', os, rfl, named', hos⟩ := h'.of_obj
      have hns : List.Forall₂ (fun m n => m.1 = n.1 ∧ ∀ w, Pruned (S.under [.member m.1]) n.2 w →
          Pruned (S.under [.member m.1]) m.2 w) (Keyed.eraseAll gone ms) ns :=
        membersAlikeBut_of_zip keys fun m n hmn w => ih m n hmn
      have hboth : ∀ key ∈ gone ++ gone', ([], key) ∈ S := by
        intro key hkey
        exact (List.mem_append.mp hkey).elim (named key) (named' key)
      refine .members (gone ++ gone') hboth ?_
      rw [← Keyed.eraseAll_eraseAll]
      -- what the second pruning takes away was kept by the first under the same names
      refine forall₂_trans (List.rel_filter (fun m n hmn => by simp [hmn.1]) hns) hos ?_
      rintro m n o ⟨hmn, hpruned⟩ ⟨hno, hn⟩
      rw [← hmn] at hn
      exact ⟨hmn.trans hno, hpruned _ hn⟩

/-! ## At the end of a way -/

/-- What a pruned value holds the value held before, at the same place and pruned itself. -/
theorem Pruned.holds_before (h : Pruned S v w) (hw : Holds w way y) :
    ∃ x, Holds v way x ∧ Pruned (S.under way) x y := by
  induction hw generalizing v S with
  | here => exact ⟨v, .here, h⟩
  | @member ns name u y way there deeper ih =>
      cases h with
      | same => exact ⟨y, .member there deeper, .same⟩
      | @obj _ ms _ gone named keys values =>
          obtain ⟨m, hm, hname, hpruned⟩ :=
            exists_left_of_mem (membersAlikeBut_of_zip keys values) there
          obtain ⟨x, hx, hxy⟩ := ih hpruned
          obtain rfl : m.1 = name := hname
          exact ⟨x, .member ((Keyed.mem_eraseAll.mp hm).1) hx, hxy⟩
  | @item ys i u y way there deeper ih =>
      cases h with
      | same => exact ⟨y, .item there deeper, .same⟩
      | @arr _ xs _ length items =>
          obtain ⟨t, ht⟩ := exists_item_of_length_eq length.symm there
          obtain ⟨x, hx, hxy⟩ := ih (items i t u ht there)
          exact ⟨x, .item ht hx, hxy⟩

/-- What a value held it holds when pruned, at the same place and pruned itself, unless a member on
the way there is named. -/
theorem Pruned.holds_after (h : Pruned S v w) (hv : Holds v way x) :
    (∃ y, Holds w way y ∧ Pruned (S.under way) x y) ∨
      ∃ upto key, upto ++ [.member key] <+: way ∧ (upto, key) ∈ S := by
  induction hv generalizing w S with
  | here => exact Or.inl ⟨w, .here, h⟩
  | @member ms name u x way there deeper ih =>
      obtain ⟨gone, ns, rfl, named, hns⟩ := h.of_obj
      by_cases hname : name ∈ gone
      · exact Or.inr ⟨[], name, by simp, named name hname⟩
      obtain ⟨n, hn, hkey, hpruned⟩ :=
        exists_right_of_mem hns (Keyed.mem_eraseAll.mpr ⟨there, hname⟩)
      obtain rfl : name = n.1 := hkey
      refine (ih hpruned).imp (fun ⟨y, hy, hxy⟩ => ⟨y, .member hn hy, hxy⟩) ?_
      rintro ⟨upto, key, hprefix, hmem⟩
      exact ⟨.member n.1 :: upto, key, List.prefix_cons_inj _ |>.mpr hprefix, hmem⟩
  | @item xs i u x way there deeper ih =>
      obtain ⟨ys, rfl, length, items⟩ := h.of_arr
      obtain ⟨t, ht⟩ := exists_item_of_length_eq length there
      refine (ih (items i u t there ht)).imp (fun ⟨y, hy, hxy⟩ => ⟨y, .item ht hy, hxy⟩) ?_
      rintro ⟨upto, key, hprefix, hmem⟩
      exact ⟨.item i :: upto, key, List.prefix_cons_inj _ |>.mpr hprefix, hmem⟩

end FleetGate.Json
