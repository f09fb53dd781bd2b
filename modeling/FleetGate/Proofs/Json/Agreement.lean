import FleetGate.Json.Value
import FleetGate.Proofs.Keyed
import Mathlib.Data.List.Forall2
import Mathlib.Data.Set.Basic

/-! # Values that agree but at some places

Two values are compared with some places left out of sight: they have the same shape and the same
content, except that at a hidden place anything may stand. A place is named by the members on the
way to it, so nothing within an array can be hidden.

A function that treats members by their names takes values that agree to values that agree
(`AlikeBut.mapMembers`), hiding fewer places afterwards where it writes over what it finds. Once
nothing is hidden, values that agree are equal (`AlikeBut.eq_of_empty`).
-/

namespace FleetGate.Json

/-- Places in a value, each by the names of the members on the way to it. -/
abbrev Places := Set (List String)

/-- The places within the member of a name. -/
def Places.below (S : Places) (name : String) : Places := {path | name :: path ∈ S}

theorem Places.below_singleton (name : String) (path : List String) :
    Places.below {name :: path} name = {path} := by
  ext other
  exact ⟨fun h => (List.cons.inj h).2, fun h => congrArg (List.cons name) h⟩

theorem Places.root_notMem_singleton (name : String) (path : List String) :
    [] ∉ ({name :: path} : Places) :=
  fun h => List.cons_ne_nil name path (Eq.symm h)

/-- Every place lies at least so many members deep. -/
def Places.Deep (depth : ℕ) (S : Places) : Prop :=
  ∀ path ∈ S, depth ≤ path.length

/-- The values agree but at the places `S`. -/
inductive AlikeBut : Places → Json → Json → Prop
  | hidden {S : Places} {v w : Json} (here : [] ∈ S) : AlikeBut S v w
  | same {S : Places} {v : Json} : AlikeBut S v v
  | obj {S : Places} {ms ns : List (String × Json)} (keys : Keyed.keys ms = Keyed.keys ns)
      (values : ∀ m n, (m, n) ∈ ms.zip ns → AlikeBut (S.below m.1) m.2 n.2) :
      AlikeBut S (.obj ms) (.obj ns)

/-- Two members have one name, and values that agree but at the places. -/
def MemberAlikeBut (S : Places) (m n : String × Json) : Prop :=
  m.1 = n.1 ∧ AlikeBut (S.below m.1) m.2 n.2

/-- Members agree one by one. -/
def MembersAlikeBut (S : Places) (ms ns : List (String × Json)) : Prop :=
  List.Forall₂ (MemberAlikeBut S) ms ns

variable {S T : Places} {v w : Json} {ms ns : List (String × Json)} {name : String}

/-! ## Lists in step -/

section InStep

variable {α β γ : Type*} {R : α → β → Prop} {Q : β → γ → Prop} {P : α → γ → Prop} {as : List α}
  {bs : List β} {cs : List γ}

/-- What stands in the second of two lists in step has its counterpart in the first. -/
theorem exists_left_of_mem (h : List.Forall₂ R as bs) {b : β} (hb : b ∈ bs) : ∃ a ∈ as, R a b := by
  induction h with
  | nil => cases hb
  | @cons a b' _ _ head _ ih =>
      rcases List.mem_cons.mp hb with rfl | hb
      · exact ⟨a, List.mem_cons_self, head⟩
      · obtain ⟨a', ha', hab⟩ := ih hb
        exact ⟨a', List.mem_cons_of_mem _ ha', hab⟩

/-- What stands in the first of two lists in step has its counterpart in the second. -/
theorem exists_right_of_mem (h : List.Forall₂ R as bs) {a : α} (ha : a ∈ as) : ∃ b ∈ bs, R a b :=
  exists_left_of_mem (R := flip R) h.flip ha

/-- Lists in step with a third one are in step. -/
theorem forall₂_trans (h : List.Forall₂ R as bs) (h' : List.Forall₂ Q bs cs)
    (trans : ∀ a b c, R a b → Q b c → P a c) : List.Forall₂ P as cs := by
  induction h generalizing cs with
  | nil =>
      cases h'
      exact .nil
  | @cons a b _ _ head _ ih =>
      cases h' with
      | cons head' tail' => exact .cons (trans a b _ head head') (ih tail')

end InStep

/-! ## How deep places lie -/

theorem Places.Deep.union {depth : ℕ} (hS : S.Deep depth) (hT : T.Deep depth) :
    Places.Deep depth (S ∪ T) := by
  rintro path (h | h)
  · exact hS path h
  · exact hT path h

theorem Places.Deep.below {depth : ℕ} (hS : S.Deep (depth + 1)) (name : String) :
    (S.below name).Deep depth :=
  fun path hpath => Nat.le_of_succ_le_succ (hS (name :: path) hpath)

/-- The value as a whole is not among places that lie within it. -/
theorem Places.Deep.root {depth : ℕ} (hS : S.Deep (depth + 1)) : [] ∉ S :=
  fun h => absurd (hS _ h) (Nat.not_succ_le_zero depth)

/-! ## Objects -/

theorem MembersAlikeBut.refl (S : Places) (ms : List (String × Json)) : MembersAlikeBut S ms ms :=
  List.forall₂_same.mpr fun _ _ => ⟨rfl, .same⟩

theorem MembersAlikeBut.cons (head : AlikeBut (S.below name) v w) (tail : MembersAlikeBut S ms ns) :
    MembersAlikeBut S ((name, v) :: ms) ((name, w) :: ns) :=
  List.Forall₂.cons ⟨rfl, head⟩ tail

theorem MembersAlikeBut.keys_eq (h : MembersAlikeBut S ms ns) : Keyed.keys ms = Keyed.keys ns := by
  induction h with
  | nil => rfl
  | cons head _ ih => exact congrArg₂ List.cons head.1 ih

/-- A member of the second object agrees with one of the first. -/
theorem MembersAlikeBut.exists_of_mem (h : MembersAlikeBut S ms ns) {n : String × Json}
    (hn : n ∈ ns) : ∃ m ∈ ms, MemberAlikeBut S m n :=
  exists_left_of_mem h hn

/-- What takes members that agree to the same takes objects that agree to the same. -/
theorem MembersAlikeBut.map_eq {α : Type*} {f : String × Json → α} (h : MembersAlikeBut S ms ns)
    (hf : ∀ m ∈ ms, ∀ n, MemberAlikeBut S m n → f m = f n) : ms.map f = ns.map f := by
  induction h with
  | nil => rfl
  | @cons m n _ _ head _ ih =>
      rw [List.map_cons, List.map_cons, hf m List.mem_cons_self n head,
        ih fun m hm => hf m (List.mem_cons_of_mem _ hm)]

/-- Objects agree whose members do. -/
theorem MembersAlikeBut.alike (h : MembersAlikeBut S ms ns) : AlikeBut S (.obj ms) (.obj ns) :=
  .obj h.keys_eq fun _ _ hmem => ((List.forall₂_iff_zip.mp h).2 hmem).2

/-- Members of equal names agree one by one if their values do. -/
theorem membersAlikeBut_of_zip {R : String × Json → String × Json → Prop}
    (keys : Keyed.keys ms = Keyed.keys ns) (values : ∀ m n, (m, n) ∈ ms.zip ns → R m n) :
    List.Forall₂ (fun m n => m.1 = n.1 ∧ R m n) ms ns := by
  induction ms generalizing ns with
  | nil =>
      obtain rfl : ns = [] := List.map_eq_nil_iff.mp keys.symm
      exact .nil
  | cons m ms ih =>
      cases ns with
      | nil => cases keys
      | cons n ns =>
          obtain ⟨hkey, hkeys⟩ := List.cons.inj keys
          refine .cons ⟨hkey, values m n List.mem_cons_self⟩ (ih hkeys fun a b hab => ?_)
          exact values a b (List.mem_cons_of_mem _ hab)

/-- Values that agree are equal, or both are objects whose members agree. -/
theorem AlikeBut.cases (h : AlikeBut S v w) (seen : [] ∉ S) :
    v = w ∨ ∃ ms ns, v = .obj ms ∧ w = .obj ns ∧ MembersAlikeBut S ms ns := by
  cases h with
  | hidden here => exact absurd here seen
  | same => exact Or.inl rfl
  | obj keys values => exact Or.inr ⟨_, _, rfl, rfl, membersAlikeBut_of_zip keys values⟩

/-! ## Hiding less and hiding nothing -/

/-- What agrees with some places hidden agrees with more of them hidden. -/
theorem AlikeBut.mono (h : AlikeBut S v w) (sub : S ⊆ T) : AlikeBut T v w := by
  induction h generalizing T with
  | hidden here => exact .hidden (sub here)
  | same => exact .same
  | obj keys _ ih => exact .obj keys fun m n hmem => ih m n hmem fun _ hpath => sub hpath

/-- Values that agree at every place are equal. -/
theorem AlikeBut.eq_of_empty (h : AlikeBut S v w) (nothing : ∀ path, path ∉ S) : v = w := by
  induction h with
  | hidden here => exact absurd here (nothing _)
  | same => rfl
  | @obj S ms ns keys _ ih =>
      have hmembers : List.Forall₂ (fun m n => m.1 = n.1 ∧ m.2 = n.2) ms ns :=
        membersAlikeBut_of_zip keys fun m n hmem => ih m n hmem fun path => nothing (m.1 :: path)
      have heq : List.Forall₂ (· = ·) ms ns := hmembers.imp fun _ _ h => Prod.ext h.1 h.2
      rw [List.forall₂_eq_eq_eq] at heq
      rw [heq]

/-! ## Reading -/

theorem AlikeBut.string?_eq (h : AlikeBut S v w) (seen : [] ∉ S) : v.string? = w.string? := by
  rcases h.cases seen with rfl | ⟨ms, ns, rfl, rfl, -⟩
  · rfl
  · rfl

theorem AlikeBut.isObject_eq (h : AlikeBut S v w) (seen : [] ∉ S) : v.isObject = w.isObject := by
  rcases h.cases seen with rfl | ⟨ms, ns, rfl, rfl, -⟩
  · rfl
  · rfl

/-- Under one name objects that agree have nothing, or values that agree. -/
theorem MembersAlikeBut.get? (h : MembersAlikeBut S ms ns) (name : String) :
    (Keyed.get? name ms = none ∧ Keyed.get? name ns = none) ∨
      ∃ a b, Keyed.get? name ms = some a ∧ Keyed.get? name ns = some b ∧
        AlikeBut (S.below name) a b := by
  induction h with
  | nil => exact Or.inl ⟨rfl, rfl⟩
  | @cons m n _ _ head _ ih =>
      obtain ⟨hkey, hvalue⟩ := head
      simp only [Keyed.get?, ← hkey]
      split
      · rename_i hname
        exact Or.inr ⟨m.2, n.2, rfl, rfl, hname ▸ hvalue⟩
      · exact ih

theorem MembersAlikeBut.has_eq (h : MembersAlikeBut S ms ns) (name : String) :
    Keyed.has name ms = Keyed.has name ns := by
  rw [Bool.eq_iff_iff, Keyed.has_iff, Keyed.has_iff, h.keys_eq]

/-- Under one name values that agree have nothing, or values that agree. -/
theorem AlikeBut.member? (h : AlikeBut S v w) (seen : [] ∉ S) (name : String) :
    (v.member? name = none ∧ w.member? name = none) ∨
      ∃ a b, v.member? name = some a ∧ w.member? name = some b ∧
        AlikeBut (S.below name) a b := by
  rcases h.cases seen with rfl | ⟨ms, ns, rfl, rfl, hmembers⟩
  · cases hv : v.member? name with
    | none => exact Or.inl ⟨rfl, rfl⟩
    | some a => exact Or.inr ⟨a, a, rfl, rfl, .same⟩
  · exact hmembers.get? name

/-! ## Changing -/

/-- Changes each member by a function of its name; what is no object is kept. -/
def mapMembers (f : String → Json → Json) : Json → Json
  | .obj ms => .obj (ms.map fun m => (m.1, f m.1 m.2))
  | v => v

/-- A change of members by their names takes values that agree to values that agree, if it does so
at each member. -/
theorem AlikeBut.mapMembers {f : String → Json → Json} (h : AlikeBut S v w)
    (root : [] ∈ S → [] ∈ T)
    (hf : ∀ k v w, AlikeBut (S.below k) v w → AlikeBut (T.below k) (f k v) (f k w)) :
    AlikeBut T (v.mapMembers f) (w.mapMembers f) := by
  by_cases here : [] ∈ S
  · exact .hidden (root here)
  rcases h.cases here with rfl | ⟨ms, ns, rfl, rfl, hmembers⟩
  · exact .same
  · refine MembersAlikeBut.alike ?_
    rw [MembersAlikeBut, List.forall₂_map_left_iff, List.forall₂_map_right_iff]
    refine hmembers.imp fun m n hmn => ⟨hmn.1, ?_⟩
    rw [← hmn.1]
    exact hf m.1 m.2 n.2 hmn.2

/-- A value agrees with what a change of members makes of it, if each member does. -/
theorem alikeBut_mapMembers {f : String → Json → Json}
    (hf : ∀ k v, AlikeBut (S.below k) v (f k v)) (v : Json) : AlikeBut S v (v.mapMembers f) := by
  cases v with
  | obj ms =>
      refine MembersAlikeBut.alike ?_
      rw [MembersAlikeBut, List.forall₂_map_right_iff]
      exact List.forall₂_same.mpr fun m _ => ⟨rfl, hf m.1 m.2⟩
  | _ => exact .same

/-- Dropping a member keeps the agreement of the others. -/
theorem MembersAlikeBut.erase (h : MembersAlikeBut S ms ns) (name : String) :
    MembersAlikeBut S (Keyed.erase name ms) (Keyed.erase name ns) := by
  refine List.rel_filter ?_ h
  intro m n hmn
  simp [hmn.1]

/-- Without the only member at which they differ, objects that agree have the same members. -/
theorem MembersAlikeBut.erase_eq (h : MembersAlikeBut S ms ns)
    (hS : ∀ k path, k :: path ∈ S → k = name) : Keyed.erase name ms = Keyed.erase name ns := by
  induction h with
  | nil => rfl
  | @cons m n _ _ head _ ih =>
      obtain ⟨hkey, hvalue⟩ := head
      by_cases hm : m.1 = name
      · simpa [Keyed.erase, ← hkey, hm] using ih
      · have hmn : m = n :=
          Prod.ext hkey (hvalue.eq_of_empty fun path hpath => hm (hS m.1 path hpath))
        simpa [Keyed.erase, hmn ▸ hm, hmn] using ih

/-- Changing the member of a name is a change of members by their names. -/
theorem obj_modify (name : String) (f : Json → Json) (ms : List (String × Json)) :
    Json.obj (Keyed.modify name f ms) =
      (Json.obj ms).mapMembers fun k v => if k = name then f v else v := by
  refine congrArg Json.obj (List.map_congr_left fun m _ => ?_)
  by_cases hm : m.1 = name
  · simp [hm]
  · simp [hm]

end FleetGate.Json
