import FleetGate.Cluster.MergePatch
import FleetGate.Proofs.Keyed

/-! # What merging a patch makes of a value

A merge patch describes a change of a value by another value (`Merges`): an object changes members,
each by what the patch has under its name, where `null` takes the member away; anything else takes
the place of what was there. A member that is missing counts as an empty object, and so does
everything that is no object, so that no `null` of a patch should be left wherever it stands.

Merging is right about this where each `null` of the patch meets an object
(`merges_mergePatch_iff`). A `null` that meets none stays, and goes when the patch is merged once
more: then each of its objects meets itself (`merges_mergePatch_mergePatch`).
-/

namespace FleetGate.Json

variable {target patch value other change : Json} {members changes result : List (String × Json)}
  {key : String} {path : List String}

/-- A patch is to make a value of a target. -/
inductive Merges : (target patch value : Json) → Prop
  /-- What is no object replaces the target. -/
  | replaced {target patch : Json} (hpatch : patch.isObject = false) : Merges target patch patch
  /-- An object changes the members that it names, those of a target that is no object being
  none. -/
  | merged {target : Json} {changes result : List (String × Json)}
      (ordered : Keyed.Ordered result)
      (kept : ∀ key, Keyed.get? key changes = none → Keyed.get? key result = target.member? key)
      (dropped : ∀ key, Keyed.get? key changes = some .null → Keyed.get? key result = none)
      (there : ∀ key change, Keyed.get? key changes = some change → change ≠ .null →
        Keyed.get? key result ≠ none)
      (deeper : ∀ key change value, Keyed.get? key changes = some change → change ≠ .null →
        Keyed.get? key result = some value →
        Merges ((target.member? key).getD .null) change value) :
      Merges target (.obj changes) (.obj result)

/-- The objects in a value that are reached through members have each key once and in order. -/
def MembersOrdered (v : Json) : Prop :=
  ∀ path members, v.at? path = some (.obj members) → Keyed.Ordered members

/-- Wherever a patch has a `null` under a key, the target has an object. -/
def NullsMeetObjects (target patch : Json) : Prop :=
  ∀ path key, patch.at? (path ++ [key]) = some .null → (target.at? path).any isObject = true

/-! ## Members -/

theorem eq_obj_of_isObject {v : Json} (h : v.isObject = true) : ∃ members, v = .obj members := by
  cases v with
  | obj members => exact ⟨members, rfl⟩
  | null | bool | int | float | str | arr => cases h

theorem member?_of_not_isObject {v : Json} (h : v.isObject = false) (key : String) :
    v.member? key = none := by
  cases v with
  | obj members => cases h
  | null | bool | int | float | str | arr => rfl

/-- What holds of a value if it holds of its members holds of every value. -/
theorem member_induction {motive : Json → Prop}
    (h : ∀ v, (∀ key w, v.member? key = some w → motive w) → motive v) (v : Json) : motive v := by
  induction hsize : sizeOf v using Nat.strong_induction_on generalizing v with
  | _ size ih =>
    refine h v fun key w hw => ih (sizeOf w) ?_ w rfl
    cases v with
    | obj members =>
        have hless := List.sizeOf_lt_of_mem (Keyed.mem_of_get? hw)
        simp only [Prod.mk.sizeOf_spec] at hless
        simp only [obj.sizeOf_spec] at hsize
        omega
    | null | bool | int | float | str | arr => cases hw

theorem membersOrdered_of_not_isObject {v : Json} (h : v.isObject = false) :
    v.MembersOrdered := by
  intro path members hpath
  cases path with
  | nil =>
      cases hpath
      cases h
  | cons name rest =>
      rw [at?, member?_of_not_isObject h] at hpath
      cases hpath

/-- An object is in order if its members stand in order and are in order themselves. -/
theorem membersOrdered_obj_iff : (obj members).MembersOrdered ↔
    Keyed.Ordered members ∧ ∀ m ∈ members, m.2.MembersOrdered := by
  constructor
  · intro h
    have hmembers : Keyed.Ordered members := h [] members rfl
    refine ⟨hmembers, fun m hm path deeper hpath => h (m.1 :: path) deeper ?_⟩
    rw [at?, member?, hmembers.mem_iff.mp hm]
    exact hpath
  · rintro ⟨hmembers, hdeeper⟩ path deeper hpath
    cases path with
    | nil =>
        cases hpath
        exact hmembers
    | cons name rest =>
        rw [at?, member?, Option.bind_eq_some_iff] at hpath
        obtain ⟨v, hv, hpath⟩ := hpath
        exact hdeeper (name, v) (Keyed.mem_of_get? hv) rest deeper hpath

theorem MembersOrdered.obj (h : (obj members).MembersOrdered) : Keyed.Ordered members :=
  (membersOrdered_obj_iff.mp h).1

theorem MembersOrdered.of_get? (h : (Json.obj members).MembersOrdered)
    (hkey : Keyed.get? key members = some value) : value.MembersOrdered :=
  (membersOrdered_obj_iff.mp h).2 (key, value) (Keyed.mem_of_get? hkey)

theorem MembersOrdered.member (h : target.MembersOrdered) (key : String) :
    ((target.member? key).getD .null).MembersOrdered := by
  cases hmember : target.member? key with
  | none => exact membersOrdered_of_not_isObject rfl
  | some v =>
      cases htype : target.isObject with
      | false =>
          rw [member?_of_not_isObject htype] at hmember
          cases hmember
      | true =>
          obtain ⟨members, rfl⟩ := eq_obj_of_isObject htype
          exact h.of_get? hmember

/-! ## Where the nulls of a patch stand -/

theorem nullsMeetObjects_of_not_isObject (hpatch : patch.isObject = false) (target : Json) :
    NullsMeetObjects target patch := by
  intro path key hnull
  cases path with
  | nil => simp [at?, member?_of_not_isObject hpatch] at hnull
  | cons name rest => simp [at?, member?_of_not_isObject hpatch] at hnull

/-- A missing member has an object nowhere. -/
theorem any_isObject_at?_cons (target : Json) (key : String) (path : List String) :
    (target.at? (key :: path)).any isObject
      = (((target.member? key).getD .null).at? path).any isObject := by
  rw [at?]
  cases target.member? key with
  | some v => rfl
  | none => cases path <;> rfl

/-- The nulls of an object are its members and those of its members. -/
theorem nullsMeetObjects_obj_iff : NullsMeetObjects target (.obj changes) ↔
    (∀ key, Keyed.get? key changes = some .null → target.isObject = true) ∧
      ∀ key change, Keyed.get? key changes = some change →
        NullsMeetObjects ((target.member? key).getD .null) change := by
  constructor
  · intro h
    refine ⟨fun key hnull => ?_, fun key change hchange path name hnull => ?_⟩
    · exact h [] key (by simpa [at?, member?] using hnull)
    · rw [← any_isObject_at?_cons]
      refine h (key :: path) name ?_
      rw [List.cons_append, at?, member?, hchange]
      exact hnull
  · rintro ⟨hhere, hdeeper⟩ path key hnull
    cases path with
    | nil => exact hhere key (by simpa [at?, member?] using hnull)
    | cons name rest =>
        rw [List.cons_append, at?, member?, Option.bind_eq_some_iff] at hnull
        obtain ⟨change, hchange, hnull⟩ := hnull
        rw [any_isObject_at?_cons]
        exact hdeeper name change hchange rest key hnull

/-! ## Merging -/

/-- Only an object and an object are merged. -/
theorem mergePatch_of_not_isObject (h : target.isObject = false ∨ patch.isObject = false) :
    target.mergePatch patch = patch := by
  cases patch with
  | obj changes =>
      cases target with
      | obj members => simp [isObject] at h
      | null | bool | int | float | str | arr => rfl
  | null | bool | int | float | str | arr => rfl

/-- What a change leaves of a member. -/
def changed (member? : Option Json) : Json → Option Json
  | .null => none
  | change => some ((member?.getD .null).mergePatch change)

theorem changed_of_ne (member? : Option Json) (h : change ≠ .null) :
    changed member? change = some ((member?.getD .null).mergePatch change) := by
  cases change with
  | null => exact absurd rfl h
  | bool | int | float | str | arr | obj => rfl

/-- A change is made to the member of its name. -/
theorem mergeMembers_cons (members : List (String × Json)) (key : String) (change : Json)
    (rest : List (String × Json)) :
    ∃ members', mergeMembers members ((key, change) :: rest) = mergeMembers members' rest ∧
      (Keyed.Ordered members → Keyed.Ordered members') ∧
      ∀ name, Keyed.get? name members' =
        if name = key then changed (Keyed.get? key members) change
        else Keyed.get? name members := by
  by_cases hchange : change = .null
  · subst hchange
    refine ⟨Keyed.erase key members, rfl, fun hordered => hordered.filter _, fun name => ?_⟩
    split
    · subst name
      exact Keyed.get?_erase_self key members
    · exact Keyed.get?_erase_of_ne ‹_› members
  · have hput : mergeMembers members ((key, change) :: rest) = mergeMembers
        (Keyed.put key (((Keyed.get? key members).getD .null).mergePatch change) members) rest := by
      cases change with
      | null => exact absurd rfl hchange
      | bool | int | float | str | arr | obj => rfl
    refine ⟨_, hput, Keyed.Ordered.put, fun name => ?_⟩
    rw [Keyed.get?_put, changed_of_ne _ hchange]

theorem ordered_mergeMembers (hmembers : Keyed.Ordered members)
    (changes : List (String × Json)) : Keyed.Ordered (mergeMembers members changes) := by
  induction changes generalizing members with
  | nil => exact hmembers
  | cons change rest ih =>
      obtain ⟨members', hstep, hordered, -⟩ := mergeMembers_cons members change.1 change.2 rest
      rw [hstep]
      exact ih (hordered hmembers)

/-- Changes with different names are made each to its member. -/
theorem get?_mergeMembers (hchanges : (Keyed.keys changes).Nodup)
    (members : List (String × Json)) (key : String) :
    Keyed.get? key (mergeMembers members changes) =
      (Keyed.get? key changes).elim (Keyed.get? key members)
        (changed (Keyed.get? key members)) := by
  induction changes generalizing members with
  | nil => rfl
  | cons change rest ih =>
      obtain ⟨name, change⟩ := change
      obtain ⟨hname, hrest⟩ := List.nodup_cons.mp hchanges
      obtain ⟨members', hstep, -, hmembers'⟩ := mergeMembers_cons members name change rest
      rw [hstep, ih hrest, hmembers', Keyed.get?]
      by_cases hkey : name = key
      · subst hkey
        have hlater : Keyed.get? name rest = none := Keyed.get?_eq_none_iff.mpr hname
        rw [hlater, if_pos rfl, if_pos rfl]
        rfl
      · rw [if_neg hkey, if_neg (Ne.symm hkey)]

/-- An object that is merged into anything gives an object. It has the members that the patch does
not name, and the others merged; a `null` of the patch is left of them if there was no object. -/
theorem mergePatch_obj (htarget : target.MembersOrdered) (hchanges : Keyed.Ordered changes) :
    ∃ result, target.mergePatch (.obj changes) = .obj result ∧ Keyed.Ordered result ∧
      (∀ key, Keyed.get? key changes = none → Keyed.get? key result = target.member? key) ∧
      (∀ key, Keyed.get? key changes = some .null →
        Keyed.get? key result = if target.isObject then none else some .null) ∧
      ∀ key change, Keyed.get? key changes = some change → change ≠ .null →
        Keyed.get? key result = some (((target.member? key).getD .null).mergePatch change) := by
  cases htype : target.isObject with
  | true =>
      obtain ⟨members, rfl⟩ := eq_obj_of_isObject htype
      have hget := get?_mergeMembers hchanges.nodup members
      refine ⟨mergeMembers members changes, rfl, ordered_mergeMembers htarget.obj changes,
        ?_, ?_, ?_⟩
      · intro key hkey
        rw [hget, hkey]
        rfl
      · intro key hkey
        rw [hget, hkey]
        rfl
      · intro key change hkey hchange
        rw [hget, hkey]
        exact changed_of_ne _ hchange
  | false =>
      refine ⟨changes, mergePatch_of_not_isObject (Or.inl htype), hchanges, ?_, ?_, ?_⟩
      · intro key hkey
        rw [hkey, member?_of_not_isObject htype]
      · intro key hkey
        rw [hkey]
        rfl
      · intro key change hkey _
        rw [hkey, member?_of_not_isObject htype, Option.getD_none,
          mergePatch_of_not_isObject (Or.inl rfl)]

/-- Merging keeps what is in order in order. -/
theorem MembersOrdered.mergePatch (htarget : target.MembersOrdered)
    (hpatch : patch.MembersOrdered) : (target.mergePatch patch).MembersOrdered := by
  induction patch using member_induction generalizing target with
  | _ patch ih =>
    cases htype : patch.isObject with
    | false => rwa [mergePatch_of_not_isObject (Or.inr htype)]
    | true =>
        obtain ⟨changes, rfl⟩ := eq_obj_of_isObject htype
        obtain ⟨result, hresult, hordered, hkept, hnulls, hmerged⟩ :=
          mergePatch_obj htarget hpatch.obj
        rw [hresult, membersOrdered_obj_iff]
        refine ⟨hordered, fun m hm => ?_⟩
        have hvalue : Keyed.get? m.1 result = some m.2 := hordered.mem_iff.mp hm
        cases hkey : Keyed.get? m.1 changes with
        | none =>
            rw [hkept m.1 hkey] at hvalue
            have hmember := htarget.member m.1
            rwa [hvalue] at hmember
        | some change =>
            by_cases hnull : change = .null
            · subst hnull
              rw [hnulls m.1 hkey] at hvalue
              split at hvalue
              · cases hvalue
              · rw [← Option.some.inj hvalue]
                exact membersOrdered_of_not_isObject rfl
            · rw [hmerged m.1 change hkey hnull, Option.some_inj] at hvalue
              rw [← hvalue]
              exact ih m.1 change hkey (htarget.member m.1) (hpatch.of_get? hkey)

/-! ## Merging once and twice -/

/-- A patch makes one value of a target. -/
theorem Merges.unique (h : Merges target patch value) (h' : Merges target patch other) :
    value = other := by
  induction h generalizing other with
  | replaced hpatch =>
      cases h' with
      | replaced _ => rfl
      | merged => cases hpatch
  | @merged target changes result ordered kept dropped there deeper ih =>
      cases h' with
      | replaced hpatch => cases hpatch
      | @merged _ _ result' ordered' kept' dropped' there' deeper' =>
          have hget (key : String) : Keyed.get? key result = Keyed.get? key result' := by
            cases hkey : Keyed.get? key changes with
            | none => rw [kept key hkey, kept' key hkey]
            | some change =>
                by_cases hnull : change = .null
                · subst hnull
                  rw [dropped key hkey, dropped' key hkey]
                · obtain ⟨v, hv⟩ := Option.ne_none_iff_exists'.mp (there key change hkey hnull)
                  obtain ⟨w, hw⟩ := Option.ne_none_iff_exists'.mp (there' key change hkey hnull)
                  rw [hv, hw, ih key change v hkey hnull hv (deeper' key change w hkey hnull hw)]
          refine congrArg Json.obj (ordered.ext ordered' fun m => ?_)
          rw [ordered.mem_iff, ordered'.mem_iff, hget]

/-- Merging makes of a target what the patch is to make of it exactly if each `null` of the patch
meets an object. -/
theorem merges_mergePatch_iff (htarget : target.MembersOrdered) (hpatch : patch.MembersOrdered) :
    Merges target patch (target.mergePatch patch) ↔ NullsMeetObjects target patch := by
  induction patch using member_induction generalizing target with
  | _ patch ih =>
    cases htype : patch.isObject with
    | false =>
        rw [mergePatch_of_not_isObject (Or.inr htype)]
        exact iff_of_true (.replaced htype) (nullsMeetObjects_of_not_isObject htype target)
    | true =>
        obtain ⟨changes, rfl⟩ := eq_obj_of_isObject htype
        obtain ⟨result, hresult, hordered, hkept, hnulls, hmerged⟩ :=
          mergePatch_obj htarget hpatch.obj
        have hdeeper {key : String} {change : Json} (hkey : Keyed.get? key changes = some change) :
            Merges ((target.member? key).getD .null) change
                (((target.member? key).getD .null).mergePatch change) ↔
              NullsMeetObjects ((target.member? key).getD .null) change :=
          ih key change hkey (htarget.member key) (hpatch.of_get? hkey)
        rw [hresult, nullsMeetObjects_obj_iff]
        constructor
        · intro h
          cases h with
          | replaced hpatch => cases hpatch
          | merged _ _ dropped _ deeper =>
              refine ⟨fun key hkey => ?_, fun key change hkey => ?_⟩
              · by_contra htarget
                have hstays := hnulls key hkey
                rw [if_neg htarget, dropped key hkey] at hstays
                cases hstays
              · by_cases hnull : change = .null
                · subst hnull
                  exact nullsMeetObjects_of_not_isObject rfl _
                · exact (hdeeper hkey).mp
                    (deeper key change _ hkey hnull (hmerged key change hkey hnull))
        · rintro ⟨hhere, hbelow⟩
          refine .merged hordered hkept (fun key hkey => ?_) (fun key change hkey hnull => ?_)
            fun key change value hkey hnull hvalue => ?_
          · rw [hnulls key hkey, if_pos (hhere key hkey)]
          · rw [hmerged key change hkey hnull]
            exact Option.some_ne_none _
          · rw [hmerged key change hkey hnull, Option.some_inj] at hvalue
            rw [← hvalue]
            exact (hdeeper hkey).mpr (hbelow key change hkey)

/-- Merging a patch for the second time makes of the target what the patch is to make of it: what
the patch has objects for are objects then. -/
theorem merges_mergePatch_mergePatch (htarget : target.MembersOrdered)
    (hpatch : patch.MembersOrdered) :
    Merges target patch ((target.mergePatch patch).mergePatch patch) := by
  induction patch using member_induction generalizing target with
  | _ patch ih =>
    cases htype : patch.isObject with
    | false =>
        rw [mergePatch_of_not_isObject (Or.inr htype)]
        exact .replaced htype
    | true =>
        obtain ⟨changes, rfl⟩ := eq_obj_of_isObject htype
        obtain ⟨once, honce, hordered, hkept, hnulls, hmerged⟩ := mergePatch_obj htarget hpatch.obj
        have hget := get?_mergeMembers hpatch.obj.nodup once
        have htwice {key : String} {change : Json} (hkey : Keyed.get? key changes = some change)
            (hnull : change ≠ .null) : Keyed.get? key (mergeMembers once changes) =
              some ((((target.member? key).getD .null).mergePatch change).mergePatch change) := by
          rw [hget, hkey, hmerged key change hkey hnull]
          exact changed_of_ne _ hnull
        rw [honce]
        refine .merged (ordered_mergeMembers hordered changes) (fun key hkey => ?_)
          (fun key hkey => ?_) (fun key change hkey hnull => ?_)
          fun key change value hkey hnull hvalue => ?_
        · rw [hget, hkey]
          exact hkept key hkey
        · rw [hget, hkey]
          rfl
        · rw [htwice hkey hnull]
          exact Option.some_ne_none _
        · rw [htwice hkey hnull, Option.some_inj] at hvalue
          rw [← hvalue]
          exact ih key change hkey (htarget.member key) (hpatch.of_get? hkey)

/-- The second merge changes nothing exactly if the first has done all that the patch is to do. -/
theorem mergePatch_mergePatch_eq_iff (htarget : target.MembersOrdered)
    (hpatch : patch.MembersOrdered) :
    (target.mergePatch patch).mergePatch patch = target.mergePatch patch ↔
      NullsMeetObjects target patch := by
  rw [← merges_mergePatch_iff htarget hpatch]
  have htwice := merges_mergePatch_mergePatch htarget hpatch
  exact ⟨fun h => h ▸ htwice, htwice.unique⟩

end FleetGate.Json
