import FleetGate.Json.Decode
import FleetGate.Proofs.Except
import FleetGate.Proofs.Keyed
import Mathlib.Data.List.Induction

/-! # What a record is read as

A record is read member by member, in the order in which the members stand, so of several members of
a field the last decides (`decodeRecord_last`). If no field stands twice the order makes no
difference: every part of the result is what the member of its field says, or what it was before if
there is none (`decodeRecord_part`). A record is read to its end if each of its members is
(`decodeRecord_total`).

A record is written with the members that are present, and these are found in it
(`get?_presentMembers`).
-/

namespace FleetGate.Json

variable {α β : Type} {expected : String} {fields : List String} {set : String → Json → α → Decoded α}
  {start a : α} {j : Json}

/-- The members of a record by the names of their fields, which the items of an array do not name. -/
def named (fields : List String) : Json → List (String × Json)
  | .obj ms => ms
  | .arr xs => fields.zip xs
  | _ => []

/-- Whether a value is a record with no field twice and not more items than fields. -/
def IsRecord (fields : List String) : Json → Prop
  | .obj ms => (Keyed.keys ms).Nodup
  | .arr xs => xs.length ≤ fields.length
  | _ => False

/-- The first items of an array stand for different fields. -/
theorem nodup_keys_zip (hfields : fields.Nodup) (xs : List Json) :
    (Keyed.keys (fields.zip xs)).Nodup := by
  induction fields generalizing xs with
  | nil => exact List.nodup_nil
  | cons name rest ih =>
      obtain ⟨hname, hrest⟩ := List.nodup_cons.mp hfields
      cases xs with
      | nil => exact List.nodup_nil
      | cons x xs =>
          refine List.nodup_cons.mpr ⟨fun hkey => hname ?_, ih hrest xs⟩
          obtain ⟨m, hm, (hsame : m.1 = name)⟩ := List.mem_map.mp hkey
          rw [← hsame]
          exact (List.of_mem_zip hm).1

/-- A record has no field twice. -/
theorem IsRecord.nodup (hfields : fields.Nodup) (h : j.IsRecord fields) :
    (Keyed.keys (j.named fields)).Nodup := by
  cases j with
  | obj ms => exact h
  | arr xs => exact nodup_keys_zip hfields xs
  | null | bool | int | float | str => exact h.elim

/-- A record is read member by member. -/
theorem decodeRecord_eq (h : j.IsRecord fields) : decodeRecord expected fields set start j
    = (j.named fields).foldlM (fun a m => if m.1 ∈ fields then set m.1 m.2 a else .ok a) start := by
  cases j with
  | obj ms => rfl
  | arr xs =>
      have hlength : ¬ xs.length > fields.length := Nat.not_lt.mpr h
      have hnamed : ∀ m ∈ fields.zip xs, m.1 ∈ fields := fun m hm => (List.of_mem_zip hm).1
      have hsteps (ms : List (String × Json)) (hms : ∀ m ∈ ms, m.1 ∈ fields) (a : α) :
          ms.foldlM (fun a m => set m.1 m.2 a) a
            = ms.foldlM (fun a m => if m.1 ∈ fields then set m.1 m.2 a else .ok a) a := by
        induction ms generalizing a with
        | nil => rfl
        | cons m rest ih =>
            obtain ⟨hm, hrest⟩ := List.forall_mem_cons.mp hms
            rw [List.foldlM_cons, List.foldlM_cons, if_pos hm]
            exact congrArg _ (funext (ih hrest))
      rw [decodeRecord, named, ← hsteps _ hnamed]
      simp only [if_neg hlength]
      exact bind_pure _
  | null | bool | int | float | str => exact h.elim

/-- A record is read to its end if the member of each field can be read. -/
theorem decodeRecord_total (h : j.IsRecord fields)
    (hset : ∀ m ∈ j.named fields, m.1 ∈ fields → ∀ a, ∃ b, set m.1 m.2 a = .ok b) :
    ∃ b, decodeRecord expected fields set start j = .ok b := by
  rw [decodeRecord_eq h]
  generalize j.named fields = ms at hset
  induction ms generalizing start with
  | nil => exact ⟨start, rfl⟩
  | cons m rest ih =>
      obtain ⟨hm, hrest⟩ := List.forall_mem_cons.mp hset
      have hstep : ∃ a, (if m.1 ∈ fields then set m.1 m.2 start else .ok start) = .ok a := by
        split
        · exact hm ‹_› start
        · exact ⟨start, rfl⟩
      obtain ⟨a, ha⟩ := hstep
      obtain ⟨b, hb⟩ := @ih a hrest
      exact ⟨b, bind_eq_ok_iff.mpr ⟨a, ha, hb⟩⟩

/-- Reading a record to its end is reading its members one after another. -/
theorem foldlM_of_decodeRecord (h : decodeRecord expected fields set start j = .ok a) :
    (j.named fields).foldlM (fun a m => if m.1 ∈ fields then set m.1 m.2 a else .ok a) start
      = .ok a := by
  cases j with
  | obj ms => exact h
  | arr xs =>
      have hrecord : (Json.arr xs).IsRecord fields := by
        obtain ⟨b, -, hb⟩ := bind_eq_ok_iff.mp h
        exact Nat.not_lt.mp (refuse_eq_ok_iff.mp hb).1
      rwa [decodeRecord_eq hrecord] at h
  | null | bool | int | float | str => cases h

/-- A part of the result that only the members of one field change is as the last of them sets it,
and as it was before if there is none. -/
theorem decodeRecord_last {part : α → β} {name : String} (hname : name ∈ fields)
    (hkeep : ∀ key ∈ fields, key ≠ name → ∀ v a b, set key v a = .ok b → part b = part a)
    (h : decodeRecord expected fields set start j = .ok a) :
    match Keyed.get? name (j.named fields).reverse with
    | some v => ∃ before after, set name v before = .ok after ∧ part a = part after
    | none => part a = part start := by
  replace h := foldlM_of_decodeRecord h
  generalize j.named fields = ms at h ⊢
  induction ms using List.reverseRecOn generalizing a with
  | nil => cases h; rfl
  | append_singleton ms m ih =>
      obtain ⟨key, v⟩ := m
      rw [List.foldlM_append] at h
      obtain ⟨b, hb, hlast⟩ := bind_eq_ok_iff.mp h
      replace hlast : (if key ∈ fields then set key v b else .ok b) = .ok a := by
        simpa using hlast
      rw [List.reverse_append, List.reverse_singleton, List.singleton_append, Keyed.get?]
      by_cases hsame : key = name
      · subst hsame
        rw [if_pos hname] at hlast
        rw [if_pos rfl]
        exact ⟨b, a, hlast, rfl⟩
      · have hpart : part a = part b := by
          split at hlast
          · exact hkeep key ‹_› hsame v b a hlast
          · exact congrArg part (Except.ok.inj hlast).symm
        rw [if_neg hsame, hpart]
        exact ih hb

/-- What a record says of one part of the result, if that part is set by the member of one field and
by no other. -/
theorem decodeRecord_part {part : α → β} {read : Json → β} {name : String} (hname : name ∈ fields)
    (hset : ∀ key ∈ fields, ∀ v a b, set key v a = .ok b →
      part b = if key = name then read v else part a)
    (hfields : fields.Nodup) (hj : j.IsRecord fields)
    (h : decodeRecord expected fields set start j = .ok a) :
    part a = ((Keyed.get? name (j.named fields)).map read).getD (part start) := by
  have hlast := decodeRecord_last hname
    (fun key hkey hne v a b hb => (hset key hkey v a b hb).trans (if_neg hne)) h
  rw [Keyed.get?_reverse (hj.nodup hfields)] at hlast
  cases hmember : Keyed.get? name (j.named fields) with
  | none =>
      rw [hmember] at hlast
      exact hlast
  | some v =>
      rw [hmember] at hlast
      obtain ⟨before, after, hafter, hpart⟩ := hlast
      rw [hpart, hset name hname v before after hafter, if_pos rfl]
      rfl

/-! ## Members that are left out -/

theorem keys_presentMembers (members : List (String × Option Json)) :
    (Keyed.keys (presentMembers members)).Sublist (Keyed.keys members) := by
  induction members with
  | nil => exact .slnil
  | cons m rest ih =>
      obtain ⟨key, v?⟩ := m
      cases v? with
      | none => exact ih.cons key
      | some v => exact ih.cons_cons key

/-- The members that are present are found with their values, and the others not. -/
theorem get?_presentMembers {members : List (String × Option Json)}
    (hmembers : (Keyed.keys members).Nodup) (name : String) :
    Keyed.get? name (presentMembers members) = (Keyed.get? name members).join := by
  induction members with
  | nil => rfl
  | cons m rest ih =>
      obtain ⟨key, v?⟩ := m
      obtain ⟨hkey, hrest⟩ := List.nodup_cons.mp hmembers
      cases v? with
      | some v =>
          have hpresent : presentMembers ((key, some v) :: rest)
              = (key, v) :: presentMembers rest := rfl
          rw [hpresent, Keyed.get?, Keyed.get?, ih hrest]
          split
          · rfl
          · rfl
      | none =>
          have hpresent : presentMembers ((key, none) :: rest) = presentMembers rest := rfl
          rw [hpresent, Keyed.get?]
          split
          · rename_i hsame
            obtain rfl : key = name := hsame
            exact Keyed.get?_eq_none_iff.mpr fun h => hkey ((keys_presentMembers rest).subset h)
          · exact ih hrest

end FleetGate.Json
