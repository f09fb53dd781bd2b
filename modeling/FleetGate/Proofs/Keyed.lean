import FleetGate.Keyed
import Mathlib.Data.List.Nodup
import Mathlib.Data.List.Sort
import Mathlib.Data.String.Basic

/-! # Reading ordered maps

What looking a key up tells about the pairs of a map, and how looking up goes together with adding,
dropping and changing pairs. A map in which no key stands twice has one pair for each key that is
found; `erase` and `modify` keep it so, and adding a key that is absent does.
-/

namespace FleetGate.Keyed

variable {κ : Type*} {α : Type*} [DecidableEq κ]

/-- What is found stands in the map. -/
theorem mem_of_get? {key : κ} {v : α} {m : List (κ × α)} (h : get? key m = some v) :
    (key, v) ∈ m := by
  induction m with
  | nil => simp [get?] at h
  | cons p rest ih =>
      rw [get?] at h
      split at h
      · rename_i hp
        obtain rfl : p.2 = v := Option.some.inj h
        rw [← hp]
        exact List.mem_cons_self
      · exact List.mem_cons_of_mem _ (ih h)

/-- Nothing is found of a key exactly if no pair has it. -/
theorem get?_eq_none_iff {key : κ} {m : List (κ × α)} :
    get? key m = none ↔ key ∉ keys m := by
  induction m with
  | nil => simp [get?, keys]
  | cons p rest ih =>
      simp only [get?, keys, List.map_cons, List.mem_cons] at ih ⊢
      by_cases hp : p.1 = key
      · simp [hp]
      · simp [hp, ih, Ne.symm hp]

/-- A key is there exactly if some pair has it. -/
theorem has_iff {key : κ} {m : List (κ × α)} : has key m = true ↔ key ∈ keys m := by
  rw [has, Option.isSome_iff_ne_none, ne_eq, get?_eq_none_iff, not_not]

/-- In a map without repeated keys every pair is what is found of its key. -/
theorem get?_of_mem {key : κ} {v : α} {m : List (κ × α)} (hm : (keys m).Nodup)
    (h : (key, v) ∈ m) : get? key m = some v := by
  induction m with
  | nil => simp at h
  | cons p rest ih =>
      simp only [keys, List.map_cons, List.nodup_cons] at hm
      rcases List.mem_cons.mp h with rfl | h
      · simp [get?]
      · have hp : p.1 ≠ key := by
          intro hp
          exact hm.1 (hp ▸ List.mem_map_of_mem h)
        rw [get?, if_neg hp]
        exact ih hm.2 h

/-- In a map without repeated keys it makes no difference from which end a key is looked up. -/
theorem get?_reverse {key : κ} {m : List (κ × α)} (hm : (keys m).Nodup) :
    get? key m.reverse = get? key m := by
  have hreverse : (keys m.reverse).Nodup := by
    rwa [keys, List.map_reverse, List.nodup_reverse]
  refine Option.ext fun v => ⟨fun h => ?_, fun h => ?_⟩
  · exact get?_of_mem hm (List.mem_reverse.mp (mem_of_get? h))
  · exact get?_of_mem hreverse (List.mem_reverse.mpr (mem_of_get? h))

/-- Of two maps in a row the first that has the key tells its value. -/
theorem get?_append {key : κ} {m n : List (κ × α)} :
    get? key (m ++ n) = (get? key m).or (get? key n) := by
  induction m with
  | nil => rfl
  | cons p rest ih =>
      simp only [List.cons_append, get?]
      split
      · rfl
      · exact ih

/-- A key that was dropped is not found. -/
theorem get?_erase_self (key : κ) (m : List (κ × α)) : get? key (erase key m) = none := by
  rw [get?_eq_none_iff, keys, erase, List.mem_map]
  rintro ⟨p, hp, rfl⟩
  simpa using (List.mem_filter.mp hp).2

/-- Dropping a key leaves the others as they were. -/
theorem get?_erase_of_ne {key other : κ} (h : other ≠ key) (m : List (κ × α)) :
    get? other (erase key m) = get? other m := by
  induction m with
  | nil => rfl
  | cons p rest ih =>
      by_cases hp : p.1 = key
      · have ho : p.1 ≠ other := fun ho => h (ho.symm.trans hp)
        simpa [erase, hp, get?, Ne.symm h] using ih
      · simp only [erase, ne_eq, hp, not_false_eq_true, decide_true, List.filter_cons_of_pos,
          get?] at ih ⊢
        rw [ih]

/-- Dropping a key that is not there changes nothing. -/
theorem erase_of_notMem {key : κ} {m : List (κ × α)} (h : key ∉ keys m) : erase key m = m := by
  refine List.filter_eq_self.mpr fun p hp => ?_
  have hkey : p.1 ≠ key := by
    rintro rfl
    exact h (List.mem_map_of_mem hp)
  simpa using hkey

/-- Setting a key is seen under that key and under no other. -/
theorem get?_put [LT κ] [DecidableLT κ] (key other : κ) (v : α) (m : List (κ × α)) :
    get? other (put key v m) = if other = key then some v else get? other m := by
  induction m with
  | nil => simp [put, get?, eq_comm]
  | cons p rest ih =>
      obtain ⟨k, u⟩ := p
      rw [put]
      split
      · rename_i hk
        by_cases ho : other = key
        · simp [get?, ho]
        · simp [get?, hk, ho, Ne.symm ho]
      split
      · simp [get?, eq_comm]
      · rename_i hk _
        by_cases ho : k = other
        · simp [get?, ho, ho ▸ hk]
        · simp [get?, ho, ih]

/-- A pair after setting a key is the one that was set, or an old one. -/
theorem mem_of_mem_put [LT κ] [DecidableLT κ] {key : κ} {v : α} {m : List (κ × α)} {p : κ × α}
    (h : p ∈ put key v m) : p = (key, v) ∨ p ∈ m := by
  induction m with
  | nil => simpa [put] using h
  | cons q rest ih =>
      rw [put] at h
      split at h
      · exact (List.mem_cons.mp h).imp_right (List.mem_cons_of_mem q)
      split at h
      · exact List.mem_cons.mp h
      · rcases List.mem_cons.mp h with rfl | h
        · exact Or.inr List.mem_cons_self
        · exact (ih h).imp_right (List.mem_cons_of_mem q)

/-- Setting a key is not seen by a test that its pairs fail. -/
theorem filter_put [LT κ] [DecidableLT κ] {key : κ} {v : α} {test : κ × α → Bool}
    (h : ∀ u, test (key, u) = false) (m : List (κ × α)) :
    (put key v m).filter test = m.filter test := by
  induction m with
  | nil => simp [put, h]
  | cons p rest ih =>
      obtain ⟨k, u⟩ := p
      rw [put]
      split
      · rename_i hk
        simp [hk, h]
      split
      · simp [h]
      · rw [List.filter_cons, List.filter_cons, ih]

instance [LT κ] [DecidableLT κ] (m : List (κ × α)) : Decidable (Ordered m) :=
  inferInstanceAs (Decidable (m.Pairwise fun p q => p.1 < q.1))

/-- In an ordered map a key is set between the smaller keys and the greater ones. -/
theorem put_eq_of_ordered {key : String} {v : α} {m : List (String × α)} (hm : Ordered m) :
    put key v m = m.filter (·.1 < key) ++ (key, v) :: m.filter (key < ·.1) := by
  induction m with
  | nil => rfl
  | cons p rest ih =>
      obtain ⟨k, u⟩ := p
      obtain ⟨hfirst, hrest⟩ := List.pairwise_cons.mp hm
      -- from a key on that is not smaller, the map holds only greater ones
      have hgreater (hk : key ≤ k) : rest.filter (·.1 < key) = [] ∧
          rest.filter (key < ·.1) = rest := by
        have hlt : ∀ q ∈ rest, key < q.1 := fun q hq => hk.trans_lt (hfirst q hq)
        simp only [List.filter_eq_nil_iff, List.filter_eq_self, decide_eq_true_eq]
        exact ⟨fun q hq => (hlt q hq).not_gt, hlt⟩
      simp only [put, List.filter_cons, decide_eq_true_eq]
      rcases lt_trichotomy k key with hk | rfl | hk
      · rw [if_neg hk.ne, if_neg hk.not_gt, if_pos hk, if_neg hk.not_gt, ih hrest,
          List.cons_append]
      · obtain ⟨hnone, hall⟩ := hgreater le_rfl
        rw [if_pos rfl, if_neg (lt_irrefl k), if_neg (lt_irrefl k), hnone, hall, List.nil_append]
      · obtain ⟨hnone, hall⟩ := hgreater hk.le
        rw [if_neg hk.ne', if_pos hk, if_neg hk.not_gt, if_pos hk, hnone, hall, List.nil_append]

/-- In the map of a list of pairs the last pair of a key wins. -/
theorem get?_ofPairs [LT κ] [DecidableLT κ] (key : κ) (pairs : List (κ × α)) :
    get? key (ofPairs pairs) = get? key pairs.reverse := by
  have hfold (m : List (κ × α)) : get? key (pairs.foldl (fun m p => put p.1 p.2 m) m) =
      (get? key pairs.reverse).or (get? key m) := by
    induction pairs generalizing m with
    | nil => rfl
    | cons p rest ih =>
        rw [List.foldl_cons, ih, get?_put, List.reverse_cons, get?_append, Option.or_assoc]
        by_cases hp : key = p.1 <;> simp [get?, hp, eq_comm]
  rw [ofPairs, hfold, get?, Option.or_none]

/-- Changing values keeps the keys. -/
theorem keys_modify (key : κ) (f : α → α) (m : List (κ × α)) :
    keys (modify key f m) = keys m := by
  simp only [keys, modify, List.map_map]
  refine List.map_congr_left fun p _ => ?_
  simp only [Function.comp_apply]
  split <;> rfl

/-- A pair after a change is an old one, changed if it has the key. -/
theorem mem_modify (key : κ) (f : α → α) (m : List (κ × α)) {k : κ} {v : α} :
    (k, v) ∈ modify key f m ↔
      (k ≠ key ∧ (k, v) ∈ m) ∨ (k = key ∧ ∃ u, (key, u) ∈ m ∧ v = f u) := by
  simp only [modify, List.mem_map, Prod.exists]
  constructor
  · rintro ⟨a, b, hab, h⟩
    split at h
    · rename_i ha
      obtain ⟨rfl, rfl⟩ := Prod.mk.inj h
      exact Or.inr ⟨ha, b, ha ▸ hab, rfl⟩
    · rename_i ha
      obtain ⟨rfl, rfl⟩ := Prod.mk.inj h
      exact Or.inl ⟨ha, hab⟩
  · rintro (⟨hk, hv⟩ | ⟨rfl, u, hu, rfl⟩)
    · exact ⟨k, v, hv, by rw [if_neg hk]⟩
    · exact ⟨k, u, hu, by rw [if_pos rfl]⟩

/-- In a map without repeated keys, dropping a key that is there drops one pair. -/
theorem length_erase {key : κ} {m : List (κ × α)} (hm : (keys m).Nodup) (h : key ∈ keys m) :
    (erase key m).length + 1 = m.length := by
  induction m with
  | nil => cases h
  | cons p rest ih =>
      simp only [keys, List.map_cons, List.nodup_cons] at hm
      by_cases hp : p.1 = key
      · -- the key does not stand further down
        have hrest : erase key rest = rest := erase_of_notMem (hp ▸ hm.1)
        have herase : erase key (p :: rest) = erase key rest :=
          List.filter_cons_of_neg (by simpa using hp)
        rw [herase, hrest, List.length_cons]
      · have herase : erase key (p :: rest) = p :: erase key rest :=
          List.filter_cons_of_pos (by simpa using hp)
        have hthere : key ∈ keys rest := (List.mem_cons.mp h).resolve_left (Ne.symm hp)
        rw [herase, List.length_cons, List.length_cons, ih hm.2 hthere]

@[simp] theorem length_modify (key : κ) (f : α → α) (m : List (κ × α)) :
    (modify key f m).length = m.length :=
  List.length_map _

/-! ## Dropping and changing together -/

/-- A key is left after another one was dropped. -/
theorem mem_keys_erase {key other : κ} {m : List (κ × α)} :
    other ∈ keys (erase key m) ↔ other ∈ keys m ∧ other ≠ key := by
  simp only [keys, erase, List.mem_map, List.mem_filter, decide_eq_true_eq]
  constructor
  · rintro ⟨p, ⟨hp, hne⟩, rfl⟩
    exact ⟨⟨p, hp, rfl⟩, hne⟩
  · rintro ⟨⟨p, hp, rfl⟩, hne⟩
    exact ⟨p, ⟨hp, hne⟩, rfl⟩

/-- Dropping a key changes nothing exactly if it is not there. -/
theorem erase_eq_self_iff {key : κ} {m : List (κ × α)} : erase key m = m ↔ key ∉ keys m := by
  refine ⟨fun h hkey => ?_, erase_of_notMem⟩
  rw [← h] at hkey
  exact (mem_keys_erase.mp hkey).2 rfl

/-- Changing the values of a key leaves the map as it was exactly if it leaves each of them so. -/
theorem modify_eq_self_iff {key : κ} {f : α → α} {m : List (κ × α)} :
    modify key f m = m ↔ ∀ v, (key, v) ∈ m → f v = v := by
  have hmap : modify key f m = m ↔ ∀ p ∈ m, (if p.1 = key then (p.1, f p.2) else p) = p := by
    conv_lhs => rhs; rw [← List.map_id m]
    exact List.map_inj_left
  rw [hmap]
  constructor
  · intro h v hv
    simpa using h (key, v) hv
  · rintro h ⟨k, v⟩ hp
    split
    · rename_i hk
      obtain rfl : k = key := hk
      rw [h v hp]
    · rfl

/-- The map without any of some keys. -/
def eraseAll (gone : List κ) (m : List (κ × α)) : List (κ × α) :=
  m.filter fun p => p.1 ∉ gone

theorem mem_eraseAll {gone : List κ} {m : List (κ × α)} {p : κ × α} :
    p ∈ eraseAll gone m ↔ p ∈ m ∧ p.1 ∉ gone := by
  rw [eraseAll, List.mem_filter, decide_eq_true_eq]

theorem eraseAll_nil (m : List (κ × α)) : eraseAll [] m = m := by
  simp [eraseAll]

theorem eraseAll_singleton (key : κ) (m : List (κ × α)) : eraseAll [key] m = erase key m := by
  simp [eraseAll, erase]

/-- Dropping some keys and then others drops them all. -/
theorem eraseAll_eraseAll (gone others : List κ) (m : List (κ × α)) :
    eraseAll others (eraseAll gone m) = eraseAll (gone ++ others) m := by
  rw [eraseAll, eraseAll, eraseAll, List.filter_filter]
  refine List.filter_congr fun p _ => ?_
  simp [Bool.and_comm]

theorem erase_comm (key other : κ) (m : List (κ × α)) :
    erase key (erase other m) = erase other (erase key m) := by
  simp only [erase, List.filter_filter]
  exact List.filter_congr fun p _ => Bool.and_comm _ _

theorem erase_modify (key other : κ) (f : α → α) (m : List (κ × α)) :
    erase key (modify other f m) = modify other f (erase key m) := by
  rw [erase, modify, List.filter_map, erase, modify]
  refine congrArg _ (List.filter_congr fun p _ => ?_)
  rw [Function.comp_apply]
  split <;> rfl

/-- Changes may be made in either order, if on values of the same key it does not matter. -/
theorem modify_comm {key other : κ} {f g : α → α} (h : key = other → ∀ v, f (g v) = g (f v))
    (m : List (κ × α)) : modify key f (modify other g m) = modify other g (modify key f m) := by
  simp only [modify, List.map_map]
  refine List.map_congr_left fun p _ => ?_
  simp only [Function.comp_apply]
  by_cases hkey : p.1 = key
  · by_cases hother : p.1 = other
    · simp [hkey, hkey.symm.trans hother, h (hkey.symm.trans hother)]
    · simp [hkey, hkey ▸ hother]
  · by_cases hother : p.1 = other
    · simp [hother, hother ▸ hkey]
    · simp [hkey, hother]

/-! ## Maps in order -/

section InOrder

variable [LT κ] [IsStrictTotalOrder κ (· < ·)] {m : List (κ × α)} {key : κ} {v : α}

/-- Setting a key keeps a map ordered. -/
theorem Ordered.put [DecidableLT κ] (hm : Ordered m) : Ordered (Keyed.put key v m) := by
  induction m with
  | nil => exact List.pairwise_singleton _ _
  | cons p rest ih =>
      obtain ⟨k, u⟩ := p
      obtain ⟨hfirst, hrest⟩ := List.pairwise_cons.mp hm
      rw [Keyed.put]
      split
      · rename_i hk
        subst hk
        exact List.pairwise_cons.mpr ⟨hfirst, hrest⟩
      split
      · rename_i hlt
        refine List.pairwise_cons.mpr ⟨fun q hq => ?_, hm⟩
        rcases List.mem_cons.mp hq with rfl | hq
        · exact hlt
        · exact trans_of (· < ·) hlt (hfirst q hq)
      · rename_i hne hnot
        have hlt : k < key :=
          (trichotomous_of (· < ·) k key).resolve_right fun h => h.elim hne hnot
        refine List.pairwise_cons.mpr ⟨fun q hq => ?_, ih hrest⟩
        rcases mem_of_mem_put hq with rfl | hq
        · exact hlt
        · exact hfirst q hq

omit [IsStrictTotalOrder κ (· < ·)] in
/-- Dropping a key keeps a map ordered. -/
theorem Ordered.erase (hm : Ordered m) : Ordered (Keyed.erase key m) := hm.filter _

omit [DecidableEq κ] in
/-- In an ordered map no key stands twice. -/
theorem Ordered.nodup (hm : Ordered m) : (keys m).Nodup :=
  List.pairwise_map.mpr (hm.imp fun hlt => ne_of_irrefl (r := (· < ·)) hlt)

/-- In an ordered map the pairs are what is found. -/
theorem Ordered.mem_iff (hm : Ordered m) : (key, v) ∈ m ↔ get? key m = some v :=
  ⟨get?_of_mem hm.nodup, mem_of_get?⟩

end InOrder

section InOrderOfText

variable {α : Type*} {m n pairs : List (String × α)} {key : String} {v : α}

/-- Ordered maps with the same pairs are equal. -/
theorem Ordered.ext (hm : Ordered m) (hn : Ordered n) (h : ∀ p, p ∈ m ↔ p ∈ n) : m = n := by
  have : Std.Irrefl fun p q : String × α => p.1 < q.1 := ⟨fun p => lt_irrefl p.1⟩
  have : Std.Antisymm fun p q : String × α => p.1 < q.1 := ⟨fun p q h h' => absurd h' h.not_gt⟩
  exact List.Pairwise.eq_of_mem_iff hm hn h

theorem ordered_ofPairs (pairs : List (String × α)) : Ordered (ofPairs pairs) := by
  rw [ofPairs]
  exact List.foldlRecOn (motive := Ordered) _ _ List.Pairwise.nil fun _ hm _ _ => hm.put

/-- Without repeated keys the map of a list of pairs has just these pairs. -/
theorem ofPairs_perm (hpairs : (keys pairs).Nodup) : (ofPairs pairs).Perm pairs := by
  have hordered := ordered_ofPairs pairs
  refine (List.perm_ext_iff_of_nodup (.of_map _ hordered.nodup) (.of_map _ hpairs)).mpr ?_
  rintro ⟨key, v⟩
  have hreverse : (keys pairs.reverse).Nodup := by
    rwa [keys, List.map_reverse, List.nodup_reverse]
  have hmem : (key, v) ∈ pairs.reverse ↔ (key, v) ∈ pairs := List.mem_reverse
  rw [hordered.mem_iff, get?_ofPairs, ← hmem]
  exact ⟨mem_of_get?, get?_of_mem hreverse⟩

/-- Counting one more for a key is seen under that key. -/
theorem get?_count (key other : String) (m : List (String × ℕ)) :
    get? other (count key m) =
      if other = key then some ((get? key m).getD 0 + 1) else get? other m :=
  get?_put key other _ m

end InOrderOfText

end FleetGate.Keyed
