import FleetGate.Cache.Store
import FleetGate.Proofs.Keyed

/-! # The entries of a store

How each operation of a store acts on its entries: `lookup` touches one, `insert` adds or replaces
one and may evict another, `keep` and `clear` only drop some. Two properties follow through all of
them. No key has two entries (`Distinct`), and a key without a live entry stays so, whatever is done
for other keys and however time passes (`Vacant`).
-/

namespace FleetGate.CacheStore

variable {V : Type} {s : CacheStore V} {key k : CacheKey} {e : CacheEntry V} {v : V} {now : Nat}

/-- No key has two entries. -/
def Distinct (s : CacheStore V) : Prop := (Keyed.keys s.entries).Nodup

/-- Every entry of a key has expired, if there is one. -/
def Vacant (s : CacheStore V) (key : CacheKey) (now : Nat) : Prop :=
  ∀ e, (key, e) ∈ s.entries → s.expired e now = true

/-- The store after an entry of a key was used. -/
def touched (s : CacheStore V) (key : CacheKey) (now : Nat) : CacheStore V :=
  { s with
    entries := Keyed.modify key (fun e => { e with lastUse := now }) s.entries
    hits := s.hits + 1 }

/-! ## Looking up -/

/-- A live entry is found and touched. -/
theorem lookup_of_live (h : s.live? key now = some e) :
    s.lookup key now = (some e.value, s.touched key now) := by
  rw [lookup, h]
  rfl

/-- Without a live entry nothing is found and nothing changes. -/
theorem lookup_of_not_live (h : s.live? key now = none) : s.lookup key now = (none, s) := by
  rw [lookup, h]

/-- A live entry is an entry of its key that has not expired. -/
theorem mem_of_live? (h : s.live? key now = some e) :
    (key, e) ∈ s.entries ∧ s.expired e now = false := by
  obtain ⟨hget, hfresh⟩ := Option.filter_eq_some_iff.mp h
  exact ⟨Keyed.mem_of_get? hget, by simpa using hfresh⟩

/-- A key whose entries have all expired has no live entry. -/
theorem Vacant.live?_eq_none (h : s.Vacant key now) : s.live? key now = none := by
  refine Option.eq_none_iff_forall_ne_some.mpr fun e he => ?_
  obtain ⟨hmem, hfresh⟩ := mem_of_live? he
  exact Bool.false_ne_true (hfresh.symm.trans (h e hmem))

/-- Where no key has two entries, a key has no live entry exactly if all its entries have
expired. -/
theorem live?_eq_none_iff (hs : s.Distinct) : s.live? key now = none ↔ s.Vacant key now := by
  refine ⟨fun h e he => ?_, Vacant.live?_eq_none⟩
  have hget : Keyed.get? key s.entries = some e := Keyed.get?_of_mem hs he
  simpa [live?, hget, Option.filter] using h

/-- Touching sets the last use of the entry of its key, and leaves every other entry alone. -/
theorem mem_touched :
    (k, e) ∈ (s.touched key now).entries ↔
      (k ≠ key ∧ (k, e) ∈ s.entries) ∨
        (k = key ∧ ∃ e₀, (key, e₀) ∈ s.entries ∧ e = { e₀ with lastUse := now }) := by
  rw [touched]
  exact Keyed.mem_modify key (fun e => { e with lastUse := now }) s.entries

/-- Touching changes no value. -/
theorem value_of_mem_touched (h : (k, e) ∈ (s.touched key now).entries) :
    ∃ e₀, (k, e₀) ∈ s.entries ∧ e₀.value = e.value := by
  rcases mem_touched.mp h with ⟨-, hold⟩ | ⟨rfl, e₀, hold, rfl⟩
  · exact ⟨e, hold, rfl⟩
  · exact ⟨e₀, hold, rfl⟩

theorem Distinct.touched (h : s.Distinct) : (s.touched key now).Distinct := by
  rw [Distinct, CacheStore.touched, Keyed.keys_modify]
  exact h

/-- A key without a live entry is another one than a key with one, and does not notice that one
being touched. -/
theorem Vacant.touched (h : s.Vacant k now) (hlive : s.live? key now = some e) :
    (s.touched key now).Vacant k now := by
  intro e' he'
  obtain ⟨hmem, hfresh⟩ := mem_of_live? hlive
  rcases mem_touched.mp he' with ⟨-, he'⟩ | ⟨rfl, -⟩
  · exact h e' he'
  · exact absurd ((h e hmem).symm.trans hfresh) (by simp)

/-! ## Storing -/

/-- Making room only drops entries. -/
theorem makeRoom_sublist (s : CacheStore V) (key : CacheKey) :
    (s.makeRoom key).entries.Sublist s.entries := by
  rw [makeRoom]
  split
  · exact List.Sublist.refl _
  · split
    · exact List.filter_sublist
    · exact List.Sublist.refl _

@[simp] theorem makeRoom_config (s : CacheStore V) (key : CacheKey) :
    (s.makeRoom key).config = s.config := by
  rw [makeRoom]
  split
  · rfl
  · split <;> rfl

@[simp] theorem makeRoom_misses (s : CacheStore V) (key : CacheKey) :
    (s.makeRoom key).misses = s.misses := by
  rw [makeRoom]
  split
  · rfl
  · split <;> rfl

@[simp] theorem insert_config (s : CacheStore V) (key : CacheKey) (v : V) (now : Nat) :
    (s.insert key v now).config = s.config :=
  makeRoom_config s key

@[simp] theorem insert_misses (s : CacheStore V) (key : CacheKey) (v : V) (now : Nat) :
    (s.insert key v now).misses = s.misses :=
  makeRoom_misses s key

/-- After a value was stored, every entry is an earlier one or holds that value under its key. -/
theorem mem_insert (h : (k, e) ∈ (s.insert key v now).entries) :
    (k, e) ∈ s.entries ∨ (k = key ∧ e.value = v) := by
  have hsub := (makeRoom_sublist s key).subset
  simp only [insert] at h
  split at h
  · rcases (Keyed.mem_modify key _ _).mp h with ⟨-, h⟩ | ⟨rfl, -, -, rfl⟩
    · exact Or.inl (hsub h)
    · exact Or.inr ⟨rfl, rfl⟩
  · rcases List.mem_append.mp h with h | h
    · exact Or.inl (hsub h)
    · obtain ⟨rfl, rfl⟩ := Prod.mk.inj (List.mem_singleton.mp h)
      exact Or.inr ⟨rfl, rfl⟩

theorem Distinct.insert (h : s.Distinct) (key : CacheKey) (v : V) (now : Nat) :
    (s.insert key v now).Distinct := by
  have hroom : (Keyed.keys (s.makeRoom key).entries).Nodup :=
    h.sublist ((makeRoom_sublist s key).map _)
  simp only [Distinct, CacheStore.insert]
  split
  · rw [Keyed.keys_modify]
    exact hroom
  · rename_i hnew
    rw [Keyed.has_iff] at hnew
    simp only [Keyed.keys, List.map_append, List.map_cons, List.map_nil] at hroom hnew ⊢
    refine List.nodup_append.mpr ⟨hroom, List.nodup_singleton _, ?_⟩
    intro k hk other hother hkk
    obtain rfl := List.mem_singleton.mp hother
    exact hnew (hkk ▸ hk)

/-- Storing a value for one key brings no live entry for another. -/
theorem Vacant.insert (h : s.Vacant k now) (hk : k ≠ key) (v : V) :
    (s.insert key v now).Vacant k now := by
  intro e he
  rcases mem_insert he with he | ⟨rfl, -⟩
  · simpa [expired] using h e he
  · exact absurd rfl hk

/-! ## Dropping -/

@[simp] theorem keep_config (s : CacheStore V) (test : CacheKey × CacheEntry V → Bool) :
    (s.keep test).2.config = s.config := rfl

@[simp] theorem keep_misses (s : CacheStore V) (test : CacheKey × CacheEntry V → Bool) :
    (s.keep test).2.misses = s.misses := rfl

theorem mem_of_mem_keep {test : CacheKey × CacheEntry V → Bool}
    (h : (k, e) ∈ (s.keep test).2.entries) : (k, e) ∈ s.entries :=
  (List.mem_filter.mp h).1

theorem Distinct.keep (h : s.Distinct) (test : CacheKey × CacheEntry V → Bool) :
    (s.keep test).2.Distinct :=
  h.sublist (List.filter_sublist.map _)

theorem Vacant.keep (h : s.Vacant k now) (test : CacheKey × CacheEntry V → Bool) :
    (s.keep test).2.Vacant k now :=
  fun e he => h e (mem_of_mem_keep he)

/-! ## The passing of time -/

/-- An expired entry never comes back to life. -/
theorem expired_mono {later : Nat} (h : s.expired e now = true) (hle : now ≤ later) :
    s.expired e later = true := by
  simp only [expired, CacheConfig.expired, decide_eq_true_eq] at h ⊢
  omega

theorem Vacant.later {later : Nat} (h : s.Vacant k now) (hle : now ≤ later) :
    s.Vacant k later :=
  fun e he => expired_mono (h e he) hle

end FleetGate.CacheStore
