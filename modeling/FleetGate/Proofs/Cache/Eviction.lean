import FleetGate.Proofs.Cache.Housekeeping

/-! # Who has to go

A value that is stored under a new key in a full store takes the place of an entry that no other was
used less recently than. Nobody else notices, and in every other case nobody has to go
(`evicts_least_recent`). As an entry expires by the time since its last use, a live one is not
evicted while an expired one is there.
-/

namespace FleetGate.CacheStore

variable {V : Type} {s : CacheStore V} {key : CacheKey} {p q : CacheKey × CacheEntry V} {v : V}
  {now : ℕ}

/-- If an entry that no other was used less recently than is live, all entries are. -/
theorem LeastRecent.all_live (h : s.LeastRecent p) (hlive : s.expired p.2 now = false) :
    ∀ q ∈ s.entries, s.expired q.2 now = false := by
  intro q hq
  by_contra hexpired
  have hp : s.expired p.2 now = true :=
    expired_of_lastUse_le (by simpa using hexpired) (h.2 q hq)
  exact Bool.false_ne_true (hlive.symm.trans hp)

/-- Where no key has two entries, dropping the key of an entry drops that entry alone. -/
theorem Distinct.mem_erase_iff (hs : s.Distinct) (hp : p ∈ s.entries) :
    q ∈ Keyed.erase p.1 s.entries ↔ q ∈ s.entries ∧ q ≠ p := by
  rw [Keyed.erase, List.mem_filter, decide_eq_true_eq]
  refine and_congr_right fun hq => not_congr ⟨fun hkey => ?_, fun h => h ▸ rfl⟩
  have hq' : (p.1, q.2) ∈ s.entries := hkey ▸ hq
  exact Prod.ext hkey (hs.unique hq' hp)

/-- With room for the key, the value is stored beside all entries of other keys. -/
theorem mem_insert_of_not_full (h : ¬ s.Full key) :
    q ∈ (s.insert key v now).entries ↔
      (q ∈ s.entries ∧ q.1 ≠ key) ∨ q = (key, ⟨v, now, now⟩) := by
  obtain ⟨k, e⟩ := q
  rw [mem_insert_iff, makeRoom_of_not_full h, Prod.mk.injEq, and_comm]

/-- Without room, the value is stored in the place of an entry that no other was used less recently
than. -/
theorem mem_insert_of_full (hs : s.Distinct) (h : s.Full key) (hroom : 0 < s.config.maxEntries)
    (v : V) (now : ℕ) : ∃ p, s.LeastRecent p ∧
      s.makeRoom key =
        { s with entries := Keyed.erase p.1 s.entries, evictions := s.evictions + 1 } ∧
      ∀ q, q ∈ (s.insert key v now).entries ↔
        (q ∈ s.entries ∧ q ≠ p) ∨ q = (key, ⟨v, now, now⟩) := by
  obtain ⟨old, e, hleast, hmake⟩ := makeRoom_of_full h hroom
  refine ⟨(old, e), hleast, hmake, fun ⟨k, e'⟩ => ?_⟩
  have herase : (k, e') ∈ Keyed.erase old s.entries ↔ (k, e') ∈ s.entries ∧ (k, e') ≠ (old, e) :=
    hs.mem_erase_iff hleast.1
  rw [mem_insert_iff, hmake, herase, Prod.mk.injEq]
  -- no entry that stays has the new key
  refine or_congr_left (and_iff_right_of_imp fun hmem hk => h.1 ?_)
  exact hk ▸ List.mem_map_of_mem hmem.1

/-- Storing a value drops an entry of another key exactly if its own key is new and the store full.
Then that is one entry that no other was used less recently than, so that it is live only if all
are; every other one stays as it was, and one eviction is counted. Otherwise the value stands beside
all entries of other keys, and none is counted. -/
theorem evicts_least_recent (s : CacheStore V) (hs : s.Distinct) (hroom : 0 < s.config.maxEntries)
    (key : CacheKey) (v : V) (now : ℕ) :
    let s' := s.insert key v now
    ((∃ q ∈ s.entries, q.1 ≠ key ∧ q ∉ s'.entries) ↔ s.Full key) ∧
      (s.Full key → ∃ p, s.LeastRecent p ∧
        (∀ q, q ∈ s'.entries ↔ (q ∈ s.entries ∧ q ≠ p) ∨ q = (key, ⟨v, now, now⟩)) ∧
        s'.evictions = s.evictions + 1 ∧
        (s.expired p.2 now = false → ∀ q ∈ s.entries, s.expired q.2 now = false)) ∧
      (¬ s.Full key →
        (∀ q, q ∈ s'.entries ↔ (q ∈ s.entries ∧ q.1 ≠ key) ∨ q = (key, ⟨v, now, now⟩)) ∧
        s'.evictions = s.evictions) := by
  intro s'
  have hcount : s'.evictions = (s.makeRoom key).evictions := rfl
  refine ⟨⟨?_, fun hfull => ?_⟩, fun hfull => ?_, fun hfull => ?_⟩
  · rintro ⟨q, hq, hkey, hgone⟩
    by_contra hfull
    exact hgone ((mem_insert_of_not_full hfull).mpr (Or.inl ⟨hq, hkey⟩))
  · obtain ⟨p, hleast, -, hmem⟩ := mem_insert_of_full hs hfull hroom v now
    have hkey : p.1 ≠ key := fun hp => hfull.1 (hp ▸ List.mem_map_of_mem hleast.1)
    refine ⟨p, hleast.1, hkey, fun hstays => ?_⟩
    rcases (hmem p).mp hstays with ⟨-, hne⟩ | hnew
    · exact hne rfl
    · exact hkey (congrArg Prod.fst hnew)
  · obtain ⟨p, hleast, hmake, hmem⟩ := mem_insert_of_full hs hfull hroom v now
    exact ⟨p, hleast, hmem, by rw [hcount, hmake], hleast.all_live⟩
  · exact ⟨fun q => mem_insert_of_not_full hfull, by rw [hcount, makeRoom_of_not_full hfull]⟩

/-- A store with room for two, of which one has expired by the time 700000. -/
def agedStore : CacheStore ℕ where
  config := { maxEntries := 2 }
  entries := [(⟨"prod", "jane@example.com"⟩, ⟨1, 0, 650000⟩),
    (⟨"dev", "joe@example.com"⟩, ⟨2, 0, 50000⟩)]

/-- A third key takes the place of the expired entry, and the live one stays. -/
theorem expired_entry_evicted :
    let s' := agedStore.insert ⟨"", "jane@example.com"⟩ 3 700000
    agedStore.Distinct ∧ 0 < agedStore.config.maxEntries ∧
      agedStore.Full ⟨"", "jane@example.com"⟩ ∧
      (⟨"dev", "joe@example.com"⟩, ⟨2, 0, 50000⟩) ∉ s'.entries ∧
      (⟨"prod", "jane@example.com"⟩, ⟨1, 0, 650000⟩) ∈ s'.entries ∧ s'.evictions = 1 := by
  have hdistinct : agedStore.Distinct := by
    simp only [Distinct, agedStore]
    decide
  have hfull : agedStore.Full ⟨"", "jane@example.com"⟩ := ⟨by decide, by decide⟩
  obtain ⟨-, hevicts, -⟩ :=
    evicts_least_recent agedStore hdistinct (by decide) ⟨"", "jane@example.com"⟩ 3 700000
  obtain ⟨p, -, -, hcount, -⟩ := hevicts hfull
  exact ⟨hdistinct, by decide, hfull, by decide, by decide, hcount⟩

end FleetGate.CacheStore
