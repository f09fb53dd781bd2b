import FleetGate.Proofs.Cache.Store

/-! # Room in a store

Where a new value finds its place. A key that has an entry keeps its place; a new key takes a free
one, and if there is none, that of an entry that no other was used less recently than
(`makeRoom_of_full`). So the store never holds more than it may (`Bounded.insert`), and its size and
its evictions together tell what happened to all that was ever stored: an entry that leaves is
counted, and a value that is stored is one entry more unless it takes the place of an entry of its
own key (`insert_balance`).
-/

namespace FleetGate

namespace CacheStore

variable {V : Type} {s : CacheStore V} {key k : CacheKey} {e : CacheEntry V} {v : V} {now : Nat}

/-- The store holds no more entries than it may. -/
def Bounded (s : CacheStore V) : Prop := s.entries.length ≤ s.config.maxEntries

/-- How many entries a store comes to hold: a single one it holds whatever its limit is. -/
def capacity (s : CacheStore V) : ℕ := max 1 s.config.maxEntries

/-- A new key would find no room. -/
def Full (s : CacheStore V) (key : CacheKey) : Prop :=
  key ∉ Keyed.keys s.entries ∧ s.config.maxEntries ≤ s.entries.length

/-- No entry was used less recently than this one. -/
def LeastRecent (s : CacheStore V) (p : CacheKey × CacheEntry V) : Prop :=
  p ∈ s.entries ∧ ∀ q ∈ s.entries, p.2.lastUse ≤ q.2.lastUse

/-! ## Who is evicted -/

/-- The key that is chosen is that of an entry that no other was used less recently than. -/
theorem of_leastRecent? {entries : List (CacheKey × CacheEntry V)}
    (h : leastRecent? entries = some key) :
    ∃ e, (key, e) ∈ entries ∧ ∀ q ∈ entries, e.lastUse ≤ q.2.lastUse := by
  induction entries with
  | nil => cases h
  | cons p rest ih =>
      rw [leastRecent?] at h
      split at h
      · rename_i hall
        obtain rfl := Option.some.inj h
        refine ⟨p.2, List.mem_cons_self, fun q hq => ?_⟩
        rcases List.mem_cons.mp hq with rfl | hq
        · exact Nat.le_refl _
        · simpa using List.all_eq_true.mp hall q hq
      · rename_i hsome
        obtain ⟨e, he, hleast⟩ := ih h
        -- some entry further down was used less recently than the first
        obtain ⟨q, hq, hlt⟩ : ∃ q ∈ rest, q.2.lastUse < p.2.lastUse := by simpa using hsome
        refine ⟨e, List.mem_cons_of_mem _ he, fun r hr => ?_⟩
        rcases List.mem_cons.mp hr with rfl | hr
        · exact Nat.le_of_lt (Nat.lt_of_le_of_lt (hleast q hq) hlt)
        · exact hleast r hr

/-- Of any entries one is chosen. -/
theorem exists_leastRecent? {entries : List (CacheKey × CacheEntry V)} (h : entries ≠ []) :
    ∃ key, leastRecent? entries = some key := by
  induction entries with
  | nil => exact absurd rfl h
  | cons p rest ih =>
      rw [leastRecent?]
      split
      · exact ⟨p.1, rfl⟩
      · rename_i hsome
        refine ih ?_
        rintro rfl
        exact hsome rfl

/-- With room for the key nothing is evicted. -/
theorem makeRoom_of_not_full (h : ¬ s.Full key) : s.makeRoom key = s := by
  rw [makeRoom, if_pos]
  rw [Bool.or_eq_true, Keyed.has_iff, decide_eq_true_eq]
  by_contra hnot
  rw [not_or, not_lt] at hnot
  exact h hnot

/-- Without room one entry is evicted that no other was used less recently than, if there is any. -/
theorem makeRoom_of_full_of_ne_nil (h : s.Full key) (hne : s.entries ≠ []) :
    ∃ old e, s.LeastRecent (old, e) ∧
      s.makeRoom key =
        { s with entries := Keyed.erase old s.entries, evictions := s.evictions + 1 } := by
  obtain ⟨hnew, hlen⟩ := h
  obtain ⟨old, hold⟩ := exists_leastRecent? hne
  obtain ⟨e, he, hleast⟩ := of_leastRecent? hold
  refine ⟨old, e, ⟨he, hleast⟩, ?_⟩
  have hfull : ¬ (Keyed.has key s.entries || decide (s.entries.length < s.config.maxEntries)) := by
    rw [Bool.or_eq_true, Keyed.has_iff, decide_eq_true_eq]
    rintro (hkey | hlt)
    · exact hnew hkey
    · exact Nat.not_le.mpr hlt hlen
  rw [makeRoom, if_neg hfull, hold]

theorem makeRoom_of_full (h : s.Full key) (hroom : 0 < s.config.maxEntries) :
    ∃ old e, s.LeastRecent (old, e) ∧
      s.makeRoom key =
        { s with entries := Keyed.erase old s.entries, evictions := s.evictions + 1 } :=
  makeRoom_of_full_of_ne_nil h (List.ne_nil_of_length_pos (hroom.trans_le h.2))

/-- No entry has to go for a key that has one, nor as long as the capacity is not used up. -/
theorem makeRoom_eq_self (h : key ∈ Keyed.keys s.entries ∨ s.entries.length < s.capacity) :
    s.makeRoom key = s := by
  by_cases hfull : s.Full key
  · -- then the limit is none, and there is no entry
    obtain ⟨hnew, hlimit⟩ := hfull
    have hlt : s.entries.length < max 1 s.config.maxEntries := h.resolve_left hnew
    have hnil : s.entries = [] := List.eq_nil_of_length_eq_zero (by omega)
    simp [makeRoom, hnil, leastRecent?, Keyed.has, Keyed.get?]
  · exact makeRoom_of_not_full hfull

/-- Making room for a key neither drops nor brings an entry of it. -/
theorem has_makeRoom (s : CacheStore V) (key : CacheKey) :
    Keyed.has key (s.makeRoom key).entries = Keyed.has key s.entries := by
  by_cases h : s.Full key
  · have hnew : key ∉ Keyed.keys (s.makeRoom key).entries :=
      fun hmem => h.1 (((makeRoom_sublist s key).map _).subset hmem)
    rw [Bool.eq_iff_iff, Keyed.has_iff, Keyed.has_iff]
    exact iff_of_false hnew h.1
  · rw [makeRoom_of_not_full h]

/-! ## What is stored -/

/-- Where no key has two entries, entries of one key are one entry. -/
theorem Distinct.unique (hs : s.Distinct) {e' : CacheEntry V} (h : (k, e) ∈ s.entries)
    (h' : (k, e') ∈ s.entries) : e = e' :=
  Option.some.inj ((Keyed.get?_of_mem hs h).symm.trans (Keyed.get?_of_mem hs h'))

/-- After a value was stored, its key has it, and every other key what making room left it. -/
theorem mem_insert_iff : (k, e) ∈ (s.insert key v now).entries ↔
    (k ≠ key ∧ (k, e) ∈ (s.makeRoom key).entries) ∨ (k = key ∧ e = ⟨v, now, now⟩) := by
  simp only [insert]
  split
  · rename_i hkey
    rw [Keyed.mem_modify]
    refine or_congr_right (and_congr_right fun _ => ⟨?_, fun h => ?_⟩)
    · rintro ⟨-, -, rfl⟩
      rfl
    · obtain ⟨p, hp, rfl⟩ := List.mem_map.mp (Keyed.has_iff.mp hkey)
      exact ⟨p.2, hp, h⟩
  · rename_i hkey
    rw [List.mem_append, List.mem_singleton, Prod.mk.injEq]
    refine or_congr_left ⟨fun hmem => ⟨?_, hmem⟩, fun h => h.2⟩
    rintro rfl
    exact hkey (Keyed.has_iff.mpr (List.mem_map_of_mem hmem))

/-- A stored value is one entry more, unless it takes the place of an entry of its key. -/
theorem length_insert (s : CacheStore V) (key : CacheKey) (v : V) (now : Nat) :
    (s.insert key v now).entries.length =
      (s.makeRoom key).entries.length + if Keyed.has key s.entries then 0 else 1 := by
  rw [← has_makeRoom]
  simp only [insert]
  split
  · exact Keyed.length_modify _ _ _
  · exact List.length_append

/-- No more is stored than the capacity. -/
theorem length_insert_le (h : s.entries.length ≤ s.capacity) (key : CacheKey) (v : V) (now : Nat) :
    (s.insert key v now).entries.length ≤ s.capacity := by
  rw [length_insert]
  by_cases hroom : key ∈ Keyed.keys s.entries ∨ s.entries.length < s.capacity
  · rw [makeRoom_eq_self hroom]
    split
    · exact h
    · rename_i hnew
      rw [Keyed.has_iff] at hnew
      exact hroom.resolve_left hnew
  · -- an entry has to go, so there is room for one
    rw [not_or, not_lt, capacity, max_le_iff] at hroom
    obtain ⟨hnew, hone, hlimit⟩ := hroom
    obtain ⟨old, e, ⟨hmem, -⟩, hmake⟩ :=
      makeRoom_of_full_of_ne_nil ⟨hnew, hlimit⟩ (List.ne_nil_of_length_pos hone)
    have hlt : (Keyed.erase old s.entries).length < s.entries.length :=
      List.length_filter_lt_length_iff_exists.mpr ⟨(old, e), hmem, by simp⟩
    have hnext : (if Keyed.has key s.entries then 0 else 1) ≤ 1 := by split <;> omega
    rw [hmake]
    exact Nat.le_trans (Nat.add_le_add_left hnext _) (Nat.le_trans hlt h)

theorem Bounded.insert (h : s.Bounded) (hroom : 0 < s.config.maxEntries) (key : CacheKey) (v : V)
    (now : Nat) : (s.insert key v now).Bounded := by
  have hcapacity : s.capacity = s.config.maxEntries := max_eq_right hroom
  rw [Bounded, insert_config, ← hcapacity]
  exact length_insert_le (hcapacity ▸ h) key v now

theorem length_touched (s : CacheStore V) (key : CacheKey) (now : Nat) :
    (s.touched key now).entries.length = s.entries.length := by
  rw [CacheStore.touched, Keyed.length_modify]

theorem Bounded.touched (h : s.Bounded) (key : CacheKey) (now : Nat) :
    (s.touched key now).Bounded := by
  rw [Bounded, length_touched]
  exact h

theorem Bounded.keep (h : s.Bounded) (test : CacheKey × CacheEntry V → Bool) :
    (s.keep test).2.Bounded :=
  Nat.le_trans (List.length_filter_le _ _) h

/-! ## What is counted -/

/-- What making room drops it counts. -/
theorem makeRoom_balance (hs : s.Distinct) (key : CacheKey) (hroom : 0 < s.config.maxEntries) :
    (s.makeRoom key).entries.length + (s.makeRoom key).evictions =
      s.entries.length + s.evictions := by
  by_cases h : s.Full key
  · obtain ⟨old, e, ⟨hmem, -⟩, hmake⟩ := makeRoom_of_full h hroom
    have hlen : (Keyed.erase old s.entries).length + 1 = s.entries.length :=
      Keyed.length_erase hs (List.mem_map_of_mem hmem)
    rw [hmake]
    simp only
    omega
  · rw [makeRoom_of_not_full h]

/-- A stored value is accounted for as an entry more, an eviction, or a replacement. -/
theorem insert_balance (hs : s.Distinct) (hroom : 0 < s.config.maxEntries) (key : CacheKey) (v : V)
    (now : Nat) :
    (s.insert key v now).entries.length + (s.insert key v now).evictions +
        (Keyed.has key s.entries).toNat = s.entries.length + s.evictions + 1 := by
  have hmake := makeRoom_balance hs key hroom
  have hevictions : (s.insert key v now).evictions = (s.makeRoom key).evictions := rfl
  rw [length_insert, hevictions]
  cases Keyed.has key s.entries with
  | true => simpa using hmake
  | false =>
      simp only [Bool.false_eq_true, if_false, Bool.toNat_false]
      omega

/-- What is dropped is counted. -/
theorem keep_balance (s : CacheStore V) (test : CacheKey × CacheEntry V → Bool) :
    (s.keep test).2.entries.length + (s.keep test).2.evictions =
      s.entries.length + s.evictions := by
  have hle : (s.entries.filter test).length ≤ s.entries.length := List.length_filter_le _ _
  simp only [keep]
  omega

end CacheStore

end FleetGate
