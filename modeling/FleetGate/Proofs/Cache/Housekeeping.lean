import FleetGate.Proofs.Cache.Books
import Mathlib.Data.List.Perm.Subperm

/-! # Housekeeping

Sweeping expired entries out is noticed by no caller. An expired entry is never found, but it takes
up room, and a value that is stored may take its place. So two runs that differ in their clean-ups
come to hold different entries, evict different ones, and count differently. What stays the same is
which live entries they hold (`SameLive`), and with that everything that callers and flights see
(`Twin`).

The one place where the two could part is an eviction. As long as a store holds an expired entry,
the one that goes has expired, for no other was used less recently. If all entries are live and
there is no room left, both stores hold the same entries, and evict the same one unless several were
used least recently (`ClearChoice`).
-/

namespace FleetGate

/-- Whether an event does no more than to drop expired entries. -/
def CacheEvent.isCleanup {W J : Type} : CacheEvent W J → Bool
  | .cleanup | .sweep => true
  | _ => false

namespace CacheStore

variable {V : Type} {s s' s'' : CacheStore V} {key k : CacheKey} {e e' : CacheEntry V} {v : V}
  {now : Nat}

/-- An entry that has not expired. -/
def LiveAt (s : CacheStore V) (now : Nat) (key : CacheKey) (e : CacheEntry V) : Prop :=
  (key, e) ∈ s.entries ∧ s.expired e now = false

/-- Two stores of the same limits hold the same live entries. -/
structure SameLive (s s' : CacheStore V) (now : Nat) : Prop where
  config : s'.config = s.config
  live : ∀ key e, s'.LiveAt now key e ↔ s.LiveAt now key e

/-- A store whose keys have one entry each, with room for some and never more than it may hold. -/
structure Orderly (s : CacheStore V) : Prop where
  distinct : s.Distinct
  roomy : 0 < s.config.maxEntries
  bounded : s.Bounded

/-- A new key would find no room, and every entry is live. -/
def Crowded (s : CacheStore V) (key : CacheKey) (now : Nat) : Prop :=
  s.Full key ∧ ∀ p ∈ s.entries, s.expired p.2 now = false

/-- If a live entry has to go to make room for a key, then only one was used least recently. -/
def ClearChoice (s : CacheStore V) (key : CacheKey) (now : Nat) : Prop :=
  s.Crowded key now →
    ∀ p ∈ s.entries, ∀ q ∈ s.entries, s.LeastRecent p → s.LeastRecent q → p.1 = q.1

instance [DecidableEq V] (s : CacheStore V) (p : CacheKey × CacheEntry V) :
    Decidable (s.LeastRecent p) :=
  inferInstanceAs (Decidable (_ ∧ _))

instance [DecidableEq V] (s : CacheStore V) (key : CacheKey) (now : Nat) :
    Decidable (s.ClearChoice key now) :=
  inferInstanceAs (Decidable ((_ ∧ _) ∧ _ → _))

/-! ## Live entries -/

/-- Where no key has two entries, a live entry of a key is what is found of it. -/
theorem live?_eq_some_iff (hs : s.Distinct) :
    s.live? key now = some e ↔ s.LiveAt now key e := by
  refine ⟨mem_of_live?, ?_⟩
  rintro ⟨hmem, hfresh⟩
  have hget : Keyed.get? key s.entries = some e := Keyed.get?_of_mem hs hmem
  simp [live?, hget, hfresh]

theorem expired_congr (h : s'.config = s.config) (e : CacheEntry V) (now : Nat) :
    s'.expired e now = s.expired e now := by
  rw [expired, expired, h]

/-- Of two entries the one that was used less recently has expired if the other has. -/
theorem expired_of_lastUse_le (h : s.expired e now = true) (hle : e'.lastUse ≤ e.lastUse) :
    s.expired e' now = true := by
  simp only [expired, CacheConfig.expired, decide_eq_true_eq] at h ⊢
  omega

theorem liveAt_touched (hs : s.Distinct) (live : s.LiveAt now key e) :
    (s.touched key now).LiveAt now k e' ↔
      (k ≠ key ∧ s.LiveAt now k e') ∨
        (k = key ∧ e' = { e with lastUse := now } ∧ s.expired e' now = false) := by
  have hconfig : (s.touched key now).expired e' now = s.expired e' now :=
    expired_congr rfl e' now
  rw [LiveAt, mem_touched, hconfig, or_and_right, and_assoc, and_assoc]
  refine or_congr Iff.rfl (and_congr_right fun _ => and_congr_left fun _ => ⟨?_, ?_⟩)
  · rintro ⟨e₀, he₀, rfl⟩
    rw [hs.unique he₀ live.1]
  · exact fun he' => ⟨e, live.1, he'⟩

theorem liveAt_keep {test : CacheKey × CacheEntry V → Bool} :
    (s.keep test).2.LiveAt now k e ↔ s.LiveAt now k e ∧ test (k, e) = true := by
  rw [LiveAt, LiveAt, and_right_comm]
  exact and_congr_left' List.mem_filter

theorem liveAt_insert :
    (s.insert key v now).LiveAt now k e ↔
      (k ≠ key ∧ (s.makeRoom key).LiveAt now k e) ∨
        (k = key ∧ e = ⟨v, now, now⟩ ∧ s.expired e now = false) := by
  have hinsert := expired_congr (insert_config s key v now) e now
  have hmake := expired_congr (makeRoom_config s key) e now
  rw [LiveAt, LiveAt, mem_insert_iff, hinsert, hmake, or_and_right, and_assoc, and_assoc]

/-- Time that passes leaves those entries alive that have not expired then. -/
theorem liveAt_later {later : Nat} (hle : now ≤ later) :
    s.LiveAt later key e ↔ s.LiveAt now key e ∧ s.expired e later = false := by
  rw [LiveAt, LiveAt, and_assoc]
  refine and_congr_right fun _ => ⟨fun h => ⟨?_, h⟩, fun h => h.2⟩
  by_contra hexpired
  have hlater := expired_mono (by simpa using hexpired) hle
  exact Bool.false_ne_true (h.symm.trans hlater)

/-! ## Making room among live entries -/

/-- If there is room, or an entry has expired, no live entry goes. -/
theorem liveAt_makeRoom_of_not_crowded (hs : s.Orderly) (h : ¬ s.Crowded key now) :
    (s.makeRoom key).LiveAt now k e ↔ s.LiveAt now k e := by
  by_cases hfull : s.Full key
  · obtain ⟨old, e₀, ⟨hmem, hleast⟩, hmake⟩ := makeRoom_of_full hfull hs.roomy
    obtain ⟨q, hq, hexpired⟩ : ∃ q ∈ s.entries, s.expired q.2 now = true := by
      by_contra hnone
      refine h ⟨hfull, fun p hp => ?_⟩
      by_contra hp'
      exact hnone ⟨p, hp, by simpa using hp'⟩
    have hgone : s.expired e₀ now = true := expired_of_lastUse_le hexpired (hleast q hq)
    rw [LiveAt, LiveAt, hmake]
    refine and_congr_left fun hfresh => ⟨fun h => (List.mem_filter.mp h).1, fun h => ?_⟩
    refine List.mem_filter.mpr ⟨h, ?_⟩
    -- what goes is the expired entry of the key
    have hne : k ≠ old := by
      rintro rfl
      obtain rfl := hs.distinct.unique h hmem
      exact Bool.false_ne_true (hfresh.symm.trans hgone)
    simpa using hne
  · rw [makeRoom_of_not_full hfull]

/-- If there is no room and all entries are live, one goes that was used least recently. -/
theorem liveAt_makeRoom_of_crowded (hs : s.Orderly) (h : s.Crowded key now) :
    ∃ old e₀, s.LeastRecent (old, e₀) ∧
      ∀ k e, (s.makeRoom key).LiveAt now k e ↔ k ≠ old ∧ s.LiveAt now k e := by
  obtain ⟨old, e₀, hleast, hmake⟩ := makeRoom_of_full h.1 hs.roomy
  refine ⟨old, e₀, hleast, fun k e => ?_⟩
  rw [LiveAt, LiveAt, hmake, ← and_assoc]
  refine and_congr_left' ?_
  rw [Keyed.erase, List.mem_filter, decide_eq_true_eq, and_comm]

/-! ## Stores that hold the same live entries -/

namespace SameLive

theorem refl (s : CacheStore V) (now : Nat) : s.SameLive s now := ⟨rfl, fun _ _ => Iff.rfl⟩

theorem symm (h : s.SameLive s' now) : s'.SameLive s now :=
  ⟨h.config.symm, fun key e => (h.live key e).symm⟩

theorem trans (h : s.SameLive s' now) (h' : s'.SameLive s'' now) : s.SameLive s'' now :=
  ⟨h'.config.trans h.config, fun key e => (h'.live key e).trans (h.live key e)⟩

/-- The same is found in both. -/
theorem live?_eq (h : s.SameLive s' now) (hs : s.Distinct) (hs' : s'.Distinct) (key : CacheKey) :
    s'.live? key now = s.live? key now := by
  refine Option.ext fun e => ?_
  rw [live?_eq_some_iff hs', live?_eq_some_iff hs, h.live]

theorem later (h : s.SameLive s' now) {later : Nat} (hle : now ≤ later) :
    s.SameLive s' later where
  config := h.config
  live key e := by
    rw [liveAt_later hle, liveAt_later hle, h.live, expired_congr h.config]

theorem touched (h : s.SameLive s' now) (hs : s.Distinct) (hs' : s'.Distinct)
    (live : s.LiveAt now key e) : (s.touched key now).SameLive (s'.touched key now) now where
  config := h.config
  live k e' := by
    rw [liveAt_touched hs' ((h.live key e).mpr live), liveAt_touched hs live, h.live,
      expired_congr h.config]

theorem keep (h : s.SameLive s' now) (test : CacheKey × CacheEntry V → Bool) :
    (s.keep test).2.SameLive (s'.keep test).2 now where
  config := h.config
  live k e := by rw [liveAt_keep, liveAt_keep, h.live]

theorem clear (h : s.SameLive s' now) : s.clear.SameLive s'.clear now where
  config := h.config
  live key e := by simp [LiveAt, CacheStore.clear]

/-- Dropping the expired entries leaves the live ones. -/
theorem removeExpired (s : CacheStore V) (now : Nat) : s.SameLive (s.removeExpired now).2 now where
  config := rfl
  live k e := by
    rw [CacheStore.removeExpired, liveAt_keep, and_iff_left_iff_imp]
    intro live
    simpa using live.2

/-- A store without room whose entries are all live has the entries of the other one. -/
theorem perm_of_crowded (h : s.SameLive s' now) (hs : s.Distinct) (hs' : s'.Bounded)
    (hcrowded : s.Crowded key now) : s.entries.Perm s'.entries := by
  have hsub : s.entries ⊆ s'.entries :=
    fun p hp => ((h.live p.1 p.2).mpr ⟨hp, hcrowded.2 p hp⟩).1
  have hlen : s'.entries.length ≤ s.entries.length :=
    Nat.le_trans hs' (h.config ▸ hcrowded.1.2)
  exact (List.subperm_of_subset (List.Nodup.of_map _ hs) hsub).perm_of_length_le hlen

/-- If one of the two has no room and only live entries, so has the other. -/
theorem crowded (h : s.SameLive s' now) (hs : s.Distinct) (hs' : s'.Bounded)
    (hcrowded : s.Crowded key now) : s'.Crowded key now := by
  have hperm := h.perm_of_crowded hs hs' hcrowded
  obtain ⟨⟨hnew, hlen⟩, hall⟩ := hcrowded
  refine ⟨⟨?_, ?_⟩, fun p hp => ?_⟩
  · exact fun hkey => hnew ((hperm.map _).mem_iff.mpr hkey)
  · rw [h.config, ← hperm.length_eq]
    exact hlen
  · rw [expired_congr h.config]
    exact hall p (hperm.mem_iff.mpr hp)

theorem makeRoom (h : s.SameLive s' now) (hs : s.Orderly) (hs' : s'.Orderly)
    (hclear : s.ClearChoice key now) :
    (s.makeRoom key).SameLive (s'.makeRoom key) now where
  config := by rw [makeRoom_config, makeRoom_config, h.config]
  live k e := by
    by_cases hcrowded : s.Crowded key now
    · have hperm := h.perm_of_crowded hs.distinct hs'.bounded hcrowded
      have hcrowded' := h.crowded hs.distinct hs'.bounded hcrowded
      obtain ⟨old, e₀, hleast, hlive⟩ := liveAt_makeRoom_of_crowded hs hcrowded
      obtain ⟨old', e₀', hleast', hlive'⟩ := liveAt_makeRoom_of_crowded hs' hcrowded'
      -- what the other store evicts was used least recently here, too
      have hsame : s.LeastRecent (old', e₀') :=
        ⟨hperm.mem_iff.mpr hleast'.1, fun q hq => hleast'.2 q (hperm.mem_iff.mp hq)⟩
      obtain rfl : old' = old := hclear hcrowded _ hsame.1 _ hleast.1 hsame hleast
      rw [hlive', hlive, h.live]
    · have hcrowded' : ¬ s'.Crowded key now :=
        fun hc => hcrowded (h.symm.crowded hs'.distinct hs.bounded hc)
      rw [liveAt_makeRoom_of_not_crowded hs' hcrowded', liveAt_makeRoom_of_not_crowded hs hcrowded,
        h.live]

theorem insert (h : s.SameLive s' now) (hs : s.Orderly) (hs' : s'.Orderly)
    (hclear : s.ClearChoice key now) (v : V) :
    (s.insert key v now).SameLive (s'.insert key v now) now where
  config := by rw [insert_config, insert_config, h.config]
  live k e := by
    rw [liveAt_insert, liveAt_insert, (h.makeRoom hs hs' hclear).live, expired_congr h.config]

end SameLive

end CacheStore

namespace CacheMachine

variable {W J V : Type} {w : Workshop W J V} {m m' m'' : CacheMachine W J V}
  {milestone? : Option (Milestone J V)} {event : CacheEvent W J}

/-- The machine with another store, and with another time for the next sweep. -/
def withStore (m : CacheMachine W J V) (s : CacheStore V) (due : Nat) : CacheMachine W J V :=
  { m with store := s, sweeper := { m.sweeper with due } }

theorem Move.orderly (h : Move w m milestone? m') (hm : m.store.Orderly) : m'.store.Orderly where
  distinct := h.distinct hm.distinct
  roomy := h.config ▸ hm.roomy
  bounded := h.bounded hm.roomy hm.bounded

/-- Wherever a run stores a value, it is clear which live entry has to go, if one has to. -/
def EvictsClearly (w : Workshop W J V) (m : CacheMachine W J V) : List (CacheEvent W J) → Prop
  | [] => True
  | event :: rest =>
    (∀ key ∈ m.recorded? event, m.store.ClearChoice key m.now) ∧
      (m.step w event).EvictsClearly w rest

instance decidableEvictsClearly [DecidableEq V] (w : Workshop W J V) :
    (events : List (CacheEvent W J)) → (m : CacheMachine W J V) →
      Decidable (m.EvictsClearly w events)
  | [], _ => isTrue trivial
  | event :: rest, m =>
    have : Decidable ((m.step w event).EvictsClearly w rest) :=
      decidableEvictsClearly w rest (m.step w event)
    inferInstanceAs (Decidable (_ ∧ _))

/-- Two machines that differ only in what is stored besides the live entries, in what was counted,
and in when the next sweep is due. -/
def Twin (m m' : CacheMachine W J V) : Prop :=
  ∃ s due, m' = m.withStore s due ∧ m.store.SameLive s m.now

/-! ## Steps -/

/-- What is remembered of a step does not depend on the store. -/
theorem milestone?_withStore (w : Workshop W J V) (m : CacheMachine W J V) (s : CacheStore V)
    (due : Nat) (event : CacheEvent W J) :
    (m.withStore s due).milestone? w event = m.milestone? w event := by
  cases event with
  | _ => rfl

namespace Twin

theorem refl (m : CacheMachine W J V) : m.Twin m :=
  ⟨m.store, m.sweeper.due, rfl, .refl m.store m.now⟩

theorem symm (h : m.Twin m') : m'.Twin m := by
  obtain ⟨s, due, rfl, hlive⟩ := h
  exact ⟨m.store, m.sweeper.due, rfl, hlive.symm⟩

theorem trans (h : m.Twin m') (h' : m'.Twin m'') : m.Twin m'' := by
  obtain ⟨s, due, rfl, hlive⟩ := h
  obtain ⟨s', due', rfl, hlive'⟩ := h'
  exact ⟨s', due', rfl, hlive.trans hlive'⟩

theorem join (h : m.Twin m') (i : Nat) : (m.join i).Twin (m'.join i) := by
  obtain ⟨s, due, rfl, hlive⟩ := h
  simp only [CacheMachine.join, withStore]
  split
  · split
    · exact ⟨s, due, rfl, hlive⟩
    · exact ⟨s, due, rfl, hlive⟩
  · exact ⟨s, due, rfl, hlive⟩

theorem poll (h : m.Twin m') (i : Nat) : (m.poll i).Twin (m'.poll i) := by
  obtain ⟨s, due, rfl, hlive⟩ := h
  simp only [CacheMachine.poll, withStore, callerPhase?]
  split
  · exact ⟨s, due, rfl, hlive⟩
  · exact ⟨s, due, rfl, hlive⟩

theorem rest (h : m.Twin m') (i : Nat) : (m.rest i).Twin (m'.rest i) := by
  obtain ⟨s, due, rfl, hlive⟩ := h
  simp only [CacheMachine.rest, withStore, callerPhase?, flightPhase?]
  split
  · split
    all_goals exact ⟨s, due, rfl, hlive⟩
  · exact ⟨s, due, rfl, hlive⟩

theorem drop (h : m.Twin m') (i : Nat) : (m.drop i).Twin (m'.drop i) := by
  obtain ⟨s, due, rfl, hlive⟩ := h
  simp only [CacheMachine.drop, withStore, callerPhase?]
  split
  all_goals exact ⟨s, due, rfl, hlive⟩

theorem closing (h : m.Twin m') (i : Nat) : (m.closing i).Twin (m'.closing i) := by
  obtain ⟨s, due, rfl, hlive⟩ := h
  simp only [CacheMachine.closing, withStore]
  split
  · exact ⟨s, due, rfl, hlive⟩
  · exact rel_ite (fun _ => ⟨s, due, rfl, hlive⟩) fun _ => ⟨s, due, rfl, hlive⟩
  · exact rel_ite (fun _ => ⟨s, due, rfl, hlive⟩) fun _ => ⟨s, due, rfl, hlive⟩
  · exact ⟨s.clear, due, rfl, hlive.clear⟩
  all_goals exact ⟨s, due, rfl, hlive⟩

theorem stopSweeper (h : m.Twin m') : m.stopSweeper.Twin m'.stopSweeper := by
  obtain ⟨s, due, rfl, hlive⟩ := h
  exact rel_ite (fun _ => ⟨s, due, rfl, hlive⟩) fun _ => ⟨s, due, rfl, hlive⟩

/-- The same is found in both machines, and leaves their stores with the same live entries. -/
theorem lookup (h : m.Twin m') (hm : m.store.Distinct) (hm' : m'.store.Distinct) (key : CacheKey) :
    ∃ found s s', m.store.lookup key m.now = (found, s) ∧ m'.store.lookup key m'.now = (found, s') ∧
      s.SameLive s' m.now := by
  obtain ⟨s, due, rfl, hlive⟩ := h
  have hfound := hlive.live?_eq hm hm' key
  cases live : m.store.live? key m.now with
  | some e =>
      exact ⟨_, _, _, CacheStore.lookup_of_live live,
        CacheStore.lookup_of_live (hfound.trans live),
        hlive.touched hm hm' (CacheStore.mem_of_live? live)⟩
  | none =>
      exact ⟨_, _, _, CacheStore.lookup_of_not_live live,
        CacheStore.lookup_of_not_live (hfound.trans live), hlive⟩

theorem look (h : m.Twin m') (hm : m.store.Distinct) (hm' : m'.store.Distinct) (i : Nat) :
    (m.look i).Twin (m'.look i) := by
  have hlookup := h.lookup hm hm'
  obtain ⟨s, due, rfl, hlive⟩ := h
  simp only [CacheMachine.look, withStore] at hlookup ⊢
  split
  · rename_i key job _
    obtain ⟨found, s₁, s₁', h₁, h₁', hlive₁⟩ := hlookup key
    simp only [h₁, h₁']
    cases found with
    | some value => exact ⟨s₁', due, rfl, hlive₁⟩
    | none => exact ⟨s₁', due, rfl, hlive₁⟩
  · exact ⟨s, due, rfl, hlive⟩

theorem drive (h : m.Twin m') (hm : m.store.Orderly) (hm' : m'.store.Orderly) (w : Workshop W J V)
    (i : Nat) (hclear : ∀ key ∈ m.recorded? (.drive i : CacheEvent W J),
      m.store.ClearChoice key m.now) : (m.drive w i).Twin (m'.drive w i) := by
  have hlookup := h.lookup hm.distinct hm'.distinct
  obtain ⟨s, due, rfl, hlive⟩ := h
  simp only [CacheMachine.drive, withStore, callerPhase?] at hlookup ⊢
  split
  · rename_i f hphase
    split
    · exact ⟨s, due, rfl, hlive⟩
    · rename_i key stage hflight
      cases stage with
      | unstarted job =>
          obtain ⟨found, s₁, s₁', h₁, h₁', hlive₁⟩ := hlookup key
          simp only [h₁, h₁']
          cases found with
          | some value => exact ⟨s₁', due, rfl, hlive₁⟩
          | none => exact ⟨s₁', due, rfl, hlive₁⟩
      | missed job => exact ⟨s.countMiss, due, rfl, hlive.config, hlive.live⟩
      | making job wake? =>
          simp only
          split
          all_goals exact ⟨s, due, rfl, hlive⟩
      | made value =>
          refine rel_ite (fun _ => ⟨s, due, rfl, hlive⟩) fun opened => ?_
          have hstored : m.recorded? (.drive i : CacheEvent W J) = some key := by
            simp [recorded?, callerPhase?, hphase, hflight, opened]
          exact ⟨s.insert key value m.now, due, rfl,
            hlive.insert hm hm' (hclear key hstored) value⟩
      | settled outcome => exact ⟨s, due, rfl, hlive⟩
      | finished outcome => exact ⟨s, due, rfl, hlive⟩
  · exact ⟨s, due, rfl, hlive⟩

/-- Any step but a clean-up leaves two machines twins that were so before. -/
theorem step (h : m.Twin m') (hm : m.store.Orderly) (hm' : m'.store.Orderly) (w : Workshop W J V)
    (hevent : event.isCleanup = false)
    (hclear : ∀ key ∈ m.recorded? event, m.store.ClearChoice key m.now) :
    (m.step w event).Twin (m'.step w event) := by
  cases event with
  | look i => exact h.look hm.distinct hm'.distinct i
  | join i => exact h.join i
  | poll i => exact h.poll i
  | drive i => exact h.drive hm hm' w i hclear
  | rest i => exact h.rest i
  | drop i => exact h.drop i
  | closing i => exact h.closing i
  | stopSweeper => exact h.stopSweeper
  | cleanup | sweep => cases hevent
  | invalidate _ | invalidateCluster _ =>
      obtain ⟨s, due, rfl, hlive⟩ := h
      exact ⟨(s.keep _).2, due, rfl, hlive.keep _⟩
  | pass milliseconds =>
      obtain ⟨s, due, rfl, hlive⟩ := h
      exact ⟨s, due, rfl, hlive.later (Nat.le_add_right _ _)⟩
  | arrive _ _ | close | outside _ =>
      obtain ⟨s, due, rfl, hlive⟩ := h
      exact ⟨s, due, rfl, hlive⟩

/-- A clean-up leaves a twin of the machine. -/
theorem of_cleanup (w : Workshop W J V) (m : CacheMachine W J V) (hevent : event.isCleanup = true) :
    m.Twin (m.step w event) := by
  have hlive := CacheStore.SameLive.removeExpired m.store m.now
  cases event with
  | cleanup => exact ⟨_, m.sweeper.due, rfl, hlive⟩
  | sweep =>
      rw [CacheMachine.step, sweep]
      split
      · exact ⟨_, _, rfl, hlive⟩
      · exact .refl m
  | _ => cases hevent

end Twin

/-! ## Runs -/

/-- Nothing is remembered of a clean-up. -/
theorem milestone?_of_cleanup (w : Workshop W J V) (m : CacheMachine W J V)
    (hevent : event.isCleanup = true) : m.milestone? w event = none := by
  cases event with
  | cleanup | sweep => rfl
  | _ => cases hevent

/-- Any number of clean-ups leave a twin, and nothing is remembered of them. -/
theorem twin_of_cleanups (w : Workshop W J V) (m : CacheMachine W J V)
    {events : List (CacheEvent W J)} (h : ∀ event ∈ events, event.isCleanup = true) :
    m.Twin (m.run w events) ∧ m.log w events = [] := by
  induction events generalizing m with
  | nil => exact ⟨.refl m, rfl⟩
  | cons event rest ih =>
      have hevent := h event List.mem_cons_self
      obtain ⟨hrest, hlog⟩ := ih (m.step w event) fun e he => h e (List.mem_cons_of_mem _ he)
      refine ⟨(Twin.of_cleanup w m hevent).trans hrest, ?_⟩
      rw [log, milestone?_of_cleanup w m hevent, hlog]
      rfl

theorem orderly_run (hm : m.store.Orderly) (w : Workshop W J V) (events : List (CacheEvent W J)) :
    (m.run w events).store.Orderly :=
  run_induction (P := fun m => m.store.Orderly) hm (fun hm h => h.orderly hm) events

/-- Twins that go on alike but for their clean-ups stay twins, and the same is remembered. -/
theorem Twin.run (h : m.Twin m') (hm : m.store.Orderly) (hm' : m'.store.Orderly)
    (w : Workshop W J V) {events events' : List (CacheEvent W J)}
    (same : events.filter (fun e => !e.isCleanup) = events'.filter fun e => !e.isCleanup)
    (hclear : m.EvictsClearly w events) :
    (m.run w events).Twin (m'.run w events') ∧ m'.log w events' = m.log w events := by
  induction events generalizing m m' events' with
  | nil =>
      have hall : ∀ event ∈ events', event.isCleanup = true := by
        simpa using List.filter_eq_nil_iff.mp same.symm
      obtain ⟨htwin, hlog⟩ := twin_of_cleanups w m' hall
      exact ⟨h.trans htwin, hlog⟩
  | cons event rest ih =>
      obtain ⟨hnow, hlater⟩ := hclear
      have hstep : (m.step w event).store.Orderly := (step_move w m event).orderly hm
      cases hevent : event.isCleanup with
      | true =>
          -- one side cleans up, the other stays where it is
          rw [List.filter_cons_of_neg (by simp [hevent])] at same
          obtain ⟨htwin, hlog⟩ :=
            ih ((Twin.of_cleanup w m hevent).symm.trans h) hstep hm' same hlater
          refine ⟨htwin, ?_⟩
          rw [hlog, log, milestone?_of_cleanup w m hevent]
          rfl
      | false =>
          -- the other side cleans up for a while, and then both take the step
          rw [List.filter_cons_of_pos (by simp [hevent])] at same
          obtain ⟨before, after, rfl, hbefore, -, hafter⟩ := List.filter_eq_cons_iff.mp same.symm
          obtain ⟨hwhile, hquiet⟩ := twin_of_cleanups w m' (by simpa using hbefore)
          have hm₁ := orderly_run hm' w before
          have htwin := h.trans hwhile
          obtain ⟨hrest, hlog⟩ := ih (htwin.step hm hm₁ w hevent hnow) hstep
            ((step_move w _ event).orderly hm₁) hafter.symm hlater
          obtain ⟨s, due, hs, -⟩ := htwin
          refine ⟨by rw [run_append]; exact hrest, ?_⟩
          rw [log_append, hquiet, log, log, hlog, hs, milestone?_withStore]
          rfl

/-- However a cache is used: expired entries may be swept out at any time, or never, and no caller
gets another answer for it, and no flight is launched, started or ended that otherwise would not,
provided that one entry was used least recently wherever a live one has to go. -/
theorem cleanups_unnoticed (w : Workshop W J V) (config : CacheConfig)
    (hroom : 0 < config.maxEntries) (world : W) (events events' : List (CacheEvent W J))
    (same : events.filter (fun e => !e.isCleanup) = events'.filter fun e => !e.isCleanup)
    (hclear : (CacheMachine.start config world : CacheMachine W J V).EvictsClearly w events) :
    let m₀ : CacheMachine W J V := CacheMachine.start config world
    (m₀.run w events').callers = (m₀.run w events).callers ∧
      m₀.log w events' = m₀.log w events := by
  intro m₀
  have hm₀ : m₀.store.Orderly := ⟨List.nodup_nil, hroom, Nat.zero_le _⟩
  obtain ⟨⟨s, due, hrun, -⟩, hlog⟩ := (Twin.refl m₀).run hm₀ hm₀ w same hclear
  refine ⟨?_, hlog⟩
  rw [hrun]
  rfl

/-- Two values are stored, and a third one takes the place of a live entry. Later one of the two
that are left expires, and is used again. -/
def threeUsers (cleanups : List (CacheEvent Unit (FleetResult Nat))) :
    List (CacheEvent Unit (FleetResult Nat)) :=
  let user (name : String) : CacheKey := ⟨"prod", name⟩
  visit 0 (user "jane") (.ok 1) ++ [.pass 3] ++ visit 1 (user "omar") (.ok 2) ++ [.pass 3] ++
    visit 2 (user "lena") (.ok 3) ++ [.pass 8] ++ cleanups ++ visit 3 (user "omar") (.ok 4) ++
    visit 4 (user "lena") (.ok 5)

theorem cleanups_unnoticed_among_three :
    let config : CacheConfig := { ttl := 10, maxEntries := 2 }
    let m₀ : CacheMachine Unit (FleetResult Nat) Nat := CacheMachine.start config ()
    let m := m₀.run foretold (threeUsers [])
    let m' := m₀.run foretold (threeUsers [.cleanup])
    m₀.EvictsClearly foretold (threeUsers []) ∧ m'.callers = m.callers ∧
      m₀.log foretold (threeUsers [.cleanup]) = m₀.log foretold (threeUsers []) ∧
      m.store.evictions = 1 ∧ m'.store.evictions = 2 := by
  have hclear : (CacheMachine.start { ttl := 10, maxEntries := 2 } () :
      CacheMachine Unit (FleetResult Nat) Nat).EvictsClearly foretold (threeUsers []) := by
    decide +kernel
  have hsame := cleanups_unnoticed foretold _ Nat.two_pos () (threeUsers [])
    (threeUsers [.cleanup]) rfl hclear
  exact ⟨hclear, hsame.1, hsame.2, by decide +kernel, by decide +kernel⟩

end CacheMachine

end FleetGate
