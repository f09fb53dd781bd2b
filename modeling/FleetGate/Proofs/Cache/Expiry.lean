import FleetGate.Proofs.Cache.Books
import FleetGate.Proofs.Cache.Invalidation
import FleetGate.Settings.Basic

/-! # The time to live

How long an entry is served after its last use is a number of seconds in the settings and a number
on the millisecond clock in the cache, which starts again from nothing past its range. The two agree
on every entry exactly if the time is within the range of the clock (`expiry_exact_iff`). The check
of the settings does not ask for that, so a time may be let through under which every entry has
expired the moment it is stored (`expired_at_once`).
-/

namespace FleetGate

open CacheConfig (clockRange)

namespace FederationSettings

variable {s : FederationSettings} {used now : ℕ}

/-- The time to live as the millisecond clock of a cache holds it. -/
theorem expired_iff (s : FederationSettings) (used now : ℕ) :
    s.cacheConfig.expired used now = true ↔ 1000 * s.cacheTtlSeconds % clockRange ≤ now - used :=
  decide_eq_true_iff

/-- Within the range of the clock nothing is cut off. -/
theorem expired_iff_of_lt (h : 1000 * s.cacheTtlSeconds < clockRange) :
    s.cacheConfig.expired used now = true ↔ 1000 * s.cacheTtlSeconds ≤ now - used := by
  rw [expired_iff, Nat.mod_eq_of_lt h]

/-- Past the range of the clock an entry expires before its time. -/
theorem expired_early (h : clockRange ≤ 1000 * s.cacheTtlSeconds) :
    ∃ now < clockRange, s.cacheConfig.expired 0 now = true ∧ now < 1000 * s.cacheTtlSeconds := by
  have hrange : 1000 * s.cacheTtlSeconds % clockRange < clockRange := Nat.mod_lt _ (by decide)
  exact ⟨_, hrange, (expired_iff s 0 _).mpr (Nat.le_refl _), Nat.lt_of_lt_of_le hrange h⟩

/-- Every entry lives as long as the settings say exactly if the clock can hold that time. -/
theorem lifetime_exact_iff (s : FederationSettings) :
    (∀ used now, used ≤ now → now < clockRange →
      (s.cacheConfig.expired used now = true ↔ 1000 * s.cacheTtlSeconds ≤ now - used)) ↔
      1000 * s.cacheTtlSeconds < clockRange := by
  constructor
  · intro hexact
    by_contra hrange
    obtain ⟨now, hnow, hexpired, hearly⟩ := expired_early (Nat.le_of_not_lt hrange)
    exact absurd ((hexact 0 now (Nat.zero_le _) hnow).mp hexpired) (Nat.not_le_of_lt hearly)
  · intro hrange used now _ _
    exact expired_iff_of_lt hrange

end FederationSettings

namespace CacheMachine

variable {W J V : Type}

/-- A cache keeps the limits that it was made with. -/
theorem config_run (w : Workshop W J V) (config : CacheConfig) (world : W)
    (events : List (CacheEvent W J)) :
    ((start config world : CacheMachine W J V).run w events).store.config = config :=
  run_induction (P := fun m => m.store.config = config) rfl (fun hm h => h.config.trans hm) events

/-- A caller is handed the value of the entry of its key unless that has expired. -/
theorem look_callerAt {w : Workshop W J V} {m : CacheMachine W J V} (hm : m.store.Distinct) {i : ℕ}
    {key : CacheKey} {job : J} {e : CacheEntry V} (hcaller : m.CallerAt i key (.looking job))
    (he : (key, e) ∈ m.store.entries) :
    (m.step w (.look i)).CallerAt i key
      (if m.store.expired e m.now then .joining job else .returned (.ok e.value)) := by
  have hget : Keyed.get? key m.store.entries = some e := Keyed.get?_of_mem hm he
  cases hexpired : m.store.expired e m.now with
  | true =>
      have hlive : m.store.live? key m.now = none := by
        simp [CacheStore.live?, hget, Option.filter, hexpired]
      rw [step_look w hcaller hlive]
      exact setCaller_self hcaller _
  | false =>
      have hlive : m.store.live? key m.now = some e := by
        simp [CacheStore.live?, hget, Option.filter, hexpired]
      rw [step_look_of_live w hcaller hlive]
      exact setCaller_self (m := { m with store := _ }) hcaller _

/-- However a cache was used that is made as settings say: a caller that looks for its key is handed
what is kept there, and a cleanup leaves it there, unless that has expired. And an entry has expired,
at every time on the clock, exactly if its last use is as long ago as the settings say or longer,
provided that the clock can hold that time; if it cannot, some entry expires early. -/
theorem expiry_exact_iff (s : FederationSettings) :
    ((∀ used now, used ≤ now → now < clockRange →
        (s.cacheConfig.expired used now = true ↔ 1000 * s.cacheTtlSeconds ≤ now - used)) ↔
      1000 * s.cacheTtlSeconds < clockRange) ∧
    ∀ (w : Workshop W J V) (world : W) (events : List (CacheEvent W J)),
      let m := (start s.cacheConfig world).run w events
      ∀ key e, (key, e) ∈ m.store.entries →
        (∀ i job, m.CallerAt i key (.looking job) →
          (m.step w (.look i)).CallerAt i key
            (if s.cacheConfig.expired e.lastUse m.now then .joining job
              else .returned (.ok e.value))) ∧
        ((key, e) ∈ (m.step w .cleanup).store.entries ↔
          s.cacheConfig.expired e.lastUse m.now = false) := by
  refine ⟨s.lifetime_exact_iff, fun w world events => ?_⟩
  intro m key e he
  have hexpired : m.store.expired e m.now = s.cacheConfig.expired e.lastUse m.now := by
    rw [CacheStore.expired, config_run w s.cacheConfig world events]
  have hdistinct : m.store.Distinct := (exclusive_run w s.cacheConfig world events).distinct
  rw [← hexpired]
  refine ⟨fun i job hcaller => look_callerAt hdistinct hcaller he, ?_⟩
  have hcleanup : (m.step w .cleanup).store.entries
      = m.store.entries.filter fun p => !m.store.expired p.2 m.now := rfl
  rw [hcleanup, List.mem_filter, Bool.not_eq_true']
  exact and_iff_right he

/-- A time to live of 2 ^ 61 seconds, which is a multiple of the range of the clock, passes the
check, and every entry has expired in the millisecond in which it is stored. The next caller is
not served but has its value constructed again. -/
theorem expired_at_once :
    let s : FederationSettings := { cacheTtlSeconds := 2305843009213693952 }
    let m := (start s.cacheConfig () : CacheMachine Unit Nat Nat).run atOnce
      (wholeTurn 0 1 ++ wholeTurn 1 2)
    s.check = .ok () ∧
      ¬ (s.cacheConfig.expired 0 0 = true ↔ 1000 * s.cacheTtlSeconds ≤ 0 - 0) ∧
      m.now = 0 ∧ m.CallerAt 0 oneKey (.returned (.ok 1)) ∧
      m.CallerAt 1 oneKey (.returned (.ok 2)) ∧ m.store.hits = 0 ∧ m.store.misses = 2 := by
  exact ⟨by decide, by decide, rfl, rfl, rfl, rfl, rfl⟩

end CacheMachine

end FleetGate
