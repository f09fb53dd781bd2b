import FleetGate.Proofs.Cache.Answer

/-! # The answer of a cache at rest

While nobody can move, a caller that comes in by itself is answered at once what is kept under its
key, and the world stays as it was (`Idle.get_kept`). The sweeper may do its work first: it drops no
entry that is live.
-/

namespace FleetGate

variable {W J V : Type}

namespace CacheStore

variable {s : CacheStore V} {key : CacheKey} {e : CacheEntry V} {now : ℕ}

/-- Dropping the expired entries leaves a live one. -/
theorem live?_removeExpired (h : s.live? key now = some e) :
    (s.removeExpired now).2.live? key now = some e := by
  obtain ⟨hget, hfresh⟩ := Option.filter_eq_some_iff.mp h
  -- nothing that stands before the entry is kept under its key
  have hkept : ∀ entries : List (CacheKey × CacheEntry V), Keyed.get? key entries = some e →
      Keyed.get? key (entries.filter fun p => !s.expired p.2 now) = some e := by
    intro entries hentries
    induction entries with
    | nil => exact hentries
    | cons p rest ih =>
        rw [Keyed.get?] at hentries
        split at hentries
        · rename_i hkey
          cases hentries
          rw [List.filter_cons, if_pos hfresh, Keyed.get?, if_pos hkey]
        · rename_i hkey
          rw [List.filter_cons]
          split
          · rw [Keyed.get?, if_neg hkey, ih hentries]
          · exact ih hentries
  exact Option.filter_eq_some_iff.mpr ⟨hkept s.entries hget, hfresh⟩

end CacheStore

namespace CacheMachine

variable {w : Workshop W J V} {m : CacheMachine W J V} {i fuel now : ℕ} {key : CacheKey} {job : J}
  {e : CacheEntry V} {world : W}

/-- A caller that is alone just came in, and an entry is kept for it. -/
structure Finds (m : CacheMachine W J V) (i : ℕ) (key : CacheKey) (e : CacheEntry V) (now : ℕ)
    (world : W) : Prop where
  alone : m.Alone i now world
  caller : ∃ job, m.CallerAt i key (.looking job)
  live : m.store.live? key now = some e

/-- A look is enough. -/
theorem Finds.turn (h : m.Finds i key e now world) :
    (turn w i (fuel + 1) m).Answered i key (.ok e.value) now world := by
  obtain ⟨job, hcaller⟩ := h.caller
  obtain rfl := h.alone.time
  obtain rfl := h.alone.around
  have hnext : m.nextEvent? i = some (.look i) := by
    rw [nextEvent?, callerPhase?_of_callerAt hcaller]
  have hdone : (m.step w (.look i)).Answered i key (.ok e.value) m.now m.world := by
    rw [step_look_of_live w hcaller h.live]
    exact ⟨(h.alone.set m.world _ m.registered m.flights m.sweeper).setCaller _,
      setCaller_self hcaller _⟩
  rw [turn_step_of_callerAt hcaller hnext (by simp), hdone.turn]
  exact hdone

theorem Finds.settleCallers (h : m.Finds i key e now world) :
    (settleCallers w m).Answered i key (.ok e.value) now world := by
  have hdone : (CacheMachine.turn w i turnLimit m).Answered i key (.ok e.value) now world :=
    h.turn
  rw [CacheMachine.settleCallers, h.alone.round, hdone.alone.round, hdone.turn]
  exact hdone

theorem Finds.settleSweeper (h : m.Finds i key e now world) :
    m.settleSweeper.Finds i key e now world := by
  obtain rfl := h.alone.time
  obtain ⟨store, sweeper, hsweep, hlive⟩ :=
    settleSweeper_eq (P := fun s => s.live? key m.now = some e) h.alone.opened h.live
      fun s hs => s.live?_removeExpired hs
  rw [hsweep]
  exact ⟨h.alone.around ▸ h.alone.set m.world store m.registered m.flights sweeper, h.caller,
    hlive⟩

/-- Whoever goes first, the caller or the sweeper, the entry is found. -/
theorem Finds.settle (h : m.Finds i key e now world) :
    (settle w m).Answered i key (.ok e.value) now world := by
  rw [CacheMachine.settle]
  split
  · exact h.settleSweeper.settleCallers
  · exact h.settleCallers.settleSweeper

/-- What is kept is handed out, and the world stays as it was. -/
theorem Idle.get_kept (h : m.Idle key) (job : J) (live : m.store.live? key m.now = some e) :
    (get w key job m).1 = .ok e.value ∧ (get w key job m).2.world = m.world := by
  have hfinds : (m.arrive key job).Finds m.callers.length key e m.now m.world :=
    ⟨h.arrive_alone job, ⟨job, by simp [CallerAt, CacheMachine.arrive, h.opened]⟩, live⟩
  have hdone : (getAll w [(key, job)] m).2.Answered m.callers.length key (.ok e.value) m.now
      m.world := by
    have hsettled := hfinds.settle (w := w)
    have hgetAll : (getAll w [(key, job)] m).2
        = await w [m.callers.length] (wakeLimit * ((m.arrive key job).callers.length + 1))
            (CacheMachine.settle w (m.arrive key job)) := rfl
    rw [hgetAll, hsettled.await]
    exact hsettled
  obtain ⟨m', -, hget⟩ := get_onward w key job m
  obtain rfl : (getAll w [(key, job)] m).2 = m' := congrArg Prod.snd hget
  rw [hget, hdone.answer?]
  exact ⟨rfl, hdone.alone.around⟩

end CacheMachine

end FleetGate
