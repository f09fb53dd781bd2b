import FleetGate.Proofs.Cache.Invalidation
import FleetGate.Proofs.Cache.Shutdown

/-! # Those who close a cache at the same time

Whoever finds that closing was signalled has nothing to do and returns at once, whether or not the
one who signalled it has got as far as clearing the entries. Every other closer returns behind its
own clearing, and then the cache is empty. So all closers return from an empty cache exactly if none
comes between the signal and the clearing while something is still kept (`closers_agree_iff`).
-/

namespace FleetGate.CacheMachine

variable {W J V : Type} {w : Workshop W J V} {m m' : CacheMachine W J V}
  {milestone? : Option (Milestone J V)} {event : CacheEvent W J} {i j : Nat}

/-! ## Closers that have cleared the entries -/

/-- A closer that is to forget the flights was so before, or has just cleared the entries. -/
theorem Move.forgetting (h : Move w m milestone? m') (hi : m'.closers[i]? = some .forgetting) :
    m.closers[i]? = some .forgetting ∨ m'.store.entries = [] := by
  have kept {j : Nat} {phase : CloserPhase} (hphase : phase ≠ .forgetting)
      (hset : (m.closers.set j phase)[i]? = some .forgetting) :
      m.closers[i]? = some .forgetting := by
    rw [List.getElem?_set] at hset
    split at hset
    · split at hset
      · exact absurd (Option.some.inj hset) hphase
      · cases hset
    · exact hset
  cases h with
  | close =>
      rcases getElem?_concat_eq_some_iff.mp hi with hi | ⟨-, hphase⟩
      · exact Or.inl hi
      · split at hphase
        · cases hphase
        · cases hphase
  | signal _ | claim _ _ | proceed _ _ | forget _ => exact Or.inl (kept (by decide) hi)
  | clear _ => exact Or.inr rfl
  | _ => exact Or.inl hi

/-- Whoever is to forget the flights has left no entry behind. -/
structure Vacated (m : CacheMachine W J V) : Prop where
  guarded : m.Guarded
  entries : ∀ i : Nat, m.closers[i]? = some .forgetting → m.store.entries = []

theorem Vacated.move (hm : m.Vacated) (h : Move w m milestone? m') : m'.Vacated where
  guarded := hm.guarded.move h
  entries i hi := by
    rcases h.forgetting hi with hbefore | hnow
    · exact h.emptied (hm.guarded i .forgetting hbefore (by decide)) (hm.entries i hbefore)
    · exact hnow

theorem vacated_run (w : Workshop W J V) (config : CacheConfig) (world : W)
    (events : List (CacheEvent W J)) :
    ((CacheMachine.start config world : CacheMachine W J V).run w events).Vacated :=
  run_induction ⟨.start config world, nofun⟩ (fun hm h => hm.move h) events

/-! ## Closers that return -/

/-- A closer returns with a step: it is done, and was not before. -/
def Returns (w : Workshop W J V) (m : CacheMachine W J V) (event : CacheEvent W J) (i : Nat) :
    Prop :=
  (m.step w event).closers[i]? = some .done ∧ m.closers[i]? ≠ some .done

/-- Closers come and go on by their own steps only. -/
theorem step_closers (w : Workshop W J V) (m : CacheMachine W J V) (hclose : event ≠ .close)
    (hclosing : ∀ i, event ≠ .closing i) : (m.step w event).closers = m.closers := by
  cases event with
  | close => exact absurd rfl hclose
  | closing i => exact absurd rfl (hclosing i)
  | look i | join i | poll i | drive i | rest i | drop i =>
      simp only [step, look, join, poll, drive, rest, drop]
      repeat' split
      all_goals rfl
  | sweep | stopSweeper =>
      simp only [step, sweep, stopSweeper]
      split
      all_goals rfl
  | _ => rfl

/-- A closer that goes on and returns was to forget the flights, and changes no entry. -/
theorem forgetting_of_returns (h : m.Returns w (.closing j) i) :
    m.closers[i]? = some .forgetting ∧ (m.step w (.closing j)).store = m.store := by
  obtain ⟨hdone, hbefore⟩ := h
  have moved {phase : CloserPhase} (hset : (m.closers.set j phase)[i]? = some .done) :
      j = i ∧ phase = .done := by
    rw [List.getElem?_set] at hset
    split at hset
    · split at hset
      · exact ⟨‹j = i›, Option.some.inj hset⟩
      · cases hset
    · exact absurd hset hbefore
  simp only [step, closing] at hdone ⊢
  cases hphase : m.closers[j]? with
  | none =>
      rw [hphase] at hdone
      exact absurd hdone hbefore
  | some phase =>
      rw [hphase] at hdone
      cases phase with
      | signalling | clearing => cases (moved hdone).2
      | taking =>
          dsimp only at hdone
          split at hdone
          · cases (moved hdone).2
          · cases (moved hdone).2
      | awaiting =>
          dsimp only at hdone
          split at hdone
          · exact absurd hdone hbefore
          · cases (moved hdone).2
      | forgetting =>
          obtain ⟨rfl, -⟩ := moved hdone
          exact ⟨hphase, rfl⟩
      | done => exact absurd hdone hbefore

/-- From where the entries of whoever goes on were cleared, a closer returns and leaves entries
exactly if it comes to a cache that is closed and still has some. -/
theorem returns_early_iff (hm : m.Vacated) :
    (m.Returns w event i ∧ (m.step w event).store.entries ≠ []) ↔
      event = .close ∧ i = m.closers.length ∧ m.closed = true ∧ m.store.entries ≠ [] := by
  constructor
  · rintro ⟨hreturns, hentries⟩
    by_cases hclose : event = .close
    · subst hclose
      rcases getElem?_concat_eq_some_iff.mp hreturns.1 with hi | ⟨hi, hphase⟩
      · exact absurd hi hreturns.2
      · refine ⟨rfl, hi, ?_, hentries⟩
        by_contra hopen
        rw [if_neg hopen] at hphase
        cases hphase
    by_cases hclosing : ∃ j, event = .closing j
    · obtain ⟨j, rfl⟩ := hclosing
      obtain ⟨hforgetting, hstore⟩ := forgetting_of_returns hreturns
      rw [hstore] at hentries
      exact absurd (hm.entries i hforgetting) hentries
    · have hsame := step_closers w m hclose fun j h => hclosing ⟨j, h⟩
      exact absurd (hsame ▸ hreturns.1) hreturns.2
  · rintro ⟨rfl, rfl, hclosed, hentries⟩
    refine ⟨⟨?_, by simp⟩, hentries⟩
    simp [step, close, hclosed]

/-! ## The theorem -/

/-- However closers come and go on, among whatever else is done to a cache: every one of them
returns from an empty cache exactly if none comes to a cache that is closed and not yet empty. -/
theorem closers_agree_iff (w : Workshop W J V) (config : CacheConfig) (world : W)
    (events : List (CacheEvent W J)) :
    let m₀ : CacheMachine W J V := CacheMachine.start config world
    (∀ before event after i, events = before ++ event :: after →
      (m₀.run w before).Returns w event i →
        (m₀.run w (before ++ [event])).store.entries = []) ↔
    ∀ before after, events = before ++ .close :: after →
      (m₀.run w before).closed = true → (m₀.run w before).store.entries = [] := by
  intro m₀
  have hearly (before : List (CacheEvent W J)) (event : CacheEvent W J) (i : Nat) :
      ((m₀.run w before).Returns w event i ∧
        (m₀.run w (before ++ [event])).store.entries ≠ []) ↔
      event = .close ∧ i = (m₀.run w before).closers.length ∧ (m₀.run w before).closed = true ∧
        (m₀.run w before).store.entries ≠ [] := by
    rw [run_concat]
    exact returns_early_iff (vacated_run w config world before)
  constructor
  · intro hall before after hevents hclosed
    by_contra hentries
    obtain ⟨hreturns, hleft⟩ := (hearly before .close _).mpr ⟨rfl, rfl, hclosed, hentries⟩
    exact hleft (hall before .close after _ hevents hreturns)
  · intro hnone before event after i hevents hreturns
    by_contra hleft
    obtain ⟨rfl, -, hclosed, hentries⟩ := (hearly before event i).mp ⟨hreturns, hleft⟩
    exact hentries (hnone before after hevents hclosed)

/-- A second closer returns at once, while the first has only signalled and the entry is still
kept. -/
theorem returned_before_cleared :
    let m₀ : CacheMachine Unit Nat Nat := CacheMachine.start {} ()
    let m := m₀.run atOnce (wholeTurn 0 1 ++ [.close, .closing 0])
    m.closers[0]? = some .taking ∧ m.Returns atOnce .close 1 ∧
      (m.step atOnce .close).store.entries ≠ [] :=
  ⟨rfl, ⟨rfl, nofun⟩, nofun⟩

end FleetGate.CacheMachine
