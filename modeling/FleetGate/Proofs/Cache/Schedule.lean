import FleetGate.Cache.Schedule
import FleetGate.Proofs.Cache.Moves

/-! # Scheduled runs

However the schedule runs the machine, it is by atomic steps, and nobody comes in but those it was
given (`Onward`). What holds of every run of the machine therefore holds of every scheduled one.
-/

namespace FleetGate

/-- Whether somebody comes in. -/
def CacheEvent.isArrival {W J : Type} : CacheEvent W J → Bool
  | .arrive _ _ => true
  | _ => false

namespace CacheMachine

variable {W J V : Type} {w : Workshop W J V} {m m₁ m₂ m' : CacheMachine W J V}

/-- A machine goes on to another by steps in which nobody comes in. -/
def Onward (w : Workshop W J V) (m m' : CacheMachine W J V) : Prop :=
  ∃ events : List (CacheEvent W J), (∀ e ∈ events, e.isArrival = false) ∧ m.run w events = m'

namespace Onward

theorem refl (w : Workshop W J V) (m : CacheMachine W J V) : Onward w m m :=
  ⟨[], fun _ he => absurd he List.not_mem_nil, rfl⟩

theorem trans (h₁ : Onward w m m₁) (h₂ : Onward w m₁ m₂) : Onward w m m₂ := by
  obtain ⟨before, hbefore, rfl⟩ := h₁
  obtain ⟨after, hafter, rfl⟩ := h₂
  refine ⟨before ++ after, ?_, run_append w m before after⟩
  intro e he
  rcases List.mem_append.mp he with he | he
  · exact hbefore e he
  · exact hafter e he

theorem step (w : Workshop W J V) (m : CacheMachine W J V) (event : CacheEvent W J)
    (h : event.isArrival = false) : Onward w m (m.step w event) := by
  refine ⟨[event], ?_, rfl⟩
  intro e he
  rw [List.mem_singleton.mp he]
  exact h

/-- What goes on with every element of a list goes on with the whole list. -/
theorem foldl {α : Type} {f : CacheMachine W J V → α → CacheMachine W J V}
    (h : ∀ m a, Onward w m (f m a)) (l : List α) (m : CacheMachine W J V) :
    Onward w m (l.foldl f m) := by
  induction l generalizing m with
  | nil => exact refl w m
  | cons a rest ih => exact (h m a).trans (ih (f m a))

end Onward

/-! ## Turns and rounds -/

theorem isArrival_of_nextEvent? {i : Nat} {event : CacheEvent W J}
    (h : m.nextEvent? i = some event) : event.isArrival = false := by
  rw [nextEvent?] at h
  split at h
  all_goals cases h
  all_goals rfl

theorem turn_onward (w : Workshop W J V) (i fuel : Nat) (m : CacheMachine W J V) :
    Onward w m (turn w i fuel m) := by
  induction fuel generalizing m with
  | zero => exact .refl w m
  | succ fuel ih =>
      rw [turn]
      split
      · exact .refl w m
      · rename_i event hnext
        have hstep : Onward w m (m.step w event) := .step w m event (isArrival_of_nextEvent? hnext)
        simp only
        -- the turn ends when the flight has to wait, and goes on otherwise
        split
        · exact hstep
        · exact hstep.trans (ih _)

theorem round_onward (w : Workshop W J V) (m : CacheMachine W J V) : Onward w m (round w m) :=
  .foldl (fun m i => turn_onward w i turnLimit m) _ m

theorem settleCallers_onward (w : Workshop W J V) (m : CacheMachine W J V) :
    Onward w m (settleCallers w m) :=
  (round_onward w m).trans (round_onward w _)

theorem settleSweeper_onward (w : Workshop W J V) (m : CacheMachine W J V) :
    Onward w m m.settleSweeper := by
  refine .foldl ?_ _ m
  intro m _
  split
  · exact .step w m .stopSweeper rfl
  · exact .step w m .sweep rfl

theorem settle_onward (w : Workshop W J V) (m : CacheMachine W J V) : Onward w m (settle w m) := by
  rw [settle]
  split
  · exact (settleSweeper_onward w m).trans (settleCallers_onward w _)
  · exact (settleCallers_onward w m).trans (settleSweeper_onward w _)

/-! ## The passing of time -/

theorem elapse_onward (w : Workshop W J V) (milliseconds : Nat) (m : CacheMachine W J V) :
    Onward w m (elapse w milliseconds m) :=
  (Onward.step w m (.pass milliseconds) rfl).trans (settle_onward w _)

theorem sleepUntil_go_onward (w : Workshop W J V) (t fuel : Nat) (m : CacheMachine W J V) :
    Onward w m (sleepUntil.go w t fuel m) := by
  induction fuel generalizing m with
  | zero => exact .refl w m
  | succ fuel ih =>
      rw [sleepUntil.go]
      split
      · exact (elapse_onward w _ m).trans (ih _)
      · exact .refl w m

theorem sleepUntil_onward (w : Workshop W J V) (t : Nat) (m : CacheMachine W J V) :
    Onward w m (sleepUntil w t m) :=
  sleepUntil_go_onward w t _ m

theorem await_onward (w : Workshop W J V) (callers : List Nat) (fuel : Nat)
    (m : CacheMachine W J V) : Onward w m (await w callers fuel m) := by
  induction fuel generalizing m with
  | zero => exact .refl w m
  | succ fuel ih =>
      rw [await]
      split
      · exact .refl w m
      · split
        · exact (sleepUntil_onward w _ m).trans (ih _)
        · exact .refl w m

/-! ## Asking -/

theorem run_arrivals (w : Workshop W J V) (requests : List (CacheKey × J))
    (m : CacheMachine W J V) :
    requests.foldl (fun m r => m.step w (.arrive r.1 r.2)) m
      = m.run w (requests.map fun r => .arrive r.1 r.2) :=
  List.foldl_map.symm

/-- Asking for several keys lets the callers come in one after another, and then goes on. -/
theorem getAll_onward (w : Workshop W J V) (requests : List (CacheKey × J))
    (m : CacheMachine W J V) :
    ∃ m', Onward w (m.run w (requests.map fun r => .arrive r.1 r.2)) m' ∧
      getAll w requests m
        = ((List.range requests.length).map fun i =>
            (m'.answer? (m.callers.length + i)).getD (.error .closed), m') := by
  refine ⟨(getAll w requests m).2, ?_, ?_⟩
  · simp only [getAll, run_arrivals]
    exact (settle_onward w _).trans (await_onward w _ _ _)
  · simp only [getAll, run_arrivals, List.map_map]
    rfl

/-- Asking for a key lets a caller come in, goes on, and tells that caller's answer. -/
theorem get_onward (w : Workshop W J V) (key : CacheKey) (job : J) (m : CacheMachine W J V) :
    ∃ m', Onward w (m.step w (.arrive key job)) m' ∧
      get w key job m = ((m'.answer? m.callers.length).getD (.error .closed), m') := by
  obtain ⟨m', honward, hget⟩ := getAll_onward w [(key, job)] m
  refine ⟨m', honward, ?_⟩
  simp [get, hget]

end CacheMachine

end FleetGate
