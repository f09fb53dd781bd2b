import FleetGate.Proofs.Cache.Shutdown

/-! # Cancelled callers

Dropping callers changes nothing for anybody else. A run in which callers are dropped is compared
with the run in which the same callers just stop making steps (`uncancelled`): flights, entries and
the register come out the same, and so does every caller that was not dropped (`Spared.run`). That a
flight is left by the caller that drove it does not matter either, for it goes the same way whoever
drives it (`drive_of_polling`).
-/

namespace FleetGate

/-- Whether an event drops a caller. -/
def CacheEvent.isDrop {W J : Type} : CacheEvent W J → Bool
  | .drop _ => true
  | _ => false

namespace CacheMachine

variable {W J V : Type} {w : Workshop W J V} {m m' : CacheMachine W J V}
  {event : CacheEvent W J} {i j f : Nat} {callers callers' : List (Caller J V)}

/-- Whether a caller was dropped. -/
def hasDropped (m : CacheMachine W J V) (i : Nat) : Bool :=
  match m.callerPhase? i with
  | some .dropped => true
  | _ => false

/-- Whether a step drops a caller, or is one of a caller that was dropped. -/
def cancels (m : CacheMachine W J V) (event : CacheEvent W J) : Bool :=
  event.isDrop || event.caller?.any m.hasDropped

/-- The steps of a run in which nobody is dropped, and whoever would be makes no more steps. -/
def uncancelled (w : Workshop W J V) (m : CacheMachine W J V) :
    List (CacheEvent W J) → List (CacheEvent W J)
  | [] => []
  | event :: rest =>
    let more := (m.step w event).uncancelled w rest
    if m.cancels event then more else event :: more

/-- The machine with other callers. -/
def withCallers (m : CacheMachine W J V) (callers : List (Caller J V)) : CacheMachine W J V :=
  { m with callers }

/-- As many callers, and those that were not dropped are the same. -/
structure SameButDropped (callers callers' : List (Caller J V)) : Prop where
  length : callers'.length = callers.length
  kept : ∀ (i : Nat) (c : Caller J V), callers[i]? = some c → c.phase ≠ .dropped →
    callers'[i]? = some c

/-- Two machines that differ only in callers that the first one has dropped. -/
def Spared (m m' : CacheMachine W J V) : Prop :=
  ∃ callers, m' = m.withCallers callers ∧ SameButDropped m.callers callers

theorem hasDropped_iff : m.hasDropped i = true ↔ m.callerPhase? i = some .dropped := by
  rw [hasDropped]
  split
  · simp_all
  · simp_all

namespace SameButDropped

theorem refl (callers : List (Caller J V)) : SameButDropped callers callers :=
  ⟨rfl, fun _ _ hc _ => hc⟩

/-- A caller that is not dropped is there on both sides, or on neither. -/
theorem getElem?_eq (h : SameButDropped m.callers callers') (hi : m.hasDropped i = false) :
    callers'[i]? = m.callers[i]? := by
  cases hc : m.callers[i]? with
  | some c =>
      refine h.kept i c hc fun hdropped => ?_
      have hphase : m.callerPhase? i = some .dropped := by rw [callerPhase?, hc, ← hdropped]; rfl
      exact Bool.false_ne_true (hi.symm.trans (hasDropped_iff.mpr hphase))
  | none =>
      rw [List.getElem?_eq_none_iff] at hc ⊢
      rw [h.length]
      exact hc

/-- A caller that is the same on both sides may be moved on both. -/
theorem modify (h : SameButDropped callers callers') (hi : callers'[i]? = callers[i]?)
    (change : Caller J V → Caller J V) :
    SameButDropped (callers.modify i change) (callers'.modify i change) where
  length := by rw [List.length_modify, List.length_modify, h.length]
  kept j c hc hdropped := by
    rw [List.getElem?_modify] at hc ⊢
    by_cases hij : i = j
    · subst hij
      rw [hi]
      exact hc
    · simp only [hij, if_false, id_map'] at hc ⊢
      exact h.kept j c hc hdropped

/-- A caller may be dropped on one side. -/
theorem drop (h : SameButDropped callers callers') (i : Nat) :
    SameButDropped (callers.modify i fun c => { c with phase := .dropped }) callers' where
  length := by rw [List.length_modify, h.length]
  kept j c hc hdropped := by
    rw [List.getElem?_modify] at hc
    by_cases hij : i = j
    · simp only [hij, if_true] at hc
      obtain ⟨c₀, -, rfl⟩ := Option.map_eq_some_iff.mp hc
      exact absurd rfl hdropped
    · simp only [hij, if_false, id_map'] at hc
      exact h.kept j c hc hdropped

theorem concat (h : SameButDropped callers callers') (c : Caller J V) :
    SameButDropped (callers ++ [c]) (callers' ++ [c]) where
  length := by rw [List.length_append, List.length_append, h.length]
  kept i c' hc hdropped := by
    rw [getElem?_concat_eq_some_iff] at hc ⊢
    rw [h.length]
    exact hc.imp_left fun hc => h.kept i c' hc hdropped

end SameButDropped

theorem Spared.refl (m : CacheMachine W J V) : m.Spared m :=
  ⟨m.callers, rfl, .refl m.callers⟩

/-! ## Steps -/

/-- A caller that was dropped makes no step. -/
theorem step_of_dropped (w : Workshop W J V) (hi : event.caller? = some i)
    (hdropped : m.hasDropped i = true) :
    m.step w event = m ∧ m.milestone? w event = none := by
  have hphase := hasDropped_iff.mp hdropped
  obtain ⟨key, hc⟩ := callerAt_of_phase hphase
  simp only [CallerAt] at hc
  cases event with
  | look j | join j | poll j | drive j | rest j | drop j =>
      obtain rfl := Option.some.inj hi
      simp [step, look, join, poll, drive, rest, drop, milestone?, hc, hphase]
  | _ => cases hi

/-- What is cancelled on one side leaves all else alone. -/
theorem Spared.cancel (h : m.Spared m') (w : Workshop W J V) (hevent : m.cancels event = true) :
    (m.step w event).Spared m' ∧ m.milestone? w event = none := by
  cases hdrop : event.isDrop with
  | true =>
      cases event with
      | drop i =>
          refine ⟨?_, rfl⟩
          obtain ⟨callers, rfl, hsame⟩ := h
          simp only [step, CacheMachine.drop]
          split
          · exact ⟨callers, rfl, hsame.drop i⟩
          · exact ⟨callers, rfl, hsame.drop i⟩
          · exact ⟨callers, rfl, hsame⟩
      | _ => cases hdrop
  | false =>
      rw [cancels, hdrop, Bool.false_or] at hevent
      obtain ⟨i, hi, hdropped⟩ := (Option.any_eq_true _ _).mp hevent
      obtain ⟨hstep, hmilestone⟩ := step_of_dropped w hi hdropped
      exact ⟨hstep.symm ▸ h, hmilestone⟩

namespace Spared

section
variable (h : m.Spared m') (hi : m.hasDropped i = false)
include h hi

theorem look : (m.look i).Spared (m'.look i) := by
  obtain ⟨callers, rfl, hsame⟩ := h
  have hcaller := hsame.getElem?_eq hi
  simp only [CacheMachine.look, withCallers, hcaller]
  split
  · split
    · exact ⟨_, rfl, hsame.modify hcaller _⟩
    · exact ⟨_, rfl, hsame.modify hcaller _⟩
  · exact ⟨_, rfl, hsame⟩

theorem join : (m.join i).Spared (m'.join i) := by
  obtain ⟨callers, rfl, hsame⟩ := h
  have hcaller := hsame.getElem?_eq hi
  simp only [CacheMachine.join, withCallers, hcaller]
  split
  · split
    · exact ⟨_, rfl, hsame.modify hcaller _⟩
    · exact ⟨_, rfl, hsame.modify hcaller _⟩
  · exact ⟨_, rfl, hsame⟩

theorem poll : (m.poll i).Spared (m'.poll i) := by
  obtain ⟨callers, rfl, hsame⟩ := h
  have hcaller := hsame.getElem?_eq hi
  simp only [CacheMachine.poll, withCallers, callerPhase?, hcaller]
  split
  · exact ⟨_, rfl, hsame.modify hcaller _⟩
  · exact ⟨_, rfl, hsame⟩

theorem rest : (m.rest i).Spared (m'.rest i) := by
  obtain ⟨callers, rfl, hsame⟩ := h
  have hcaller := hsame.getElem?_eq hi
  simp only [CacheMachine.rest, withCallers, callerPhase?, flightPhase?, hcaller]
  split
  · split
    · exact ⟨_, rfl, hsame.modify hcaller _⟩
    · exact ⟨_, rfl, hsame.modify hcaller _⟩
    · exact ⟨_, rfl, hsame⟩
  · exact ⟨_, rfl, hsame⟩

theorem drive (w : Workshop W J V) : (m.drive w i).Spared (m'.drive w i) := by
  obtain ⟨callers, rfl, hsame⟩ := h
  have hcaller := hsame.getElem?_eq hi
  simp only [CacheMachine.drive, withCallers, callerPhase?, hcaller]
  split
  · split
    · exact ⟨_, rfl, hsame⟩
    · rename_i key stage _
      cases stage with
      | unstarted job =>
          simp only
          split
          · exact ⟨_, rfl, hsame⟩
          · exact ⟨_, rfl, hsame⟩
      | making job wake? =>
          simp only
          split
          · exact ⟨_, rfl, hsame⟩
          · exact ⟨_, rfl, hsame.modify hcaller _⟩
          · exact ⟨_, rfl, hsame⟩
          · exact ⟨_, rfl, hsame⟩
      | made value => exact rel_ite (fun _ => ⟨_, rfl, hsame⟩) fun _ => ⟨_, rfl, hsame⟩
      | missed _ | settled _ => exact ⟨_, rfl, hsame⟩
      | finished outcome => exact ⟨_, rfl, hsame.modify hcaller _⟩
  · exact ⟨_, rfl, hsame⟩

end

theorem closing (h : m.Spared m') (i : Nat) : (m.closing i).Spared (m'.closing i) := by
  obtain ⟨callers, rfl, hsame⟩ := h
  simp only [CacheMachine.closing, withCallers]
  split
  · exact ⟨_, rfl, hsame⟩
  · exact rel_ite (fun _ => ⟨_, rfl, hsame⟩) fun _ => ⟨_, rfl, hsame⟩
  · exact rel_ite (fun _ => ⟨_, rfl, hsame⟩) fun _ => ⟨_, rfl, hsame⟩
  all_goals exact ⟨_, rfl, hsame⟩

/-- A step that is not cancelled is the same on both sides. -/
theorem step (h : m.Spared m') (w : Workshop W J V) (hevent : m.cancels event = false) :
    (m.step w event).Spared (m'.step w event) := by
  obtain ⟨hdrop, hi⟩ := Bool.or_eq_false_iff.mp hevent
  cases event with
  | look i => exact h.look hi
  | join i => exact h.join hi
  | poll i => exact h.poll hi
  | drive i => exact h.drive hi w
  | rest i => exact h.rest hi
  | drop _ => cases hdrop
  | closing i => exact h.closing i
  | arrive _ _ =>
      obtain ⟨callers, rfl, hsame⟩ := h
      exact ⟨_, rfl, hsame.concat _⟩
  | sweep | stopSweeper =>
      obtain ⟨callers, rfl, hsame⟩ := h
      exact rel_ite (fun _ => ⟨_, rfl, hsame⟩) fun _ => ⟨_, rfl, hsame⟩
  | _ =>
      obtain ⟨callers, rfl, hsame⟩ := h
      exact ⟨_, rfl, hsame⟩

/-- The same is remembered of it. -/
theorem milestone?_eq (h : m.Spared m') (w : Workshop W J V) (hevent : m.cancels event = false) :
    m'.milestone? w event = m.milestone? w event := by
  obtain ⟨-, hi⟩ := Bool.or_eq_false_iff.mp hevent
  obtain ⟨callers, rfl, hsame⟩ := h
  cases event with
  | arrive _ _ => simp only [milestone?, withCallers, hsame.length]
  | join i =>
      simp only [milestone?, withCallers, hsame.getElem?_eq hi]
      rfl
  | drive i => simp only [milestone?, withCallers, callerPhase?, hsame.getElem?_eq hi]
  | _ => rfl

/-- Whatever is done in a run, it comes to the same without what was cancelled. -/
theorem run (h : m.Spared m') (w : Workshop W J V) (events : List (CacheEvent W J)) :
    (m.run w events).Spared (m'.run w (m.uncancelled w events)) ∧
      m'.log w (m.uncancelled w events) = m.log w events := by
  induction events generalizing m m' with
  | nil => exact ⟨h, rfl⟩
  | cons event rest ih =>
      rw [uncancelled, log]
      cases hevent : m.cancels event with
      | true =>
          obtain ⟨hafter, hnone⟩ := h.cancel w hevent
          rw [hnone, if_pos rfl]
          exact ih hafter
      | false =>
          obtain ⟨hrest, hlog⟩ := ih (h.step w hevent)
          rw [if_neg Bool.false_ne_true, log, h.milestone?_eq w hevent, hlog]
          exact ⟨hrest, rfl⟩

end Spared

/-- It does not matter for anything but the callers who drives a flight. -/
theorem drive_of_polling (w : Workshop W J V) (hi : m.callerPhase? i = some (.polling f))
    (hj : m.callerPhase? j = some (.polling f)) :
    ∃ callers, m.drive w j = (m.drive w i).withCallers callers := by
  simp only [drive, hi, hj]
  split
  · exact ⟨m.callers, rfl⟩
  · rename_i key stage _
    cases stage with
    | unstarted job =>
        simp only
        split
        · exact ⟨m.callers, rfl⟩
        · exact ⟨m.callers, rfl⟩
    | making job wake? =>
        simp only
        split
        · exact ⟨m.callers, rfl⟩
        · exact ⟨(m.setCaller j (.waiting f)).callers, rfl⟩
        · exact ⟨m.callers, rfl⟩
        · exact ⟨m.callers, rfl⟩
    | made value =>
        simp only
        split
        · exact ⟨m.callers, rfl⟩
        · exact ⟨m.callers, rfl⟩
    | missed _ | settled _ => exact ⟨m.callers, rfl⟩
    | finished outcome => exact ⟨(m.setCaller j (.returned outcome)).callers, rfl⟩

end CacheMachine

end FleetGate
