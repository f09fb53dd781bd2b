import FleetGate.Proofs.Cache.Lockstep
import FleetGate.Proofs.Cache.Provenance

/-! # What a cache is fed and busy with

If only jobs of a kind came in with the callers of a cache, then every value that it ever hands out
came from one of them (`Fed`). If at some moment all jobs that are under way are of a kind, whatever
came in before, then so are all that it carries on as long as no others come in (`Engaged`). Two
caches that are engaged so stay alike even if their workshops would answer differently for other
jobs (`Engaged.lockstep`).
-/

namespace FleetGate

variable {W W₁ W₂ J V : Type}

/-- The job that a flight has not ended yet. -/
def FlightPhase.job? : FlightPhase J V → Option J
  | .unstarted job | .missed job | .making job _ => some job
  | _ => none

/-- The job that a caller has not handed over to a flight yet. -/
def CallerPhase.job? : CallerPhase J V → Option J
  | .looking job | .joining job => some job
  | _ => none

namespace CacheMachine

variable {w : Workshop W J V} {w₁ : Workshop W₁ J V} {w₂ : Workshop W₂ J V} {Q : J → Prop}
  {m m' : CacheMachine W J V} {event : CacheEvent W J} {i : Nat}

/-! ## Intake -/

/-- A cache came about by a run in which callers came in with jobs of a kind only. -/
def Fed (w : Workshop W J V) (Q : J → Prop) (m : CacheMachine W J V) : Prop :=
  ∃ config world events, (start config world).run w events = m ∧
    ∀ key job, .arrive key job ∈ events → Q job

namespace Fed

theorem start (w : Workshop W J V) (Q : J → Prop) (config : CacheConfig) (world : W) :
    (CacheMachine.start config world).Fed w Q :=
  ⟨config, world, [], rfl, fun _ _ h => absurd h List.not_mem_nil⟩

theorem step (h : m.Fed w Q) (hjob : ∀ key job, event = .arrive key job → Q job) :
    (m.step w event).Fed w Q := by
  obtain ⟨config, world, events, rfl, hfed⟩ := h
  refine ⟨config, world, events ++ [event], run_concat w _ events event, fun key job hmem => ?_⟩
  rcases List.mem_append.mp hmem with hmem | hmem
  · exact hfed key job hmem
  · exact hjob key job (List.mem_singleton.mp hmem).symm

/-- The evidence for what a cache holds goes back to callers with jobs of the kind. -/
theorem traced (h : m.Fed w Q) :
    ∃ log, m.Traced w log ∧ ∀ i key job, .asked i key job ∈ log → Q job := by
  obtain ⟨config, world, events, rfl, hfed⟩ := h
  refine ⟨_, traced_run w config world events, fun i key job hasked => ?_⟩
  obtain ⟨before, event, after, rfl, hmilestone⟩ := (mem_log_iff w _).mp hasked
  refine hfed key job (List.mem_append_right before ?_)
  rw [arrive_of_asked hmilestone]
  exact List.mem_cons_self

/-- A value that a caller is answered came from a job of the kind. -/
theorem answer (h : m.Fed w Q) {value : V} (hanswer : m.answer? i = some (.ok value)) :
    ∃ first, Q first ∧ w.Yields first (.ok value) := by
  obtain ⟨log, htraced, hasked⟩ := h.traced
  simp only [answer?, callerPhase?] at hanswer
  rcases hcaller : m.callers[i]? with _ | ⟨key, phase⟩
  · simp [hcaller] at hanswer
  · rw [hcaller] at hanswer
    cases phase with
    | returned outcome =>
        cases hanswer
        obtain ⟨f, first, ⟨j, hfirst, -⟩, -, -, hyields⟩ :=
          htraced.callers i key _ hcaller value rfl
        exact ⟨first, hasked j key first hfirst, hyields⟩
    | _ => cases hanswer

end Fed

/-! ## What is under way -/

/-- The jobs that flights have not ended yet, and those that callers have not handed over. -/
def openJobs (m : CacheMachine W J V) : List J :=
  m.flights.filterMap (·.phase.job?) ++ m.callers.filterMap (·.phase.job?)

theorem mem_openJobs_iff {job : J} : job ∈ m.openJobs ↔
    (∃ f key p, m.FlightAt f key p ∧ p.job? = some job) ∨
      ∃ i key p, m.CallerAt i key p ∧ p.job? = some job := by
  rw [openJobs, List.mem_append, List.mem_filterMap, List.mem_filterMap]
  constructor
  · rintro (⟨⟨key, p⟩, hmem, hjob⟩ | ⟨⟨key, p⟩, hmem, hjob⟩)
    · obtain ⟨f, hf⟩ := List.mem_iff_getElem?.mp hmem
      exact Or.inl ⟨f, key, p, hf, hjob⟩
    · obtain ⟨i, hi⟩ := List.mem_iff_getElem?.mp hmem
      exact Or.inr ⟨i, key, p, hi, hjob⟩
  · rintro (⟨f, key, p, hf, hjob⟩ | ⟨i, key, p, hi, hjob⟩)
    · exact Or.inl ⟨⟨key, p⟩, List.mem_of_getElem? hf, hjob⟩
    · exact Or.inr ⟨⟨key, p⟩, List.mem_of_getElem? hi, hjob⟩

/-- All that is under way came from jobs of a kind. -/
def Engaged (w : Workshop W J V) (Q : J → Prop) (m : CacheMachine W J V) : Prop :=
  ∀ job ∈ m.openJobs, ∃ first, Q first ∧ w.Leads first job

/-- A cache is engaged with what it was fed. -/
theorem Fed.engaged (h : m.Fed w Q) : m.Engaged w Q := by
  obtain ⟨log, htraced, hasked⟩ := h.traced
  intro job hway
  rcases mem_openJobs_iff.mp hway with ⟨f, key, p, flight, hjob⟩ | ⟨i, key, p, caller, hjob⟩
  · have hevident := htraced.flights f key p flight
    cases p with
    | unstarted _ | missed _ =>
        cases hjob
        obtain ⟨i, hfirst, -⟩ := hevident
        exact ⟨job, hasked i key job hfirst, .refl⟩
    | making _ _ =>
        cases hjob
        obtain ⟨first, ⟨i, hfirst, -⟩, -, hleads⟩ := hevident
        exact ⟨first, hasked i key first hfirst, hleads⟩
    | _ => cases hjob
  · have hevident := htraced.callers i key p caller
    cases p with
    | looking _ | joining _ =>
        cases hjob
        exact ⟨job, hasked i key job hevident, .refl⟩
    | _ => cases hjob

namespace Engaged

theorem of_flight (hm : m.Engaged w Q) {f : Nat} {key : CacheKey} {p : FlightPhase J V} {job : J}
    (flight : m.FlightAt f key p) (hjob : p.job? = some job) : ∃ first, Q first ∧ w.Leads first job :=
  hm job (mem_openJobs_iff.mpr (Or.inl ⟨f, key, p, flight, hjob⟩))

theorem of_caller (hm : m.Engaged w Q) {key : CacheKey} {p : CallerPhase J V} {job : J}
    (caller : m.CallerAt i key p) (hjob : p.job? = some job) : ∃ first, Q first ∧ w.Leads first job :=
  hm job (mem_openJobs_iff.mpr (Or.inr ⟨i, key, p, caller, hjob⟩))

theorem move {milestone? : Option (Milestone J V)} (hm : m.Engaged w Q)
    (h : Move w m milestone? m')
    (hasked : ∀ i key job, milestone? = some (.asked i key job) → Q job) : m'.Engaged w Q := by
  intro job hway
  rcases mem_openJobs_iff.mp hway with ⟨f, key, p, flight, hjob⟩ | ⟨i, key, p, caller, hjob⟩
  · rcases h.flight_before flight with ⟨q, hq, rfl | ⟨hnext, -⟩⟩ | ⟨-, -, -, i, _, rfl, caller, -⟩
    · exact hm.of_flight hq hjob
    · cases hnext with
      | missed _ | started => exact hm.of_flight hq hjob
      | worked advance =>
          cases hjob
          obtain ⟨first, hfirst, hleads⟩ := hm.of_flight hq rfl
          exact ⟨first, hfirst, .work hleads advance⟩
      | stalled advance =>
          cases hjob
          obtain ⟨first, hfirst, hleads⟩ := hm.of_flight hq rfl
          exact ⟨first, hfirst, .wait hleads advance⟩
      | _ => cases hjob
    · exact hm.of_caller caller hjob
  · rcases h.caller_before caller with ⟨q, hq, rfl | hnext⟩ | ⟨-, rfl⟩ | ⟨_, rfl, hmilestone⟩
    · exact hm.of_caller hq hjob
    · cases hnext with
      | sought => exact hm.of_caller hq hjob
      | _ => cases hjob
    · cases hjob
    · cases hjob
      exact ⟨job, hasked i key job hmilestone, .refl⟩

theorem step (hm : m.Engaged w Q) (hjob : ∀ key job, event = .arrive key job → Q job) :
    (m.step w event).Engaged w Q :=
  hm.move (step_move w m event) fun _ key job h => hjob key job (arrive_of_asked h)

/-- The job that a step carries on came from a job of the kind. -/
theorem job (hm : m.Engaged w Q) {job : J} (hjob : m.jobOf? event = some job) :
    ∃ first, Q first ∧ w.Leads first job := by
  cases event with
  | drive i =>
      simp only [jobOf?, flightPhase?] at hjob
      split at hjob
      · rename_i f _
        rcases hflight : m.flights[f]? with _ | ⟨key, phase⟩
        · simp [hflight] at hjob
        · rw [hflight] at hjob
          cases phase with
          | making held wake? =>
              cases hjob
              exact hm.of_flight hflight rfl
          | _ => cases hjob
      · cases hjob
  | _ => cases hjob

section
variable {g : FleetError → FleetError} {R : W₁ → W₂ → Prop} (hg : g .closed = .closed)
  (hw : ∀ first job now s₁ s₂, Q first → w₁.Leads first job → R s₁ s₂ →
    (w₁.advance now job s₁).1.renamed g = (w₂.advance now job s₂).1.renamed g ∧
      R (w₁.advance now job s₁).2 (w₂.advance now job s₂).2)
include hg hw

/-- A cache that is engaged with jobs of a kind only stays like another one with every step, if their
workshops answer alike for all that comes from such jobs. -/
theorem alike_step {m₁ : CacheMachine W₁ J V} {m₂ : CacheMachine W₂ J V} (h : m₁.Alike g R m₂)
    (hm : m₁.Engaged w₁ Q) {e₁ : CacheEvent W₁ J} {e₂ : CacheEvent W₂ J} (he : e₁.Alike R e₂) :
    (m₁.step w₁ e₁).Alike g R (m₂.step w₂ e₂) := by
  refine h.step_of hg he fun job hjob => ?_
  obtain ⟨first, hfirst, hleads⟩ := hm.job hjob
  rw [now_of_outline h.sameOutline]
  exact hw first job _ _ _ hfirst hleads h.worlds

/-- By themselves, such caches go on in lockstep, whatever else every step keeps. -/
theorem lockstep {P : CacheMachine W₁ J V → Prop}
    (hP : ∀ m e, P m → (∀ key job, e = .arrive key job → Q job) → P (m.step w₁ e)) :
    Lockstep g Q w₁ w₂ (fun m₁ m₂ => m₁.Alike g R m₂ ∧ m₁.Engaged w₁ Q ∧ P m₁) where
  sameOutline h := h.1.sameOutline
  step h he hchange₁ hchange₂ hjobs := by
    refine ⟨alike_step hg hw h.1 h.2.1 ⟨he, fun s₁ s₂ hs => ?_⟩, h.2.1.step hjobs,
      hP _ _ h.2.2 hjobs⟩
    rw [hchange₁, hchange₂]
    exact hs

end

end Engaged

end CacheMachine

end FleetGate
