import FleetGate.Proofs.Cache.Outline
import FleetGate.Proofs.Cache.Schedule

/-! # Two caches in lockstep

Two machines that differ in their worlds and in what failures are called only, and stay so with
every step that both of them take, take the same steps when they are scheduled: whatever relation
between them the steps keep (`Lockstep`), all scheduled runs keep it, and the answers that callers
get differ only in what failures are called (`Lockstep.get`).

That is so for machines with related worlds (`CacheMachine.Alike`) whose workshops answer alike in
related worlds.
-/

namespace FleetGate

variable {W₁ W₂ J V : Type} {g : FleetError → FleetError} {R : W₁ → W₂ → Prop}

/-- Two workshops that in related worlds answer alike, up to what failures are called, and leave the
worlds related. -/
def Workshop.Alike (g : FleetError → FleetError) (R : W₁ → W₂ → Prop) (w₁ : Workshop W₁ J V)
    (w₂ : Workshop W₂ J V) : Prop :=
  ∀ now job s₁ s₂, R s₁ s₂ →
    (w₁.advance now job s₁).1.renamed g = (w₂.advance now job s₂).1.renamed g ∧
      R (w₁.advance now job s₁).2 (w₂.advance now job s₂).2

/-- The same event on both sides, except for what it does to related worlds, which stay related. -/
structure CacheEvent.Alike (R : W₁ → W₂ → Prop) (e₁ : CacheEvent W₁ J) (e₂ : CacheEvent W₂ J) :
    Prop where
  sameOutline : e₁.outline = e₂.outline
  change : ∀ s₁ s₂, R s₁ s₂ → R (e₁.change s₁) (e₂.change s₂)

namespace CacheMachine

/-- Two machines with related worlds that otherwise differ only in what failures are called. -/
structure Alike (g : FleetError → FleetError) (R : W₁ → W₂ → Prop) (m₁ : CacheMachine W₁ J V)
    (m₂ : CacheMachine W₂ J V) : Prop where
  sameOutline : m₁.outline g = m₂.outline g
  worlds : R m₁.world m₂.world

variable {w₁ : Workshop W₁ J V} {w₂ : Workshop W₂ J V} {m₁ : CacheMachine W₁ J V}
  {m₂ : CacheMachine W₂ J V} {e₁ : CacheEvent W₁ J} {e₂ : CacheEvent W₂ J}

/-- A step keeps machines alike if the workshops answer alike for the job that it carries on. -/
theorem Alike.step_of (hg : g .closed = .closed) (h : m₁.Alike g R m₂) (he : e₁.Alike R e₂)
    (hjob : ∀ job, m₁.jobOf? e₁ = some job →
      (w₁.advance m₁.now job m₁.world).1.renamed g = (w₂.advance m₂.now job m₂.world).1.renamed g ∧
        R (w₁.advance m₁.now job m₁.world).2 (w₂.advance m₂.now job m₂.world).2) :
    (m₁.step w₁ e₁).Alike g R (m₂.step w₂ e₂) := by
  have hnow : m₁.now = m₂.now := congrArg (·.now) h.sameOutline
  have hsame : m₁.jobOf? e₁ = m₂.jobOf? e₂ := by
    rw [← jobOf?_outline (g := g), h.sameOutline, he.sameOutline, jobOf?_outline]
  constructor
  · rw [outline_step hg, outline_step hg, h.sameOutline, he.sameOutline]
    refine step_congr fun job hoffered => ?_
    rw [jobOf?_outline, ← hsame] at hoffered
    have hanswer := (hjob job hoffered).1
    rw [hnow] at hanswer
    simp only [Workshop.replay, outline_now, hanswer]
  · rw [world_step, world_step, ← hsame]
    cases hoffered : m₁.jobOf? e₁ with
    | none => exact he.change _ _ h.worlds
    | some job => exact (hjob job hoffered).2

/-- A step keeps machines alike. -/
theorem Alike.step (hg : g .closed = .closed) (hw : w₁.Alike g R w₂) (h : m₁.Alike g R m₂)
    (he : e₁.Alike R e₂) : (m₁.step w₁ e₁).Alike g R (m₂.step w₂ e₂) := by
  have hnow : m₁.now = m₂.now := congrArg (·.now) h.sameOutline
  refine h.step_of hg he fun job _ => ?_
  rw [hnow]
  exact hw m₂.now job _ _ h.worlds

/-! ## What two machines do by themselves -/

/-- A relation between machines that is kept when both take the same step by themselves, without
anybody changing the worlds, and that leaves nothing but the worlds and the names of failures to
differ. Of the callers that come in, only those with a job of a kind need to be considered. -/
structure Lockstep (g : FleetError → FleetError) (Q : J → Prop) (w₁ : Workshop W₁ J V)
    (w₂ : Workshop W₂ J V) (P : CacheMachine W₁ J V → CacheMachine W₂ J V → Prop) : Prop where
  sameOutline : ∀ {m₁ m₂}, P m₁ m₂ → m₁.outline g = m₂.outline g
  step : ∀ {m₁ m₂ e₁ e₂}, P m₁ m₂ → e₁.outline = e₂.outline → e₁.change = id → e₂.change = id →
    (∀ key job, e₁ = .arrive key job → Q job) → P (m₁.step w₁ e₁) (m₂.step w₂ e₂)

/-- Machines that are alike stay so. -/
theorem Alike.lockstep (hg : g .closed = .closed) (hw : w₁.Alike g R w₂) :
    Lockstep g (fun _ => True) w₁ w₂ (Alike g R) where
  sameOutline h := h.sameOutline
  step h he hchange₁ hchange₂ _ := by
    refine h.step hg hw ⟨he, fun s₁ s₂ hs => ?_⟩
    rw [hchange₁, hchange₂]
    exact hs

/-- What keeps a relation element by element keeps it over a whole list. -/
theorem foldl_keeps {α : Type} {P : CacheMachine W₁ J V → CacheMachine W₂ J V → Prop}
    {f₁ : CacheMachine W₁ J V → α → CacheMachine W₁ J V}
    {f₂ : CacheMachine W₂ J V → α → CacheMachine W₂ J V} {l : List α}
    (hf : ∀ m₁ m₂ a, a ∈ l → P m₁ m₂ → P (f₁ m₁ a) (f₂ m₂ a)) (h : P m₁ m₂) :
    P (l.foldl f₁ m₁) (l.foldl f₂ m₂) := by
  induction l generalizing m₁ m₂ with
  | nil => exact h
  | cons a rest ih =>
      exact ih (fun m₁ m₂ a' ha' => hf m₁ m₂ a' (List.mem_cons_of_mem a ha'))
        (hf m₁ m₂ a List.mem_cons_self h)

/-! ## What an outline tells -/

theorem nextEvent?_outline (m : CacheMachine W₁ J V) (i : Nat) :
    (m.outline g).nextEvent? i = (m.nextEvent? i).map CacheEvent.outline := by
  rw [nextEvent?, nextEvent?, callerPhase?_outline]
  rcases m.callerPhase? i with _ | phase
  · rfl
  · cases phase <;> rfl

theorem isWaiting_outline (m : CacheMachine W₁ J V) (i : Nat) :
    (m.outline g).isWaiting i = m.isWaiting i := by
  rw [isWaiting, isWaiting, callerPhase?_outline]
  rcases m.callerPhase? i with _ | phase
  · rfl
  · cases phase <;> rfl

theorem isPolling_outline (m : CacheMachine W₁ J V) (i : Nat) :
    (m.outline g).isPolling i = m.isPolling i := by
  rw [isPolling, isPolling, callerPhase?_outline]
  rcases m.callerPhase? i with _ | phase
  · rfl
  · cases phase <;> rfl

theorem answer?_outline (m : CacheMachine W₁ J V) (i : Nat) :
    (m.outline g).answer? i = (m.answer? i).map (Except.mapError g) := by
  rw [answer?, answer?, callerPhase?_outline]
  rcases m.callerPhase? i with _ | phase
  · rfl
  · cases phase <;> rfl

/-- A caller that moves does nothing to the world by itself. -/
theorem change_of_nextEvent? {m : CacheMachine W₁ J V} {i : Nat} {event : CacheEvent W₁ J}
    (h : m.nextEvent? i = some event) : event.change = id := by
  rw [nextEvent?] at h
  split at h
  all_goals cases h
  all_goals rfl

theorem wakeTimes_outline (m : CacheMachine W₁ J V) : (m.outline g).wakeTimes = m.wakeTimes := by
  simp only [wakeTimes, flightPhase?_outline]
  change (m.callers.map (Caller.renamed g)).filterMap _ = _
  rw [List.filterMap_map]
  congr 1
  funext c
  obtain ⟨key, phase⟩ := c
  cases phase with
  | waiting f =>
      simp only [Function.comp_apply, Caller.renamed, CallerPhase.renamed]
      rcases m.flightPhase? f with _ | stage
      · rfl
      · cases stage <;> rfl
  | _ => rfl

section
variable (h : m₁.outline g = m₂.outline g)
include h

/-- What can be read off the outline is the same on both sides. -/
theorem read_outline {α : Type} (f₁ : CacheMachine W₁ J V → α) (f₂ : CacheMachine W₂ J V → α)
    (f : CacheMachine Unit J V → α) (h₁ : ∀ m, f (outline g m) = f₁ m)
    (h₂ : ∀ m, f (outline g m) = f₂ m) : f₁ m₁ = f₂ m₂ := by
  rw [← h₁, ← h₂, h]

theorem closed_of_outline : m₁.closed = m₂.closed :=
  read_outline h (·.closed) (·.closed) (·.closed) (fun _ => rfl) fun _ => rfl

theorem sweeper_of_outline : m₁.sweeper = m₂.sweeper :=
  read_outline h (·.sweeper) (·.sweeper) (·.sweeper) (fun _ => rfl) fun _ => rfl

theorem callers_of_outline : m₁.callers.length = m₂.callers.length :=
  read_outline h (·.callers.length) (·.callers.length) (·.callers.length)
    (fun _ => List.length_map ..) fun _ => List.length_map ..

theorem now_of_outline : m₁.now = m₂.now :=
  read_outline h (·.now) (·.now) (·.now) (fun _ => rfl) fun _ => rfl

theorem wakeTimes_of_outline : m₁.wakeTimes = m₂.wakeTimes :=
  read_outline h _ _ _ wakeTimes_outline wakeTimes_outline

theorem answer_of_outline (i : Nat) :
    (m₁.answer? i).map (Except.mapError g) = (m₂.answer? i).map (Except.mapError g) := by
  rw [← answer?_outline, h, answer?_outline]

/-- An answer or, where there is none, that of a closed cache, is the same on both sides. -/
theorem answer_getD_of_outline (i : Nat) :
    ((m₁.answer? i).getD (.error .closed)).mapError g
      = ((m₂.answer? i).getD (.error .closed)).mapError g := by
  rw [← Option.getD_map (Except.mapError g), answer_of_outline h,
    Option.getD_map (Except.mapError g)]

/-- The same caller moves in the same way. -/
theorem nextEvent_of_outline (i : Nat) :
    (m₁.nextEvent? i = none ∧ m₂.nextEvent? i = none) ∨
      ∃ e₁ e₂, m₁.nextEvent? i = some e₁ ∧ m₂.nextEvent? i = some e₂ ∧
        e₁.outline = e₂.outline := by
  have hnext : (m₁.nextEvent? i).map CacheEvent.outline
      = (m₂.nextEvent? i).map CacheEvent.outline := by
    rw [← nextEvent?_outline (g := g), h, nextEvent?_outline]
  cases h₁ : m₁.nextEvent? i with
  | none =>
      rw [h₁] at hnext
      exact Or.inl ⟨rfl, Option.map_eq_none_iff.mp hnext.symm⟩
  | some e₁ =>
      rw [h₁] at hnext
      obtain ⟨e₂, h₂, heq⟩ := Option.map_eq_some_iff.mp hnext.symm
      exact Or.inr ⟨e₁, e₂, rfl, h₂, heq.symm⟩

end

/-- The answers to several keys are read off the machine in the end. -/
theorem getAll_answers (w : Workshop W₁ J V) (requests : List (CacheKey × J))
    (m : CacheMachine W₁ J V) :
    (getAll w requests m).1 = (List.range requests.length).map fun i =>
      ((getAll w requests m).2.answer? (m.callers.length + i)).getD (.error .closed) := by
  simp only [getAll, List.map_map, Function.comp_def]

theorem get_answer (w : Workshop W₁ J V) (key : CacheKey) (job : J) (m : CacheMachine W₁ J V) :
    (get w key job m).1
      = ((get w key job m).2.answer? m.callers.length).getD (.error .closed) := by
  change (getAll w [(key, job)] m).1.head?.getD (.error .closed)
    = ((getAll w [(key, job)] m).2.answer? m.callers.length).getD (.error .closed)
  rw [getAll_answers]
  rfl

/-- A value that is the answer for a key is that of the caller who asked. -/
theorem answer?_of_get {w : Workshop W₁ J V} {key : CacheKey} {job : J} {m : CacheMachine W₁ J V}
    {value : V} (h : (get w key job m).1 = .ok value) :
    (get w key job m).2.answer? m.callers.length = some (.ok value) := by
  rw [get_answer] at h
  cases hanswer : (get w key job m).2.answer? m.callers.length with
  | none =>
      rw [hanswer] at h
      cases h
  | some outcome =>
      rw [hanswer] at h
      exact congrArg some h

/-! ## Scheduled runs -/

namespace Lockstep

variable {Q : J → Prop} {P : CacheMachine W₁ J V → CacheMachine W₂ J V → Prop}
  (hl : Lockstep g Q w₁ w₂ P)
include hl

/-- A step in which nobody comes in. -/
theorem step_quiet (h : P m₁ m₂) (event : CacheEvent Unit J) (he₁ : e₁.outline = event)
    (he₂ : e₂.outline = event) (hchange₁ : e₁.change = id) (hchange₂ : e₂.change = id)
    (hquiet : event.isArrival = false) : P (m₁.step w₁ e₁) (m₂.step w₂ e₂) := by
  refine hl.step h (he₁.trans he₂.symm) hchange₁ hchange₂ ?_
  rintro key job rfl
  subst he₁
  cases hquiet

theorem turn (h : P m₁ m₂) (i fuel : Nat) :
    P (CacheMachine.turn w₁ i fuel m₁) (CacheMachine.turn w₂ i fuel m₂) := by
  induction fuel generalizing m₁ m₂ with
  | zero => exact h
  | succ fuel ih =>
      rw [CacheMachine.turn, CacheMachine.turn]
      rcases nextEvent_of_outline (hl.sameOutline h) i with ⟨h₁, h₂⟩ | ⟨e₁, e₂, h₁, h₂, he⟩
      · rw [h₁, h₂]
        exact h
      · have hstep : P (m₁.step w₁ e₁) (m₂.step w₂ e₂) := by
          refine hl.step h he (change_of_nextEvent? h₁) (change_of_nextEvent? h₂) ?_
          rintro key job rfl
          cases isArrival_of_nextEvent? h₁
        have hends : (m₁.isPolling i && (m₁.step w₁ e₁).isWaiting i)
            = (m₂.isPolling i && (m₂.step w₂ e₂).isWaiting i) := by
          rw [← isPolling_outline (g := g) m₁, ← isWaiting_outline (g := g) (m₁.step w₁ e₁),
            hl.sameOutline h, hl.sameOutline hstep, isPolling_outline, isWaiting_outline]
        simp only [h₁, h₂, hends]
        split
        · exact hstep
        · exact ih hstep

theorem round (h : P m₁ m₂) : P (CacheMachine.round w₁ m₁) (CacheMachine.round w₂ m₂) := by
  rw [CacheMachine.round, CacheMachine.round, callers_of_outline (hl.sameOutline h)]
  exact foldl_keeps (fun _ _ i _ h => hl.turn h i turnLimit) h

theorem settleCallers (h : P m₁ m₂) :
    P (CacheMachine.settleCallers w₁ m₁) (CacheMachine.settleCallers w₂ m₂) :=
  hl.round (hl.round h)

theorem settleSweeper (h : P m₁ m₂) : P m₁.settleSweeper m₂.settleSweeper := by
  refine foldl_keeps (fun m₁ m₂ _ _ h => ?_) h
  rw [closed_of_outline (hl.sameOutline h)]
  split
  · change P (m₁.step w₁ .stopSweeper) (m₂.step w₂ .stopSweeper)
    exact hl.step_quiet h .stopSweeper rfl rfl rfl rfl rfl
  · change P (m₁.step w₁ .sweep) (m₂.step w₂ .sweep)
    exact hl.step_quiet h .sweep rfl rfl rfl rfl rfl

theorem settle (h : P m₁ m₂) : P (CacheMachine.settle w₁ m₁) (CacheMachine.settle w₂ m₂) := by
  rw [CacheMachine.settle, CacheMachine.settle, wakeTimes_of_outline (hl.sameOutline h),
    sweeper_of_outline (hl.sameOutline h)]
  split
  · exact hl.settleCallers (hl.settleSweeper h)
  · exact hl.settleSweeper (hl.settleCallers h)

theorem elapse (h : P m₁ m₂) (milliseconds : Nat) :
    P (CacheMachine.elapse w₁ milliseconds m₁) (CacheMachine.elapse w₂ milliseconds m₂) :=
  hl.settle (hl.step_quiet h (.pass milliseconds) rfl rfl rfl rfl rfl)

theorem sleepUntil_go (h : P m₁ m₂) (t fuel : Nat) :
    P (CacheMachine.sleepUntil.go w₁ t fuel m₁) (CacheMachine.sleepUntil.go w₂ t fuel m₂) := by
  induction fuel generalizing m₁ m₂ with
  | zero => exact h
  | succ fuel ih =>
      have hsame := hl.sameOutline h
      have halarms : m₁.alarms = m₂.alarms := by
        rw [CacheMachine.alarms, CacheMachine.alarms, wakeTimes_of_outline hsame,
          sweeper_of_outline hsame]
      rw [CacheMachine.sleepUntil.go, CacheMachine.sleepUntil.go, now_of_outline hsame, halarms]
      split
      · exact ih (hl.elapse h _)
      · exact h

theorem sleepUntil (h : P m₁ m₂) (t : Nat) :
    P (CacheMachine.sleepUntil w₁ t m₁) (CacheMachine.sleepUntil w₂ t m₂) := by
  rw [CacheMachine.sleepUntil, CacheMachine.sleepUntil, now_of_outline (hl.sameOutline h)]
  exact hl.sleepUntil_go h t _

theorem await (h : P m₁ m₂) (callers : List Nat) (fuel : Nat) :
    P (CacheMachine.await w₁ callers fuel m₁) (CacheMachine.await w₂ callers fuel m₂) := by
  induction fuel generalizing m₁ m₂ with
  | zero => exact h
  | succ fuel ih =>
      have hsame := hl.sameOutline h
      have hanswered : (callers.all fun i => (m₁.answer? i).isSome)
          = callers.all fun i => (m₂.answer? i).isSome := by
        congr 1
        funext i
        rw [← Option.isSome_map (f := Except.mapError g), answer_of_outline hsame,
          Option.isSome_map]
      rw [CacheMachine.await, CacheMachine.await, hanswered, wakeTimes_of_outline hsame]
      split
      · exact h
      · split
        · exact ih (hl.sleepUntil h _)
        · exact h

/-- Asking for several keys with the same jobs gives the same answers, up to what failures are
called. -/
theorem getAll (h : P m₁ m₂) (requests : List (CacheKey × J)) (hjobs : ∀ r ∈ requests, Q r.2) :
    (CacheMachine.getAll w₁ requests m₁).1.map (Except.mapError g)
        = (CacheMachine.getAll w₂ requests m₂).1.map (Except.mapError g) ∧
      P (CacheMachine.getAll w₁ requests m₁).2 (CacheMachine.getAll w₂ requests m₂).2 := by
  have harrivals : P (requests.foldl (fun m r => m.step w₁ (.arrive r.1 r.2)) m₁)
      (requests.foldl (fun m r => m.step w₂ (.arrive r.1 r.2)) m₂) := by
    refine foldl_keeps (fun m₁ m₂ r hr h => hl.step h rfl rfl rfl ?_) h
    rintro key job ⟨⟩
    exact hjobs r hr
  have hcallers := callers_of_outline (hl.sameOutline h)
  have hafter : P (CacheMachine.getAll w₁ requests m₁).2
      (CacheMachine.getAll w₂ requests m₂).2 := by
    simp only [CacheMachine.getAll, hcallers, callers_of_outline (hl.sameOutline harrivals)]
    exact hl.await (hl.settle harrivals) _ _
  refine ⟨?_, hafter⟩
  rw [getAll_answers, getAll_answers, List.map_map, List.map_map, hcallers]
  exact List.map_congr_left fun i _ =>
    answer_getD_of_outline (hl.sameOutline hafter) (m₂.callers.length + i)

/-- Asking for a key. -/
theorem get (h : P m₁ m₂) (key : CacheKey) (job : J) (hjob : Q job) :
    (CacheMachine.get w₁ key job m₁).1.mapError g = (CacheMachine.get w₂ key job m₂).1.mapError g ∧
      P (CacheMachine.get w₁ key job m₁).2 (CacheMachine.get w₂ key job m₂).2 := by
  have hafter : P (CacheMachine.get w₁ key job m₁).2 (CacheMachine.get w₂ key job m₂).2 := by
    refine (hl.getAll h [(key, job)] fun r hr => ?_).2
    rw [List.mem_singleton.mp hr]
    exact hjob
  rw [get_answer, get_answer, callers_of_outline (hl.sameOutline h)]
  exact ⟨answer_getD_of_outline (hl.sameOutline hafter) _, hafter⟩

end Lockstep

end CacheMachine

end FleetGate
