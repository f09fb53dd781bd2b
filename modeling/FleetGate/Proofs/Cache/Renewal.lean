import FleetGate.Proofs.Cache.Solo

/-! # Dropping what was just handed out

A caller that is served by itself and gets a value leaves an entry under its key, and no flight
that could bring a value without a construction: either it found the entry, or its flight stored the
value before it left the register (`Handed.solo`). So dropping the key drops an entry, and whoever is
served next has a construction started and gets what that comes to (`Renewing.solo`).

There is one exception. A flight may have stored its value and still be registered when the entry is
dropped. Who comes in then gets the value from the flight, and no entry is left (`Spent.solo`). With
that it is told exactly when there is an entry afterwards (`holds_run_iff`).

Entries of other keys stay as they are. What was dropped left room for what is stored next.
-/

namespace FleetGate

variable {W J V : Type}

namespace CacheStore

variable {s : CacheStore V} {key k : CacheKey} {e : CacheEntry V} {v : V} {now : ℕ}
  {outcome : FleetResult V}

/-! ## What is dropped and stored again -/

theorem invalidate_entries (s : CacheStore V) (key : CacheKey) :
    (s.invalidate key).2.entries = Keyed.erase key s.entries := rfl

/-- Dropping a key tells that there was an entry exactly if there was one. -/
theorem invalidate_fst : (s.invalidate key).1 = true ↔ key ∈ Keyed.keys s.entries := by
  have hlength : (Keyed.erase key s.entries).length ≤ s.entries.length := List.length_filter_le _ _
  have hremoved : (s.invalidate key).1 =
      (s.entries.length - (Keyed.erase key s.entries).length != 0) := rfl
  rw [hremoved, bne_iff_ne, ← not_iff_not, not_not, Nat.sub_eq_zero_iff_le,
    ← Keyed.erase_eq_self_iff]
  constructor
  · intro hle
    exact List.filter_sublist.eq_of_length (le_antisymm hlength hle)
  · intro hsame
    rw [hsame]

/-- Dropping a cluster leaves the entries of the others, and tells how many went. -/
theorem invalidateCluster_eq (s : CacheStore V) (cluster : String) :
    (∀ k e, (k, e) ∈ (s.invalidateCluster cluster).2.entries ↔
      (k, e) ∈ s.entries ∧ k.cluster ≠ cluster) ∧
    (s.invalidateCluster cluster).1 = s.entries.countP fun p => p.1.cluster = cluster := by
  constructor
  · intro k e
    rw [invalidateCluster, keep, List.mem_filter, decide_eq_true_eq]
  · have hsplit := s.entries.length_eq_countP_add_countP fun p => p.1.cluster = cluster
    simp only [invalidateCluster, keep, ← List.countP_eq_length_filter]
    simp only [decide_eq_true_eq, ← ne_eq] at hsplit
    omega

/-- A store after one more construction: with its value, if it brought one. -/
def rebuilt (s : CacheStore V) (key : CacheKey) (now : ℕ) : FleetResult V → CacheStore V
  | .ok v => s.countMiss.insert key v now
  | .error _ => s.countMiss

theorem rebuilt_misses : (s.rebuilt key now outcome).misses = s.misses + 1 := by
  cases outcome with
  | ok v => exact insert_misses _ _ _ _
  | error _ => rfl

/-- With room, a construction leaves the entries of other keys as they are. -/
theorem mem_rebuilt_of_ne (hroom : s.entries.length < s.capacity) (hk : k ≠ key) :
    (k, e) ∈ (s.rebuilt key now outcome).entries ↔ (k, e) ∈ s.entries := by
  cases outcome with
  | ok v =>
      have hmake : s.countMiss.makeRoom key = s.countMiss := makeRoom_eq_self (Or.inr hroom)
      rw [rebuilt, mem_insert_iff, hmake]
      simp [hk, countMiss]
  | error _ => rfl

/-- A construction for a key was started and came to an outcome, and a store is an earlier one after
this construction and no other. -/
structure Rebuilt (s₀ s : CacheStore V) (log : List (Milestone J V)) (key : CacheKey)
    (outcome : FleetResult V) : Prop where
  constructed : ∃ f job, .started f key job ∈ log ∧ .ended f key outcome ∈ log
  store : ∃ now, s = s₀.rebuilt key now outcome

/-- How a store differs from an earlier one, by the stage of the flight that renews the key. -/
def StageRenewing (s₀ s : CacheStore V) (log : List (Milestone J V)) (f : ℕ) (key : CacheKey) :
    FlightPhase J V → Prop
  | .unstarted _ | .missed _ => s = s₀
  | .making _ _ => s = s₀.countMiss ∧ ∃ job, .started f key job ∈ log
  | .made value => s = s₀.countMiss ∧ (∃ job, .started f key job ∈ log) ∧
      .ended f key (.ok value) ∈ log
  | .settled outcome | .finished outcome => s₀.Rebuilt s log key outcome

theorem Rebuilt.mono {s₀ : CacheStore V} {log : List (Milestone J V)}
    (h : s₀.Rebuilt s log key outcome) (more : List (Milestone J V)) :
    s₀.Rebuilt s (log ++ more) key outcome := by
  obtain ⟨⟨f, job, hstarted, hended⟩, hstore⟩ := h
  exact ⟨⟨f, job, List.mem_append_left _ hstarted, List.mem_append_left _ hended⟩, hstore⟩

end CacheStore

namespace CacheMachine

variable {w : Workshop W J V} {m₀ m m' : CacheMachine W J V}
  {milestone? : Option (Milestone J V)} {log : List (Milestone J V)} {i f : ℕ} {key k : CacheKey}
  {job : J} {p q : CallerPhase J V} {s : FlightPhase J V} {e : CacheEntry V} {value : V}
  {outcome : FleetResult V} {events : List (CacheEvent W J)}

/-! ## The capacity -/

theorem Move.within (h : Move w m milestone? m')
    (hm : m.store.entries.length ≤ m.store.capacity) :
    m'.store.entries.length ≤ m'.store.capacity := by
  have hcapacity : m'.store.capacity = m.store.capacity := by
    rw [CacheStore.capacity, CacheStore.capacity, h.config]
  rw [hcapacity]
  cases h with
  | hit _ _ | reuse _ _ _ => exact (CacheStore.length_touched _ _ _).trans_le hm
  | store _ _ _ => exact CacheStore.length_insert_le hm _ _ _
  | purge test _ => exact (List.length_filter_le _ _).trans hm
  | clear _ => exact Nat.zero_le _
  | _ => exact hm

/-- Whatever its limit is, a cache never holds more than the capacity. -/
theorem within_run (w : Workshop W J V) (config : CacheConfig) (world : W)
    (events : List (CacheEvent W J)) :
    let m : CacheMachine W J V := (CacheMachine.start config world).run w events
    m.store.entries.length ≤ m.store.capacity :=
  run_induction (P := fun m => m.store.entries.length ≤ m.store.capacity) (Nat.zero_le _)
    (fun hm h => h.within hm) events

/-! ## What is there for a key -/

/-- An entry is kept under a key, live or not. -/
def Holds (m : CacheMachine W J V) (key : CacheKey) : Prop := key ∈ Keyed.keys m.store.entries

/-- The flight registered for a key, if there is one, still has its second look to come. -/
def Untried (m : CacheMachine W J V) (key : CacheKey) : Prop :=
  ∀ f, Keyed.get? key m.registered = some f → ∃ job, m.FlightAt f key (.unstarted job)

/-- The flight registered for a key, if there is one, has no outcome yet. -/
def Unsettled (m : CacheMachine W J V) (key : CacheKey) : Prop :=
  ∀ f outcome, Keyed.get? key m.registered = some f → ¬ m.FlightAt f key (.settled outcome)

/-- While nobody polls, no flight that has an outcome is registered. -/
theorem Paused.unsettled (h : m.Paused) (hm : m.Attended) : m.Unsettled key := by
  intro f outcome _ hf
  obtain ⟨i, own, caller⟩ := hm f key _ hf rfl
  cases h _ (List.mem_of_getElem? caller)

theorem holds_of_live (live : m.store.live? key m.now = some e) : m.Holds key :=
  List.mem_map_of_mem (CacheStore.mem_of_live? live).1

/-- Next to a live entry, a flight without an outcome has not had its second look. -/
theorem Unsettled.untried (h : m.Unsettled key) (hm : m.Sound)
    (live : m.store.live? key m.now = some e) : m.Untried key := by
  intro f hreg
  obtain ⟨s, hs, hopen⟩ := hm.outstanding key f hreg
  -- past its second look and before its outcome it would have found the place vacant
  have hpresent : s.isAbsent ≠ true := by
    intro habsent
    have hvacant := hm.reserved f key s hs habsent
    cases hvacant.live?_eq_none.symm.trans live
  cases s with
  | unstarted job => exact ⟨job, hs⟩
  | missed _ | making _ _ | made _ => exact absurd rfl hpresent
  | settled outcome => exact absurd hs (h f outcome hreg)
  | finished _ => cases hopen

/-! ## Handing a value out -/

/-- A flight that brings a value has left an entry, and once it is finished it is off the register.
-/
def StageHanded (m : CacheMachine W J V) (key : CacheKey) : FlightPhase J V → Prop
  | .settled (.ok _) => m.Holds key
  | .finished (.ok _) => m.Holds key ∧ Keyed.get? key m.registered = none
  | _ => True

/-- A caller that has a value has left an entry and no flight that was tried. -/
def Handed (m : CacheMachine W J V) (key : CacheKey) : CallerPhase J V → Prop
  | .looking _ | .joining _ => m.Unsettled key
  | .waiting f | .polling f => ∃ s, m.FlightAt f key s ∧ m.StageHanded key s
  | .returned (.ok _) => m.Holds key ∧ m.Untried key
  | .returned (.error _) | .dropped => True

/-- A flight goes on without losing the entry of its value. -/
theorem StageHanded.next {s' : FlightPhase J V} (h : m.StageHanded key s)
    (next : FlightNext w m f key milestone? s s')
    (hstore : m'.store = m.storeAfter key s)
    (hregistered : m'.registered = m.registeredAfter key s) : m'.StageHanded key s' := by
  cases next with
  | reused live =>
      rw [storeAfter, CacheStore.lookup_of_live live] at hstore
      rw [StageHanded, Holds, hstore, CacheStore.touched, Keyed.keys_modify]
      exact holds_of_live live
  | stored opened =>
      rw [storeAfter, if_neg (by simp [opened])] at hstore
      rw [StageHanded, Holds, hstore]
      exact List.mem_map_of_mem (CacheStore.mem_insert_iff.mpr (Or.inr ⟨rfl, rfl⟩))
  | @left outcome =>
      cases outcome with
      | ok value =>
          rw [storeAfter] at hstore
          rw [registeredAfter] at hregistered
          rw [StageHanded, Holds, hstore, hregistered]
          exact ⟨h, Keyed.get?_erase_self _ _⟩
      | error _ => trivial
  | _ => trivial

theorem Handed.solo (hp : m.Handed key p) (hm : m.Sound)
    (h : Solo w m i key p milestone? q m') : m'.Handed key q := by
  cases h with
  | still _ _ => exact hp
  | hit live =>
      refine ⟨?_, hp.untried hm live⟩
      rw [Holds, setCaller, CacheStore.touched, Keyed.keys_modify]
      exact holds_of_live live
  | seek _ | poll _ | rest => exact hp
  | @board _ f found =>
      -- whoever boards a flight finds it before its outcome
      obtain ⟨s, hs, hopen⟩ := hm.outstanding key f found
      refine ⟨s, hs, ?_⟩
      cases s with
      | settled outcome => exact absurd hs (hp f outcome found)
      | finished _ => cases hopen
      | _ => trivial
  | launch _ => exact ⟨_, List.getElem?_concat_length, trivial⟩
  | dismiss _ => trivial
  | fly flight next hstore hregistered =>
      obtain ⟨s, hs, hstage⟩ := hp
      cases flight.symm.trans hs
      exact ⟨_, setFlight_self flight _, hstage.next next hstore hregistered⟩
  | stall flight => exact ⟨_, setFlight_self flight _, trivial⟩
  | @deliver f outcome flight =>
      obtain ⟨s, hs, hstage⟩ := hp
      cases flight.symm.trans hs
      cases outcome with
      | ok value =>
          refine ⟨hstage.1, fun f hreg => ?_⟩
          cases hstage.2.symm.trans hreg
      | error _ => trivial

/-- Whoever comes in while no registered flight of its key has an outcome, is served by itself and
gets a value, leaves an entry and no flight that was tried. -/
theorem handed_run (hm : m.Sound) (hu : m.Unsettled key) (hc : m.CallerAt i key (.looking job))
    (hevents : ∀ event ∈ events, event.Serves i)
    (hreturned : (m.run w events).CallerAt i key (.returned (.ok value))) :
    (m.run w events).Holds key ∧ (m.run w events).Untried key := by
  obtain ⟨q, hq, hhanded⟩ := solo_log_induction (w := w) (P := fun m p _ => m.Handed key p) hm hc hu
    (fun hm _ hp h => hp.solo hm h) hevents
  cases hq.symm.trans hreturned
  exact hhanded

/-! ## Whether an entry is left -/

/-- A flight that goes on loses no entry of its key. -/
theorem Holds.storeAfter (h : m.Holds key) (s : FlightPhase J V) :
    key ∈ Keyed.keys (m.storeAfter key s).entries := by
  cases s with
  | unstarted _ =>
      cases live : m.store.live? key m.now with
      | some e =>
          rw [CacheMachine.storeAfter, CacheStore.lookup_of_live live, CacheStore.touched,
            Keyed.keys_modify]
          exact h
      | none =>
          rw [CacheMachine.storeAfter, CacheStore.lookup_of_not_live live]
          exact h
  | made value =>
      rw [CacheMachine.storeAfter]
      split
      · exact h
      · exact List.mem_map_of_mem (CacheStore.mem_insert_iff.mpr (Or.inr ⟨rfl, rfl⟩))
  | missed _ | making _ _ | settled _ | finished _ => exact h

/-- Whoever is served by itself loses no entry of its key. -/
theorem Holds.solo (hp : m.Holds key) (h : Solo w m i key p milestone? q m') : m'.Holds key := by
  cases h with
  | hit _ =>
      rw [Holds, setCaller, CacheStore.touched, Keyed.keys_modify]
      exact hp
  | fly _ _ hstore _ =>
      rw [Holds, setFlight, hstore]
      exact hp.storeAfter _
  | _ => exact hp

/-- A caller is on its way to the outcome of a flight that leaves no entry behind, or has got it. -/
def Spent (m : CacheMachine W J V) (key : CacheKey) : CallerPhase J V → Prop
  | .looking _ | .joining _ => ¬ m.Holds key ∧ ¬ m.Unsettled key
  | .waiting f | .polling f => ¬ m.Holds key ∧
      ∃ outcome, m.FlightAt f key (.settled outcome) ∨ m.FlightAt f key (.finished outcome)
  | .returned _ | .dropped => ¬ m.Holds key

/-- The flight registered for a key has its outcome unless it is unsettled. -/
theorem settled_of_not_unsettled (h : ¬ m.Unsettled key) :
    ∃ f outcome, Keyed.get? key m.registered = some f ∧ m.FlightAt f key (.settled outcome) := by
  simpa [Unsettled] using h

theorem Spent.solo (hp : m.Spent key p) (h : Solo w m i key p milestone? q m') :
    m'.Spent key q := by
  cases h with
  | still _ _ | seek _ | poll _ | rest => exact hp
  | hit live => exact absurd (holds_of_live live) hp.1
  | board found =>
      obtain ⟨f, outcome, hreg, hf⟩ := settled_of_not_unsettled hp.2
      cases found.symm.trans hreg
      exact ⟨hp.1, outcome, Or.inl hf⟩
  | launch free =>
      obtain ⟨f, outcome, hreg, -⟩ := settled_of_not_unsettled hp.2
      cases free.symm.trans hreg
  | dismiss _ | deliver _ => exact hp.1
  | fly flight next hstore _ =>
      obtain ⟨hgone, outcome, hs | hs⟩ := hp
      · cases flight.symm.trans hs
        cases next with
        | left =>
            refine ⟨?_, outcome, Or.inr (setFlight_self flight _)⟩
            rw [Holds, setFlight, hstore]
            exact hgone
      · cases flight.symm.trans hs
        cases next
  | stall flight =>
      obtain ⟨-, outcome, hs | hs⟩ := hp
      · cases flight.symm.trans hs
      · cases flight.symm.trans hs

/-- Whoever comes in, is served by itself and gets a value, leaves an entry exactly if there was one
or no registered flight of its key had its outcome. -/
theorem holds_run_iff (hm : m.Sound) (hc : m.CallerAt i key (.looking job))
    (hevents : ∀ event ∈ events, event.Serves i)
    (hreturned : (m.run w events).CallerAt i key (.returned (.ok value))) :
    (m.run w events).Holds key ↔ m.Holds key ∨ m.Unsettled key := by
  by_cases hheld : m.Holds key
  · obtain ⟨-, -, hleft⟩ := solo_log_induction (w := w) (P := fun m _ _ => m.Holds key) hm hc hheld
      (fun _ _ hp h => hp.solo h) hevents
    exact iff_of_true hleft (Or.inl hheld)
  · by_cases hu : m.Unsettled key
    · exact iff_of_true (handed_run hm hu hc hevents hreturned).1 (Or.inr hu)
    · obtain ⟨q, hq, hspent⟩ := solo_log_induction (w := w) (P := fun m p _ => m.Spent key p) hm hc
        ⟨hheld, hu⟩ (fun _ _ hp h => hp.solo h) hevents
      cases hq.symm.trans hreturned
      exact iff_of_false hspent (not_or.mpr ⟨hheld, hu⟩)

/-! ## Dropping it -/

/-- Nothing is kept for a key nor tried, and there is room. -/
structure Cleared (m : CacheMachine W J V) (key : CacheKey) : Prop where
  gone : ¬ m.Holds key
  untried : m.Untried key
  room : m.store.entries.length < m.store.capacity

theorem Sound.invalidate (hm : m.Sound) (w : Workshop W J V) (key : CacheKey) :
    (m.invalidate key).2.Sound :=
  hm.move (step_move w m (.invalidate key))

/-- Dropping the entry of a key leaves nothing for it, and room. -/
theorem Holds.cleared (h : m.Holds key) (hu : m.Untried key) (hm : m.Sound)
    (hwithin : m.store.entries.length ≤ m.store.capacity) :
    (m.invalidate key).1 = true ∧ (m.invalidate key).2.Cleared key := by
  have hlength : (Keyed.erase key m.store.entries).length + 1 = m.store.entries.length :=
    Keyed.length_erase hm.exclusive.distinct h
  refine ⟨CacheStore.invalidate_fst.mpr h, ?_, hu, ?_⟩
  · intro hleft
    exact (Keyed.mem_keys_erase.mp hleft).2 rfl
  · have hcapacity : (m.invalidate key).2.store.capacity = m.store.capacity := rfl
    have hentries : (m.invalidate key).2.store.entries = Keyed.erase key m.store.entries := rfl
    rw [hcapacity, hentries]
    omega

/-! ## Constructing again -/

/-- How the store differs from that of a state without an entry for the key, by the phase of a
caller that is served by itself since. -/
def Renewing (m₀ m : CacheMachine W J V) (log : List (Milestone J V)) (key : CacheKey) :
    CallerPhase J V → Prop
  | .looking _ | .joining _ => m.store = m₀.store ∧ m.Untried key
  | .waiting f | .polling f => ∃ s, m.FlightAt f key s ∧ m₀.store.StageRenewing m.store log f key s
  | .returned outcome => m₀.store.Rebuilt m.store log key outcome
  | .dropped => False

theorem stageRenewing_next {s' : FlightPhase J V} (h : m₀.store.StageRenewing m.store log f key s)
    (hgone : ¬ m₀.Holds key) (opened : m.closed = false)
    (next : FlightNext w m f key milestone? s s') (hstore : m'.store = m.storeAfter key s) :
    m₀.store.StageRenewing m'.store (log ++ milestone?.toList) f key s' := by
  have mono {μ : Milestone J V} (hμ : μ ∈ log) : μ ∈ log ++ milestone?.toList :=
    List.mem_append_left _ hμ
  cases next with
  | reused live =>
      have hsame : m.store = m₀.store := h
      refine absurd ?_ hgone
      rw [Holds, ← hsame]
      exact holds_of_live live
  | missed gone =>
      rw [storeAfter, CacheStore.lookup_of_not_live gone] at hstore
      exact hstore.trans h
  | started =>
      have hsame : m.store = m₀.store := h
      rw [storeAfter, hsame] at hstore
      exact ⟨hstore, _, mem_log_concat_iff.mpr (Or.inr rfl)⟩
  | worked _ | stalled _ =>
      obtain ⟨hmissed, job, hstarted⟩ := h
      exact ⟨hstore.trans hmissed, job, mono hstarted⟩
  | built _ =>
      obtain ⟨hmissed, job, hstarted⟩ := h
      exact ⟨hstore.trans hmissed, ⟨job, mono hstarted⟩, mem_log_concat_iff.mpr (Or.inr rfl)⟩
  | failed _ =>
      obtain ⟨hmissed, job, hstarted⟩ := h
      exact ⟨⟨f, job, mono hstarted, mem_log_concat_iff.mpr (Or.inr rfl)⟩,
        m.now, hstore.trans hmissed⟩
  | discarded closed => exact (not_open_and_closed opened closed).elim
  | stored _ =>
      obtain ⟨hmissed, ⟨job, hstarted⟩, hended⟩ := h
      rw [storeAfter, if_neg (by simp [opened]), hmissed] at hstore
      exact ⟨⟨f, job, mono hstarted, mono hended⟩, m.now, hstore⟩
  | left =>
      have hrebuilt : m₀.store.Rebuilt m.store log key _ := h
      have hsame : m'.store = m.store := hstore
      rw [hsame]
      exact hrebuilt.mono _

theorem Renewing.solo (hp : m₀.Renewing m log key p) (hgone : ¬ m₀.Holds key)
    (opened : m.closed = false) (h : Solo w m i key p milestone? q m') :
    m₀.Renewing m' (log ++ milestone?.toList) key q := by
  have hnone : log ++ (none : Option (Milestone J V)).toList = log := List.append_nil log
  cases h with
  | still _ _ | seek _ | poll _ | rest =>
      rw [hnone]
      exact hp
  | hit live =>
      -- what the caller finds would have been there from the start
      refine absurd ?_ hgone
      rw [Holds, ← hp.1]
      exact holds_of_live live
  | board found =>
      obtain ⟨job, flight⟩ := hp.2 _ found
      exact ⟨_, flight, hp.1⟩
  | launch _ => exact ⟨_, List.getElem?_concat_length, hp.1⟩
  | dismiss closed => exact (not_open_and_closed opened closed).elim
  | fly flight next hstore _ =>
      obtain ⟨s, hs, hstage⟩ := hp
      cases flight.symm.trans hs
      exact ⟨_, setFlight_self flight _, stageRenewing_next hstage hgone opened next hstore⟩
  | stall flight =>
      obtain ⟨s, hs, hstage⟩ := hp
      cases flight.symm.trans hs
      obtain ⟨hmissed, job, hstarted⟩ := hstage
      exact ⟨_, setFlight_self flight _, hmissed, job, List.mem_append_left _ hstarted⟩
  | deliver flight =>
      obtain ⟨s, hs, hstage⟩ := hp
      cases flight.symm.trans hs
      rw [hnone]
      exact hstage

/-- Whoever comes in where nothing is kept for its key nor tried, and is served by itself, is
renewing the key all the way. -/
theorem renewing_run (w : Workshop W J V) (hm : m.Sound) (opened : m.closed = false)
    (hgone : ¬ m.Holds key) (hu : m.Untried key) (hc : m.CallerAt i key (.looking job))
    (hevents : ∀ event ∈ events, event.Serves i) :
    ∃ q, (m.run w events).CallerAt i key q ∧
      m.Renewing (m.run w events) (m.log w events) key q := by
  obtain ⟨q, hq, -, hrenewing⟩ := solo_log_induction (w := w)
    (P := fun m' p log => m'.closed = false ∧ m.Renewing m' log key p) hm hc ⟨opened, rfl, hu⟩
    (fun _ _ hp h => ⟨h.closed_eq.trans hp.1, hp.2.solo hgone hp.1 h⟩) hevents
  exact ⟨q, hq, hrenewing⟩

/-- With room, renewing a key leaves the entries of other keys as they are. -/
theorem Renewing.others (hp : m₀.Renewing m log key p)
    (hroom : m₀.store.entries.length < m₀.store.capacity) (hk : k ≠ key) :
    (k, e) ∈ m.store.entries ↔ (k, e) ∈ m₀.store.entries := by
  have of_rebuilt {outcome : FleetResult V} (h : m₀.store.Rebuilt m.store log key outcome) :
      (k, e) ∈ m.store.entries ↔ (k, e) ∈ m₀.store.entries := by
    obtain ⟨now, hstore⟩ := h.store
    rw [hstore]
    exact CacheStore.mem_rebuilt_of_ne hroom hk
  have of_missed (h : m.store = m₀.store.countMiss) :
      (k, e) ∈ m.store.entries ↔ (k, e) ∈ m₀.store.entries := by
    rw [h]
    rfl
  cases p with
  | looking _ | joining _ => rw [hp.1]
  | waiting _ | polling _ =>
      obtain ⟨s, -, hstage⟩ := hp
      cases s with
      | unstarted _ | missed _ =>
          have hsame : m.store = m₀.store := hstage
          rw [hsame]
      | making _ _ | made _ => exact of_missed hstage.1
      | settled _ | finished _ => exact of_rebuilt hstage
  | returned _ => exact of_rebuilt hp
  | dropped => exact hp.elim

/-- Whoever comes in where nothing is kept for its key nor tried has a construction started, if
nobody comes between. -/
theorem started_of_untried (w : Workshop W J V) (opened : m.closed = false)
    (hgone : ¬ m.Holds key) (hu : m.Untried key) (hc : m.CallerAt i key (.looking job)) :
    ∃ f job', .started f key job' ∈ m.log w [.look i, .join i, .poll i, .drive i, .drive i] := by
  have gone : m.store.live? key m.now = none := by
    refine Option.eq_none_iff_forall_ne_some.mpr fun e live => hgone (holds_of_live live)
  cases found : Keyed.get? key m.registered with
  | none =>
      rw [log_of_free w opened found gone hc]
      exact ⟨_, job, List.mem_cons_of_mem _ List.mem_cons_self⟩
  | some f =>
      obtain ⟨job', flight⟩ := hu f found
      let m₁ := m.setCaller i (.joining job)
      have caller₁ : m₁.CallerAt i key (.joining job) := setCaller_self hc _
      have look₁ : m.step w (.look i) = m₁ := step_look w hc gone
      have join₂ : m₁.step w (.join i) = m₁.setCaller i (.waiting f) := by
        have found₁ : Keyed.get? key m₁.registered = some f := found
        simp only [step, join, caller₁, found₁]
      have starts : (m₁.setCaller i (.waiting f)).log w [.poll i, .drive i, .drive i] =
          [.started f key job'] := log_of_waiting w opened gone (setCaller_self caller₁ _) flight
      refine ⟨f, job', ?_⟩
      rw [log, log, look₁, join₂, starts]
      simp

end CacheMachine

end FleetGate
