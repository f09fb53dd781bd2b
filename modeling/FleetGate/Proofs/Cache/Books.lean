import FleetGate.Proofs.Cache.Capacity
import FleetGate.Proofs.Cache.SingleFlight

/-! # The books of a cache

Every construction that was started is counted as a miss, and as long as the cache is open each of
them can be told from what the cache holds and has counted: it is still under way, it failed, or
its value was stored. A stored value took the place of an expired entry, or it is an entry, or it
was an entry and its eviction was counted (`books_balance`).

Two ghosts go with a run: its log, which knows the constructions that failed, and the number of
replacements. That what was replaced had expired follows from the invariant behind single flights:
from the second look of a flight to the moment at which it stores its value, nobody else stores one
for its key (`Reserved`).
-/

namespace FleetGate

/-- Whether the construction of a flight was started and has neither failed nor been stored. -/
def FlightPhase.isUnderWay {J V : Type} : FlightPhase J V → Bool
  | .making _ _ | .made _ => true
  | _ => false

/-- Whether a flight has found nothing and stored nothing yet. -/
def FlightPhase.isAbsent {J V : Type} : FlightPhase J V → Bool
  | .missed _ | .making _ _ | .made _ => true
  | _ => false

/-- Whether a construction ended with an error. -/
def Milestone.isFailure {J V : Type} : Milestone J V → Bool
  | ended _ _ (.error _) => true
  | _ => false

namespace CacheMachine

variable {W J V : Type} {w : Workshop W J V} {m m' : CacheMachine W J V}
  {milestone? : Option (Milestone J V)} {event : CacheEvent W J} {i f : Nat} {key own : CacheKey}
  {p q : FlightPhase J V}

/-- The key under which a step stores a value. -/
def recorded? (m : CacheMachine W J V) : CacheEvent W J → Option CacheKey
  | .drive i =>
    match m.callerPhase? i with
    | some (.polling f) =>
      match m.flights[f]? with
      | some ⟨key, .made _⟩ => if m.closed then none else some key
      | _ => none
    | _ => none
  | _ => none

/-- Whether a step stores a value in the place of an entry. -/
def replaces (m : CacheMachine W J V) (event : CacheEvent W J) : Bool :=
  (m.recorded? event).any fun key => Keyed.has key m.store.entries

/-- How often a run stores a value in the place of an entry. -/
def replacements (w : Workshop W J V) (m : CacheMachine W J V) : List (CacheEvent W J) → Nat
  | [] => 0
  | event :: rest => (m.replaces event).toNat + (m.step w event).replacements w rest

/-- How many constructions were started and have neither failed nor been stored. -/
def underWay (m : CacheMachine W J V) : Nat :=
  m.flights.countP (·.phase.isUnderWay)

/-- What was counted as a miss is accounted for, with so many failures and replacements. -/
def Balanced (m : CacheMachine W J V) (failed replaced : Nat) : Prop :=
  m.store.misses = m.underWay + failed + replaced + m.store.entries.length + m.store.evictions

/-- Where a flight has found nothing and is to store a value, nothing live is stored. -/
def Reserved (m : CacheMachine W J V) : Prop :=
  ∀ f key p, m.FlightAt f key p → p.isAbsent = true → m.store.Vacant key m.now

/-! ## Storing a value -/

/-- A step that stores a value is one of a flight that made it, in an open cache. -/
theorem step_of_recorded (w : Workshop W J V) (h : m.recorded? event = some key) :
    ∃ f value, m.FlightAt f key (.made value) ∧ m.closed = false ∧ m.milestone? w event = none ∧
      m.step w event =
        { m with store := m.store.insert key value m.now }.setFlight f (.settled (.ok value)) := by
  cases event with
  | drive i =>
      simp only [recorded?] at h
      split at h
      · rename_i f phase
        split at h
        · rename_i own value flight
          split at h
          · cases h
          · rename_i opened
            obtain rfl := Option.some.inj h
            refine ⟨f, value, flight, by simpa using opened, ?_, ?_⟩
            · simp only [milestone?, phase, flight]
            · simp only [step, drive, phase, flight, if_neg opened]
        · cases h
      · cases h
  | _ => cases h

/-- A flight stays where it is unless somebody drives it. -/
theorem step_flightAt (w : Workshop W J V) (hf : m.FlightAt f key p)
    (h : ∀ i, event = .drive i → m.callerPhase? i ≠ some (.polling f)) :
    (m.step w event).FlightAt f key p := by
  cases event with
  | join j =>
      have hlt := (List.getElem?_eq_some_iff.mp hf).1
      simp only [step, join]
      repeat' split
      all_goals
        first
        | exact hf
        | exact (List.getElem?_append_left hlt).trans hf
  | drive i =>
      simp only [step, drive]
      split
      · rename_i g phase
        have hne : f ≠ g := fun hg => h i rfl (hg ▸ phase)
        split
        · exact hf
        · rename_i own stage flight
          have kept (q : FlightPhase J V) : (m.setFlight g q).FlightAt f key p :=
            (flightAt_setFlight flight).mpr (Or.inr ⟨hne, hf⟩)
          repeat' split
          all_goals
            first
            | exact kept _
            | exact hf
      · exact hf
  | look j | poll j | rest j | drop j | closing j =>
      simp only [step, look, poll, rest, drop, closing]
      repeat' split
      all_goals exact hf
  | sweep | stopSweeper =>
      simp only [step, sweep, stopSweeper]
      split
      all_goals exact hf
  | _ => exact hf

/-- What a flight has made it keeps until it stores it. -/
theorem made_kept (w : Workshop W J V) (opened : m.closed = false) (h : m.recorded? event = none)
    {value : V} (hf : m.FlightAt f key (.made value)) :
    (m.step w event).FlightAt f key (.made value) := by
  refine step_flightAt w hf ?_
  rintro i rfl phase
  simp only [FlightAt] at hf
  simp [recorded?, phase, hf, opened] at h

/-! ## What was replaced had expired -/

theorem Reserved.start (config : CacheConfig) (world : W) :
    (start config world : CacheMachine W J V).Reserved := by
  intro f key p hf
  cases hf

/-- A flight that has found nothing is committed, and comes from such a flight or from a second
look. -/
theorem Move.absent (h : Move w m milestone? m') (hm : m.Exclusive) (hr : m.Reserved)
    (hf : m'.FlightAt f key p) (hp : p.isAbsent = true) :
    m.store.Vacant key m.now ∧ ∃ q, m.FlightAt f key q ∧ m.Committed f q := by
  rcases h.flight_before hf with ⟨q, hq, rfl | ⟨hnext, hpolled⟩⟩ | ⟨-, -, -, i, job, rfl, -⟩
  · refine ⟨hr f key p hq hp, p, hq, ?_⟩
    cases p with
    | missed _ | making _ _ | made _ => trivial
    | _ => cases hp
  · refine ⟨?_, q, hq, committed_of_polled hpolled hnext.unfinished⟩
    cases hnext with
    | missed gone => exact (CacheStore.live?_eq_none_iff hm.distinct).mp gone
    | started | worked _ | stalled _ | built _ => exact hr f key _ hq rfl
    | reused _ | failed _ | discarded _ | stored _ | left => cases hp
  · cases hp

theorem Reserved.move (hr : m.Reserved) (hm : m.Exclusive) (h : Move w m milestone? m') :
    m'.Reserved := by
  intro f key p hf hp
  obtain ⟨hvacant, q, hq, hcommitted⟩ := h.absent hm hr hf hp
  rcases h.vacant hvacant with hvacant' | ⟨g, value, hg, hg'⟩
  · exact hvacant'
  · -- the flight that stores a value for the key is this one, which then is no longer absent
    obtain rfl : f = g := hm.committed_unique hq hg hcommitted trivial
    cases hf.symm.trans hg'
    cases hp

/-- Whatever is done to a cache, in whatever order, nothing live is stored where a flight is to store
a value. -/
theorem reserved_run (w : Workshop W J V) (config : CacheConfig) (world : W)
    (events : List (CacheEvent W J)) :
    ((CacheMachine.start config world : CacheMachine W J V).run w events).Reserved := by
  have hboth : ((CacheMachine.start config world : CacheMachine W J V).run w events).Exclusive ∧
      ((CacheMachine.start config world : CacheMachine W J V).run w events).Reserved :=
    run_induction (P := fun m => m.Exclusive ∧ m.Reserved)
      ⟨.start config world, .start config world⟩
      (fun hm h => ⟨hm.1.move h, hm.2.move hm.1 h⟩) events
  exact hboth.2

/-- A live entry is used or dropped, and nothing else takes its place. -/
theorem Move.live_kept (h : Move w m milestone? m') (hm : m.Exclusive) (hr : m.Reserved)
    {e e' : CacheEntry V} (he : (key, e) ∈ m.store.entries)
    (live : m.store.expired e m.now = false) (he' : (key, e') ∈ m'.store.entries) :
    e'.value = e.value ∧ e'.created = e.created := by
  have same {e' : CacheEntry V} (he' : (key, e') ∈ m.store.entries) :
      e'.value = e.value ∧ e'.created = e.created := by
    obtain rfl := hm.distinct.unique he he'
    exact ⟨rfl, rfl⟩
  cases h with
  | hit _ _ | reuse _ _ _ =>
      rcases CacheStore.mem_touched.mp he' with ⟨-, he'⟩ | ⟨rfl, e₀, he₀, rfl⟩
      · exact same he'
      · have hsame := same he₀
        exact hsame
  | @store _ _ f own value _ flight _ =>
      rcases CacheStore.mem_insert_iff.mp he' with ⟨-, he'⟩ | ⟨rfl, -⟩
      · exact same ((CacheStore.makeRoom_sublist m.store own).subset he')
      · -- the key of a value that is stored has no live entry
        have hexpired := hr f key _ flight rfl e he
        exact absurd (live.symm.trans hexpired) (by simp)
  | purge test _ => exact same (CacheStore.mem_of_mem_keep he')
  | clear _ => cases he'
  | _ => exact same he'

/-! ## Room -/

theorem Move.config (h : Move w m milestone? m') : m'.store.config = m.store.config := by
  cases h with
  | store _ _ _ => exact CacheStore.insert_config _ _ _ _
  | _ => rfl

theorem Move.bounded (h : Move w m milestone? m') (hroom : 0 < m.store.config.maxEntries)
    (hm : m.store.Bounded) : m'.store.Bounded := by
  cases h with
  | hit _ _ | reuse _ _ _ => exact hm.touched _ _
  | store _ _ _ => exact hm.insert hroom _ _ _
  | purge test _ => exact hm.keep test
  | clear _ => exact Nat.zero_le _
  | _ => exact hm

/-- A cache keeps its limits, and never holds more than it may. -/
theorem bounded_run (w : Workshop W J V) (config : CacheConfig) (hroom : 0 < config.maxEntries)
    (world : W) (events : List (CacheEvent W J)) :
    let m : CacheMachine W J V := (CacheMachine.start config world).run w events
    m.store.config = config ∧ m.store.Bounded := by
  refine run_induction (P := fun m => m.store.config = config ∧ m.store.Bounded)
    ⟨rfl, Nat.zero_le _⟩ ?_ events
  rintro m₁ m₂ milestone? ⟨hconfig, hm⟩ h
  exact ⟨h.config.trans hconfig, h.bounded (hconfig ▸ hroom) hm⟩

/-! ## The balance -/

theorem countP_modify {α : Type} {l : List α} {n : Nat} {x : α} (h : l[n]? = some x)
    (change : α → α) (test : α → Bool) :
    (l.modify n change).countP test + (test x).toNat =
      l.countP test + (test (change x)).toNat := by
  induction l generalizing n with
  | nil => cases h
  | cons y rest ih =>
      cases n with
      | zero =>
          obtain rfl := Option.some.inj h
          rw [List.modify_zero_cons, List.countP_cons, List.countP_cons]
          cases test y <;> cases test (change y) <;> simp
      | succ n =>
          have hrest := ih (n := n) h
          rw [List.modify_succ_cons, List.countP_cons, List.countP_cons]
          omega

/-- A flight that moves counts as under way if its new stage does. -/
theorem underWay_setFlight (flight : m.FlightAt f key p) (q : FlightPhase J V) :
    (m.setFlight f q).underWay + p.isUnderWay.toNat = m.underWay + q.isUnderWay.toNat :=
  countP_modify flight (fun x => { x with phase := q }) (·.phase.isUnderWay)

/-- A flight that goes on to a stage that counts as much changes nothing. -/
theorem Balanced.setFlight {failed replaced : Nat} (hm : m.Balanced failed replaced)
    (flight : m.FlightAt f key p) (hq : q.isUnderWay = p.isUnderWay) :
    (m.setFlight f q).Balanced failed replaced := by
  have hunder := underWay_setFlight flight q
  rw [hq, Nat.add_right_cancel_iff] at hunder
  rw [Balanced, hunder]
  exact hm

/-- Using an entry changes nothing that is accounted for. -/
theorem Balanced.touched {failed replaced : Nat} (hm : m.Balanced failed replaced)
    (key : CacheKey) :
    { m with store := m.store.touched key m.now }.Balanced failed replaced := by
  rw [Balanced, CacheStore.length_touched]
  exact hm

/-- A move of an open cache that stores nothing keeps the balance. -/
theorem Move.balanced {failed replaced : Nat} (h : Move w m milestone? m')
    (hm : m.Balanced failed replaced) (guarded : m.Guarded) (opened : m'.closed = false)
    (kept : ∀ f key value, m.FlightAt f key (.made value) → m'.FlightAt f key (.made value)) :
    m'.Balanced (failed + milestone?.toList.countP Milestone.isFailure) replaced := by
  have open_before : m.closed = false := h.opened opened
  cases h with
  | hit _ _ => exact hm.touched _
  | launch _ _ =>
      rw [Balanced, setCaller, underWay, List.countP_append]
      exact hm
  | reuse _ flight _ => exact (hm.touched _).setFlight flight rfl
  | miss _ flight _ | work _ flight _ | stall _ flight _ | build _ flight _ | leave _ flight =>
      exact hm.setFlight flight rfl
  | @start _ _ f _ job _ flight =>
      have hunder : (m.setFlight f (.making job none)).underWay = m.underWay + 1 :=
        underWay_setFlight flight (.making job none)
      change m.store.misses + 1 = (m.setFlight f (.making job none)).underWay + failed + replaced +
        m.store.entries.length + m.store.evictions
      rw [hunder, hm]
      omega
  | @fail _ _ f _ _ _ error _ _ flight _ =>
      have hunder : (m.setFlight f (.settled (.error error))).underWay + 1 = m.underWay :=
        underWay_setFlight flight (.settled (.error error))
      change m.store.misses = (m.setFlight f (.settled (.error error))).underWay + (failed + 1) +
        replaced + m.store.entries.length + m.store.evictions
      rw [hm, ← hunder]
      omega
  | discard _ _ closed => exact (not_open_and_closed open_before closed).elim
  | store _ flight _ =>
      -- it takes what it made out of the flight
      have hkept := kept _ _ _ flight
      rcases (flightAt_setFlight flight).mp hkept with ⟨-, -, hphase⟩ | ⟨hne, -⟩
      · cases hphase
      · exact absurd rfl hne
  | purge test sweeper =>
      have hkeep := CacheStore.keep_balance m.store test
      change m.store.misses = m.underWay + failed + replaced +
        (m.store.keep test).2.entries.length + (m.store.keep test).2.evictions
      rw [hm]
      omega
  | signal _ => cases opened
  | clear closer => exact (not_open_and_closed open_before (guarded _ _ closer (by simp))).elim
  | _ => exact hm

/-- A step of an open cache keeps the balance, with the failure or the replacement that it brings. -/
theorem Balanced.step {failed replaced : Nat} (hm : m.Balanced failed replaced)
    (exclusive : m.Exclusive) (hroom : 0 < m.store.config.maxEntries) (w : Workshop W J V)
    (event : CacheEvent W J) (opened : (m.step w event).closed = false) :
    (m.step w event).Balanced
      (failed + (m.milestone? w event).toList.countP Milestone.isFailure)
      (replaced + (m.replaces event).toNat) := by
  cases hrecorded : m.recorded? event with
  | none =>
      have hreplaces : m.replaces event = false := by rw [replaces, hrecorded, Option.any_none]
      have open_before : m.closed = false := (step_move w m event).opened opened
      rw [hreplaces]
      exact (step_move w m event).balanced hm exclusive.guarded opened
        fun _ _ _ hf => made_kept w open_before hrecorded hf
  | some key =>
      obtain ⟨f, value, flight, -, hnone, hstep⟩ := step_of_recorded w hrecorded
      have hreplaces : m.replaces event = Keyed.has key m.store.entries := by
        rw [replaces, hrecorded, Option.any_some]
      have hunder : (m.setFlight f (.settled (.ok value))).underWay + 1 = m.underWay :=
        underWay_setFlight flight (.settled (.ok value))
      have hinsert := CacheStore.insert_balance exclusive.distinct hroom key value m.now
      rw [hnone, hstep, hreplaces]
      change (m.store.insert key value m.now).misses =
        (m.setFlight f (.settled (.ok value))).underWay + (failed + 0) +
          (replaced + (Keyed.has key m.store.entries).toNat) +
          (m.store.insert key value m.now).entries.length +
          (m.store.insert key value m.now).evictions
      rw [CacheStore.insert_misses, hm, ← hunder]
      omega

/-! ## Runs -/

theorem replacements_append (w : Workshop W J V) (m : CacheMachine W J V)
    (before after : List (CacheEvent W J)) :
    m.replacements w (before ++ after) =
      m.replacements w before + (m.run w before).replacements w after := by
  induction before generalizing m with
  | nil => exact (Nat.zero_add _).symm
  | cons event rest ih =>
      rw [List.cons_append, replacements, replacements, ih, Nat.add_assoc]
      rfl

/-- As long as a cache is open, whatever was done to it, its misses are accounted for. -/
theorem balanced_run (w : Workshop W J V) (config : CacheConfig) (hroom : 0 < config.maxEntries)
    (world : W) (events : List (CacheEvent W J)) :
    let m₀ : CacheMachine W J V := CacheMachine.start config world
    (m₀.run w events).closed = false →
      (m₀.run w events).Balanced ((m₀.log w events).countP Milestone.isFailure)
        (m₀.replacements w events) := by
  intro m₀
  induction events using List.reverseRecOn with
  | nil => exact fun _ => rfl
  | append_singleton before event ih =>
      intro opened
      rw [run_concat] at opened ⊢
      have open_before : (m₀.run w before).closed = false := (step_move w _ event).opened opened
      have hconfig := (bounded_run w config hroom world before).1
      have hbalanced := (ih open_before).step (exclusive_run w config world before)
        (hconfig ▸ hroom) w event opened
      rw [log_append, List.countP_append, replacements_append]
      simpa [log, replacements] using hbalanced

/-- As long as a cache is open, however it is used: it never holds more than it may, a value is
stored only where every entry of its key has expired, so that nothing takes the place of a live
entry, and no construction that was started is lost from the books. -/
theorem books_balance (w : Workshop W J V) (config : CacheConfig) (hroom : 0 < config.maxEntries)
    (world : W) (events : List (CacheEvent W J))
    (opened : ((CacheMachine.start config world : CacheMachine W J V).run w events).closed = false) :
    let m₀ : CacheMachine W J V := CacheMachine.start config world
    let m := m₀.run w events
    m.store.entries.length ≤ config.maxEntries ∧
      (∀ event key, m.recorded? event = some key →
        (∃ value, (m.step w event).store = m.store.insert key value m.now) ∧
          ∀ e, (key, e) ∈ m.store.entries → m.store.expired e m.now = true) ∧
      (∀ event key e e', (key, e) ∈ m.store.entries → m.store.expired e m.now = false →
        (key, e') ∈ (m.step w event).store.entries →
          e'.value = e.value ∧ e'.created = e.created) ∧
      m.store.misses = m.underWay + (m₀.log w events).countP Milestone.isFailure +
        m₀.replacements w events + m.store.entries.length + m.store.evictions := by
  intro m₀ m
  obtain ⟨hconfig, hbounded⟩ := bounded_run (J := J) (V := V) w config hroom world events
  have hreserved : m.Reserved := reserved_run w config world events
  refine ⟨hconfig ▸ hbounded, ?_, ?_, balanced_run w config hroom world events opened⟩
  · intro event key hrecorded
    obtain ⟨f, value, flight, -, -, hstep⟩ := step_of_recorded w hrecorded
    exact ⟨⟨value, by rw [hstep, setFlight]⟩, hreserved f key _ flight rfl⟩
  · intro event key e e' he live he'
    exact (step_move w m event).live_kept (exclusive_run w config world events) hreserved he live he'

/-- A workshop in which jobs come to themselves. -/
def foretold : Workshop Unit (FleetResult Nat) Nat where
  advance _ outcome world := (.finished outcome, world)

/-- A caller that comes in with the outcome of its job, and drives its flight to the end. -/
def visit (i : Nat) (key : CacheKey) (outcome : FleetResult Nat) :
    List (CacheEvent Unit (FleetResult Nat)) :=
  [.arrive key outcome, .look i, .join i, .poll i] ++ List.replicate 6 (.drive i)

/-- A value that is replaced after it expired, a failure, an eviction, and a construction that is
still under way. -/
def fiveMisses : List (CacheEvent Unit (FleetResult Nat)) :=
  let jane : CacheKey := ⟨"prod", "jane@example.com"⟩
  let omar : CacheKey := ⟨"prod", "omar@example.com"⟩
  visit 0 jane (.ok 1) ++ visit 1 omar (.error .closed) ++ [.pass 10] ++
    visit 2 jane (.ok 2) ++ visit 3 omar (.ok 3) ++ (visit 4 jane (.ok 4)).take 6

theorem books_balance_after_five_misses :
    let config : CacheConfig := { ttl := 10, maxEntries := 1 }
    let m₀ : CacheMachine Unit (FleetResult Nat) Nat := CacheMachine.start config ()
    let m := m₀.run foretold fiveMisses
    0 < config.maxEntries ∧ m.closed = false ∧ m.store.entries.length ≤ config.maxEntries ∧
      m.store.misses = m.underWay + (m₀.log foretold fiveMisses).countP Milestone.isFailure +
        m₀.replacements foretold fiveMisses + m.store.entries.length + m.store.evictions ∧
      m.store.misses = 5 ∧ m.underWay = 1 ∧ m₀.replacements foretold fiveMisses = 1 ∧
      m.store.evictions = 1 := by
  have opened : ((CacheMachine.start { ttl := 10, maxEntries := 1 } () :
      CacheMachine Unit (FleetResult Nat) Nat).run foretold fiveMisses).closed = false := by
    decide +kernel
  have hbooks := books_balance foretold _ Nat.one_pos () fiveMisses opened
  exact ⟨Nat.one_pos, opened, hbooks.1, hbooks.2.2.2, by decide +kernel, by decide +kernel,
    by decide +kernel, by decide +kernel⟩

end CacheMachine

end FleetGate
