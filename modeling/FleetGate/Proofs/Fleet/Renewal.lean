import FleetGate.Proofs.Cache.Renewal
import FleetGate.Proofs.Fleet.Callers
import FleetGate.Proofs.Identity.Normalization

/-! # Dropping kept clients

A client is kept under the cluster and the principal of the normalized identity that asked for it;
it is dropped under the cluster and the trimmed email of an identity that is not normalized. For
every identity that can be normalized these are the same (`trim_email_of_standsFor`). So whoever got
a client can drop it, by whatever else stands for the same principal, and only that one goes; and
the next call of the principal has a new one constructed (`dropped_after_resolve`).

Calls follow one another here: while one is carried out nobody else moves, though others may be
anywhere on their way. If one of them is in the middle of a step, its flight may have brought a
client already and still be registered. Who comes in then can get a client that is not kept, of
which there is nothing to drop (`nothing_left_to_drop`).
-/

namespace FleetGate

/-- What may happen while a call is carried out and nobody else moves. -/
def FederationEvent.Serves {σ : Type} (i : ℕ) : FederationEvent σ → Prop
  | .ask _ _ => False
  | .other event _ => event.Serves i

instance {σ : Type} (i : ℕ) : (event : FederationEvent σ) → Decidable (event.Serves i)
  | .ask _ _ => isFalse id
  | .other event _ => inferInstanceAs (Decidable (event.Serves i))

/-- An identity that comes in stands for somebody: it can be normalized, with this principal. -/
def RawIdentity.StandsFor (raw : RawIdentity) (principal : String) : Prop :=
  ∃ caller, raw.normalize = .ok caller ∧ caller.principal = principal

/-- The principal of an identity is its email, trimmed. -/
theorem RawIdentity.trim_email_of_standsFor {raw : RawIdentity} {principal : String}
    (h : raw.StandsFor principal) : Text.trim raw.email = principal := by
  obtain ⟨caller, hnormal, rfl⟩ := h
  obtain ⟨-, -, -, claims, -, -, rfl⟩ := normalize_eq_ok_iff.mp hnormal
  rfl

namespace Federation

open CacheMachine

variable {σ : Type} {b : Backend σ} {f : Federation σ} {mode : CredentialMode}
  {config : CacheConfig} {s : σ} {events own : List (FederationEvent σ)} {cluster : String}
  {caller : Identity} {raw : RawIdentity} {client : Client} {key k : CacheKey} {i : ℕ}

/-- The kept clients. -/
def keptClients (f : Federation σ) : List (CacheKey × CacheEntry Client) := f.clients.store.entries

/-- The next call of a federation, which asks for a client of a cluster, has a new one constructed
if it is carried out by itself. -/
structure Renews (b : Backend σ) (f : Federation σ) (cluster : String) (raw : RawIdentity)
    (key : CacheKey) : Prop where
  /-- It passes the checks, under the key. -/
  admitted : ∃ caller, f.screen cluster (some raw) = .ok caller ∧ keyOf cluster caller = key
  /-- Its first steps start a construction. -/
  starts : let i := f.clients.callers.length
    ∃ fl job, .started fl key job ∈ (f.step b (.ask cluster (some raw))).clients.log (f.workshop b)
      [.look i, .join i, .poll i, .drive i, .drive i]
  /-- Its answer is what a construction came to that was started for it, and was the only one. -/
  answered : ∀ own outcome, (∀ event ∈ own, event.Serves f.clients.callers.length) →
    let f₁ := f.step b (.ask cluster (some raw))
    (f₁.run b own).outcome? f.clients.callers.length = some outcome →
      (∃ fl job, .started fl key job ∈ f₁.clients.log (f.workshop b) (f₁.trace b own) ∧
        .ended fl key outcome ∈ f₁.clients.log (f.workshop b) (f₁.trace b own)) ∧
      (f₁.run b own).clients.store.misses = f.clients.store.misses + 1
  /-- However far it gets, what is kept under other keys stays as it is. -/
  others : ∀ own, (∀ event ∈ own, event.Serves f.clients.callers.length) →
    ∀ k e, k ≠ key →
      ((k, e) ∈ ((f.step b (.ask cluster (some raw))).run b own).keptClients ↔
        (k, e) ∈ f.keptClients)

/-! ## Runs in which one call is carried out -/

theorem trace_serves (h : ∀ event ∈ own, event.Serves i) :
    ∀ event ∈ f.trace b own, event.Serves i := by
  induction own generalizing f with
  | nil => exact fun _ hevent => absurd hevent List.not_mem_nil
  | cons event rest ih =>
      have hevent := h event List.mem_cons_self
      intro e he
      rcases List.mem_cons.mp he with rfl | he
      · cases event with
        | ask _ _ => exact hevent.elim
        | other _ _ => exact hevent
      · exact ih (fun e he => h e (List.mem_cons_of_mem _ he)) e he

/-- A run of a federation keeps the invariants of its clients. -/
theorem sound_clients (b : Backend σ) (mode : CredentialMode) (config : CacheConfig) (s : σ)
    (events : List (FederationEvent σ)) :
    let f := (start mode config s).run b events
    f.clients.Sound ∧ f.clients.Attended ∧
      f.clients.store.entries.length ≤ f.clients.store.capacity := by
  intro f
  have hf : f.clients = (CacheMachine.start config s).run ((start mode config s).workshop b)
      ((start mode config s).trace b events) := run_clients b _ events
  rw [hf]
  exact ⟨sound_run _ config s _, attended_run _ config s _, within_run _ config s _⟩

/-! ## Calls that come in -/

/-- A call that passes the checks comes in as the next caller, and all else stays as it is. -/
structure Entered (f f₁ : Federation σ) (key : CacheKey) (job : Construction) : Prop where
  sound : f₁.clients.Sound
  opened : f₁.clients.closed = false
  caller : f₁.clients.CallerAt f.clients.callers.length key (.looking job)
  store : f₁.clients.store = f.clients.store
  registered : f₁.clients.registered = f.clients.registered
  flights : f₁.clients.flights = f.clients.flights

theorem step_ask_entered (hm : f.clients.Sound)
    (hscreen : f.screen cluster (some raw) = .ok caller) :
    Entered f (f.step b (.ask cluster (some raw))) (keyOf cluster caller)
      ⟨cluster, caller, .ordered⟩ := by
  have opened : f.isClosed = false := (screen_eq_ok_iff.mp hscreen).1
  have hclients : (f.step b (.ask cluster (some raw))).clients = f.clients.step (f.workshop b)
      (.arrive (keyOf cluster caller) ⟨cluster, caller, .ordered⟩) := by
    rw [step_ask hscreen]
  constructor
  case caller => exact callerAt_step_ask hscreen
  case sound => exact hclients ▸ hm.move (step_move _ _ _)
  case opened => exact hclients ▸ opened
  all_goals
    rw [hclients]
    rfl

namespace Entered

variable {f₁ : Federation σ} {job : Construction}

theorem holds_iff (h : Entered f f₁ key job) : f₁.clients.Holds k ↔ f.clients.Holds k := by
  rw [Holds, Holds, h.store]

theorem untried (h : Entered f f₁ key job) (hu : f.clients.Untried k) : f₁.clients.Untried k := by
  simpa only [Untried, FlightAt, h.registered, h.flights] using hu

theorem unsettled_iff (h : Entered f f₁ key job) :
    f₁.clients.Unsettled k ↔ f.clients.Unsettled k := by
  simp only [Unsettled, FlightAt, h.registered, h.flights]

end Entered

/-! ## The next call -/

/-- Where nothing is kept under a key nor tried, and there is room, the next call has a new client
constructed. -/
theorem renews_of_cleared (hm : f.clients.Sound)
    (hclear : f.clients.Cleared (keyOf cluster caller))
    (hscreen : f.screen cluster (some raw) = .ok caller) :
    Renews b f cluster raw (keyOf cluster caller) := by
  let i := f.clients.callers.length
  let f₁ := f.step b (.ask cluster (some raw))
  have entered : Entered f f₁ (keyOf cluster caller) ⟨cluster, caller, .ordered⟩ :=
    step_ask_entered hm hscreen
  have hgone₁ : ¬ f₁.clients.Holds (keyOf cluster caller) :=
    entered.holds_iff.not.mpr hclear.gone
  have hu₁ : f₁.clients.Untried (keyOf cluster caller) := entered.untried hclear.untried
  have hrun (own : List (FederationEvent σ)) (hown : ∀ event ∈ own, event.Serves i) :
      ∃ q, (f₁.run b own).clients.CallerAt i (keyOf cluster caller) q ∧
        f₁.clients.Renewing (f₁.run b own).clients
          (f₁.clients.log (f.workshop b) (f₁.trace b own)) (keyOf cluster caller) q := by
    rw [run_clients]
    exact renewing_run _ entered.sound entered.opened hgone₁ hu₁ entered.caller (trace_serves hown)
  constructor
  case admitted => exact ⟨caller, hscreen, rfl⟩
  case starts => exact started_of_untried _ entered.opened hgone₁ hu₁ entered.caller
  case answered =>
    intro own outcome hown _ houtcome
    obtain ⟨q, hq, hrenewing⟩ := hrun own hown
    obtain rfl := returned_of_outcome? hq houtcome
    obtain ⟨hconstructed, now, hrebuilt⟩ := hrenewing
    refine ⟨hconstructed, ?_⟩
    rw [hrebuilt, CacheStore.rebuilt_misses, entered.store]
  case others =>
    intro own hown k e hk
    obtain ⟨q, -, hrenewing⟩ := hrun own hown
    have hothers := hrenewing.others (e := e) (by rw [entered.store]; exact hclear.room) hk
    rw [entered.store] at hothers
    exact hothers

/-! ## Calls in a row -/

/-- What a call leaves under its key that is carried out by itself and gets a client. -/
structure Answered (f f₁ : Federation σ) (key : CacheKey) : Prop where
  opened : f₁.isClosed = false
  /-- A client is kept exactly if one was or no registered flight of the key had its outcome. -/
  holds_iff : f₁.clients.Holds key ↔ f.clients.Holds key ∨ f.clients.Unsettled key
  /-- Then there is no flight either that was tried. -/
  untried : f.clients.Unsettled key → f₁.clients.Untried key

theorem answered_of_outcome? (hm : f.clients.Sound)
    (hscreen : f.screen cluster (some raw) = .ok caller)
    (hown : ∀ event ∈ own, event.Serves f.clients.callers.length)
    (hanswer : ((f.step b (.ask cluster (some raw))).run b own).outcome? f.clients.callers.length =
      some (.ok client)) :
    Answered f ((f.step b (.ask cluster (some raw))).run b own) (keyOf cluster caller) := by
  let f₁ := f.step b (.ask cluster (some raw))
  have entered : Entered f f₁ (keyOf cluster caller) ⟨cluster, caller, .ordered⟩ :=
    step_ask_entered hm hscreen
  -- what happens to the clients happens to this caller alone
  have hserves := trace_serves (b := b) (f := f₁) hown
  have hrun : (f₁.run b own).clients = f₁.clients.run (f₁.workshop b) (f₁.trace b own) :=
    run_clients b f₁ own
  obtain ⟨q, hq⟩ := caller_run (f₁.workshop b) entered.caller (f₁.trace b own)
  obtain rfl := returned_of_outcome? (hrun ▸ hq) hanswer
  have hclosed := solo_closed (w := f₁.workshop b) entered.sound entered.caller hserves
  have hholds := holds_run_iff (w := f₁.workshop b) entered.sound entered.caller hserves hq
  have hhanded (hu : f.clients.Unsettled (keyOf cluster caller)) :=
    handed_run (w := f₁.workshop b) entered.sound (entered.unsettled_iff.mpr hu) entered.caller
      hserves hq
  rw [← hrun] at hclosed hholds hhanded
  exact {
    opened := hclosed.trans entered.opened
    holds_iff := hholds.trans (or_congr entered.holds_iff entered.unsettled_iff)
    untried := fun hu => (hhanded hu).2 }

/-! ## Dropping what an identity stands for -/

/-- Dropping what an identity stands for drops the key of its principal. -/
theorem invalidate_of_standsFor (h : raw.StandsFor caller.principal) :
    invalidate cluster raw f =
      ((f.clients.invalidate (keyOf cluster caller)).1,
        { f with clients := (f.clients.invalidate (keyOf cluster caller)).2 }) := by
  rw [invalidate, RawIdentity.trim_email_of_standsFor h]
  rfl

/-- It tells that there was a client exactly if one was kept under the key. -/
theorem invalidate_eq_true_iff (h : raw.StandsFor caller.principal) :
    (invalidate cluster raw f).1 = true ↔ f.clients.Holds (keyOf cluster caller) := by
  rw [invalidate_of_standsFor h]
  exact CacheStore.invalidate_fst

/-- Only what is kept under the key goes. -/
theorem mem_keptClients_invalidate (h : raw.StandsFor caller.principal)
    (k : CacheKey) (e : CacheEntry Client) :
    (k, e) ∈ (invalidate cluster raw f).2.keptClients ↔
      (k, e) ∈ f.keptClients ∧ k ≠ keyOf cluster caller := by
  rw [invalidate_of_standsFor h, keptClients, keptClients, CacheMachine.invalidate,
    CacheStore.invalidate_entries, Keyed.erase, List.mem_filter, decide_eq_true_eq]

/-- After a client is dropped under a key where nothing is tried, the next call of the principal has
a new one constructed. -/
theorem renews_of_dropped {next : RawIdentity} (hm : f.clients.Sound)
    (hwithin : f.clients.store.entries.length ≤ f.clients.store.capacity)
    (hheld : f.clients.Holds (keyOf cluster caller))
    (hu : f.clients.Untried (keyOf cluster caller)) (opened : f.isClosed = false)
    (hcluster : cluster.isEmpty = true ∨ Validation.clusterName cluster = .ok ())
    (hraw : raw.StandsFor caller.principal) (hnext : next.StandsFor caller.principal) :
    Renews b (invalidate cluster raw f).2 cluster next (keyOf cluster caller) := by
  obtain ⟨-, hclear⟩ := hheld.cleared hu hm hwithin
  obtain ⟨caller', hnormal, hprincipal⟩ := hnext
  have hkey : keyOf cluster caller' = keyOf cluster caller := by rw [keyOf, hprincipal, keyOf]
  rw [invalidate_of_standsFor hraw]
  rw [← hkey] at hclear ⊢
  exact renews_of_cleared (hm.invalidate (f.workshop b) _) hclear
    (screen_eq_ok_iff.mpr ⟨opened, next, rfl, hnormal, hcluster⟩)

/-- Whatever was done to a federation, dropping what an identity stands for leaves every client that
is kept for anybody else or for another cluster. After a call that is carried out by itself and gets
a client, whatever stands for the same principal drops it exactly if it is kept: if one was kept
when the call came in, or no flight under the key had its outcome and was still registered. In the
second case, which is that of every call that comes in while nobody is in the middle of a step, the
next call of the principal has a new client constructed, and others stay as they are all the while.
Dropping a cluster drops what is kept for it, whoever it belongs to, and tells how much that was. -/
theorem dropped_after_resolve (b : Backend σ) (mode : CredentialMode) (config : CacheConfig) (s : σ)
    (before : List (FederationEvent σ)) :
    let f := (start mode config s).run b before
    (f.clients.Paused → ∀ key, f.clients.Unsettled key) ∧
    (∀ cluster raw caller own client, f.isClosed = false → raw.normalize = .ok caller →
      (cluster.isEmpty = true ∨ Validation.clusterName cluster = .ok ()) →
      (∀ event ∈ own, event.Serves f.clients.callers.length) →
      let key := keyOf cluster caller
      let f₁ := (f.step b (.ask cluster (some raw))).run b own
      f₁.outcome? f.clients.callers.length = some (.ok client) →
        ∀ raw' : RawIdentity, raw'.StandsFor caller.principal →
          ((invalidate cluster raw' f₁).1 = true ↔
            f.clients.Holds key ∨ f.clients.Unsettled key) ∧
          (∀ k e, (k, e) ∈ (invalidate cluster raw' f₁).2.keptClients ↔
            (k, e) ∈ f₁.keptClients ∧ k ≠ key) ∧
          (f.clients.Unsettled key → ∀ next : RawIdentity, next.StandsFor caller.principal →
            Renews b (invalidate cluster raw' f₁).2 cluster next key)) ∧
    ∀ cluster,
      (∀ k e, (k, e) ∈ (invalidateCluster cluster f).2.keptClients ↔
        (k, e) ∈ f.keptClients ∧ k.cluster ≠ cluster) ∧
      (invalidateCluster cluster f).1 = f.keptClients.countP fun p => p.1.cluster = cluster := by
  intro f
  obtain ⟨hm, hattended, -⟩ := sound_clients b mode config s before
  refine ⟨fun hpaused key => hpaused.unsettled hattended, ?_, fun cluster => ?_⟩
  · intro cluster raw caller own client opened hnormal hcluster hown key f₁ hanswer raw' hraw'
    have hscreen : f.screen cluster (some raw) = .ok caller :=
      screen_eq_ok_iff.mpr ⟨opened, raw, rfl, hnormal, hcluster⟩
    have answered : Answered f f₁ key := answered_of_outcome? hm hscreen hown hanswer
    -- the call belongs to a longer run
    have hrun : f₁ = (start mode config s).run b (before ++ .ask cluster (some raw) :: own) :=
      (run_append b _ before (.ask cluster (some raw) :: own)).symm
    obtain ⟨hm₁, -, hwithin₁⟩ :=
      sound_clients b mode config s (before ++ .ask cluster (some raw) :: own)
    rw [← hrun] at hm₁ hwithin₁
    refine ⟨(invalidate_eq_true_iff hraw').trans answered.holds_iff,
      mem_keptClients_invalidate hraw', fun hu next hnext => ?_⟩
    exact renews_of_dropped hm₁ hwithin₁ (answered.holds_iff.mpr (Or.inr hu)) (answered.untried hu)
      answered.opened hcluster hraw' hnext
  · exact f.clients.store.invalidateCluster_eq cluster

/-- Jane's client goes by an email with white space around it, while Joe's call waits for its turn.
-/
theorem janes_client_dropped :
    let b := InMemoryFleet.backend
    let joe : RawIdentity := { email := "joe@example.com" }
    let jane : RawIdentity := { email := "jane@example.com", groups := ["dev"] }
    let padded : RawIdentity := { email := "\u2003jane@example.com\n", groups := ["ops"] }
    let f := (start .user {} ({} : InMemoryFleet)).run b
      [.ask "" (some joe), .other (.look 0) rfl, .other (.join 0) rfl]
    let own : List (FederationEvent InMemoryFleet) :=
      [.other (.look 1) rfl, .other (.join 1) rfl, .other (.poll 1) rfl] ++
        List.replicate 7 (.other (.drive 1) rfl)
    let f₁ := (f.step b (.ask "" (some jane))).run b own
    f₁.outcome? f.clients.callers.length =
        some (.ok (.management ⟨"jane@example.com", ["dev"], []⟩)) ∧
      (invalidate "" padded f₁).1 = true ∧
      Renews b (invalidate "" padded f₁).2 "" jane ⟨"", "jane@example.com"⟩ := by
  intro b joe jane padded f own f₁
  have hpaused : f.clients.Paused := by decide +kernel
  have opened : f.isClosed = false := by decide +kernel
  have hjane : jane.normalize = .ok ⟨"jane@example.com", ["dev"], []⟩ := by decide +kernel
  have hpadded : padded.normalize = .ok ⟨"jane@example.com", ["ops"], []⟩ := by decide +kernel
  have hserves : ∀ event ∈ own, event.Serves f.clients.callers.length := by decide +kernel
  have hanswer : f₁.outcome? f.clients.callers.length =
      some (.ok (.management ⟨"jane@example.com", ["dev"], []⟩)) := by decide +kernel
  obtain ⟨hunsettled, hdropped, -⟩ := dropped_after_resolve b .user {} ({} : InMemoryFleet)
    [.ask "" (some joe), .other (.look 0) rfl, .other (.join 0) rfl]
  obtain ⟨hremoved, -, hrenews⟩ := hdropped "" jane _ own _ opened hjane (Or.inl rfl) hserves
    hanswer padded ⟨_, hpadded, rfl⟩
  have hu := hunsettled hpaused ⟨"", "jane@example.com"⟩
  exact ⟨hanswer, hremoved.mpr (Or.inr hu), hrenews hu jane ⟨_, hjane, rfl⟩⟩

/-- Jane's first flight has stored its client and is about to leave the register when somebody drops
the client. Her second call gets it from the flight all the same, so nothing of it is kept and there
is nothing to drop. Nor is there where a client was kept but has expired and was swept away. -/
theorem nothing_left_to_drop :
    let b := InMemoryFleet.backend
    let jane : RawIdentity := { email := "jane@example.com", groups := ["dev"] }
    let client : Client := .management ⟨"jane@example.com", ["dev"], []⟩
    let first : List (FederationEvent InMemoryFleet) :=
      [.ask "" (some jane), .other (.look 0) rfl, .other (.join 0) rfl, .other (.poll 0) rfl] ++
        List.replicate 5 (.other (.drive 0) rfl)
    let f₀ := (start .user {} ({} : InMemoryFleet)).run b first
    let f := f₀.step b (.other (.invalidate ⟨"", "jane@example.com"⟩) rfl)
    let own : List (FederationEvent InMemoryFleet) :=
      [.other (.look 1) rfl, .other (.join 1) rfl, .other (.poll 1) rfl,
        .other (.drive 1) rfl, .other (.drive 1) rfl]
    let f₁ := (f.step b (.ask "" (some jane))).run b own
    let g := f₀.run b [.other (.drive 0) rfl, .other (.drive 0) rfl]
    let g₁ := g.run b [.other (.pass 700000) rfl, .other .sweep rfl]
    jane.normalize = .ok ⟨"jane@example.com", ["dev"], []⟩ ∧
      (f.isClosed = false ∧ (∀ event ∈ own, event.Serves f.clients.callers.length) ∧
        f₁.outcome? f.clients.callers.length = some (.ok client) ∧
        (invalidate "" jane f₁).1 = false) ∧
      g.outcome? 0 = some (.ok client) ∧ (invalidate "" jane g₁).1 = false := by
  decide +kernel

end Federation

end FleetGate
