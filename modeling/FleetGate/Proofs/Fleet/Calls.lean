import FleetGate.Proofs.Fleet.Operations

/-! # The calls of a federation

What can be asked of a federation by a caller, each call with the type of its answer. Calls come in
between events of other kinds, in any order; whatever is done, it is a run of events
(`after_run`), so what holds after every run holds after calls and events in any order.
-/

namespace FleetGate

/-- A call on a federation, with the type of its answer. -/
inductive FederationCall : Type → Type where
  | resolve (cluster : String) : FederationCall Client
  /-- A client is asked for and not waited for. -/
  | order (cluster : String) : FederationCall Nat
  | clusters (filter : ClusterFilter) : FederationCall (List ClusterSummary)
  | summary (name : String) : FederationCall ClusterSummary
  | checkAccess (cluster : String) (check : AccessCheck) : FederationCall AccessVerdict
  | requireAccess (cluster : String) (check : AccessCheck) : FederationCall Unit

namespace FederationCall

variable {σ α : Type}

/-- Makes a call as somebody. -/
def make (b : Backend σ) (identity? : Option RawIdentity) :
    {α : Type} → FederationCall α → FederationM σ α
  | _, .resolve cluster => Federation.resolve b cluster identity?
  | _, .order cluster => Federation.order b cluster identity?
  | _, .clusters filter => Federation.clusters b identity? filter
  | _, .summary name => Federation.cluster b name identity?
  | _, .checkAccess cluster check => Federation.checkAccess b cluster identity? check
  | _, .requireAccess cluster check => Federation.requireAccess b cluster identity? check

/-- The cluster that a call names, the management cluster having the empty name. -/
def target : FederationCall α → String
  | .resolve cluster | .order cluster => cluster
  | .clusters _ => ""
  | .summary name => name
  | .checkAccess cluster _ | .requireAccess cluster _ => cluster

/-- The check that a call makes. -/
def check? : FederationCall α → Option AccessCheck
  | .checkAccess _ check | .requireAccess _ check => some check
  | _ => none

/-- A call is a run in which nobody comes in but its caller. -/
theorem make_does (b : Backend σ) (identity? : Option RawIdentity) (call : FederationCall α)
    (f : Federation σ) :
    ∃ cluster, Federation.Does b [(cluster, identity?)] f (call.make b identity? f).2 := by
  cases call with
  | resolve cluster => exact ⟨cluster, Federation.resolve_does b cluster identity? f⟩
  | order cluster => exact ⟨cluster, Federation.order_does b cluster identity? f⟩
  | clusters filter => exact ⟨"", Federation.clusters_does b identity? filter f⟩
  | summary name => exact ⟨"", Federation.cluster_does b name identity? f⟩
  | checkAccess cluster check =>
      exact ⟨cluster, Federation.checkAccess_does b cluster identity? check f⟩
  | requireAccess cluster check =>
      exact ⟨cluster, Federation.requireAccess_does b cluster identity? check f⟩

end FederationCall

/-- Something done with a federation: an event, or a call from its beginning to its end. -/
inductive FederationAct (σ : Type) where
  | event (e : FederationEvent σ)
  | call {α : Type} (c : FederationCall α) (identity? : Option RawIdentity)

namespace Federation

variable {σ : Type} {b : Backend σ} {f : Federation σ}

/-- One act. -/
def act (b : Backend σ) (f : Federation σ) : FederationAct σ → Federation σ
  | .event e => f.step b e
  | .call c identity? => (c.make b identity? f).2

/-- The federation after acts in order. -/
def after (b : Backend σ) (f : Federation σ) (acts : List (FederationAct σ)) : Federation σ :=
  acts.foldl (act b) f

theorem act_run (b : Backend σ) (f : Federation σ) (a : FederationAct σ) :
    ∃ events, f.act b a = f.run b events := by
  cases a with
  | event e => exact ⟨[e], rfl⟩
  | call c identity? =>
      obtain ⟨cluster, events, hrun, -⟩ := c.make_does b identity? f
      exact ⟨events, hrun.symm⟩

/-- Whatever is done with a federation, it is a run of events. -/
theorem after_run (b : Backend σ) (f : Federation σ) (acts : List (FederationAct σ)) :
    ∃ events, f.after b acts = f.run b events := by
  induction acts generalizing f with
  | nil => exact ⟨[], rfl⟩
  | cons a rest ih =>
      obtain ⟨first, hfirst⟩ := act_run b f a
      obtain ⟨others, hothers⟩ := ih (f.act b a)
      refine ⟨first ++ others, ?_⟩
      rw [run_append, ← hfirst, ← hothers]
      rfl

end Federation

end FleetGate
