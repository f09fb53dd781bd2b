import FleetGate.Cache.Schedule
import FleetGate.Fleet.Access
import FleetGate.Fleet.Construction
import FleetGate.Fleet.Discovery

/-!
# The federation

Many clusters behind one door. The federation hands out clients that impersonate the caller, keeps
them by cluster and principal, and answers what the caller may know: which clusters there are, and
what is allowed on them.

Every call first passes the same checks in the same order: the federation is open, there is an
identity, the identity can be normalized, and the cluster's name, unless it is empty for the
management cluster, is well formed. Nothing is sent anywhere before that.
-/

namespace FleetGate

/-- The clients of many clusters, over a backend with a state of type `σ`. -/
structure Federation (σ : Type) where
  mode : CredentialMode
  clients : CacheMachine σ Construction Client

/-- Something done with a federation: it may fail, and what it did until then stays. -/
abbrev FederationM (σ : Type) := ExceptT FleetError (StateM (Federation σ))

namespace Federation

variable {σ : Type}

/-- A federation that was just made. -/
def start (mode : CredentialMode) (config : CacheConfig) (s : σ) : Federation σ :=
  ⟨mode, .start config s⟩

/-- Whether closing was signalled. -/
def isClosed (f : Federation σ) : Bool := f.clients.closed

/-- The display form. -/
def shown (f : Federation σ) : String :=
  let mode := match f.mode with
    | .user => "User"
    | .privileged => "Privileged"
  let closed := if f.isClosed then "true" else "false"
  "FederationManager \x7b credential_mode: " ++ mode ++ ", closed: " ++ closed ++ ", .. \x7d"

/-- What the clients of a federation are built by. -/
def workshop (b : Backend σ) (f : Federation σ) : Workshop σ Construction Client :=
  Construction.workshop b f.mode

/-! ## Checks -/

/-- An identity check that failed, as a failure of the call. -/
def checked {α : Type} : Except IdentityError α → FleetResult α
  | .ok a => .ok a
  | .error e => .error (.identity e)

/-- The checks of every call. The outcome is the normalized identity. -/
def screen (f : Federation σ) (cluster : String) (identity? : Option RawIdentity) :
    FleetResult Identity := do
  if f.isClosed then throw .closed
  match identity? with
  | none => throw .userRequired
  | some raw =>
    let caller ← checked raw.normalize
    if !cluster.isEmpty then checked (Validation.clusterName cluster)
    return caller

/-- The checks of every call, as a step. -/
def screened (cluster : String) (identity? : Option RawIdentity) : FederationM σ Identity :=
  fun f => pure (f.screen cluster identity?, f)

/-! ## Clients -/

/-- What the client of a caller is kept under. -/
def keyOf (cluster : String) (caller : Identity) : CacheKey := ⟨cluster, caller.principal⟩

/-- The client of a caller who passed the checks: the one that is kept, or a new one. -/
def clientFor (b : Backend σ) (cluster : String) (caller : Identity) : FederationM σ Client :=
  fun f =>
    let job : Construction := ⟨cluster, caller, .ordered⟩
    let (outcome, clients) := f.clients.get (f.workshop b) (keyOf cluster caller) job
    pure (outcome, { f with clients })

/-- A client for a cluster that impersonates the caller. -/
def resolve (b : Backend σ) (cluster : String) (identity? : Option RawIdentity) :
    FederationM σ Client := do
  let caller ← screened cluster identity?
  clientFor b cluster caller

/-- A call that asks for a client without waiting for it. The outcome is the number under which
`outcome?` tells about it. -/
def order (b : Backend σ) (cluster : String) (identity? : Option RawIdentity) :
    FederationM σ Nat := do
  let caller ← screened cluster identity?
  fun f =>
    let job : Construction := ⟨cluster, caller, .ordered⟩
    let clients := (f.clients.arrive (keyOf cluster caller) job).settle (f.workshop b)
    pure (.ok f.clients.callers.length, { f with clients })

/-- The outcome of a call that was ordered, once there is one. -/
def outcome? (f : Federation σ) (order : Nat) : Option (FleetResult Client) :=
  f.clients.answer? order

/-- The outcomes of requests: of those that were turned away the failure, of the others the answers
in order. -/
def outcomes {α β : Type} : List (FleetResult α) → List (FleetResult β) → List (FleetResult β)
  | [], _ => []
  | .error e :: rest, answers => .error e :: outcomes rest answers
  | .ok _ :: rest, answer :: answers => answer :: outcomes rest answers
  | .ok _ :: rest, [] => .error .closed :: outcomes rest []

/-- Clients for several callers, all asked for at once. -/
def resolveAll (b : Backend σ) (requests : List (String × Option RawIdentity))
    (f : Federation σ) : List (FleetResult Client) × Federation σ :=
  let orders := requests.map fun r =>
    (f.screen r.1 r.2).map fun caller =>
      (keyOf r.1 caller, (⟨r.1, caller, .ordered⟩ : Construction))
  let (answers, clients) := f.clients.getAll (f.workshop b) (orders.filterMap Except.toOption)
  (outcomes orders answers, { f with clients })

/-- An attempt on the state of the backend. -/
def attempt {α : Type} (act : Attempt σ α) : FederationM σ (Except ClusterError α) := fun f =>
  let (outcome, s) := act f.clients.world
  pure (.ok outcome, { f with clients := { f.clients with world := s } })

/-- A call through a client. -/
def call {α : Type} (b : Backend σ) (client : Client) (c : ClusterCall α) :
    FederationM σ (Except ClusterError α) :=
  attempt (b.call client c)

/-! ## Finding clusters -/

/-- What the failure of a listing means. -/
def listFailure : ClusterError → FleetError
  | .notInstalled _ => .clusterApiMissing
  | e => .discovery e.message

/-- The outcome of a listing. -/
def listed {α : Type} : Except ClusterError α → FederationM σ α
  | .ok a => pure a
  | .error e => throw (listFailure e)

/-- The clusters that the caller can see on the management cluster, narrowed by a filter. -/
def clusters (b : Backend σ) (identity? : Option RawIdentity) (filter : ClusterFilter) :
    FederationM σ (List ClusterSummary) := do
  let caller ← screened "" identity?
  let client ← clientFor b "" caller
  let objects ← listed (← attempt (b.listAll client .cluster))
  match filter.apply (objects.map ClusterSummary.ofObject) with
  | .ok found => pure found
  | .error e => throw e

/-- The cluster of exactly this name. -/
def cluster (b : Backend σ) (name : String) (identity? : Option RawIdentity) :
    FederationM σ ClusterSummary := do
  let caller ← screened name identity?
  if name.isEmpty then
    throw (.identity (.invalidClusterName (.of "cluster name" name "must not be empty")))
  let client ← clientFor b "" caller
  let page ← listed (← call b client (.list .cluster none (Construction.searchOptions name)))
  match Construction.named? name page.items with
  | some o => pure (.ofObject o)
  | none => throw (Construction.absent name)

/-! ## Access -/

/-- Asks a cluster whether the caller may do something, through the client that would do it. -/
def checkAccess (b : Backend σ) (cluster : String) (identity? : Option RawIdentity)
    (check : AccessCheck) : FederationM σ AccessVerdict := do
  let caller ← screened cluster identity?
  let _ ← (check.validate : FleetResult Unit)
  let client ← tryCatch (clientFor b cluster caller) fun e =>
    throw (.accessCheckFailed cluster ("failed to get cluster client: " ++ e.message))
  match ← call b client (.review check.review) with
  | .ok verdict => pure verdict
  | .error e =>
    throw (.accessCheckFailed cluster ("SelfSubjectAccessReview API call failed: " ++ e.message))

/-- Asks a cluster whether the caller may do something, and fails if not. -/
def requireAccess (b : Backend σ) (cluster : String) (identity? : Option RawIdentity)
    (check : AccessCheck) : FederationM σ Unit := do
  let verdict ← checkAccess b cluster identity? check
  if verdict.allowed then pure ()
  else throw (.accessDenied cluster check.verb check.target check.ns verdict.reason)

/-! ## The kept clients -/

/-- Drops the client that is kept for a cluster and a caller, and tells whether there was one. -/
def invalidate (cluster : String) (raw : RawIdentity) (f : Federation σ) : Bool × Federation σ :=
  let (removed, clients) := f.clients.invalidate ⟨cluster, Text.trim raw.email⟩
  (removed, { f with clients })

/-- Drops the clients that are kept for a cluster, and tells how many there were. -/
def invalidateCluster (cluster : String) (f : Federation σ) : Nat × Federation σ :=
  let (removed, clients) := f.clients.invalidateCluster cluster
  (removed, { f with clients })

/-- Lets everything that was ordered go on as far as it can at the present time. -/
def settle (b : Backend σ) (f : Federation σ) : Federation σ :=
  { f with clients := f.clients.settle (f.workshop b) }

/-- Lets time pass in one go. -/
def elapse (b : Backend σ) (milliseconds : Nat) (f : Federation σ) : Federation σ :=
  { f with clients := f.clients.elapse (f.workshop b) milliseconds }

/-- Lets go of every client. Whatever is asked later fails. -/
def close (b : Backend σ) (f : Federation σ) : Federation σ :=
  { f with clients := f.clients.shutDown (f.workshop b) }

/-- What is told about the kept clients, times in whole seconds. -/
def statsJson (f : Federation σ) : Json :=
  let s := f.clients.store.stats f.clients.now
  let seconds (ms : Nat) : Json := .int ((ms / 1000 : Nat) : Int)
  let age : Option Nat → Json
    | some ms => seconds ms
    | none => .null
  .ofMembers [
    ("cacheSize", .int s.size), ("hits", .int s.hits), ("misses", .int s.misses),
    ("evictions", .int s.evictions), ("maxEntries", .int s.maxEntries), ("ttl", seconds s.ttl),
    ("oldestEntry", age s.oldest?), ("newestEntry", age s.newest?), ("closed", .bool f.isClosed)]

end Federation

end FleetGate
