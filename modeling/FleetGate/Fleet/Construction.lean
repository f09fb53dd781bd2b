import FleetGate.Cache.Machine
import FleetGate.CredentialMode
import FleetGate.Fleet.Backend
import FleetGate.Identity.Pseudonym

/-!
# The construction of a client

A client for the management cluster is built at once. One for a workload cluster is built in stages:
the cluster is searched for on the management cluster, the kubeconfig is read from its secret, and
with that the client is built. `Construction.advance` is one stage. Only building takes time.

Every failure is sorted where it happens. A cluster that turns the caller down is told apart from
one that is not found, has no usable kubeconfig or cannot be reached.
-/

namespace FleetGate

/-- How far the construction of a client got. -/
inductive ConstructionStage where
  | ordered
  /-- A client for the management cluster is built and will be ready at a time. -/
  | opening (ready : Nat)
  /-- The cluster is searched for through a client. -/
  | searching (via : Client)
  /-- The kubeconfig is read through a client, from a namespace. -/
  | reading (via : Client) (ns : String)
  | configured (kubeconfig : Kubeconfig)
  /-- The client is built and will be ready at a time. -/
  | connecting (kubeconfig : Kubeconfig) (ready : Nat)
  deriving DecidableEq

/-- The construction of a client: for which cluster, as whom, and how far it got. The management
cluster has the empty name. -/
structure Construction where
  cluster : String
  caller : Identity
  stage : ConstructionStage := .ordered
  deriving DecidableEq

namespace Construction

/-- The name of the secret with the kubeconfig of a cluster. -/
def secretName (cluster : String) : String := cluster ++ "-kubeconfig"

/-- The keys of the secret that may hold the kubeconfig, the preferred one first. -/
def secretKeys : List String := ["value", "kubeconfig"]

/-- What is asked of the management cluster to find a cluster by its name. -/
def searchOptions (cluster : String) : ListOptions where
  fieldSelector? := some ("metadata.name=" ++ cluster)
  allNamespaces := true

/-- The failure of a cluster that is not there. -/
def absent (cluster : String) : FleetError :=
  .clusterNotFound cluster "no CAPI Cluster resource found with this name"

/-- What the failure to build a client means. -/
def buildFailure (cluster : String) (caller : Identity) : ClusterError → FleetError
  | .forbidden detail => .impersonation cluster (pseudonym caller.email) detail
  | .kubeconfig detail => .kubeconfig cluster detail
  | e => .connection cluster e.message

/-- What the failure to search for a cluster means. -/
def searchFailure (cluster : String) : ClusterError → FleetError
  | .notInstalled _ => .clusterApiMissing
  | e => .clusterNotFound cluster ("failed to query CAPI clusters: " ++ e.message)

/-- What the failure to read the secret of a cluster means. -/
def secretFailure (cluster : String) (caller : Identity) : ClusterError → FleetError
  | .forbidden detail => .impersonation cluster (pseudonym caller.email) detail
  | e => .kubeconfig cluster ("failed to fetch secret " ++ secretName cluster ++ ": " ++ e.message)

/-- The object of exactly this name. -/
def named? (cluster : String) (objects : List Object) : Option Object :=
  objects.find? fun o => o.metadata.name? = some cluster

/-- The kubeconfig in the data of a secret: the first that is not empty, if it is text. -/
def kubeconfigOf (cluster : String) (data : SecretData) : FleetResult Kubeconfig :=
  let present := secretKeys.filterMap fun key =>
    (Keyed.get? key data).filter fun bytes => !bytes.isEmpty
  match present.head? with
  | none =>
    .error (.kubeconfig cluster ("secret " ++ secretName cluster ++ " has no kubeconfig data"))
  | some bytes =>
    match Kubeconfig.ofBytes? bytes with
    | some kubeconfig => .ok kubeconfig
    | none =>
      .error (.kubeconfig cluster
        ("secret " ++ secretName cluster ++ " holds non-UTF-8 kubeconfig data"))

variable {σ : Type}

/-- The construction at another stage. -/
def movedTo (c : Construction) (stage : ConstructionStage) : Construction :=
  { c with stage }

/-- One stage of a construction. A named cluster is looked up with the service's own client if the
mode says so and there is one, and with the caller's otherwise. -/
def advance (b : Backend σ) (mode : CredentialMode) (now : Nat) (c : Construction) (s : σ) :
    Progress Construction Client × σ :=
  match c.stage with
  | .ordered =>
    if c.cluster ≠ "" ∧ mode = .privileged ∧ b.hasService s then
      (.working (c.movedTo (.searching .service)), s)
    else
      let (delay, s) := b.startBuild (.management c.caller) s
      (.working (c.movedTo (.opening (now + delay))), s)
  | .opening ready =>
    if now < ready then (.waiting c (some ready), s)
    else
      match b.endBuild (.management c.caller) s with
      | (.error e, s) => (.finished (.error (buildFailure "" c.caller e)), s)
      | (.ok (), s) =>
        if c.cluster = "" then (.finished (.ok (.management c.caller)), s)
        else (.working (c.movedTo (.searching (.management c.caller))), s)
  | .searching via =>
    match b.call via (.list .cluster none (searchOptions c.cluster)) s with
    | (.error e, s) => (.finished (.error (searchFailure c.cluster e)), s)
    | (.ok page, s) =>
      match named? c.cluster page.items with
      | none => (.finished (.error (absent c.cluster)), s)
      | some o => (.working (c.movedTo (.reading via o.namespaceName)), s)
  | .reading via ns =>
    match b.call via (.secretData ns (secretName c.cluster)) s with
    | (.error e, s) => (.finished (.error (secretFailure c.cluster c.caller e)), s)
    | (.ok data, s) =>
      match kubeconfigOf c.cluster data with
      | .error e => (.finished (.error e), s)
      | .ok kubeconfig => (.working (c.movedTo (.configured kubeconfig)), s)
  | .configured kubeconfig =>
    let (delay, s) := b.startBuild (.workload c.cluster kubeconfig c.caller) s
    (.working (c.movedTo (.connecting kubeconfig (now + delay))), s)
  | .connecting kubeconfig ready =>
    if now < ready then (.waiting c (some ready), s)
    else
      let client := Client.workload c.cluster kubeconfig c.caller
      match b.endBuild client s with
      | (.error e, s) => (.finished (.error (buildFailure c.cluster c.caller e)), s)
      | (.ok (), s) => (.finished (.ok client), s)

/-- The workshop that constructs clients. -/
def workshop (b : Backend σ) (mode : CredentialMode) : Workshop σ Construction Client where
  advance := advance b mode

end Construction

end FleetGate
