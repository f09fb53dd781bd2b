import FleetGate.Cluster.InMemory
import FleetGate.Fleet.Backend

/-!
# A fleet in memory

Clusters in memory behind a backend, for trying a federation out without any cluster. Workload
clusters come into being when they are first named. Building clients can be made slow or made to
fail, and is recorded.
-/

namespace FleetGate

/-- Clusters in memory, with a record of the clients that were built. -/
structure InMemoryFleet where
  management : InMemoryCluster := {}
  /-- What the service's own client calls. -/
  service : InMemoryCluster := {}
  serviceEnabled : Bool := false
  workloads : List (String × InMemoryCluster) := []
  /-- How many milliseconds it takes to build a client. -/
  delay : Nat := 0
  managementFailure? : Option ClusterError := none
  workloadFailure? : Option ClusterError := none
  managementBuilds : Nat := 0
  workloadBuilds : Nat := 0
  /-- Whom clients were built for, latest last. -/
  identities : List Identity := []
  /-- What workload clients were built from, latest last. -/
  kubeconfigs : List (String × Kubeconfig) := []
  deriving Inhabited

namespace InMemoryFleet

/-- A workload cluster; one that was never named is empty. -/
def workload (s : InMemoryFleet) (name : String) : InMemoryCluster :=
  (Keyed.get? name s.workloads).getD {}

/-- The cluster that a client calls. -/
def clusterOf (s : InMemoryFleet) : Client → InMemoryCluster
  | .management _ => s.management
  | .service => s.service
  | .workload name _ _ => s.workload name

/-- The fleet with the cluster that a client calls replaced. -/
def setCluster (s : InMemoryFleet) (client : Client) (c : InMemoryCluster) : InMemoryFleet :=
  match client with
  | .management _ => { s with management := c }
  | .service => { s with service := c }
  | .workload name _ _ => { s with workloads := Keyed.put name c s.workloads }

/-- Records that a client is being built. -/
def recordBuild (s : InMemoryFleet) : Client → InMemoryFleet
  | .management caller =>
    { s with
      managementBuilds := s.managementBuilds + 1
      identities := s.identities ++ [caller] }
  | .service => s
  | .workload name kubeconfig caller =>
    { s with
      workloadBuilds := s.workloadBuilds + 1
      identities := s.identities ++ [caller]
      kubeconfigs := s.kubeconfigs ++ [(name, kubeconfig)] }

/-- The failure planned for the build of a client. -/
def buildFailure? (s : InMemoryFleet) : Client → Option ClusterError
  | .management _ => s.managementFailure?
  | .service => none
  | .workload _ _ _ => s.workloadFailure?

/-- The outcome of a build. -/
def buildOutcome (s : InMemoryFleet) (client : Client) : Except ClusterError Unit :=
  match s.buildFailure? client with
  | some e => .error e
  | none => .ok ()

/-- Clusters in memory as a backend. Every page of a listing but the last holds an object, so there
is at most one page more than there are objects. -/
def backend : Backend InMemoryFleet where
  startBuild client s := (s.delay, s.recordBuild client)
  endBuild client s := (s.buildOutcome client, s)
  hasService s := s.serviceEnabled
  call client c s :=
    let (outcome, after) := (s.clusterOf client).perform c
    (outcome, s.setCluster client after)
  pageBound client s := (s.clusterOf client).objects.length + 1

end InMemoryFleet

end FleetGate
