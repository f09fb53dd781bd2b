import FleetGate.Fleet.ClusterSummary

/-!
# Cluster health

A verdict on a cluster from its summary, with the state of its components and the checks behind it.

The verdict is decided in this order: a cluster that is being deleted is unknown, one that is being
provisioned degraded, one that is ready healthy; else it depends on how many of control plane and
infrastructure are not ready.
-/

namespace FleetGate

/-- The verdict on a cluster. -/
inductive HealthStatus where
  | healthy
  | unhealthy
  | degraded
  | unknown
  deriving DecidableEq, Repr

/-- The state of a component. -/
inductive ComponentStatus where
  | healthy
  | unhealthy
  | unknown
  deriving DecidableEq, Repr

/-- The outcome of a check. -/
inductive CheckStatus where
  | pass
  | warn
  | fail
  deriving DecidableEq, Repr

/-- The health of a component. -/
structure ComponentHealth where
  status : ComponentStatus
  message : String
  /-- How many of its parts are ready, and how many there are, if that is known. -/
  counts? : Option (Int × Int) := none
  deriving DecidableEq, Repr

/-- A check with its outcome. -/
structure HealthCheck where
  name : String
  status : CheckStatus
  message : String
  deriving DecidableEq, Repr

/-- The health of a cluster. -/
structure ClusterHealth where
  name : String
  status : HealthStatus
  message : String
  controlPlane : ComponentHealth
  infrastructure : ComponentHealth
  nodes : ComponentHealth
  checks : List HealthCheck
  deriving DecidableEq, Repr

namespace Health

/-- How a component is called in messages when it is ready or not. -/
def readyMessage (component : String) (ready : Bool) : String :=
  if ready then component ++ " is ready" else component ++ " is not ready"

/-- The health of a component that is ready or not. -/
def component (name : String) (ready : Bool) : ComponentHealth where
  status := if ready then .healthy else .unhealthy
  message := readyMessage name ready

/-- The health of the nodes: without any, nothing is known of them. -/
def nodes (count : Int) : ComponentHealth :=
  if 0 < count then
    { status := .healthy
      message := Number.intString count ++ " node(s) ready"
      counts? := some (count, count) }
  else { status := .unknown, message := "Node count unavailable" }

/-- The verdict on a cluster and its message. -/
def verdict (c : ClusterSummary) : HealthStatus × String :=
  match c.phase? with
  | some .deleting => (.unknown, "Cluster is being deleted")
  | some .provisioning => (.degraded, "Cluster is still provisioning")
  | _ =>
    if c.ready then (.healthy, "Cluster is healthy and ready")
    else
      match c.controlPlaneReady, c.infrastructureReady with
      | false, false => (.unhealthy, "Multiple components are unhealthy")
      | true, true => (.unknown, "Unable to determine cluster health")
      | _, _ => (.degraded, "One or more components are not ready")

/-- The check of a component that is ready or not. -/
def readyCheck (name component : String) (ready : Bool) : HealthCheck where
  name := name
  status := if ready then .pass else .fail
  message := readyMessage component ready

/-- The check of the phase. -/
def phaseCheck (c : ClusterSummary) : HealthCheck :=
  let (status, message) : CheckStatus × String :=
    match c.phase? with
    | some .provisioned => (.pass, "Cluster is provisioned")
    | some .provisioning => (.warn, "Cluster is still provisioning")
    | some .deleting => (.warn, "Cluster is being deleted")
    | some .failed => (.fail, "Cluster is in failed state")
    | _ => (.warn, "Cluster phase: " ++ c.status)
  { name := "cluster-phase", status, message }

/-- The check of the nodes. -/
def nodeCheck (count : Int) : HealthCheck :=
  if 0 < count then
    ⟨"nodes", .pass, Number.intString count ++ " worker node(s) detected"⟩
  else ⟨"nodes", .warn, "No worker node information available"⟩

/-- The health of a cluster. -/
def assess (c : ClusterSummary) : ClusterHealth :=
  let (status, message) := verdict c
  { name := c.name
    status
    message
    controlPlane := component "Control plane" c.controlPlaneReady
    infrastructure := component "Infrastructure" c.infrastructureReady
    nodes := nodes c.nodeCount
    checks := [
      readyCheck "control-plane-ready" "Control plane" c.controlPlaneReady,
      readyCheck "infrastructure-ready" "Infrastructure" c.infrastructureReady,
      phaseCheck c,
      nodeCheck c.nodeCount] }

end Health

end FleetGate
