import FleetGate.Fleet.ClusterSummary
import FleetGate.Fleet.Health

/-!
# Clusters as JSON

The written forms of a summary, of a row in a listing, of the full view of a cluster and of its
health. What is empty or unknown is mostly left out.
-/

namespace FleetGate

namespace ClusterSummary

/-- A text member that is left out when empty. -/
def textUnlessEmpty (name s : String) : String × Option Json :=
  (name, if s.isEmpty then none else some (.str s))

/-- A count that is left out when zero. -/
def countUnlessZero (name : String) (n : Int) : String × Option Json :=
  (name, if n = 0 then none else some (.int n))

/-- A map that is left out when empty. -/
def textsUnlessEmpty (name : String) (m : List (String × String)) : String × Option Json :=
  (name, if m.isEmpty then none else some (Json.ofTexts m))

/-- An object of the members that are there. -/
def object (members : List (String × Option Json)) : Json :=
  .ofMembers (Json.presentMembers members)

/-- Writes a summary. -/
def toJson (c : ClusterSummary) : Json :=
  object [
    ("name", some (.str c.name)),
    ("namespace", some (.str c.ns)),
    ("provider", some (.str c.provider)),
    textUnlessEmpty "release" c.release,
    textUnlessEmpty "kubernetesVersion" c.kubernetesVersion,
    ("status", some (.str c.status)),
    ("ready", some (.bool c.ready)),
    ("controlPlaneReady", some (.bool c.controlPlaneReady)),
    ("infrastructureReady", some (.bool c.infrastructureReady)),
    ("nodeCount", some (.int c.nodeCount)),
    ("createdAt", some (match c.created? with
      | some t => .str t.preciseText
      | none => .null)),
    ("labels", some (Json.ofTexts c.labels)),
    ("annotations", some (Json.ofTexts c.annotations))]

/-- A row of a listing. -/
def rowJson (c : ClusterSummary) (now : Time.Timestamp) : Json :=
  object [
    ("name", some (.str c.name)),
    ("namespace", some (.str c.ns)),
    ("organization", c.organization?.map .str),
    textUnlessEmpty "provider" c.provider,
    textUnlessEmpty "release" c.release,
    ("status", some (.str c.status)),
    ("ready", some (.bool c.ready)),
    ("age", some (.str (c.age now))),
    countUnlessZero "nodeCount" c.nodeCount]

/-- The full view of a cluster, of whose annotations the given ones are shown. -/
def detailJson (c : ClusterSummary) (annotations : List (String × String)) (now : Time.Timestamp) :
    Json :=
  object [
    ("name", some (.str c.name)),
    ("namespace", some (.str c.ns)),
    ("metadata", some (object [
      ("organization", c.organization?.map .str),
      textUnlessEmpty "provider" c.provider,
      textUnlessEmpty "release" c.release,
      textUnlessEmpty "kubernetesVersion" c.kubernetesVersion,
      ("createdAt", c.created?.map fun t => .str t.preciseText),
      ("age", some (.str (c.age now))),
      ("description", c.description?.map .str)])),
    ("status", some (object [
      ("phase", some (.str c.status)),
      ("ready", some (.bool c.ready)),
      ("controlPlaneReady", some (.bool c.controlPlaneReady)),
      ("infrastructureReady", some (.bool c.infrastructureReady)),
      countUnlessZero "nodeCount" c.nodeCount])),
    textsUnlessEmpty "labels" c.labels,
    textsUnlessEmpty "annotations" annotations]

end ClusterSummary

namespace HealthStatus

/-- The name of a verdict. -/
def name : HealthStatus → String
  | .healthy => "HEALTHY"
  | .unhealthy => "UNHEALTHY"
  | .degraded => "DEGRADED"
  | .unknown => "UNKNOWN"

end HealthStatus

namespace ComponentStatus

/-- The name of a state. -/
def name : ComponentStatus → String
  | .healthy => "healthy"
  | .unhealthy => "unhealthy"
  | .unknown => "unknown"

end ComponentStatus

namespace CheckStatus

/-- The name of an outcome. -/
def name : CheckStatus → String
  | .pass => "pass"
  | .warn => "warn"
  | .fail => "fail"

end CheckStatus

/-- Writes the health of a component. -/
def ComponentHealth.toJson (h : ComponentHealth) : Json :=
  ClusterSummary.object [
    ("status", some (.str h.status.name)),
    ("ready", h.counts?.map fun c => .int c.1),
    ("total", h.counts?.map fun c => .int c.2),
    ("message", some (.str h.message))]

/-- Writes a check. -/
def HealthCheck.toJson (c : HealthCheck) : Json :=
  .ofMembers [("name", .str c.name), ("status", .str c.status.name), ("message", .str c.message)]

/-- Writes the health of a cluster. -/
def ClusterHealth.toJson (h : ClusterHealth) : Json :=
  .ofMembers [
    ("name", .str h.name),
    ("status", .str h.status.name),
    ("message", .str h.message),
    ("components", .ofMembers [
      ("controlPlane", h.controlPlane.toJson),
      ("infrastructure", h.infrastructure.toJson),
      ("nodes", h.nodes.toJson)]),
    ("checks", .arr (h.checks.map HealthCheck.toJson))]

end FleetGate
