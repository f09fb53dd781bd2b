import FleetGate.Fleet.Access
import FleetGate.Fleet.Discovery
import FleetGate.Json.Access

/-!
# Clusters and questions from JSON

Reading a summary, a filter or an access check as it was handed in. Nothing is refused: what is
missing or of a wrong type counts as empty.
-/

namespace FleetGate

/-- Reads a summary. -/
def ClusterSummary.ofFields (j : Json) : ClusterSummary where
  name := j.text "name"
  ns := j.text "namespace"
  provider := j.text "provider"
  release := j.text "release"
  kubernetesVersion := j.text "kubernetesVersion"
  status := j.text "status"
  ready := j.flag "ready"
  controlPlaneReady := j.flag "controlPlaneReady"
  infrastructureReady := j.flag "infrastructureReady"
  nodeCount := j.whole "nodeCount"
  created? := (j.text? "createdAt").bind Time.Timestamp.parse?
  labels := (j.field "labels").textMembers
  annotations := (j.field "annotations").textMembers

/-- Reads a filter. -/
def ClusterFilter.ofFields (j : Json) : ClusterFilter where
  ns := j.text "namespace"
  provider := j.text "provider"
  status := j.text "status"
  readyOnly := j.flag "readyOnly"
  labelSelector := j.text "labelSelector"

/-- Reads an access check. -/
def AccessCheck.ofFields (j : Json) : AccessCheck where
  verb := j.text "verb"
  resource := j.text "resource"
  apiGroup := j.text "apiGroup"
  ns := j.text "namespace"
  name := j.text "name"
  subresource := j.text "subresource"

end FleetGate
