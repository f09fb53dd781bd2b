import FleetGate.Resource.Object
import FleetGate.Text.Case
import FleetGate.Text.Search

/-!
# Cluster summaries

What is known of a workload cluster from the object that describes it on the management cluster:
where it runs, in which phase it is, whether its parts are ready, and how old it is.
-/

namespace FleetGate

/-- The phase of a cluster's life. -/
inductive ClusterPhase where
  | pending
  | provisioning
  | provisioned
  | deleting
  | failed
  | unknown
  deriving DecidableEq, Repr

namespace ClusterPhase

/-- The name as clusters report it. -/
def name : ClusterPhase → String
  | .pending => "Pending"
  | .provisioning => "Provisioning"
  | .provisioned => "Provisioned"
  | .deleting => "Deleting"
  | .failed => "Failed"
  | .unknown => "Unknown"

/-- All phases. -/
def all : List ClusterPhase :=
  [.pending, .provisioning, .provisioned, .deleting, .failed, .unknown]

/-- The phase of a reported name, if it is one that is known here. -/
def ofName? (s : String) : Option ClusterPhase :=
  all.find? fun phase => phase.name = s

end ClusterPhase

/-- What is known of a workload cluster. -/
structure ClusterSummary where
  name : String
  ns : String
  provider : String
  release : String
  kubernetesVersion : String
  /-- The phase as the cluster reports it. -/
  status : String
  ready : Bool
  controlPlaneReady : Bool
  infrastructureReady : Bool
  nodeCount : Int
  created? : Option Time.Timestamp
  labels : List (String × String)
  annotations : List (String × String)
  deriving DecidableEq, Repr, Inhabited

/-- The written form of an age in whole seconds: minutes, hours or days, whichever is the largest
unit that fits once. -/
def ageText (seconds : Int) : String :=
  let minutes := seconds.tdiv 60
  let hours := seconds.tdiv 3600
  if minutes < 1 then "<1m"
  else if minutes < 60 then Number.intString minutes ++ "m"
  else if hours < 24 then Number.intString hours ++ "h"
  else Number.intString (seconds.tdiv 86400) ++ "d"

/-- The provider of an infrastructure kind such as `AWSCluster`. -/
def providerOfKind (kind : String) : String :=
  let kind := Text.lowercase kind
  if Text.contains kind "aws" then "aws"
  else if Text.contains kind "azure" then "azure"
  else if Text.contains kind "vsphere" then "vsphere"
  else if Text.contains kind "gcp" || Text.contains kind "google" then "gcp"
  else
    match Text.stripEnd? "cluster".toList kind.toList with
    | some name => String.ofList name
    | none => kind

namespace ClusterSummary

/-- The label that names the organization. -/
def organizationLabel : String := "giantswarm.io/organization"

/-- The label that names the release. -/
def releaseLabel : String := "release.giantswarm.io/version"

/-- The annotation that describes the cluster. -/
def descriptionAnnotation : String := "cluster.giantswarm.io/description"

/-- The phase, if it is one that is known here. -/
def phase? (c : ClusterSummary) : Option ClusterPhase :=
  ClusterPhase.ofName? c.status

/-- The organization that the cluster belongs to. -/
def organization? (c : ClusterSummary) : Option String :=
  Keyed.get? organizationLabel c.labels

/-- The description of the cluster. -/
def description? (c : ClusterSummary) : Option String :=
  Keyed.get? descriptionAnnotation c.annotations

/-- The age in whole seconds, cut toward zero. -/
def ageSeconds? (c : ClusterSummary) (now : Time.Timestamp) : Option Int :=
  c.created?.map fun created => (created.nanosSince now).tdiv Time.Timestamp.nanosPerSecond

/-- The written form of the age; a cluster of unknown age counts as new. -/
def age (c : ClusterSummary) (now : Time.Timestamp) : String :=
  match c.ageSeconds? now with
  | some seconds => ageText seconds
  | none => "<1m"

/-- Whether the member at a path is `true`. -/
def flagAt (path : List String) (data : Json) : Bool :=
  ((data.at? path).bind Json.bool?).getD false

/-- The first of the paths with a text that is not empty. -/
def firstTextAt (paths : List (List String)) (data : Json) : String :=
  (paths.findSome? fun path => (data.stringAt? path).filter fun s => !s.isEmpty).getD ""

/-- The summary of the object that describes a cluster. -/
def ofObject (o : Object) : ClusterSummary :=
  let status := (o.data.stringAt? ["status", "phase"]).getD ClusterPhase.unknown.name
  let controlPlaneReady := flagAt ["status", "controlPlaneReady"] o.data
  let infrastructureReady := flagAt ["status", "infrastructureReady"] o.data
  let count (name : String) := (o.data.at? ["status", name]).bind Json.signed64?
  { name := o.name
    ns := o.namespaceName
    provider := match o.data.stringAt? ["spec", "infrastructureRef", "kind"] with
      | some kind => providerOfKind kind
      | none => "unknown"
    release := (Keyed.get? releaseLabel o.metadata.labels).getD ""
    kubernetesVersion := firstTextAt
      [["spec", "topology", "version"], ["status", "version"],
        ["spec", "controlPlaneRef", "version"]] o.data
    status
    ready := controlPlaneReady && infrastructureReady && status = ClusterPhase.provisioned.name
    controlPlaneReady
    infrastructureReady
    nodeCount := ((count "workerNodes").or (count "readyReplicas")).getD 0
    created? := o.metadata.created?
    labels := o.metadata.labels
    annotations := o.metadata.annotations }

end ClusterSummary

end FleetGate
