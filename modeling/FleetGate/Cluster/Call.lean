import FleetGate.Cluster.Error
import FleetGate.Resource.Listing

/-!
# Calls on a cluster

Everything that can be asked of a cluster, each call with the type of its answer. The calls mean the
same on the management cluster and on a workload cluster, whoever is impersonated.
-/

namespace FleetGate

/-- How a patch is to be read. -/
inductive PatchKind where
  | merge
  | strategic
  deriving DecidableEq, Repr

/-- Which part of a log is asked for. -/
structure LogOptions where
  container? : Option String := none
  tailLines? : Option Int := none
  previous : Bool := false
  timestamps : Bool := false
  deriving DecidableEq, Repr, Inhabited

/-- The question whether the impersonated user may do something. -/
structure AccessReview where
  verb : String
  resource : String
  group : String
  ns : String
  name : String
  subresource : String
  deriving DecidableEq, Repr

/-- What a cluster answers to an access review. -/
structure AccessVerdict where
  allowed : Bool := false
  denied : Bool := false
  reason : String := ""
  /-- Raw text of the cluster, which no caller may see. -/
  evaluationError : String := ""
  deriving DecidableEq, Repr, Inhabited

/-- The data of a secret by key. -/
abbrev SecretData := List (String × List UInt8)

/-- A call on a cluster, with the type of its answer. A listing without a namespace goes over the
whole cluster. -/
inductive ClusterCall : Type → Type 1 where
  | get (resource : ResourceType) (ns? : Option String) (name : String) : ClusterCall Object
  | list (resource : ResourceType) (ns? : Option String) (options : ListOptions) : ClusterCall Page
  | create (resource : ResourceType) (ns? : Option String) (object : Object) : ClusterCall Object
  | apply (resource : ResourceType) (ns? : Option String) (object : Object) : ClusterCall Object
  | delete (resource : ResourceType) (ns? : Option String) (name : String) : ClusterCall Unit
  | patch (resource : ResourceType) (ns? : Option String) (name : String) (kind : PatchKind)
      (body : Json) : ClusterCall Object
  | scale (resource : ResourceType) (ns name : String) (replicas : Int) : ClusterCall Unit
  | logs (ns pod : String) (options : LogOptions) : ClusterCall String
  | review (question : AccessReview) : ClusterCall AccessVerdict
  | secretData (ns name : String) : ClusterCall SecretData

/-- An attempt that acts on a state: it may fail, and what it did until then stays. -/
abbrev Attempt (σ α : Type) := σ → Except ClusterError α × σ

namespace ClusterCall

/-- The name under which calls are counted. -/
def method {α : Type} : ClusterCall α → String
  | .get _ _ _ => "get"
  | .list _ _ _ => "list"
  | .create _ _ _ => "create"
  | .apply _ _ _ => "apply"
  | .delete _ _ _ => "delete"
  | .patch _ _ _ _ _ => "patch"
  | .scale _ _ _ _ => "scale"
  | .logs _ _ _ => "logs"
  | .review _ => "self_subject_access_review"
  | .secretData _ _ => "get_secret_data"

/-- The names of all calls. -/
def methods : List String :=
  ["get", "list", "create", "apply", "delete", "patch", "scale", "logs",
    "self_subject_access_review", "get_secret_data"]

end ClusterCall

end FleetGate
