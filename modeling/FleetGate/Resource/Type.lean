/-!
# Resource types

The address of a collection of resources: group, version, kind, the plural that stands in paths,
and whether the objects live in namespaces.
-/

namespace FleetGate

/-- Version and kind as an object states them. -/
structure TypeMeta where
  apiVersion : String
  kind : String
  deriving DecidableEq, Repr

/-- The address of a collection of resources. -/
structure ResourceType where
  group : String
  version : String
  kind : String
  plural : String
  namespaced : Bool
  deriving DecidableEq, Repr

namespace ResourceType

/-- Clusters as the Cluster API describes them on the management cluster. -/
def cluster : ResourceType :=
  ⟨"cluster.x-k8s.io", "v1beta2", "Cluster", "clusters", true⟩

/-- Pods. -/
def pod : ResourceType := ⟨"", "v1", "Pod", "pods", true⟩

/-- Secrets. -/
def secret : ResourceType := ⟨"", "v1", "Secret", "secrets", true⟩

/-- Reviews of what the sender may do. -/
def accessReview : ResourceType :=
  ⟨"authorization.k8s.io", "v1", "SelfSubjectAccessReview", "selfsubjectaccessreviews", false⟩

/-- The scale of a workload. -/
def scale : ResourceType := ⟨"autoscaling", "v1", "Scale", "scales", true⟩

/-- Group and version in one; the core group is left out. -/
def apiVersion (r : ResourceType) : String :=
  if r.group.isEmpty then r.version else r.group ++ "/" ++ r.version

/-- The plural with its group; the core group is left out. -/
def qualifiedName (r : ResourceType) : String :=
  if r.group.isEmpty then r.plural else r.plural ++ "." ++ r.group

/-- Version and kind that an object of the type states. -/
def typeMeta (r : ResourceType) : TypeMeta :=
  ⟨r.apiVersion, r.kind⟩

end ResourceType

end FleetGate
