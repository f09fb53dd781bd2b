import FleetGate.Cluster.Error
import FleetGate.Identity.Error
import FleetGate.Text.Quoted

/-!
# Failures of the federation

Why a call on the fleet failed. `FleetError.message` is for logs and holds every detail;
`FleetError.userFacing` is what a caller is told. A cluster that does not exist, one whose
kubeconfig cannot be read and one that cannot be reached look the same to a caller, so that nobody
can probe for clusters.
-/

namespace FleetGate

/-- Why a call on the fleet failed. -/
inductive FleetError where
  | closed
  | userRequired
  | identity (cause : IdentityError)
  | clusterNotFound (cluster reason : String)
  | clusterApiMissing
  | discovery (detail : String)
  | kubeconfig (cluster detail : String)
  | connection (cluster detail : String)
  | impersonation (cluster user detail : String)
  | invalidAccessCheck (detail : String)
  | accessCheckFailed (cluster detail : String)
  | accessDenied (cluster verb target ns reason : String)
  | invalidSelector (detail : String)
  | invalidPattern (detail : String)
  | operation (cause : ClusterError)
  deriving DecidableEq, Repr

namespace FleetError

/-- What a caller is told of a cluster that cannot be used, whatever the reason. -/
def unavailable : String := "cluster access denied or unavailable"

/-- The message for logs. -/
def message : FleetError → String
  | .closed => "federation manager is closed"
  | .userRequired => "user info is required for federated operations"
  | .identity cause => cause.message
  | .clusterNotFound cluster reason =>
    "cluster " ++ Text.quoted cluster ++ " not found: " ++ reason
  | .clusterApiMissing => "CAPI cluster resources are not installed on the management cluster"
  | .discovery detail => "cluster discovery failed: " ++ detail
  | .kubeconfig cluster detail =>
    "kubeconfig error for cluster " ++ Text.quoted cluster ++ ": " ++ detail
  | .connection cluster detail =>
    "connection to cluster " ++ Text.quoted cluster ++ " failed: " ++ detail
  | .impersonation cluster user detail =>
    "impersonation failed for cluster " ++ Text.quoted cluster ++ " (user " ++ user ++ "): " ++
      detail
  | .invalidAccessCheck detail => "invalid access check: " ++ detail
  | .accessCheckFailed cluster detail =>
    "access check failed for cluster " ++ Text.quoted cluster ++ ": " ++ detail
  | .accessDenied cluster verb target _ reason =>
    "access denied: cannot " ++ verb ++ " " ++ target ++ " on cluster " ++ Text.quoted cluster ++
      ": " ++ reason
  | .invalidSelector detail => "invalid label selector: " ++ detail
  | .invalidPattern detail => "invalid pattern: " ++ detail
  | .operation cause => cause.message

/-- The message for the caller. -/
def userFacing : FleetError → String
  | .closed => "federation manager is unavailable"
  | .userRequired => "authentication required for multi-cluster operations"
  | .identity cause => cause.userFacing
  | .clusterNotFound _ _ | .kubeconfig _ _ | .connection _ _ => unavailable
  | .clusterApiMissing => "this management cluster does not have CAPI installed"
  | .discovery _ => "cluster discovery failed"
  | .impersonation _ _ _ =>
    "insufficient permissions to access this cluster - please contact your administrator to " ++
      "verify your RBAC configuration"
  | .invalidAccessCheck detail => "invalid access check: " ++ detail
  | .accessCheckFailed _ _ =>
    "unable to verify permissions - please try again or contact your administrator"
  | .accessDenied _ verb target ns _ =>
    let place := if ns.isEmpty then "" else " in namespace " ++ Text.quoted ns
    "permission denied: you cannot " ++ verb ++ " " ++ target ++ place ++
      " - please contact your administrator to request access"
  | .invalidSelector _ => "invalid label selector"
  | .invalidPattern _ => "invalid cluster name pattern provided"
  | .operation (.forbidden _) => "permission denied"
  | .operation (.notFound _ _) => "resource not found"
  | .operation _ => "cluster operation failed"

/-- Whether the failure describes a fault of the caller's own request, which may be shown in full
and will not go away by itself. -/
def isValidation : FleetError → Bool
  | .invalidAccessCheck _ | .userRequired | .identity _ | .invalidSelector _ | .invalidPattern _ =>
    true
  | _ => false

/-- Whether the cluster was not found. -/
def isNotFound : FleetError → Bool
  | .clusterNotFound _ _ => true
  | _ => false

end FleetError

/-- The result of a call on the fleet. -/
abbrev FleetResult (α : Type) := Except FleetError α

end FleetGate
