import FleetGate.Number.Numeral
import FleetGate.Text.Search

/-!
# Failures of a cluster

Why a call on a cluster, or the construction of a client, failed. The messages may name internals
of the cluster and are for logs; what a caller is told is decided by the failure of the fleet that
carries it.
-/

namespace FleetGate

/-- Why an operation on a cluster failed. -/
inductive ClusterError where
  | api (code : Nat) (detail : String)
  | notFound (kind name : String)
  | forbidden (detail : String)
  | notInstalled (resource : String)
  | kubeconfig (detail : String)
  | connection (detail : String)
  | timeout
  | invalidRequest (detail : String)
  deriving DecidableEq, Repr, Inhabited

namespace ClusterError

/-- The message for logs. -/
def message : ClusterError → String
  | .api code detail => "K8s API error (" ++ Number.natString code ++ "): " ++ detail
  | .notFound kind name => kind ++ " not found: " ++ name
  | .forbidden detail => "forbidden: " ++ detail
  | .notInstalled resource => "resource type " ++ resource ++ " is not served by this cluster"
  | .kubeconfig detail => "kubeconfig error: " ++ detail
  | .connection detail => "connection error: " ++ detail
  | .timeout => "Operation timed out"
  | .invalidRequest detail => "invalid request: " ++ detail

/-- Whether the cluster turned the impersonated identity down. -/
def isForbidden : ClusterError → Bool
  | .forbidden _ => true
  | _ => false

/-- The failure that an error answer of the API server means. -/
def ofStatus (code : Nat) (detail : String) : ClusterError :=
  if code = 403 then .forbidden detail else .api code detail

/-- The failure that a broken exchange means, told from the text of its cause. -/
def ofTransport (detail : String) : ClusterError :=
  if Text.contains detail "timed out" || Text.contains detail "elapsed" then .timeout
  else .connection detail

/-- The same failure with everything but its class left out. -/
def withoutDetail : ClusterError → ClusterError
  | .api _ _ => .api 0 ""
  | .notFound _ _ => .notFound "" ""
  | .forbidden _ => .forbidden ""
  | .notInstalled _ => .notInstalled ""
  | .kubeconfig _ => .kubeconfig ""
  | .connection _ => .connection ""
  | .timeout => .timeout
  | .invalidRequest _ => .invalidRequest ""

end ClusterError

end FleetGate
