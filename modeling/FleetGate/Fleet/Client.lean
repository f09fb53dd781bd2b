import FleetGate.Identity.Basic
import FleetGate.Resource.Kubeconfig
import FleetGate.Text.Quoted

/-!
# Clients

A client is a way to call a cluster: which cluster, and as whom. Only the service's own client
impersonates nobody; it is used to look clusters up and is never handed out.
-/

namespace FleetGate

/-- A way to call a cluster. -/
inductive Client where
  /-- The management cluster, as a caller. -/
  | management (caller : Identity)
  /-- The management cluster, as the service itself. -/
  | service
  /-- A workload cluster, reached by its kubeconfig, as a caller. -/
  | workload (cluster : String) (kubeconfig : Kubeconfig) (caller : Identity)
  deriving DecidableEq

namespace Client

/-- The display form of a client of a workload cluster. -/
def shown (cluster : String) : String :=
  "FederatedClient \x7b cluster: " ++ Text.quoted cluster ++ ", .. \x7d"

/-- Whom the client impersonates. -/
def caller? : Client → Option Identity
  | .management caller | .workload _ _ caller => some caller
  | .service => none

/-- The cluster that the client calls, the management cluster having the empty name. -/
def cluster : Client → String
  | .management _ | .service => ""
  | .workload name _ _ => name

end Client

end FleetGate
