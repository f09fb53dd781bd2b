import FleetGate.Encoding.Pem
import FleetGate.Kubeconfig.Document
import FleetGate.Net.Uri

/-!
# Where a kubeconfig leads

The current context names a cluster, and that one must have a server. A user that is not there is
one without credentials. Files are out of reach, so a certificate authority that is given as one
leads nowhere.
-/

namespace FleetGate

/-- How a cluster is reached. -/
structure Endpoint where
  server : Net.Uri
  deriving DecidableEq, Repr

namespace Kubeconfig

/-- What the current context leads to. -/
structure Destination where
  endpoint : Endpoint
  proxy? : Option Net.Uri := none
  /-- The certificates that may vouch for the server, if some were chosen. -/
  authorities? : Option (List (List UInt8)) := none
  serverName? : Option String := none
  user : UserEntry := {}

/-- The label of a certificate. -/
def certificateLabel : String := "CERTIFICATE"

/-- The certificates among PEM sections. -/
def certificates (sections : List Encoding.PemSection) : List (List UInt8) :=
  (sections.filter fun s => s.label = certificateLabel).map (·.content)

/-- The certificates that may vouch for the server of a cluster, if some were chosen. -/
def ClusterEntry.authorities? (c : ClusterEntry) : Option (Option (List (List UInt8))) :=
  match c.authorityData?, c.authorityFile? with
  | none, none => some none
  | none, some _ => none
  | some data, _ => do
    let bytes ← Encoding.bytesOfBase64? data.toList
    let sections ← Encoding.PemSection.ofBytes? bytes
    return some (certificates sections)

/-- The proxy of a cluster. An empty one is none. -/
def ClusterEntry.proxyUri? (c : ClusterEntry) : Option (Option Net.Uri) :=
  match c.proxy?.filter fun s => !s.isEmpty with
  | none => some none
  | some text => (Net.Uri.ofText? text).map some

/-- What the current context leads to. -/
def Document.destination? (d : Document) : Option Destination := do
  let context ← under? (← d.current?) d.contexts
  let cluster ← under? context.cluster d.clusters
  return {
    endpoint := { server := ← Net.Uri.ofText? (← cluster.server?) }
    proxy? := ← cluster.proxyUri?
    authorities? := ← cluster.authorities?
    serverName? := cluster.serverName?
    user := (context.user?.bind fun name => under? name d.users).getD {} }

end Kubeconfig

end FleetGate
