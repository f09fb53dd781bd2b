import FleetGate.Fleet.Backend
import FleetGate.Kubeconfig.Connection
import FleetGate.Wire.Reply
import FleetGate.Wire.Request

/-!
# A backend over API servers

Calls on clusters as an exchange of requests and replies. How a request travels is left to a
transport, which acts on a state of its own and may fail; what is sent and what a reply means is
settled here.
-/

namespace FleetGate.Wire

/-- How requests travel to servers. -/
structure Transport (σ : Type) where
  /-- Sends a request with its headers. A transport that fails tells why. -/
  send : Endpoint → Request → List (String × String) → σ → Except String Reply × σ

/-- A transport that reaches no server. -/
def Transport.unreachable (σ : Type) : Transport σ where
  send _ _ _ s := (.error "client error (Connect)", s)

/-- How a client reaches its cluster and whom it acts as. -/
structure Connection where
  endpoint : Endpoint
  settings : ClientSettings
  deriving DecidableEq, Repr

/-- The settings under which a client acts as somebody. -/
def settingsFor : Option Identity → Except ClusterError ClientSettings
  | some caller => (Impersonation.ofIdentity caller).apply {}
  | none => .ok {}

/-- Where a client leads. -/
def destinationOf (management : Endpoint) :
    Client → Except Kubeconfig.Fault Kubeconfig.Destination
  | .management _ | .service => .ok { endpoint := management }
  | .workload _ kubeconfig _ => kubeconfig.destination

/-- The failure of a client that a fault of its kubeconfig means. -/
def faultError (client : Client) (fault : Kubeconfig.Fault) : ClusterError :=
  match client with
  | .workload cluster _ _ => .kubeconfig (fault.message cluster)
  | .management _ | .service => .kubeconfig (fault.message "")

/-- The connection of a client. Whom it acts as is settled before it is asked whether the client can
do what its kubeconfig asks for. -/
def connect (management : Endpoint) (client : Client) : Except ClusterError Connection := do
  let destination ← (destinationOf management client).mapError (faultError client)
  let settings ← settingsFor client.caller?
  destination.check.mapError (faultError client)
  return { endpoint := destination.endpoint, settings }

variable {σ : Type}

/-- What is said of a request to a server that has no scheme. -/
def relativeDetail : String := "client error (UserAbsoluteUriRequired)"

/-- Sends a call and reads the reply. Only a server with a scheme can be sent to. -/
def exchange {α : Type} (t : Transport σ) (c : Connection) (call : ClusterCall α) : Attempt σ α :=
  fun s =>
    match requestOf call with
    | .error e => (.error e, s)
    | .ok request =>
      if !c.endpoint.server.isAbsolute then (.error (.ofTransport relativeDetail), s)
      else match t.send c.endpoint request (headers c.settings request) s with
      | (.error detail, s) => (.error (.ofTransport detail), s)
      | (.ok reply, s) => (outcomeOf call reply, s)

/-- More pages than any server has. -/
def pageBound : Nat := 1000000

/-- API servers as a backend. Building a client sends nothing. -/
def backend (t : Transport σ) (management : Endpoint) (hasService : Bool) : Backend σ where
  startBuild _ s := (0, s)
  endBuild client s := ((connect management client).map fun _ => (), s)
  hasService _ := hasService
  call client call s :=
    match connect management client with
    | .error e => (.error e, s)
    | .ok connection => exchange t connection call s
  pageBound _ _ := pageBound

end FleetGate.Wire
