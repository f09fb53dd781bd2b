import FleetGate.Kubeconfig.Destination
import FleetGate.Net.ServerName

/-!
# From a kubeconfig to a connection

What can keep a client from being built for the cluster of a kubeconfig: the document is none, it
leads nowhere, or the client cannot do what it asks for. Proxies are not supported. Of the ways to
show who one is, those that need a file or a command are out of reach; a certificate of the client
is used if both it and its key can be read, and must then be sound.
-/

namespace FleetGate.Kubeconfig

/-- Why there is no connection to the cluster of a kubeconfig. -/
inductive Fault where
  /-- It is no kubeconfig. -/
  | malformed
  /-- The current context does not lead to a server. -/
  | incomplete
  | proxy (uri : Net.Uri)
  | credentials (detail : String)
  | tls (detail : String)
  deriving DecidableEq, Repr

/-- The features that would be needed for a proxy, by its scheme. -/
def proxyFeatures : List (String × String) :=
  [("http", "kube/http-proxy"), ("socks5", "kube/socks5")]

/-- What is said of a proxy. -/
def proxyMessage (uri : Net.Uri) : String :=
  "configured proxy " ++ uri.text ++
    match uri.scheme?.bind fun scheme => proxyFeatures.lookup scheme with
    | some feature => " requires the disabled feature \"" ++ feature ++ "\""
    | none => " uses an unsupported protocol"

/-- What is said of a fault on the way to a cluster. -/
def Fault.message (cluster : String) : Fault → String
  | .malformed => "failed to parse kubeconfig for cluster " ++ cluster
  | .incomplete => "failed to load kubeconfig for cluster " ++ cluster
  | .proxy uri => proxyMessage uri
  | .credentials detail => "auth error: " ++ detail
  | .tls detail => "rustls tls error: " ++ detail

/-- Whether a named source of credentials holds a token. -/
def CredentialProvider.hasToken (p : CredentialProvider) : Bool :=
  (p.name = "oidc" || p.name = "gcp") && Keyed.has "id-token" p.settings

/-- Finds out whether a user can show who it is. The first way that is given counts. -/
def UserEntry.check (u : UserEntry) : Except Fault Unit :=
  match u.provider? with
  | some p => if p.hasToken then .ok () else .error (.credentials "the provider has no token")
  | none =>
    if (u.name?.isSome && u.password?.isSome) || u.token?.isSome then .ok ()
    else if u.tokenFile?.isSome then .error (.credentials "the token file cannot be read")
    else if u.runsCommand then .error (.credentials "the command cannot be run")
    else .ok ()

/-- The labels of private keys. -/
def keyLabels : List String := ["PRIVATE KEY", "RSA PRIVATE KEY", "EC PRIVATE KEY"]

/-- Whether bytes hold a certificate and its key. -/
def isIdentity (bytes : List UInt8) : Bool :=
  match Encoding.PemSection.ofBytes? bytes with
  | none => false
  | some sections =>
    let keys := sections.filter fun s => keyLabels.contains s.label
    let certificates := certificates sections
    !keys.isEmpty && !certificates.isEmpty &&
      (keys.map (·.content) ++ certificates).all Encoding.PemSection.isSequence

/-- The key and the certificate of a user, if both can be read. -/
def UserEntry.identity? (u : UserEntry) : Option (List UInt8) := do
  let key ← Encoding.bytesOfBase64? (← u.keyData?).toList
  let certificate ← Encoding.bytesOfBase64? (← u.certificateData?).toList
  return key ++ [10] ++ certificate

/-- Finds out whether a connection can be secured as the destination asks for. -/
def Destination.checkTls (d : Destination) : Except Fault Unit := do
  if !(d.authorities?.getD []).all Encoding.PemSection.isSequence then
    throw (.tls "an authority is no certificate")
  if !(d.user.identity?.all isIdentity) then throw (.tls "the client has no certificate")
  if !(d.serverName?.all Net.isServerName) then throw (.tls "the server name is malformed")

/-- Finds out whether a client can do what the destination asks for. -/
def Destination.check (d : Destination) : Except Fault Unit := do
  d.proxy?.forM fun uri => throw (.proxy uri)
  d.user.check
  d.checkTls

/-- What a kubeconfig leads to. -/
def destination (k : Kubeconfig) : Except Fault Destination :=
  match k.document? with
  | none => .error .malformed
  | some document =>
    match document.destination? with
    | some d => .ok d
    | none => .error .incomplete

end FleetGate.Kubeconfig
