import FleetGate.Json.Value
import FleetGate.Resource.Kubeconfig
import FleetGate.Yaml.Flow

/-!
# The content of a kubeconfig

Clusters, users and contexts under their names, and the name of the context to use. A record is
written as a mapping, whose unknown members are ignored, as a sequence of its fields in the order
in which they are declared, or as `null` if all its fields may be missing.

Decoding looks at the form alone: whether the names lead anywhere is asked later.
-/

namespace FleetGate.Kubeconfig

/-! ## Content -/

/-- Something that stands under a name. -/
structure Named (α : Type) where
  name : String
  value? : Option α

/-- How a cluster is reached. -/
structure ClusterEntry where
  server? : Option String := none
  authorityFile? : Option String := none
  authorityData? : Option String := none
  proxy? : Option String := none
  serverName? : Option String := none

/-- A source of credentials that is named rather than given. -/
structure CredentialProvider where
  name : String
  settings : List (String × String)

/-- How a user shows who it is. -/
structure UserEntry where
  name? : Option String := none
  password? : Option String := none
  token? : Option String := none
  tokenFile? : Option String := none
  certificateData? : Option String := none
  keyData? : Option String := none
  provider? : Option CredentialProvider := none
  /-- Whether a command provides the credentials. -/
  runsCommand : Bool := false

/-- A cluster, and the user to be on it. -/
structure ContextEntry where
  cluster : String
  user? : Option String

/-- The content of a kubeconfig. -/
structure Document where
  clusters : List (Named ClusterEntry) := []
  users : List (Named UserEntry) := []
  contexts : List (Named ContextEntry) := []
  current? : Option String := none

/-! ## Decoding -/

/-- The fields of a record. As a sequence it has at least `least` of them, and no surplus. -/
def fields? (names : List String) (least : Nat) : Json → Option (List (String × Json))
  | .null => some []
  | .obj members => some members
  | .arr items =>
    if least ≤ items.length ∧ items.length ≤ names.length then some (names.zip items) else none
  | _ => none

/-- A field that must be there. -/
def required? {α : Type} (decode : Json → Option α) (name : String)
    (fields : List (String × Json)) : Option α :=
  (fields.lookup name).bind decode

/-- A field that may be missing, or else `fallback`. -/
def defaulted? {α : Type} (decode : Json → Option α) (fallback : α) (name : String)
    (fields : List (String × Json)) : Option α :=
  match fields.lookup name with
  | none => some fallback
  | some v => decode v

/-- A value that may be `null`. -/
def orNull? {α : Type} (decode : Json → Option α) : Json → Option (Option α)
  | .null => some none
  | v => (decode v).map some

/-- A field that may be missing or `null`. -/
def optional? {α : Type} (decode : Json → Option α) (name : String)
    (fields : List (String × Json)) : Option (Option α) :=
  defaulted? (orNull? decode) none name fields

/-- A text that may be missing or `null`. -/
def text? (name : String) (fields : List (String × Json)) : Option (Option String) :=
  optional? Json.string? name fields

/-- A sequence; `null` is an empty one. -/
def listOf? {α : Type} (decode : Json → Option α) : Json → Option (List α)
  | .null => some []
  | .arr items => items.mapM decode
  | _ => none

/-- A mapping to texts; `null` is an empty one. -/
def textsByKey? : Json → Option (List (String × String))
  | .null => some []
  | .obj members => members.mapM fun m => m.2.string?.map fun s => (m.1, s)
  | _ => none

/-- A field that may be missing or `null` and is a list. -/
def list? {α : Type} (decode : Json → Option α) (name : String)
    (fields : List (String × Json)) : Option (List α) :=
  (optional? (listOf? decode) name fields).map fun xs? => xs?.getD []

/-- An extension by others, of which only the name and that there is a value matter. -/
def extension? (v : Json) : Option Unit := do
  let fields ← fields? ["name", "extension"] 2 v
  let _ ← required? Json.string? "name" fields
  discard (required? some "extension" fields)

/-- The extensions of a record. -/
def extensions? (fields : List (String × Json)) : Option Unit :=
  (list? extension? "extensions" fields).map fun _ => ()

/-- Preferences, which say nothing here. -/
def preferences? (v : Json) : Option Unit := do
  let fields ← fields? ["colors", "extensions"] 2 v
  let _ ← optional? Json.bool? "colors" fields
  extensions? fields

/-- How a cluster is reached. -/
def ClusterEntry.decode? (v : Json) : Option ClusterEntry := do
  let names := ["server", "insecure-skip-tls-verify", "certificate-authority",
    "certificate-authority-data", "proxy-url", "disable-compression", "tls-server-name",
    "extensions"]
  let fields ← fields? names names.length v
  let _ ← optional? Json.bool? "insecure-skip-tls-verify" fields
  let _ ← optional? Json.bool? "disable-compression" fields
  extensions? fields
  return {
    server? := ← text? "server" fields
    authorityFile? := ← text? "certificate-authority" fields
    authorityData? := ← text? "certificate-authority-data" fields
    proxy? := ← text? "proxy-url" fields
    serverName? := ← text? "tls-server-name" fields }

/-- A named source of credentials. -/
def CredentialProvider.decode? (v : Json) : Option CredentialProvider := do
  let fields ← fields? ["name", "config"] 1 v
  return {
    name := ← required? Json.string? "name" fields
    settings := ← defaulted? textsByKey? [] "config" fields }

/-- How a command may ask back. -/
def interaction? (v : Json) : Option Unit :=
  v.string?.bind fun s => if s ∈ ["Never", "IfAvailable", "Always"] then some () else none

/-- A command that provides credentials. -/
def command? (v : Json) : Option Unit := do
  let names := ["apiVersion", "command", "args", "env", "interactiveMode", "provideClusterInfo"]
  let fields ← fields? names (names.length - 1) v
  let _ ← text? "apiVersion" fields
  let _ ← text? "command" fields
  let _ ← list? Json.string? "args" fields
  let _ ← list? textsByKey? "env" fields
  let _ ← optional? interaction? "interactiveMode" fields
  discard (defaulted? Json.bool? false "provideClusterInfo" fields)

/-- How a user shows who it is. -/
def UserEntry.decode? (v : Json) : Option UserEntry := do
  let names := ["username", "password", "token", "tokenFile", "client-certificate",
    "client-certificate-data", "client-key", "client-key-data", "as", "as-groups",
    "auth-provider", "exec"]
  let fields ← fields? names names.length v
  let _ ← text? "client-certificate" fields
  let _ ← text? "client-key" fields
  let _ ← text? "as" fields
  let _ ← list? Json.string? "as-groups" fields
  return {
    name? := ← text? "username" fields
    password? := ← text? "password" fields
    token? := ← text? "token" fields
    tokenFile? := ← text? "tokenFile" fields
    certificateData? := ← text? "client-certificate-data" fields
    keyData? := ← text? "client-key-data" fields
    provider? := ← optional? CredentialProvider.decode? "auth-provider" fields
    runsCommand := (← optional? command? "exec" fields).isSome }

/-- A cluster, and the user to be on it. -/
def ContextEntry.decode? (v : Json) : Option ContextEntry := do
  let names := ["cluster", "user", "namespace", "extensions"]
  let fields ← fields? names names.length v
  let _ ← text? "namespace" fields
  extensions? fields
  return { cluster := ← required? Json.string? "cluster" fields, user? := ← text? "user" fields }

/-- Something under a name. -/
def Named.decode? {α : Type} (field : String) (decode : Json → Option α) (v : Json) :
    Option (Named α) := do
  let fields ← fields? ["name", field] 2 v
  return { name := ← required? Json.string? "name" fields, value? := ← optional? decode field fields }

/-- The content of a kubeconfig. -/
def Document.decode? (v : Json) : Option Document := do
  let names := ["preferences", "clusters", "users", "contexts", "current-context", "extensions",
    "kind", "apiVersion"]
  let fields ← fields? names names.length v
  let _ ← optional? preferences? "preferences" fields
  extensions? fields
  let _ ← text? "kind" fields
  let _ ← text? "apiVersion" fields
  return {
    clusters := ← list? (Named.decode? "cluster" ClusterEntry.decode?) "clusters" fields
    users := ← list? (Named.decode? "user" UserEntry.decode?) "users" fields
    contexts := ← list? (Named.decode? "context" ContextEntry.decode?) "contexts" fields
    current? := ← text? "current-context" fields }

/-- The content of a kubeconfig document, if it has the form of one. -/
def document? (k : Kubeconfig) : Option Document :=
  (Yaml.parse? k.text).bind Document.decode?

/-- What stands first under a name. -/
def under? {α : Type} (name : String) (entries : List (Named α)) : Option α :=
  (entries.find? fun e => e.name = name).bind (·.value?)

end FleetGate.Kubeconfig
