import FleetGate.Json.Value
import FleetGate.Text.Case
import FleetGate.Text.Search

/-!
# Masking secrets

Which objects are secrets, and their masked form, in which every key stays and every value under
`data` and `stringData`, and of the annotations of service accounts, is replaced.

A secret is known by its kind. Items of a list come without a kind, so an object without one is
taken for a secret if it has the shape of one.
-/

namespace FleetGate.Shaping

/-- What stands in place of a masked value. -/
def redacted : String := "***REDACTED***"

/-- The members of a secret that hold its payload. -/
def payloadFields : List String := ["data", "stringData"]

/-- The annotations by which a secret names a service account. -/
def sensitiveAnnotations : List String := [
  "kubernetes.io/service-account.uid",
  "kubernetes.io/service-account.name",
  "kubernetes.io/service-account-token"]

/-- The words in the name of a config map that suggest credentials. -/
def sensitiveWords : List String :=
  ["credentials", "password", "secret", "auth", "token", "kubeconfig"]

/-- The shape of a secret: a text as `type`, and a payload. -/
def hasSecretShape (v : Json) : Bool :=
  ((v.member? "type").bind Json.string?).isSome &&
    payloadFields.any fun field => (v.member? field).any Json.isObject

/-- Whether an object is a secret. -/
def isSecret (v : Json) : Bool :=
  match v.stringAt? ["kind"] with
  | some kind => if kind.isEmpty then hasSecretShape v else Text.eqIgnoringAsciiCase kind "Secret"
  | none => hasSecretShape v

/-- Replaces every value of an object. -/
def maskValues : Json → Json
  | .obj ms => .obj (Keyed.mapValues (fun _ => .str redacted) ms)
  | v => v

/-- Replaces the values of the sensitive annotations. -/
def maskAnnotations : Json → Json
  | .obj ms =>
    .obj (ms.map fun p => if p.1 ∈ sensitiveAnnotations then (p.1, .str redacted) else p)
  | v => v

/-- Masks the annotations within the metadata. -/
def maskMetadata : Json → Json
  | .obj ms => .obj (Keyed.modify "annotations" maskAnnotations ms)
  | v => v

/-- The masked form of a secret; any other object is kept. -/
def maskSecrets (v : Json) : Json :=
  if isSecret v then
    match v with
    | .obj ms =>
      .obj (Keyed.modify "metadata" maskMetadata
        (Keyed.modify "stringData" maskValues (Keyed.modify "data" maskValues ms)))
    | v => v
  else v

/-- The members of an object with the given names whose values pass a test. -/
def pick (names : List String) (test : Json → Bool) (v : Json) : List (String × Json) :=
  names.filterMap fun name => ((v.member? name).filter test).map fun w => (name, w)

/-- What may be told about a secret: its names, labels and type, and how many keys it has. -/
def secretSummary (v : Json) : Json :=
  let isText (w : Json) : Bool := w.string?.isSome
  let metadata := match v.member? "metadata" with
    | some (.obj ms) =>
      [("metadata", Json.ofMembers (pick ["name", "namespace", "creationTimestamp"] isText (.obj ms)
        ++ pick ["labels"] Json.isObject (.obj ms)))]
    | _ => []
  let keys := match v.member? "data" with
    | some (.obj ms) => [("dataKeys", Json.int ms.length)]
    | _ => []
  .ofMembers (pick ["kind", "apiVersion", "type"] isText v ++ metadata ++ keys ++
    [("_dataRedacted", .bool true)])

/-- Whether an object is likely to carry credentials: a secret, a service account, or a config map
whose name says so. -/
def isSensitive (v : Json) : Bool :=
  let kind := Text.lowercase ((v.stringAt? ["kind"]).getD "")
  if kind = "secret" ∨ kind = "serviceaccount" then true
  else if kind = "configmap" then
    match v.stringAt? ["metadata", "name"] with
    | some name => sensitiveWords.any (Text.contains (Text.lowercase name))
    | none => false
  else false

end FleetGate.Shaping
