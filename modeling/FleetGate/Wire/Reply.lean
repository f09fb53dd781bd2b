import FleetGate.Cluster.Call
import FleetGate.Encoding.Base64
import FleetGate.Json.Reader
import FleetGate.Text.Quoted

/-!
# Replies of an API server

What the reply to a call means. A status from 400 on is a failure, described by a status object if
the body holds one and by the body itself if not; any other reply must hold what was asked for.
-/

namespace FleetGate.Wire

/-- A reply of an API server. -/
structure Reply where
  status : Nat
  body : String
  deriving DecidableEq, Repr

/-! ## Failures -/

/-- What a status object tells. -/
structure Status where
  status? : Option String := none
  message : String := ""
  reason : String := ""
  code? : Option Nat := none
  deriving DecidableEq, Repr

/-- Reads a status object, which must tell a status and a code of 16 bits. -/
def Status.ofJson? (v : Json) : Option Status := do
  let set (key : String) (v : Json) (s : Status) : Json.Decoded Status :=
    match key with
    | "status" => return { s with status? := some (← Json.decodeString v) }
    | "message" => return { s with message := ← Json.decodeString v }
    | "reason" => return { s with reason := ← Json.decodeString v }
    | _ => return { s with code? := some (← Json.decodeInt 0 65535 "u16" v).toNat }
  let s ← (Json.decodeRecord "struct ErrorResponse" ["status", "message", "reason", "code"] set {}
    v).toOption
  let _ ← s.status?
  let _ ← s.code?
  return s

/-- The code and the message of a failed reply. -/
def failureOf (r : Reply) : Nat × String :=
  match (Json.parse? r.body).bind Status.ofJson? with
  | some s => (s.code?.getD r.status, s.message)
  | none => (r.status, Text.quoted r.body)

/-- What it means for a call that something is not found, if that means more than a failure. -/
def notFound? {α : Type} : ClusterCall α → Option ClusterError
  | .get r _ name | .delete r _ name | .patch r _ name _ _ | .scale r _ name _ =>
    some (.notFound r.kind name)
  | .list r _ _ => some (.notInstalled r.qualifiedName)
  | .logs _ pod _ => some (.notFound ResourceType.pod.kind pod)
  | .secretData _ name => some (.notFound ResourceType.secret.kind name)
  | .create _ _ _ | .apply _ _ _ | .review _ => none

/-- What a failed reply to a call means. -/
def failure {α : Type} (call : ClusterCall α) (r : Reply) : ClusterError :=
  let (code, message) := failureOf r
  match notFound? call with
  | some e => if code = 404 then e else .ofStatus code message
  | none => .ofStatus code message

/-! ## Answers -/

/-- The failure of a reply that does not hold what was asked for. -/
def undecodable : ClusterError := .api 0 "the reply cannot be decoded"

/-- The body of a reply as JSON. -/
def bodyOf (r : Reply) : Except ClusterError Json :=
  match Json.parse? r.body with
  | some v => .ok v
  | none => .error undecodable

/-- A decoded value of a reply. -/
def decoded {α : Type} : Json.Decoded α → Except ClusterError α
  | .ok a => .ok a
  | .error _ => .error undecodable

/-- A member that may be missing or `null`. -/
def optional {α : Type} (name : String) (decode : Json → Json.Decoded α) (v : Json) :
    Except ClusterError (Option α) :=
  match v.member? name with
  | none => .ok none
  | some m => decoded (Json.decodeOption decode m)

/-- Refuses a value that is no object, or one that states another type. -/
def expectType (r : ResourceType) (v : Json) : Except ClusterError Unit :=
  let agrees (name text : String) : Bool := (v.member? name).all fun m => m.string? = some text
  if v.isObject && agrees "apiVersion" r.apiVersion && agrees "kind" r.kind then .ok ()
  else .error undecodable

/-- The object in a reply. -/
def objectOf (r : Reply) : Except ClusterError Object := do
  decoded (Object.ofJson (← bodyOf r))

/-- The page in a reply. Its items state their type, and an empty continue token is none. -/
def pageOf (resource : ResourceType) (r : Reply) : Except ClusterError Page := do
  let v ← bodyOf r
  let items ← match v.member? "items" with
    | some (.arr items) => decoded (items.mapM Object.ofJson)
    | some .null => pure []
    | _ => throw undecodable
  let info := (v.member? "metadata").getD (.obj [])
  if !info.isObject then throw undecodable
  let continue? ← optional "continue" Json.decodeString info
  let resourceVersion? ← optional "resourceVersion" Json.decodeString info
  let remaining? ← optional "remainingItemCount" Json.decodeSigned64 info
  return {
    items := items.map resource.stamp
    continue? := continue?.filter fun t => !t.isEmpty
    resourceVersion?
    remaining? }

/-- What is left of a deletion: a status, or the object that goes. -/
def deletionOf (r : Reply) : Except ClusterError Unit := do
  let v ← bodyOf r
  if v.stringAt? ["kind"] = some "Status" then return ()
  let _ ← decoded (Object.ofJson v)
  return ()

/-- The verdict in a reply. A missing one allows nothing. -/
def verdictOf (r : Reply) : Except ClusterError AccessVerdict := do
  let v ← bodyOf r
  expectType .accessReview v
  match (v.member? "status").getD .null with
  | .null => return {}
  | status =>
    if !status.isObject then throw undecodable
    let allowed ← match status.member? "allowed" with
      | some a => decoded (Json.decodeBool a)
      | none => pure false
    let denied? ← optional "denied" Json.decodeBool status
    let reason? ← optional "reason" Json.decodeString status
    let evaluationError? ← optional "evaluationError" Json.decodeString status
    return {
      allowed
      denied := denied?.getD false
      reason := reason?.getD ""
      evaluationError := evaluationError?.getD "" }

/-- Decodes bytes from Base64 text. -/
def decodeBytes (v : Json) : Json.Decoded (List UInt8) := do
  match Encoding.bytesOfBase64? (← Json.decodeString v).toList with
  | some bytes => return bytes
  | none => throw (.wrongType v "base64 text")

/-- The data of the secret in a reply. Data that is given as text counts where no bytes are. -/
def secretDataOf (r : Reply) : Except ClusterError SecretData := do
  let v ← bodyOf r
  expectType .secret v
  let data? ← optional "data" (Json.decodeMap decodeBytes) v
  let texts? ← optional "stringData" (Json.decodeMap Json.decodeString) v
  return (texts?.getD []).foldl (fun data text =>
    if Keyed.has text.1 data then data
    else Keyed.put text.1 text.2.toUTF8.toList data) (data?.getD [])

/-- What a reply that is no failure answers to a call. -/
def answerOf {α : Type} : ClusterCall α → Reply → Except ClusterError α
  | .get _ _ _, r | .create _ _ _, r | .apply _ _ _, r | .patch _ _ _ _ _, r => objectOf r
  | .list resource _ _, r => pageOf resource r
  | .delete _ _ _, r => deletionOf r
  | .scale _ _ _ _, r => do expectType .scale (← bodyOf r)
  | .logs _ _ _, r => .ok r.body
  | .review _, r => verdictOf r
  | .secretData _ _, r => secretDataOf r

/-- What a reply answers to a call. -/
def outcomeOf {α : Type} (call : ClusterCall α) (r : Reply) : Except ClusterError α :=
  if 400 ≤ r.status then .error (failure call r) else answerOf call r

end FleetGate.Wire
