import FleetGate.Cluster.Call
import FleetGate.Fleet.Error
import FleetGate.Json.Decode
import FleetGate.Text.Case

/-!
# Access checks

The question whether a caller may do something, and the cluster's answer as a caller may see it. The
raw text of an evaluation error is never shown: `Access.classify` maps it to one of a few constant
phrases.
-/

namespace FleetGate

/-- The question whether a caller may use a verb on a resource. -/
structure AccessCheck where
  verb : String := ""
  resource : String := ""
  apiGroup : String := ""
  ns : String := ""
  name : String := ""
  subresource : String := ""
  deriving DecidableEq, Repr, Inhabited

namespace AccessCheck

/-- The verbs that an API server knows. -/
def verbs : List String :=
  ["get", "list", "watch", "create", "update", "patch", "delete", "deletecollection",
    "impersonate", "bind", "escalate", "*"]

/-- The resource with its group in front and the name behind, as far as they are given. -/
def target (c : AccessCheck) : String :=
  (if c.apiGroup.isEmpty then c.resource else c.apiGroup ++ "/" ++ c.resource) ++
    (if c.name.isEmpty then "" else "/" ++ c.name)

/-- Refuses a check without verb or resource and one with an unknown verb. -/
def validate (c : AccessCheck) : FleetResult Unit :=
  if c.verb.isEmpty then .error (.invalidAccessCheck "verb is required")
  else if c.resource.isEmpty then .error (.invalidAccessCheck "resource is required")
  else if c.verb ∉ verbs then
    .error (.invalidAccessCheck ("unknown verb " ++ Text.quoted c.verb))
  else .ok ()

/-- The question as it is put to a cluster. -/
def review (c : AccessCheck) : AccessReview where
  verb := c.verb
  resource := c.resource
  group := c.apiGroup
  ns := c.ns
  name := c.name
  subresource := c.subresource

/-- Stores a field. -/
def set (key : String) (v : Json) (c : AccessCheck) : Json.Decoded AccessCheck :=
  match key with
  | "verb" => return { c with verb := ← Json.decodeString v }
  | "resource" => return { c with resource := ← Json.decodeString v }
  | "apiGroup" => return { c with apiGroup := ← Json.decodeString v }
  | "namespace" => return { c with ns := ← Json.decodeString v }
  | "name" => return { c with name := ← Json.decodeString v }
  | "subresource" => return { c with subresource := ← Json.decodeString v }
  | _ => .ok c

/-- Whether the fields without a default are there. -/
def hasRequired : Json → Bool
  | .obj ms => Keyed.has "verb" ms && Keyed.has "resource" ms
  | .arr items => 2 ≤ items.length
  | _ => false

/-- Decodes a check. Verb and resource must be given. -/
def ofJson (v : Json) : Json.Decoded AccessCheck := do
  let c ← Json.decodeRecord "struct AccessCheck"
    ["verb", "resource", "apiGroup", "namespace", "name", "subresource"] set {} v
  if hasRequired v then return c
  throw (.missing "verb")

/-- Writes a check, empty optional fields left out. -/
def toJson (c : AccessCheck) : Json :=
  let optional := [("apiGroup", c.apiGroup), ("namespace", c.ns), ("name", c.name),
    ("subresource", c.subresource)]
  .ofMembers ([("verb", .str c.verb), ("resource", .str c.resource)] ++
    (optional.filter fun m => !m.2.isEmpty).map fun m => (m.1, .str m.2))

end AccessCheck

namespace Access

/-- What evaluation errors are about, by the words in them; the first line with a word decides. -/
def classes : List (List String × String) := [
  (["unable to find", "not found", "no matches for kind"], "resource type not recognized"),
  (["webhook", "admission controller"], "policy evaluation failed"),
  (["timeout", "deadline exceeded"], "permission check timed out"),
  (["internal error", "server error"], "internal evaluation error")]

/-- The phrase for an evaluation error of no known class. -/
def otherClass : String := "unable to evaluate permissions"

/-- The phrase for an evaluation error: one of a few constants, or empty for no error. -/
def classify (raw : String) : String :=
  if raw.isEmpty then ""
  else
    let small := Text.lowercase raw
    match classes.find? fun c => c.1.any fun word => Text.contains small word with
    | some c => c.2
    | none => otherClass

/-- The reason with the class of an evaluation error, if there was one. -/
def displayReason (reason evaluationError : String) : String :=
  if evaluationError.isEmpty then reason
  else if reason.isEmpty then "evaluation error: " ++ classify evaluationError
  else reason ++ " (evaluation error: " ++ classify evaluationError ++ ")"

end Access

/-- The reason of a verdict as a caller may see it. -/
def AccessVerdict.displayReason (v : AccessVerdict) : String :=
  Access.displayReason v.reason v.evaluationError

end FleetGate
