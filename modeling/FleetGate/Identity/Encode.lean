import FleetGate.Identity.Basic
import FleetGate.Json.Value

/-!
# Identities as JSON

The written form of a normalized identity, with what follows from it: the subject and the principal.
-/

namespace FleetGate.Identity

/-- Writes an identity. -/
def toJson (id : Identity) : Json :=
  let texts (xs : List String) : Json := .arr (xs.map .str)
  .ofMembers [("email", .str id.email), ("groups", texts id.groups),
    ("extra", .ofMembers (Keyed.mapValues texts id.extra)),
    ("subjectId", match id.subjectId? with
      | some subject => .str subject
      | none => .null),
    ("principal", .str id.principal)]

end FleetGate.Identity
