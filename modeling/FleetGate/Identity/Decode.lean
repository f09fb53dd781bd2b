import FleetGate.Identity.Basic
import FleetGate.Json.Decode

/-!
# Decoding identities

An identity as the transport writes it: the record `subject_id`, `email`, `groups`, `extra`, every
field with a default.
-/

namespace FleetGate.RawIdentity

/-- Stores one field. -/
def set (key : String) (v : Json) (raw : RawIdentity) : Json.Decoded RawIdentity :=
  match key with
  | "subject_id" => return { raw with subjectId := ← Json.decodeString v }
  | "email" => return { raw with email := ← Json.decodeString v }
  | "groups" => return { raw with groups := ← Json.decodeList Json.decodeString v }
  | "extra" => return { raw with extra := ← Json.decodeMap (Json.decodeList Json.decodeString) v }
  | _ => .ok raw

/-- Decodes an identity. -/
def ofJson : Json → Json.Decoded RawIdentity :=
  Json.decodeRecord "struct RawIdentity" ["subject_id", "email", "groups", "extra"] set {}

end FleetGate.RawIdentity
