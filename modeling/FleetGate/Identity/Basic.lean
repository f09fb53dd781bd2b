import FleetGate.Identity.Validation
import FleetGate.Keyed

/-!
# Identities

An identity as the transport delivers it, unchecked, and the normalized identity that may be
impersonated. `RawIdentity.normalize` trims, drops repeated groups, records the subject and then
checks what came out. The email is the principal: per-caller state is kept under it.
-/

namespace FleetGate

/-- An identity as it arrived. -/
structure RawIdentity where
  subjectId : String := ""
  email : String := ""
  groups : List String := []
  extra : List (String × List String) := []
  deriving DecidableEq, Repr, Inhabited

/-- A checked identity. -/
structure Identity where
  email : String
  groups : List String
  extra : List (String × List String)
  deriving DecidableEq, Repr

namespace Identity

/-- The extra claim that records the authenticated subject. -/
def subjectKey : String := "sub"

/-- The first value recorded for the subject. -/
def subjectId? (id : Identity) : Option String :=
  (Keyed.get? subjectKey id.extra).bind List.head?

/-- What per-caller state is keyed by. -/
def principal (id : Identity) : String := id.email

/-- The identity as it would arrive: no subject beside the recorded claim. -/
def toRaw (id : Identity) : RawIdentity :=
  { email := id.email, groups := id.groups, extra := id.extra }

end Identity

namespace RawIdentity

/-- The elements in order of their first occurrence, each once. `seen` holds those already met. -/
def distinctFrom (seen : List String) : List String → List String
  | [] => []
  | g :: rest => if g ∈ seen then distinctFrom seen rest else g :: distinctFrom (g :: seen) rest

/-- The group names trimmed, each once. -/
def distinctGroups (groups : List String) : List String :=
  distinctFrom [] (groups.map Text.trim)

/-- The extra claims with the trimmed subject recorded, if there is one. -/
def claims (raw : RawIdentity) : Except IdentityError (List (String × List String)) :=
  let subject := Text.trim raw.subjectId
  if subject.isEmpty then .ok raw.extra
  else if subject.utf8ByteSize > Limits.extraValueLength || Validation.hasControl subject then
    .error (.invalidExtraHeader
      (.of "subject" "" "subject id is not a valid header value"))
  else .ok (Keyed.put Identity.subjectKey [subject] raw.extra)

/-- Normalizes and checks an identity. If a group was repeated the list is first checked as it
arrived, so that repetition does not hide an oversized list. -/
def normalize (raw : RawIdentity) : Except IdentityError Identity := do
  let email := Text.trim raw.email
  Validation.email email
  let groups := distinctGroups raw.groups
  if raw.groups.length > groups.length then Validation.groups raw.groups
  Validation.groups groups
  let extra ← raw.claims
  Validation.extra extra
  return { email, groups, extra }

end RawIdentity

end FleetGate
