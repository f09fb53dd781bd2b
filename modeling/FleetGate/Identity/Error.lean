import FleetGate.Text.Quoted

/-!
# Rejected identities

Why an identity or a cluster name was turned down. A rejection names the field and the reason; of
the value it keeps only a start, so that no caller can write at length into a log.
-/

namespace FleetGate

/-- A rejected value of a field. Build one with `Rejection.of`, which cuts the value. -/
structure Rejection where
  field : String
  value : String
  reason : String
  deriving DecidableEq, Repr

namespace Rejection

/-- How many characters of a value a rejection keeps. -/
def shownLength : Nat := 20

/-- A value as a rejection keeps it: whole if it is short, else its start and three dots. -/
def cut (value : String) : String :=
  let chars := value.toList
  if chars.length ≤ shownLength then value
  else String.ofList (chars.take shownLength ++ "...".toList)

/-- The rejection of a value. -/
def of (field value reason : String) : Rejection :=
  ⟨field, cut value, reason⟩

/-- The message for logs. A value that is empty, or was left out as unprintable, is not shown. -/
def message (r : Rejection) : String :=
  if r.value.isEmpty then "validation failed for " ++ r.field ++ ": " ++ r.reason
  else "validation failed for " ++ r.field ++ " (" ++ Text.quoted r.value ++ "): " ++ r.reason

/-- The message for the caller, which names the field alone. -/
def userFacing (r : Rejection) : String :=
  "invalid " ++ r.field ++ " provided"

end Rejection

/-- Why an identity or a cluster name was turned down. -/
inductive IdentityError where
  | missingEmail
  | invalidEmail (r : Rejection)
  | invalidGroupName (r : Rejection)
  | invalidExtraHeader (r : Rejection)
  | invalidClusterName (r : Rejection)
  deriving DecidableEq, Repr

namespace IdentityError

/-- The rejection behind the error. -/
def rejection? : IdentityError → Option Rejection
  | .missingEmail => none
  | .invalidEmail r | .invalidGroupName r | .invalidExtraHeader r | .invalidClusterName r => some r

/-- The message for logs. -/
def message : IdentityError → String
  | .missingEmail => "email is required for impersonation"
  | .invalidEmail r => "invalid email: " ++ r.message
  | .invalidGroupName r => "invalid group name: " ++ r.message
  | .invalidExtraHeader r => "invalid extra header: " ++ r.message
  | .invalidClusterName r => "invalid cluster name: " ++ r.message

/-- The message for the caller. -/
def userFacing : IdentityError → String
  | .missingEmail => "invalid email provided"
  | .invalidEmail r | .invalidGroupName r | .invalidExtraHeader r | .invalidClusterName r =>
    r.userFacing

end IdentityError

end FleetGate
