import FleetGate.Text.Case
import FleetGate.Text.Quoted

/-!
# Credential modes

Whose credentials read the management cluster: the caller's, or those of the service itself.
-/

namespace FleetGate

/-- Whose credentials read the management cluster. -/
inductive CredentialMode where
  | user
  | privileged
  deriving DecidableEq, Repr, Inhabited

namespace CredentialMode

/-- The name in settings and logs. -/
def name : CredentialMode → String
  | .user => "user"
  | .privileged => "privileged"

/-- The mode of a name. -/
def ofName? (s : String) : Option CredentialMode :=
  if s = "user" then some .user
  else if s = "privileged" then some .privileged
  else none

/-- Reads a mode in any case of its letters. -/
def parse (s : String) : Except String CredentialMode :=
  let small := Text.lowercase s
  match ofName? small with
  | some mode => .ok mode
  | none => .error ("unknown credential mode " ++ Text.quoted small)

end CredentialMode

end FleetGate
