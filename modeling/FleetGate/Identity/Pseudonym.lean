import FleetGate.Digest.Sha256
import FleetGate.Encoding.Hex

/-!
# Pseudonyms

A stand-in for an email in logs and errors: the same for the same email, and of no use for finding
the email.
-/

namespace FleetGate

/-- The pseudonym of an email: the first eight bytes of its SHA-256 digest. -/
def pseudonym (email : String) : String :=
  if email.isEmpty then "user:<empty>"
  else "user:" ++ Encoding.hexText ((Digest.sha256 email.toUTF8.toList).take 8)

end FleetGate
