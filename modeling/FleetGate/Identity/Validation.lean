import FleetGate.Identity.Error
import FleetGate.Number.Numeral
import FleetGate.Text.Class
import FleetGate.Text.Search

/-!
# Field checks

The checks that an email, a list of groups, extra claims and a cluster name must pass before they
reach a header or a lookup. Lengths are counted in UTF-8 bytes. A value with a control character is
never repeated in the error.

Each check reports the first fault it meets, in the order: too many, empty, too long, control
character, wrong form.
-/

namespace FleetGate

namespace Limits

/-- Most bytes of an email. -/
def emailLength : Nat := 254
/-- Most bytes of a group name. -/
def groupLength : Nat := 256
/-- Most groups of an identity. -/
def groupCount : Nat := 100
/-- Most bytes of the key of an extra claim. -/
def extraKeyLength : Nat := 256
/-- Most bytes of a value of an extra claim, and of a subject id. -/
def extraValueLength : Nat := 1024
/-- Most extra claims of an identity. -/
def extraCount : Nat := 50
/-- Most bytes of a cluster name. -/
def clusterNameLength : Nat := 253

end Limits

namespace Validation

/-- Whether a text holds a control character. -/
def hasControl (s : String) : Bool :=
  s.toList.any Text.isControl

/-- The reason given for a value over its length limit. -/
def tooLong (limit : Nat) : String :=
  "exceeds maximum length of " ++ Number.natString limit

/-- The reason given for a value with a control character. -/
def controlReason : String := "contains control characters"

/-- Whether a dot stands somewhere between the first and the last character. -/
def hasInnerDot : List Char → Bool
  | [] => false
  | _ :: rest => (rest.dropLast).any (· = '.')

/-- The form of an email: no white space, one at sign, something before it, and after it a dot that
is neither first nor last. -/
def isEmailForm (s : List Char) : Bool :=
  !s.any Text.isSpace &&
    match Text.splitOn '@' s with
    | [name, domain] => !name.isEmpty && hasInnerDot domain
    | _ => false

/-- Checks the email of an identity. -/
def email (s : String) : Except IdentityError Unit :=
  if s.isEmpty then .error .missingEmail
  else if s.utf8ByteSize > Limits.emailLength then
    .error (.invalidEmail (.of "email" s (tooLong Limits.emailLength)))
  else if hasControl s then .error (.invalidEmail (.of "email" "" controlReason))
  else if !isEmailForm s.toList then
    .error (.invalidEmail (.of "email" s "invalid email format"))
  else .ok ()

/-- Checks one group name. -/
def group (s : String) : Except IdentityError Unit :=
  if s.isEmpty then .error (.invalidGroupName (.of "group" "" "group name cannot be empty"))
  else if s.utf8ByteSize > Limits.groupLength then
    .error (.invalidGroupName (.of "group" s (tooLong Limits.groupLength)))
  else if hasControl s then .error (.invalidGroupName (.of "group" "" controlReason))
  else .ok ()

/-- Checks the groups of an identity. -/
def groups (gs : List String) : Except IdentityError Unit :=
  if gs.length > Limits.groupCount then
    .error (.invalidGroupName (.of "group" ""
      ("too many groups: " ++ Number.natString gs.length ++ " exceeds maximum of " ++
        Number.natString Limits.groupCount)))
  else gs.forM group

/-- The characters of an extra claim's key. -/
def isExtraKeyChar (c : Char) : Bool :=
  c.isAlphanum || c = '-' || c = '_'

/-- Checks the key of an extra claim. -/
def extraKey (key : String) : Except IdentityError Unit :=
  if key.isEmpty || key.utf8ByteSize > Limits.extraKeyLength then
    .error (.invalidExtraHeader (.of "extra key" key
      ("key length must be between 1 and " ++ Number.natString Limits.extraKeyLength)))
  else if !key.toList.all isExtraKeyChar then
    .error (.invalidExtraHeader (.of "extra key" key
      "key must contain only alphanumerics, '-' or '_'"))
  else .ok ()

/-- Checks a value of an extra claim. -/
def extraValue (value : String) : Except IdentityError Unit :=
  if value.utf8ByteSize > Limits.extraValueLength then
    .error (.invalidExtraHeader (.of "extra value" value (tooLong Limits.extraValueLength)))
  else if hasControl value then
    .error (.invalidExtraHeader (.of "extra value" "" controlReason))
  else .ok ()

/-- Checks the extra claims of an identity. -/
def extra (claims : List (String × List String)) : Except IdentityError Unit :=
  if claims.length > Limits.extraCount then
    .error (.invalidExtraHeader (.of "extra" ""
      ("too many extra headers: " ++ Number.natString claims.length ++ " exceeds maximum of " ++
        Number.natString Limits.extraCount)))
  else claims.forM fun claim => do
    extraKey claim.1
    claim.2.forM extraValue

/-- The letters and digits of a cluster name. -/
def isNameChar (c : Char) : Bool :=
  ('a' ≤ c ∧ c ≤ 'z') || ('0' ≤ c ∧ c ≤ '9')

/-- The form of a DNS-1123 label: small letters, digits and hyphens, no hyphen first or last. -/
def isLabelForm (s : List Char) : Bool :=
  s.all (fun c => isNameChar c || c = '-') &&
    s.head?.any isNameChar && s.getLast?.any isNameChar

/-- Checks the name of a workload cluster. It starts the name of a secret, so path steps are
refused by a reason of their own before the form is looked at. -/
def clusterName (name : String) : Except IdentityError Unit :=
  let refuse reason := .error (.invalidClusterName (.of "cluster name" name reason))
  if name.isEmpty then refuse "cluster name cannot be empty"
  else if name.utf8ByteSize > Limits.clusterNameLength then
    refuse (tooLong Limits.clusterNameLength)
  else if Text.contains name ".." || Text.contains name "/" || Text.contains name "\\" then
    refuse "contains path traversal characters"
  else if !isLabelForm name.toList then refuse "must be a lowercase DNS-1123 label"
  else .ok ()

end Validation

end FleetGate
