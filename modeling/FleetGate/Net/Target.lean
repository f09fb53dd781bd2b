/-!
# Request targets

Which texts may be the target of an HTTP request: a path and, behind a question mark, a query. What
should have been encoded is refused, and so is a target that is too long.
-/

namespace FleetGate.Net

/-- Whether a character is neither an ASCII control character nor the space. -/
def isVisible (c : Char) : Bool :=
  0x21 ≤ c.toNat && c.toNat ≠ 0x7f

/-- The characters of a path: everything visible but for a few, and everything beyond ASCII.
Quotation marks and braces are let through. -/
def isPathChar (c : Char) : Bool :=
  isVisible c && !"#<>?`".toList.contains c

/-- The characters of a query. -/
def isQueryChar (c : Char) : Bool :=
  isVisible c && !"\"#<>".toList.contains c

/-- The path of a target, and the query behind the first question mark. What follows a number sign
is not sent. -/
def splitTarget (target : List Char) : List Char × List Char :=
  let sent := target.takeWhile (· ≠ '#')
  (sent.takeWhile (· ≠ '?'), (sent.dropWhile (· ≠ '?')).drop 1)

/-- The most bytes of a target. -/
def maxTargetSize : Nat := 65534

/-- Whether a text may be sent as a target. -/
def isTarget (target : String) : Bool :=
  let (path, query) := splitTarget target.toList
  target.utf8ByteSize ≤ maxTargetSize && path.all isPathChar && query.all isQueryChar

end FleetGate.Net
