import FleetGate.Net.Address
import FleetGate.Text.Search

/-!
# Server names

The names under which a server may present itself: an address, or a host name whose labels are
letters, digits, underscores and inner hyphens.
-/

namespace FleetGate.Net

/-- The most characters of a label. -/
def maxLabelSize : Nat := 63

/-- The most bytes of a host name. -/
def maxHostNameSize : Nat := 253

/-- Whether characters are a label. -/
def isLabel (s : List Char) : Bool :=
  !s.isEmpty && s.length ≤ maxLabelSize && s.head? != some '-' && s.getLast? != some '-' &&
    s.all fun c => c.isAlphanum || c = '_' || c = '-'

/-- Whether a text is a host name. It may end with a point, and otherwise its last label is not
made of digits alone. -/
def isHostName (s : String) : Bool :=
  if s.isEmpty || maxHostNameSize < s.utf8ByteSize then false
  else
    match (Text.splitOn '.' s.toList).reverse with
    | [] => false
    | [] :: labels => !labels.isEmpty && labels.all isLabel
    | last :: labels => isLabel last && !last.all Char.isDigit && labels.all isLabel

/-- Whether a text is the name of a server. -/
def isServerName (s : String) : Bool :=
  isHostName s || isAddress s.toList

end FleetGate.Net
