import FleetGate.Text.Case

/-!
# Header names and values

Which texts may be the name or the value of an HTTP header. Names are tokens and are kept in lower
case; in a value only the horizontal tab and the characters from U+0020 on, but for DEL, may stand.
-/

namespace FleetGate.Net

/-- The characters of a token. -/
def isTokenChar (c : Char) : Bool :=
  c.isAlphanum || "!#$%&'*+-.^_`|~".toList.contains c

/-- The header name that a text spells, in lower case. -/
def headerName? (s : String) : Option String :=
  if !s.isEmpty && s.toList.all isTokenChar then
    some (String.ofList (s.toList.map Text.lowerAscii))
  else none

/-- The characters of a header value. -/
def isValueChar (c : Char) : Bool :=
  c = '\t' || (0x20 ≤ c.toNat && c.toNat != 0x7f)

/-- Whether a text may be the value of a header. -/
def isHeaderValue (s : String) : Bool :=
  s.toList.all isValueChar

end FleetGate.Net
