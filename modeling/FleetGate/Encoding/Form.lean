import FleetGate.Encoding.Hex

/-!
# Form encoding

How names and values are written behind the question mark of a URL: ASCII letters, digits and four
marks stand for themselves, a space is a plus sign, and every other byte is a percent sign with two
hexadecimal digits.
-/

namespace FleetGate.Encoding

/-- The characters that stand for themselves. -/
def isFormPlain (c : Char) : Bool :=
  c.isAlphanum || "*-._".toList.contains c

/-- One byte. -/
def formByte (b : UInt8) : List Char :=
  let c := Char.ofNat b.toNat
  if b.toNat < 0x80 && isFormPlain c then [c]
  else if c = ' ' then ['+']
  else ['%', (hexDigit (b.toNat / 16)).toUpper, (hexDigit (b.toNat % 16)).toUpper]

/-- The encoded form of a text. -/
def formText (s : String) : String :=
  String.ofList (s.toUTF8.toList.flatMap formByte)

end FleetGate.Encoding
