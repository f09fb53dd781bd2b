import FleetGate.Text.Class
import FleetGate.Text.Printable.Table

/-!
# Quoted text

The form in which a message shows a text that a caller sent: between quotation marks, with escapes
for the mark, the backslash and everything that would not be seen, so that the message stays on one
line and shows where the text ends.
-/

namespace FleetGate.Text

/-- The digits of a number in lower-case hexadecimal, with no leading zero. -/
def hexDigits (n : Nat) : List Char :=
  Nat.toDigits 16 n

/-- A character as its code point in braces. -/
def codePointEscape (c : Char) : List Char :=
  ['\\', 'u', '\x7b'] ++ hexDigits c.toNat ++ ['\x7d']

/-- Whether a character is shown as itself between quotation marks. -/
def isShown (c : Char) : Bool :=
  let n := c.toNat
  if n < 0x7f then 0x20 ≤ n
  else !inRanges Printable.attachedRanges n && !inRanges Printable.hiddenRanges n

/-- One character of a quoted text. -/
def quoteChar (c : Char) : List Char :=
  if c = '"' then ['\\', '"']
  else if c = '\\' then ['\\', '\\']
  else if c = '\n' then ['\\', 'n']
  else if c = '\r' then ['\\', 'r']
  else if c = '\t' then ['\\', 't']
  else if c = Char.ofNat 0 then ['\\', '0']
  else if isShown c then [c]
  else codePointEscape c

/-- A text between quotation marks. -/
def quoted (s : String) : String :=
  String.ofList ('"' :: (s.toList.flatMap quoteChar ++ ['"']))

end FleetGate.Text
