import FleetGate.Encoding.Hex
import FleetGate.Json.Value
import FleetGate.Number.Shortest

/-!
# JSON text

Two written forms of a value: compact, without any white space, and indented by two spaces with
one item or member to a line. In strings only the quotation mark, the backslash and the characters
below U+0020 are escaped.
-/

namespace FleetGate.Json

/-- One character of a string. -/
def escapeChar (c : Char) : List Char :=
  if c = '"' then ['\\', '"']
  else if c = '\\' then ['\\', '\\']
  else if c = '\n' then ['\\', 'n']
  else if c = '\r' then ['\\', 'r']
  else if c = '\t' then ['\\', 't']
  else if c = Char.ofNat 8 then ['\\', 'b']
  else if c = Char.ofNat 12 then ['\\', 'f']
  else if c.toNat < 0x20 then
    ['\\', 'u', '0', '0', Encoding.hexDigit (c.toNat / 16), Encoding.hexDigit (c.toNat % 16)]
  else [c]

/-- A string between quotation marks. -/
def stringText (s : String) : List Char :=
  '"' :: (s.toList.flatMap escapeChar ++ ['"'])

/-- The written form of a value that is neither an array nor an object. -/
def scalarText : Json → List Char
  | .null => "null".toList
  | .bool true => "true".toList
  | .bool false => "false".toList
  | .int n => Number.intText n
  | .float x => if x.isFinite then Number.floatText x else "null".toList
  | .str s => stringText s
  | .arr _ | .obj _ => []

mutual

/-- The compact form of a value. -/
def compactChars : Json → List Char
  | .arr xs => '[' :: (compactItems xs ++ [']'])
  | .obj ms => '\x7b' :: (compactMembers ms ++ ['\x7d'])
  | v => v.scalarText

/-- The compact forms of items, with commas between. -/
def compactItems : List Json → List Char
  | [] => []
  | [x] => compactChars x
  | x :: xs => compactChars x ++ ',' :: compactItems xs

/-- The compact forms of members, with commas between. -/
def compactMembers : List (String × Json) → List Char
  | [] => []
  | [(k, v)] => stringText k ++ ':' :: compactChars v
  | (k, v) :: ms => stringText k ++ ':' :: (compactChars v ++ ',' :: compactMembers ms)

end

/-- The compact written form. -/
def compact (v : Json) : String :=
  String.ofList v.compactChars

/-- How many UTF-8 bytes the compact form takes. -/
def compactSize (v : Json) : Nat :=
  v.compact.utf8ByteSize

/-- A line break and the indentation of a depth. -/
def newline (depth : Nat) : List Char :=
  '\n' :: List.replicate (2 * depth) ' '

mutual

/-- The indented form of a value that starts at the given depth. -/
def prettyChars (depth : Nat) : Json → List Char
  | .arr [] => ['[', ']']
  | .obj [] => ['\x7b', '\x7d']
  | .arr xs => '[' :: (prettyItems (depth + 1) xs ++ newline depth ++ [']'])
  | .obj ms => '\x7b' :: (prettyMembers (depth + 1) ms ++ newline depth ++ ['\x7d'])
  | v => v.scalarText

/-- The indented forms of items, each on its line. -/
def prettyItems (depth : Nat) : List Json → List Char
  | [] => []
  | [x] => newline depth ++ prettyChars depth x
  | x :: xs => newline depth ++ prettyChars depth x ++ ',' :: prettyItems depth xs

/-- The indented forms of members, each on its line. -/
def prettyMembers (depth : Nat) : List (String × Json) → List Char
  | [] => []
  | [(k, v)] => newline depth ++ stringText k ++ ':' :: ' ' :: prettyChars depth v
  | (k, v) :: ms =>
    newline depth ++ stringText k ++ ':' :: ' ' ::
      (prettyChars depth v ++ ',' :: prettyMembers depth ms)

end

/-- The indented written form. -/
def pretty (v : Json) : String :=
  String.ofList (v.prettyChars 0)

end FleetGate.Json
