/-!
# Searching and splitting

Finding one list of characters in another and cutting around it. Everything is by structural
recursion, the leftmost place winning.
-/

namespace FleetGate.Text

/-- Whether `pattern` occurs somewhere in the characters. -/
def occursIn (pattern : List Char) : List Char → Bool
  | [] => pattern.isEmpty
  | c :: rest => pattern.isPrefixOf (c :: rest) || occursIn pattern rest

/-- Whether `pattern` occurs somewhere in the text. -/
def contains (s pattern : String) : Bool :=
  occursIn pattern.toList s.toList

/-- What follows `pattern` when the characters start with it. -/
def stripStart? : List Char → List Char → Option (List Char)
  | [], s => some s
  | _ :: _, [] => none
  | p :: ps, c :: cs => if p = c then stripStart? ps cs else none

/-- What precedes `pattern` when the characters end with it. -/
def stripEnd? (pattern s : List Char) : Option (List Char) :=
  (stripStart? pattern.reverse s.reverse).map List.reverse

/-- The characters before and after the first occurrence of `pattern`. -/
def splitOnce? (pattern : List Char) : List Char → Option (List Char × List Char)
  | [] => if pattern.isEmpty then some ([], []) else none
  | c :: rest =>
    match stripStart? pattern (c :: rest) with
    | some after => some ([], after)
    | none => (splitOnce? pattern rest).map fun (before, after) => (c :: before, after)

/-- The pieces between the occurrences of `sep`: always one more than there are separators. -/
def splitOn (sep : Char) : List Char → List (List Char)
  | [] => [[]]
  | c :: rest =>
    if c = sep then [] :: splitOn sep rest
    else
      match splitOn sep rest with
      | [] => [[c]]
      | piece :: pieces => (c :: piece) :: pieces

/-- Joins pieces with `sep` between them. -/
def joinWith (sep : List Char) : List (List Char) → List Char
  | [] => []
  | [piece] => piece
  | piece :: pieces => piece ++ sep ++ joinWith sep pieces

/-- The lines of a text: cut at line feeds, a carriage return in front of one dropped, no empty
line after a final line feed. -/
def lines (s : List Char) : List (List Char) :=
  match (splitOn '\n' s).reverse with
  | [] => []
  | last :: before =>
    let closed := before.map fun line =>
      match line.reverse with
      | '\r' :: kept => kept.reverse
      | _ => line
    closed.reverse ++ (if last.isEmpty then [] else [last])

end FleetGate.Text
