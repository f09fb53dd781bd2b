import FleetGate.Text.Class
import FleetGate.Text.Case.Table

/-!
# Lower case

Lower-casing by the full Unicode mapping. Two letters need more than a table of pairs: a dotted
capital I becomes two characters, and a capital sigma at the end of a word takes its final form.
ASCII letters are decided without the table.
-/

namespace FleetGate.Text

/-- The small letter of an ASCII capital; every other character is kept. -/
def lowerAscii (c : Char) : Char :=
  if 'A' ≤ c ∧ c ≤ 'Z' then Char.ofNat (c.toNat + 32) else c

/-- Whether two texts are equal up to the case of their ASCII letters. -/
def eqIgnoringAsciiCase (s t : String) : Bool :=
  s.toList.map lowerAscii = t.toList.map lowerAscii

/-- The lower-case form of one character out of context. -/
def lowerChar (c : Char) : List Char :=
  let n := c.toNat
  if n < 0x80 then [lowerAscii c]
  else if n = 0x130 then ['i', Char.ofNat 0x307]
  else
    match Case.capitals.find? fun r =>
      r.first ≤ n && n ≤ r.last && (n - r.first) % r.step == 0 with
    | some r => [Char.ofNat (n + r.shift).toNat]
    | none => [c]

/-- Whether a cased letter comes first once case-ignorable characters are skipped. -/
def casedNext : List Char → Bool
  | [] => false
  | c :: rest =>
    if inRanges Case.ignorableRanges c.toNat then casedNext rest
    else inRanges Case.casedRanges c.toNat

/-- Lower-cases characters, `before` being the characters already passed, latest first. A capital
sigma that follows a cased letter and precedes none is final. -/
def lowerFrom (before : List Char) : List Char → List Char
  | [] => []
  | c :: rest =>
    let small :=
      if c = 'Σ' then [if casedNext before && !casedNext rest then 'ς' else 'σ'] else lowerChar c
    small ++ lowerFrom (c :: before) rest

/-- A text in lower case. -/
def lowercase (s : String) : String :=
  String.ofList (lowerFrom [] s.toList)

end FleetGate.Text
