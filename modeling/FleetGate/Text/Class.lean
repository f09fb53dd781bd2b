/-!
# Character classes

White space and control characters as Unicode defines them, and the trimming that follows from
the first. Both classes are small enough to be written out.
-/

namespace FleetGate.Text

/-- The property `White_Space`. -/
def isSpace (c : Char) : Bool :=
  let n := c.toNat
  (9 ≤ n && n ≤ 13) || n == 0x20 || n == 0x85 || n == 0xa0 || n == 0x1680 ||
    (0x2000 ≤ n && n ≤ 0x200a) || n == 0x2028 || n == 0x2029 || n == 0x202f || n == 0x205f ||
    n == 0x3000

/-- The general category `Cc`. -/
def isControl (c : Char) : Bool :=
  let n := c.toNat
  n < 0x20 || (0x7f ≤ n && n ≤ 0x9f)

/-- Whether a code point lies in one of the given closed ranges. -/
def inRanges (ranges : Array (Nat × Nat)) (n : Nat) : Bool :=
  ranges.any fun r => r.1 ≤ n && n ≤ r.2

/-- The characters without the white space in front. -/
def trimStartChars (s : List Char) : List Char :=
  s.dropWhile isSpace

/-- The characters without the white space behind. -/
def trimEndChars (s : List Char) : List Char :=
  (s.reverse.dropWhile isSpace).reverse

/-- The characters without the white space on either side. -/
def trimChars (s : List Char) : List Char :=
  trimEndChars (trimStartChars s)

/-- A text without the white space on either side. -/
def trim (s : String) : String :=
  String.ofList (trimChars s.toList)

end FleetGate.Text
