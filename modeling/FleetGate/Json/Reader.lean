import FleetGate.Encoding.Hex
import FleetGate.Json.Value
import FleetGate.Number.Numeral

/-!
# Reading JSON

A reader for the JSON grammar with the usual limits: nesting stays below 128 levels, a number
whose magnitude exceeds binary64 is refused, and of two members of one name the last is kept.

A number without fraction and exponent that fits 64 bits, signed or not, is a whole number. Any
other is computed from its digits, as far as they fit 64 bits, by one multiplication with or
division by a power of ten.

Every reader takes the characters left and a budget of steps; a step consumes a character or
enters a value, so twice the length of the text and a few more are enough.
-/

namespace FleetGate.Json.Reader

/-- White space between tokens. -/
def isBlank (c : Char) : Bool :=
  c = ' ' || c = '\n' || c = '\t' || c = '\r'

/-- The characters from the next token on. -/
def skip (s : List Char) : List Char :=
  s.dropWhile isBlank

/-- A 16-bit unit written as four hexadecimal digits. -/
def unit? : List Char → Option (Nat × List Char)
  | a :: b :: c :: d :: rest => do
    let a ← Encoding.hexValue? a
    let b ← Encoding.hexValue? b
    let c ← Encoding.hexValue? c
    let d ← Encoding.hexValue? d
    return (((a * 16 + b) * 16 + c) * 16 + d, rest)
  | _ => none

/-- The character of an escape that starts `\u`: one unit, or two that form a surrogate pair. -/
def escapedUnit? (s : List Char) : Option (Char × List Char) := do
  let (high, rest) ← unit? s
  if 0xd800 ≤ high ∧ high < 0xdc00 then
    match rest with
    | '\\' :: 'u' :: rest =>
      let (low, rest) ← unit? rest
      if 0xdc00 ≤ low ∧ low < 0xe000 then
        return (Char.ofNat (0x10000 + (high - 0xd800) * 0x400 + (low - 0xdc00)), rest)
      else none
    | _ => none
  else if 0xdc00 ≤ high ∧ high < 0xe000 then none
  else return (Char.ofNat high, rest)

/-- The rest of a string after its opening mark. -/
def stringRest? : Nat → List Char → Option (List Char × List Char)
  | 0, _ => none
  | fuel + 1, s =>
    match s with
    | [] => none
    | '"' :: rest => some ([], rest)
    | '\\' :: 'u' :: rest => do
      let (c, rest) ← escapedUnit? rest
      let (cs, rest) ← stringRest? fuel rest
      return (c :: cs, rest)
    | '\\' :: e :: rest => do
      let c ← match e with
        | '"' => some '"'
        | '\\' => some '\\'
        | '/' => some '/'
        | 'b' => some (Char.ofNat 8)
        | 'f' => some (Char.ofNat 12)
        | 'n' => some '\n'
        | 'r' => some '\r'
        | 't' => some '\t'
        | _ => none
      let (cs, rest) ← stringRest? fuel rest
      return (c :: cs, rest)
    | c :: rest =>
      if c.toNat < 0x20 then none
      else do
        let (cs, rest) ← stringRest? fuel rest
        return (c :: cs, rest)

/-- The digits in front. -/
def digits (s : List Char) : List Nat × List Char :=
  ((s.takeWhile Char.isDigit).map fun c => c.toNat - '0'.toNat, s.dropWhile Char.isDigit)

/-- The number of the digits that fit 64 bits, and how many digits are left over. -/
def significand (value : Nat) : List Nat → Nat × Nat
  | [] => (value, 0)
  | d :: rest =>
    let next := value * 10 + d
    if next ≤ Number.maxUnsigned64 then significand next rest else (value, rest.length + 1)

/-- Divides by `10^308` until the exponent is within the powers that binary64 has. -/
def scaleDown (f : Float) (exponent : Int) : Nat → Float × Int
  | 0 => (f, exponent)
  | fuel + 1 =>
    if exponent < -308 ∧ f != 0 then
      scaleDown (f / Float.ofScientific 1 false 308) (exponent + 308) fuel
    else (f, exponent)

/-- The magnitude `value · 10^exponent`, if binary64 reaches it. -/
def magnitude? (value : Nat) (exponent : Int) : Option Float :=
  let f := Float.ofNat value
  if f == 0 then some f
  else if exponent > 308 then none
  else if exponent ≥ 0 then
    let product := f * Float.ofScientific 1 false exponent.toNat
    if product.isFinite then some product else none
  else
    -- After four divisions nothing is left of any 64-bit number.
    let (f, exponent) := scaleDown f exponent 4
    if f == 0 then some f
    else some (f / Float.ofScientific 1 false (-exponent).toNat)

/-- The exponent part of a number: none, or its sign and digits. -/
def exponent? : List Char → Option (Option Int × List Char)
  | c :: rest =>
    if c = 'e' ∨ c = 'E' then
      let (negative, rest) := match rest with
        | '+' :: rest => (false, rest)
        | '-' :: rest => (true, rest)
        | _ => (false, rest)
      let (ds, rest) := digits rest
      if ds.isEmpty then none
      else
        let n : Nat := ds.foldl (fun n d => n * 10 + d) 0
        some (some (if negative then -(n : Int) else n), rest)
    else some (none, c :: rest)
  | [] => some (none, [])

/-- The fraction part of a number: none, or its digits. -/
def fraction? : List Char → Option (Option (List Nat) × List Char)
  | '.' :: rest =>
    let (ds, rest) := digits rest
    if ds.isEmpty then none else some (some ds, rest)
  | rest => some (none, rest)

/-- A number, its sign already read. -/
def number? (negative : Bool) (s : List Char) : Option (Json × List Char) := do
  let (whole, rest) := digits s
  if whole.isEmpty ∨ (whole.head? = some 0 ∧ whole.length > 1) then none
  let (fraction, rest) ← fraction? rest
  let (exponent, rest) ← exponent? rest
  let (value, dropped) := significand 0 whole
  if fraction.isNone ∧ exponent.isNone ∧ dropped = 0 then
    if !negative then return (.int value, rest)
    else if value ≠ 0 ∧ -(value : Int) ≥ Number.minSigned64 then return (.int (-value), rest)
    else return (.float (-(Float.ofNat value)), rest)
  else
    let places := fraction.getD []
    let (value, left) := significand value places
    let scale : Int := dropped - (places.length - left : Nat)
    let f ← magnitude? value (scale + exponent.getD 0)
    return (.float (if negative then -f else f), rest)

mutual

/-- A value, no white space in front, with `depth` levels of nesting left. -/
def value? : Nat → Nat → List Char → Option (Json × List Char)
  | 0, _, _ => none
  | fuel + 1, depth, s =>
    match s with
    | 'n' :: 'u' :: 'l' :: 'l' :: rest => some (.null, rest)
    | 't' :: 'r' :: 'u' :: 'e' :: rest => some (.bool true, rest)
    | 'f' :: 'a' :: 'l' :: 's' :: 'e' :: rest => some (.bool false, rest)
    | '-' :: rest => number? true rest
    | '"' :: rest => do
      let (cs, rest) ← stringRest? (rest.length + 1) rest
      return (.str (String.ofList cs), rest)
    | '[' :: rest =>
      if depth ≤ 1 then none
      else match skip rest with
        | ']' :: rest => some (.arr [], rest)
        | rest => do
          let (xs, rest) ← items? fuel (depth - 1) rest
          return (.arr xs, rest)
    | '\x7b' :: rest =>
      if depth ≤ 1 then none
      else match skip rest with
        | '\x7d' :: rest => some (.obj [], rest)
        | rest => do
          let (ms, rest) ← members? fuel (depth - 1) rest
          return (.ofMembers ms, rest)
    | s => number? false s

/-- The items of an array up to its closing bracket, at least one. -/
def items? : Nat → Nat → List Char → Option (List Json × List Char)
  | 0, _, _ => none
  | fuel + 1, depth, s => do
    let (x, rest) ← value? fuel depth (skip s)
    match skip rest with
    | ']' :: rest => return ([x], rest)
    | ',' :: rest =>
      let (xs, rest) ← items? fuel depth (skip rest)
      return (x :: xs, rest)
    | _ => none

/-- The members of an object up to its closing brace, at least one. -/
def members? : Nat → Nat → List Char → Option (List (String × Json) × List Char)
  | 0, _, _ => none
  | fuel + 1, depth, s =>
    match skip s with
    | '"' :: rest => do
      let (key, rest) ← stringRest? (rest.length + 1) rest
      match skip rest with
      | ':' :: rest =>
        let (v, rest) ← value? fuel depth (skip rest)
        match skip rest with
        | '\x7d' :: rest => return ([(String.ofList key, v)], rest)
        | ',' :: rest =>
          let (ms, rest) ← members? fuel depth (skip rest)
          return ((String.ofList key, v) :: ms, rest)
        | _ => none
      | _ => none
    | _ => none

end

end FleetGate.Json.Reader

namespace FleetGate.Json

/-- Reads a text that is one JSON value with nothing but white space around it. -/
def parse? (s : String) : Option Json :=
  let chars := s.toList
  match Reader.value? (2 * chars.length + 2) 128 (Reader.skip chars) with
  | some (v, rest) => if (Reader.skip rest).isEmpty then some v else none
  | none => none

end FleetGate.Json
