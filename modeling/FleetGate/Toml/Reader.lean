import FleetGate.Encoding.Hex
import FleetGate.Text.Search
import FleetGate.Time.Calendar
import FleetGate.Toml.Document

/-!
# Reading TOML

A reader for TOML 1.0. Nesting of arrays and inline tables, and the parts of a key, stay below 80.
A whole number must fit 64 signed bits, and a number with a fraction must not exceed binary64.

Every reader takes the characters left and gives back those after what it read; the line reader
does one expression after another and puts them into the document.
-/

namespace FleetGate.Toml

/-- Nesting of values and parts of a key stay below this. -/
def depthLimit : Nat := 80

namespace Reader

/-- Blanks within a line. -/
def isBlank (c : Char) : Bool :=
  c = ' ' || c = '\t'

/-- Skips blanks. -/
def skip (s : List Char) : List Char :=
  s.dropWhile isBlank

/-- Whether a character may stand in a comment, or in a string as itself: the tab and all but the
control characters of ASCII. -/
def isPlain (c : Char) : Bool :=
  c = '\t' || (0x20 ≤ c.toNat && c.toNat ≠ 0x7f)

/-- What follows a line break. -/
def lineBreak? : List Char → Option (List Char)
  | '\n' :: rest => some rest
  | '\r' :: '\n' :: rest => some rest
  | _ => none

/-- Skips a comment, if one starts here. -/
def skipComment : List Char → List Char
  | '#' :: rest => rest.dropWhile isPlain
  | s => s

/-- Skips blanks, comments and line breaks. -/
def skipLines : Nat → List Char → List Char
  | 0, s => s
  | fuel + 1, s =>
    let after := skipComment (skip s)
    match lineBreak? after with
    | some rest => skipLines fuel rest
    | none => after

/-! ## Strings -/

/-- A character given by so many hexadecimal digits. -/
def codePoint? (width : Nat) (s : List Char) : Option (Char × List Char) := do
  let ds ← (s.take width).mapM Encoding.hexValue?
  let n : Nat := ds.foldl (fun n d => n * 16 + d) 0
  if ds.length = width ∧ n.isValidChar then some (Char.ofNat n, s.drop width) else none

/-- A character given by an escape, the backslash already read. -/
def escape? : List Char → Option (Char × List Char)
  | 'b' :: rest => some (Char.ofNat 8, rest)
  | 't' :: rest => some ('\t', rest)
  | 'n' :: rest => some ('\n', rest)
  | 'f' :: rest => some (Char.ofNat 12, rest)
  | 'r' :: rest => some ('\r', rest)
  | '"' :: rest => some ('"', rest)
  | '\\' :: rest => some ('\\', rest)
  | 'u' :: rest => codePoint? 4 rest
  | 'U' :: rest => codePoint? 8 rest
  | _ => none

/-- Skips blanks and line breaks. -/
def skipBreaks (s : List Char) : List Char :=
  s.dropWhile fun c => isBlank c || c = '\n' || c = '\r'

/-- Whether every carriage return among the white space in front belongs to a line break. -/
def breaksAreWhole : List Char → Bool
  | '\r' :: '\n' :: rest => breaksAreWhole rest
  | '\r' :: _ => false
  | c :: rest => if isBlank c || c = '\n' then breaksAreWhole rest else true
  | [] => true

/-- What follows a backslash that ends its line: the next character that is neither blank nor line
break. -/
def continuation? (s : List Char) : Option (List Char) :=
  match lineBreak? (skip s) with
  | some rest => if breaksAreWhole rest then some (skipBreaks rest) else none
  | none => none

/-- The rest of a one-line string with escapes. -/
def basic? : Nat → List Char → Option (List Char × List Char)
  | 0, _ => none
  | fuel + 1, s =>
    match s with
    | '"' :: rest => some ([], rest)
    | '\\' :: rest => do
      let (c, rest) ← escape? rest
      let (cs, rest) ← basic? fuel rest
      return (c :: cs, rest)
    | c :: rest =>
      if isPlain c then (basic? fuel rest).map fun (cs, rest) => (c :: cs, rest) else none
    | [] => none

/-- The rest of a one-line string without escapes. -/
def literal? (s : List Char) : Option (List Char × List Char) :=
  let inside := s.takeWhile fun c => c ≠ '\'' && isPlain c
  match s.drop inside.length with
  | '\'' :: rest => some (inside, rest)
  | _ => none

/-- The rest of a string of several lines between triple marks. A run of three to five marks ends
it, those before the last three belonging to the string. -/
def multiline? (mark : Char) (escapes : Bool) : Nat → List Char → Option (List Char × List Char)
  | 0, _ => none
  | fuel + 1, s =>
    match s with
    | [] => none
    | c :: rest =>
      if c = mark then
        let marks := s.takeWhile (· = mark)
        let after := s.drop marks.length
        if marks.length < 3 then
          (multiline? mark escapes fuel after).map fun (cs, rest) => (marks ++ cs, rest)
        else if marks.length ≤ 5 then some (marks.drop 3, after)
        else none
      else
        match lineBreak? s with
        | some rest => (multiline? mark escapes fuel rest).map fun (cs, rest) => ('\n' :: cs, rest)
        | none =>
          if c = '\\' ∧ escapes then
            match continuation? rest with
            | some rest => multiline? mark escapes fuel rest
            | none => do
              let (c, rest) ← escape? rest
              let (cs, rest) ← multiline? mark escapes fuel rest
              return (c :: cs, rest)
          else if isPlain c then
            (multiline? mark escapes fuel rest).map fun (cs, rest) => (c :: cs, rest)
          else none

/-- A string of any of the four kinds. A line break right after triple marks is skipped. -/
def string? (s : List Char) : Option (List Char × List Char) :=
  let inner (mark : Char) (escapes : Bool) (rest : List Char) :=
    multiline? mark escapes (rest.length + 1) ((lineBreak? rest).getD rest)
  match s with
  | '"' :: '"' :: '"' :: rest => inner '"' true rest
  | '\'' :: '\'' :: '\'' :: rest => inner '\'' false rest
  | '"' :: rest => basic? (rest.length + 1) rest
  | '\'' :: rest => literal? rest
  | _ => none

/-! ## Numbers and dates -/

/-- Digits with single underscores between them, the first being a digit. Gives the digits. -/
def digitRun? (isDigit : Char → Bool) : List Char → Option (List Char × List Char)
  | c :: rest => if isDigit c then some (more [c] rest) else none
  | [] => none
where
  /-- The digits that follow those read, latest first. -/
  more (done : List Char) : List Char → List Char × List Char
    | '_' :: c :: rest =>
      if isDigit c then more (c :: done) rest else (done.reverse, '_' :: c :: rest)
    | c :: rest => if isDigit c then more (c :: done) rest else (done.reverse, c :: rest)
    | [] => (done.reverse, [])

/-- A sign, if there is one: whether it is a minus, and what follows. -/
def sign (s : List Char) : Bool × List Char :=
  match s with
  | '-' :: rest => (true, rest)
  | '+' :: rest => (false, rest)
  | _ => (false, s)

/-- The whole part of a decimal number: a lone zero or digits that start with none. -/
def wholePart? : List Char → Option (List Char × List Char)
  | '0' :: rest => some (['0'], rest)
  | s => digitRun? Char.isDigit s

/-- A number in a base of more than a digit's mark. -/
def based? (base : Nat) (s : List Char) : Option (Value × List Char) := do
  let isDigit := fun c => (Encoding.hexValue? c).any (· < base)
  let (ds, rest) ← digitRun? isDigit s
  let n : Nat := ds.foldl (fun n c => n * base + (Encoding.hexValue? c).getD 0) 0
  if (n : Int) ≤ Number.maxSigned64 then some (.int n, rest) else none

/-- A whole number. -/
def whole? (s : List Char) : Option (Value × List Char) :=
  match s with
  | '0' :: 'x' :: rest => based? 16 rest
  | '0' :: 'o' :: rest => based? 8 rest
  | '0' :: 'b' :: rest => based? 2 rest
  | _ => do
    let (negative, rest) := sign s
    let (ds, rest) ← wholePart? rest
    let n ← Number.natOfDigits? ds
    let n : Int := if negative then -(n : Int) else n
    if Number.minSigned64 ≤ n ∧ n ≤ Number.maxSigned64 then some (.int n, rest) else none

/-- The exponent after its letter. -/
def exponent? (s : List Char) : Option (Int × List Char) := do
  let (negative, rest) := sign s
  let (ds, rest) ← digitRun? Char.isDigit rest
  let n ← Number.natOfDigits? ds
  return (if negative then -(n : Int) else n, rest)

/-- The fraction after its point. -/
def fraction? : List Char → Option (List Char × List Char)
  | '.' :: rest => digitRun? Char.isDigit rest
  | _ => none

/-- The magnitude `digits · 10^exponent`; powers that binary64 does not reach are not computed. -/
def magnitude (digits : List Char) (exponent : Int) : Float :=
  let digits := digits.dropWhile (· = '0')
  let top : Int := digits.length + exponent
  if digits.isEmpty ∨ top < -400 then 0
  else if top > 400 then 1 / 0
  else
    let n : Nat := (Number.natOfDigits? digits).getD 0
    Float.ofScientific n (exponent < 0) exponent.natAbs

/-- A number with a fraction, an exponent or both, or one of the special numbers. A positive
number must be finite. -/
def float? (s : List Char) : Option (Value × List Char) := do
  let (negative, rest) := sign s
  let signed (x : Float) : Value := .float (if negative then -x else x)
  match rest with
  | 'i' :: 'n' :: 'f' :: rest => some (signed (1 / 0), rest)
  | 'n' :: 'a' :: 'n' :: rest => some (signed (0 / 0), rest)
  | _ =>
    let (whole, rest) ← wholePart? rest
    let fraction := fraction? rest
    let (places, rest) := fraction.getD ([], rest)
    let (exponent, rest) ← match rest with
      | c :: after =>
        if c = 'e' ∨ c = 'E' then (exponent? after).map fun (e, r) => (some e, r)
        else some (none, rest)
      | [] => some (none, rest)
    if fraction.isNone ∧ exponent.isNone then none
    let x := magnitude (whole ++ places) (exponent.getD 0 - places.length)
    if x.isFinite || negative then some (signed x, rest) else none

/-- So many digits, of a value within bounds. -/
def field? (width min max : Nat) (s : List Char) : Option (Nat × List Char) := do
  let ds := s.take width
  let n ← Number.natOfDigits? ds
  if ds.length = width ∧ min ≤ n ∧ n ≤ max then some (n, s.drop width) else none

/-- What follows a given character. -/
def after? (c : Char) : List Char → Option (List Char)
  | d :: rest => if d = c then some rest else none
  | [] => none

/-- What follows a date. -/
def fullDate? (s : List Char) : Option (List Char) := do
  let (year, s) ← field? 4 0 9999 s
  let (month, s) ← field? 2 1 12 (← after? '-' s)
  let (day, s) ← field? 2 1 31 (← after? '-' s)
  if day ≤ Time.daysInMonth year month then some s else none

/-- What follows a time of day. -/
def timeOfDay? (s : List Char) : Option (List Char) := do
  let (_, s) ← field? 2 0 23 s
  let (_, s) ← field? 2 0 59 (← after? ':' s)
  let (_, s) ← field? 2 0 60 (← after? ':' s)
  match s with
  | '.' :: c :: rest => if c.isDigit then some (rest.dropWhile Char.isDigit) else some s
  | _ => some s

/-- What follows an offset from UTC, if one is here. -/
def skipOffset (s : List Char) : List Char :=
  match s with
  | 'Z' :: rest | 'z' :: rest => rest
  | '+' :: rest | '-' :: rest =>
    (do let (_, t) ← field? 2 0 23 rest
        let (_, t) ← field? 2 0 59 (← after? ':' t)
        return t : Option (List Char)).getD s
  | _ => s

/-- A date, a time of day, or both with or without an offset. -/
def date? (s : List Char) : Option (Value × List Char) := do
  let rest ← match fullDate? s with
    | some rest =>
      match rest with
      | c :: after =>
        if c = 'T' ∨ c = 't' ∨ c = ' ' then some (((timeOfDay? after).map skipOffset).getD rest)
        else some rest
      | [] => some rest
    | none => timeOfDay? s
  return (.date (String.ofList (s.take (s.length - rest.length))), rest)

/-! ## Keys -/

/-- The characters of a bare key. -/
def isBareKeyChar (c : Char) : Bool :=
  c.isAlphanum || c = '-' || c = '_'

/-- One part of a key. -/
def keyPart? (s : List Char) : Option (String × List Char) :=
  match s with
  | '"' :: rest => (basic? (rest.length + 1) rest).map fun (cs, r) => (String.ofList cs, r)
  | '\'' :: rest => (literal? rest).map fun (cs, r) => (String.ofList cs, r)
  | _ =>
    let cs := s.takeWhile isBareKeyChar
    if cs.isEmpty then none else some (String.ofList cs, s.drop cs.length)

/-- The parts of a key, with blanks around each, up to what follows. -/
def keyParts? : Nat → List Char → Option (List String × List Char)
  | 0, _ => none
  | fuel + 1, s => do
    let (part, rest) ← keyPart? (skip s)
    match skip rest with
    | '.' :: rest =>
      let (parts, rest) ← keyParts? fuel rest
      return (part :: parts, rest)
    | rest => return ([part], rest)

/-- A key: the path to its table and its last part. -/
def key? (s : List Char) : Option ((List String × String) × List Char) := do
  let (parts, rest) ← keyParts? (depthLimit - 1) s
  let last ← parts.getLast?
  return ((parts.dropLast, last), rest)

/-! ## Values -/

/-- A value that holds no other value. -/
def scalar? (s : List Char) : Option (Value × List Char) :=
  match s with
  | '"' :: _ | '\'' :: _ => (string? s).map fun (cs, r) => (.str (String.ofList cs), r)
  | 't' :: 'r' :: 'u' :: 'e' :: rest => some (.bool true, rest)
  | 'f' :: 'a' :: 'l' :: 's' :: 'e' :: rest => some (.bool false, rest)
  | _ => date? s <|> float? s <|> whole? s

mutual

/-- A value, with `depth` more levels allowed. -/
def value? : Nat → Nat → List Char → Option (Value × List Char)
  | 0, _, _ => none
  | fuel + 1, depth, s =>
    match s with
    | '[' :: rest =>
      if depth ≤ 1 then none
      else (items? fuel (depth - 1) rest).map fun (vs, r) => (.arr vs, r)
    | '\x7b' :: rest =>
      if depth ≤ 1 then none
      else
        match skip rest with
        | '\x7d' :: rest => some (.table .inline [], rest)
        | rest => (members? fuel (depth - 1) [] rest).map fun (t, r) => (.table .inline t, r)
    | _ => scalar? s

/-- The items of an array up to its closing bracket; a comma may follow the last. -/
def items? : Nat → Nat → List Char → Option (List Value × List Char)
  | 0, _, _ => none
  | fuel + 1, depth, s =>
    match skipLines s.length s with
    | ']' :: rest => some ([], rest)
    | s => do
      let (v, rest) ← value? fuel depth s
      match skipLines rest.length rest with
      | ']' :: rest => return ([v], rest)
      | ',' :: rest =>
        let (vs, rest) ← items? fuel depth rest
        return (v :: vs, rest)
      | _ => none

/-- The members of an inline table up to its closing brace, added to those read. -/
def members? : Nat → Nat → Table → List Char → Option (Table × List Char)
  | 0, _, _, _ => none
  | fuel + 1, depth, table, s => do
    let ((path, key), rest) ← key? s
    let (v, rest) ← value? fuel depth (skip (← after? '=' rest))
    let table ← assignInline path key v table
    match skip rest with
    | '\x7d' :: rest => return (table, rest)
    | ',' :: rest => members? fuel depth table rest
    | _ => none

end

/-! ## Expressions -/

/-- What an expression of a document does. -/
inductive Expression where
  | member (path : List String) (key : String) (value : Value)
  | table (path : List String) (key : String)
  | row (path : List String) (key : String)

/-- An expression, if the line is not empty. -/
def expression? (s : List Char) : Option (Option Expression × List Char) :=
  match s with
  | [] | '#' :: _ | '\n' :: _ | '\r' :: _ => some (none, s)
  | '[' :: '[' :: rest => do
    let ((path, key), rest) ← key? rest
    let rest ← after? ']' (← after? ']' rest)
    return (some (.row path key), rest)
  | '[' :: rest => do
    let ((path, key), rest) ← key? rest
    let rest ← after? ']' rest
    return (some (.table path key), rest)
  | _ => do
    let ((path, key), rest) ← key? s
    let rest := skip (← after? '=' rest)
    let (v, rest) ← value? (2 * rest.length + 2) depthLimit rest
    return (some (.member path key v), rest)

/-- The document read so far: its members and the header that is open. -/
structure State where
  root : Table := []
  header : List String := []

/-- Puts an expression into the document. -/
def State.apply (st : State) : Expression → Option State
  | .member path key v =>
    (editAt false st.header (assign path key v) .header st.root).map fun t => { st with root := t }
  | .table path key =>
    (openTable path key .header st.root).map fun t => ⟨t, path ++ [key]⟩
  | .row path key =>
    (openRow path key .header st.root).map fun t => ⟨t, path ++ [key]⟩

/-- Reads the expressions, one to a line. -/
def lines? : Nat → State → List Char → Option State
  | 0, _, _ => none
  | fuel + 1, st, s => do
    let (e, rest) ← expression? (skip s)
    let st ← match e with
      | some e => st.apply e
      | none => some st
    match skipComment (skip rest) with
    | [] => some st
    | rest => lines? fuel st (← lineBreak? rest)

end Reader

/-- Reads a document; a byte order mark may stand in front. -/
def parse? (text : String) : Option Json :=
  let s := match text.toList with
    | c :: rest => if c = Char.ofNat 0xfeff then rest else c :: rest
    | [] => []
  (Reader.lines? (s.length + 1) {} s).map fun st => .obj (membersJson st.root)

end FleetGate.Toml
