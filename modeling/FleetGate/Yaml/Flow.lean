import FleetGate.Encoding.Hex
import FleetGate.Json.Reader

/-!
# YAML in flow style

A reader for YAML documents whose collections stand in brackets and braces, which every JSON text
is. It differs from a reader of JSON in the limits and in the scalars: nesting goes down to 128
levels, no key may repeat, whole numbers must fit 128 bits unless they are so long that they count
as fractions, what binary64 does not reach is text, and an escape is one code point and no surrogate.
Commas may end a collection, and a value that is left out is `null`.

As in the reader of JSON, every reader takes the characters left and a budget of steps.
-/

namespace FleetGate.Yaml

/-- Whether a character may stand in a document at all. -/
def isAllowed (c : Char) : Bool :=
  let n := c.toNat
  n == 9 || n == 10 || n == 13 || (0x20 ≤ n && n ≤ 0x7e) || n == 0x85 ||
    (0xa0 ≤ n && n != 0xfffe && n != 0xffff)

/-- The mark that may open a document. -/
def byteOrderMark : Char := Char.ofNat 0xfeff

/-- Whether a character ends a line. -/
def isBreak (c : Char) : Bool :=
  let n := c.toNat
  n == 10 || n == 13 || n == 0x85 || n == 0x2028 || n == 0x2029

/-- Whether a character parts tokens. -/
def isBlank (c : Char) : Bool :=
  c = ' ' || c = '\t' || isBreak c

/-- The characters from the next token on, within brackets or braces or, if `inComment`, from
within a comment. -/
def skip (inComment : Bool) : List Char → List Char
  | [] => []
  | c :: rest =>
    if inComment then skip (!isBreak c) rest
    else if c = '#' then skip true rest
    else if isBlank c then skip false rest
    else c :: rest

/-- The characters from the next token on, outside of brackets and braces. No tab may stand before
anything at the start of a line. -/
def skipLines (inComment : Bool) : List Char → Option (List Char)
  | [] => some []
  | c :: rest =>
    if inComment then skipLines (!isBreak c) rest
    else if c = '#' then skipLines true rest
    else if c = ' ' || isBreak c then skipLines false rest
    else if c = '\t' then none
    else some (c :: rest)

/-! ## Scalars -/

/-- The code point of some hexadecimal digits. -/
def codePoint? (width : Nat) (s : List Char) : Option (Char × List Char) := do
  let values ← (s.take width).mapM Encoding.hexValue?
  let n := values.foldl (fun n d => n * 16 + d) 0
  if values.length = width ∧ n.isValidChar then return (Char.ofNat n, s.drop width)
  none

/-- The escapes of one character beside those that give a code point. -/
def escapes : List (Char × Nat) :=
  [('0', 0), ('a', 7), ('b', 8), ('t', 9), ('\t', 9), ('n', 10), ('v', 11), ('f', 12), ('r', 13),
    ('e', 27), (' ', 32), ('"', 34), ('/', 47), ('\\', 92), ('N', 0x85), ('_', 0xa0), ('L', 0x2028),
    ('P', 0x2029)]

/-- The character of an escape, the backslash already read. -/
def escape? : List Char → Option (Char × List Char)
  | 'x' :: rest => codePoint? 2 rest
  | 'u' :: rest => codePoint? 4 rest
  | 'U' :: rest => codePoint? 8 rest
  | c :: rest => (escapes.lookup c).map fun n => (Char.ofNat n, rest)
  | [] => none

/-- The rest of a quoted text after its opening mark. -/
def quotedRest? : Nat → List Char → Option (List Char × List Char)
  | 0, _ => none
  | fuel + 1, s =>
    match s with
    | [] => none
    | '"' :: rest => some ([], rest)
    | '\\' :: rest => do
      let (c, rest) ← escape? rest
      let (cs, rest) ← quotedRest? fuel rest
      return (c :: cs, rest)
    | c :: rest =>
      if c = '\n' ∨ c = '\r' then none
      else do
        let (cs, rest) ← quotedRest? fuel rest
        return (c :: cs, rest)

/-- The limit of whole numbers of 128 bits. -/
def wideRange : Int := 340282366920938463463374607431768211456

/-- A whole number written in digits without zeros in front. -/
def whole? (s : List Char) : Option Int :=
  let (negative, ds) := match s with
    | '-' :: ds => (true, ds)
    | ds => (false, ds)
  if ds.length > 1 ∧ ds.head? = some '0' then none
  else (Number.natOfDigits? ds).map fun n => if negative then -(n : Int) else n

/-- The value of a whole number. One of 65 to 128 bits is refused. -/
def ofWhole? (s : List Char) (n : Int) : Option Json :=
  if Number.minSigned64 ≤ n ∧ n ≤ Number.maxUnsigned64 then some (.int n)
  else if -wideRange ≤ 2 * n ∧ n < wideRange then none
  else
    let f := Float.ofInt n
    some (if f.isFinite then .float f else .str (String.ofList s))

/-- The value of a scalar without quotation marks: what is neither `null` nor a boolean nor a
number is text. -/
def plain? (s : List Char) : Option Json :=
  let text := String.ofList s
  if text ∈ ["null", "Null", "NULL", "~"] then some .null
  else if text ∈ ["true", "True", "TRUE"] then some (.bool true)
  else if text ∈ ["false", "False", "FALSE"] then some (.bool false)
  else
    match whole? s with
    | some n => ofWhole? s n
    | none =>
      let number := match s with
        | '-' :: ds => Json.Reader.number? true ds
        | ds => Json.Reader.number? false ds
      match number with
      | some (.float f, []) => some (.float f)
      | _ => some (.str text)

/-- Whether a character may stand in a scalar without quotation marks. -/
def isPlainChar (c : Char) : Bool :=
  !isBlank c && !",[]\x7b\x7d:#\"'&*!|>%@`".toList.contains c

/-- The characters of a scalar without quotation marks. -/
def plainChars? (s : List Char) : Option (List Char × List Char) :=
  let cs := s.takeWhile isPlainChar
  if cs.isEmpty ∨ cs = ['-'] ∨ cs.head? = some '?' then none else some (cs, s.drop cs.length)

/-! ## Collections -/

/-- A key, with or without quotation marks. -/
def key? : List Char → Option (String × List Char)
  | '"' :: rest => (quotedRest? (rest.length + 1) rest).map fun (cs, s) => (String.ofList cs, s)
  | s => do
    let (cs, rest) ← plainChars? s
    match ← plain? cs with
    | .str key => return (key, rest)
    | _ => none

/-- The mapping of some members, if no key repeats. -/
def mapping? (members : List (String × Json)) : Option Json :=
  let distinct := Keyed.ofPairs members
  if distinct.length = members.length then some (.obj distinct) else none

mutual

/-- A value, nothing blank in front, with `depth` levels of nesting left. -/
def value? : Nat → Nat → List Char → Option (Json × List Char)
  | 0, _, _ => none
  | fuel + 1, depth, s =>
    match s with
    | '"' :: rest => do
      let (cs, rest) ← quotedRest? (rest.length + 1) rest
      return (.str (String.ofList cs), rest)
    | '[' :: rest =>
      if depth = 0 then none
      else do
        let (xs, rest) ← items? fuel (depth - 1) (skip false rest)
        return (.arr xs, rest)
    | '\x7b' :: rest =>
      if depth = 0 then none
      else do
        let (ms, rest) ← members? fuel (depth - 1) (skip false rest)
        return (← mapping? ms, rest)
    | s => do
      let (cs, rest) ← plainChars? s
      return (← plain? cs, rest)

/-- The items of a sequence up to its closing bracket. -/
def items? : Nat → Nat → List Char → Option (List Json × List Char)
  | 0, _, _ => none
  | _ + 1, _, ']' :: rest => some ([], rest)
  | fuel + 1, depth, s => do
    let (x, rest) ← value? fuel depth s
    match skip false rest with
    | ',' :: rest =>
      let (xs, rest) ← items? fuel depth (skip false rest)
      return (x :: xs, rest)
    | ']' :: rest => return ([x], rest)
    | _ => none

/-- The members of a mapping up to its closing brace. -/
def members? : Nat → Nat → List Char → Option (List (String × Json) × List Char)
  | 0, _, _ => none
  | _ + 1, _, '\x7d' :: rest => some ([], rest)
  | fuel + 1, depth, s => do
    let (key, rest) ← key? s
    let (v, rest) ← match skip false rest with
      | ':' :: rest =>
        match skip false rest with
        | ',' :: rest => some (Json.null, ',' :: rest)
        | '\x7d' :: rest => some (Json.null, '\x7d' :: rest)
        | rest => value? fuel depth rest
      | rest => some (Json.null, rest)
    match skip false rest with
    | ',' :: rest =>
      let (ms, rest) ← members? fuel depth (skip false rest)
      return ((key, v) :: ms, rest)
    | '\x7d' :: rest => return ([(key, v)], rest)
    | _ => none

end

/-- How deep collections may nest. -/
def maxDepth : Nat := 128

/-- Reads a text that is one document. One without content is `null`. -/
def parse? (text : String) : Option Json := do
  let chars := text.toList
  if !chars.all isAllowed then none
  let chars := if chars.head? = some byteOrderMark then chars.drop 1 else chars
  match ← skipLines false chars with
  | [] => return .null
  | start =>
    let (v, rest) ← value? (2 * start.length + 2) maxDepth start
    let rest ← skipLines false (rest.dropWhile fun c => c = ' ' || c = '\t')
    if rest.isEmpty then return v
    none

end FleetGate.Yaml
