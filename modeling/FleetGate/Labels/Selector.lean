import FleetGate.Keyed
import FleetGate.Text.Class
import FleetGate.Text.Quoted
import FleetGate.Text.Search

/-!
# Label selectors

A selector is a list of requirements on labels, all of which must hold; one without requirements
matches everything. The written form separates requirements by commas: `k=v` and `k==v`, `k!=v`,
`k in (a,b)`, `k notin (a,b)`, `k` and `!k`.

`Selector.parse` reads that form. White space around keys, values and requirements is dropped, but
the words `in` and `notin` must follow a space.
-/

namespace FleetGate

/-- A condition on the labels of an object. A label that is missing differs from every value. -/
inductive Requirement where
  | equals (key value : String)
  | differs (key value : String)
  | oneOf (key : String) (values : List String)
  | noneOf (key : String) (values : List String)
  | present (key : String)
  | absent (key : String)
  deriving DecidableEq, Repr

namespace Requirement

/-- The key that the requirement is about. -/
def key : Requirement → String
  | .equals k _ | .differs k _ | .oneOf k _ | .noneOf k _ | .present k | .absent k => k

/-- Whether labels meet the requirement. -/
def holds (labels : List (String × String)) : Requirement → Bool
  | .equals k v => Keyed.get? k labels = some v
  | .differs k v => Keyed.get? k labels ≠ some v
  | .oneOf k vs => (Keyed.get? k labels).any fun v => v ∈ vs
  | .noneOf k vs => !(Keyed.get? k labels).any fun v => v ∈ vs
  | .present k => (Keyed.get? k labels).isSome
  | .absent k => (Keyed.get? k labels).isNone

end Requirement

/-- Requirements that must all hold. -/
structure Selector where
  requirements : List Requirement := []
  deriving DecidableEq, Repr, Inhabited

/-- Why a text is no selector. -/
inductive SelectorError where
  | unbalanced
  | emptyRequirement
  | unknownOperator (term : String)
  | openSet
  | emptySet
  | invalidDomain (key : String)
  | invalidKey (key : String)
  | invalidValue (value : String)
  deriving DecidableEq, Repr

namespace SelectorError

/-- The message. -/
def message : SelectorError → String
  | .unbalanced => "unbalanced parenthesis"
  | .emptyRequirement => "empty requirement"
  | .unknownOperator term => "unknown operator in " ++ Text.quoted term
  | .openSet => "value set must end with ')'"
  | .emptySet => "value set must not be empty"
  | .invalidDomain key => "invalid key prefix in " ++ Text.quoted key
  | .invalidKey key => "invalid key " ++ Text.quoted key
  | .invalidValue value => "invalid value " ++ Text.quoted value

end SelectorError

namespace Selector

/-- Whether the selector has no requirements. -/
def isEmpty (s : Selector) : Bool :=
  s.requirements.isEmpty

/-- Whether labels meet every requirement. -/
def matchesLabels (s : Selector) (labels : List (String × String)) : Bool :=
  s.requirements.all (Requirement.holds labels)

/-! ## Names -/

/-- The characters inside a name. -/
def isNameChar (c : Char) : Bool :=
  c.isAlphanum || c = '-' || c = '_' || c = '.'

/-- The form of a name: up to 63 letters, digits, `-`, `_` and `.`, the first and the last being a
letter or digit. -/
def isName (s : List Char) : Bool :=
  s.length ≤ 63 && s.all isNameChar && s.head?.any Char.isAlphanum && s.getLast?.any Char.isAlphanum

/-- The small letters and digits. -/
def isSmallAlphanum (c : Char) : Bool :=
  c.isDigit || c.isLower

/-- The form of one label of a domain: small letters, digits and inner hyphens. -/
def isDomainLabel (s : List Char) : Bool :=
  s.all (fun c => isSmallAlphanum c || c = '-') && s.head?.any isSmallAlphanum &&
    s.getLast?.any isSmallAlphanum

/-- Most characters of the domain in front of a key. -/
def maxDomainLength : Nat := 253

/-- The form of a domain: labels with dots between. -/
def isDomain (s : List Char) : Bool :=
  s.length ≤ maxDomainLength && (Text.splitOn '.' s).all isDomainLabel

/-- Reads a key: a name, with or without a domain and a slash in front. -/
def parseKey (s : List Char) : Except SelectorError String :=
  let text := String.ofList s
  match Text.splitOnce? ['/'] s with
  | some (domain, name) =>
    if !isDomain domain then .error (.invalidDomain text)
    else if isName name then .ok text
    else .error (.invalidKey text)
  | none => if isName s then .ok text else .error (.invalidKey text)

/-- Reads a value: empty or a name. -/
def parseValue (s : List Char) : Except SelectorError String :=
  let text := String.ofList s
  if s.isEmpty || isName s then .ok text else .error (.invalidValue text)

/-! ## Requirements -/

/-- Cuts a text at the commas that stand outside parentheses, `depth` being how many are open. -/
def splitTerms (depth : Nat) : List Char → Except SelectorError (List (List Char))
  | [] => if depth = 0 then .ok [[]] else .error .unbalanced
  | c :: rest =>
    let prepend : List (List Char) → List (List Char)
      | term :: terms => (c :: term) :: terms
      | [] => [[c]]
    if c = '(' then (splitTerms (depth + 1) rest).map prepend
    else if c = ')' then
      if depth = 0 then .error .unbalanced else (splitTerms (depth - 1) rest).map prepend
    else if c = ',' ∧ depth = 0 then (splitTerms 0 rest).map ([] :: ·)
    else (splitTerms depth rest).map prepend

/-- The requirements of a text, still as text. A blank text has none. -/
def terms (s : List Char) : Except SelectorError (List (List Char)) := do
  let pieces := (← splitTerms 0 s).map Text.trimChars
  if pieces = [[]] then return []
  if pieces.any List.isEmpty then throw .emptyRequirement
  return pieces

/-- Reads the two sides of an equality or inequality. -/
def parseSides (make : String → String → Requirement) (sides : List Char × List Char) :
    Except SelectorError Requirement := do
  let key ← parseKey (Text.trimChars sides.1)
  let value ← parseValue (Text.trimChars sides.2)
  return make key value

/-- Reads a requirement with a set of values. `head` stands before the opening parenthesis and
`tail` after it. -/
def parseSet (term head tail : List Char) : Except SelectorError Requirement := do
  let head := Text.trimChars head
  let (key, make) ← match Text.stripEnd? " notin".toList head with
    | some key => .ok (key, Requirement.noneOf)
    | none =>
      match Text.stripEnd? " in".toList head with
      | some key => .ok (key, Requirement.oneOf)
      | none => .error (.unknownOperator (String.ofList term))
  let body ← match Text.stripEnd? [')'] tail with
    | some body => .ok body
    | none => .error .openSet
  let values ← (Text.splitOn ',' body).mapM fun v => parseValue (Text.trimChars v)
  if values.all String.isEmpty then throw .emptySet
  return make (← parseKey (Text.trimChars key)) values

/-- Reads one requirement. -/
def parseTerm (term : List Char) : Except SelectorError Requirement :=
  match Text.stripStart? ['!'] term with
  | some key => (parseKey (Text.trimChars key)).map .absent
  | none =>
    match Text.splitOnce? ['!', '='] term with
    | some sides => parseSides .differs sides
    | none =>
      match Text.splitOnce? ['=', '='] term with
      | some sides => parseSides .equals sides
      | none =>
        match Text.splitOnce? ['='] term with
        | some sides => parseSides .equals sides
        | none =>
          match Text.splitOnce? ['('] term with
          | some (head, tail) => parseSet term head tail
          | none => (parseKey term).map .present

/-- Reads a selector. -/
def parse (text : String) : Except SelectorError Selector := do
  return ⟨← (← terms text.toList).mapM parseTerm⟩

end Selector

end FleetGate
