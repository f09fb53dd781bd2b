import FleetGate.Resource.Object

/-!
# Selecting stored objects

The selectors that an in-memory cluster understands: field selectors on name and namespace, and
label selectors without value sets. Both are terms separated by commas, empty ones ignored, and
never fail: a term that makes no sense matches nothing.
-/

namespace FleetGate.Object

/-- The terms of a selector that are not empty. -/
def selectorTerms (selector : String) : List (List Char) :=
  (Text.splitOn ',' selector.toList).filter fun term => !term.isEmpty

/-- A trimmed text. -/
def trimmed (s : List Char) : String :=
  String.ofList (Text.trimChars s)

/-- The field that a field selector may name, if the object has it. -/
def field? (o : Object) (name : String) : Option (Option String) :=
  match name with
  | "metadata.name" => some o.metadata.name?
  | "metadata.namespace" => some o.metadata.ns?
  | _ => none

/-- Whether a field compares to a value as asked. No comparison with an unknown field holds. -/
def fieldCompares (o : Object) (equal : Bool) (sides : List Char × List Char) : Bool :=
  match o.field? (trimmed sides.1) with
  | some actual => (actual = some (trimmed sides.2)) == equal
  | none => false

/-- Whether the object meets one term of a field selector. -/
def meetsFieldTerm (o : Object) (term : List Char) : Bool :=
  match Text.splitOnce? ['!', '='] term with
  | some sides => o.fieldCompares false sides
  | none =>
    match (Text.splitOnce? ['=', '='] term).or (Text.splitOnce? ['='] term) with
    | some sides => o.fieldCompares true sides
    | none => false

/-- Whether a field selector selects the object. -/
def matchesFields (o : Object) (selector : String) : Bool :=
  (selectorTerms selector).all o.meetsFieldTerm

/-- Whether the object meets one term of a label selector. -/
def meetsLabelTerm (o : Object) (term : List Char) : Bool :=
  let term := Text.trimChars term
  let label (key : List Char) : Option String := Keyed.get? (trimmed key) o.metadata.labels
  match Text.splitOnce? ['!', '='] term with
  | some (key, value) => label key ≠ some (trimmed value)
  | none =>
    match Text.splitOnce? ['='] term with
    | some (key, value) => label key = some (trimmed (value.dropWhile (· = '=')))
    | none =>
      match Text.stripStart? ['!'] term with
      | some key => (label key).isNone
      | none => Keyed.has (String.ofList term) o.metadata.labels

/-- Whether a label selector selects the object. -/
def matchesLabels (o : Object) (selector : String) : Bool :=
  (selectorTerms selector).all o.meetsLabelTerm

end FleetGate.Object
