import FleetGate.Json.Value
import FleetGate.Number.Shortest
import FleetGate.Text.Quoted

/-!
# Decoding records from JSON

Reading a value as a record of a fixed shape. A record is an object, whose members are taken in
the order of their names with unknown ones ignored, or an array, whose items stand for the fields
in the order they are declared. The first value of a wrong type decides the error.
-/

namespace FleetGate.Json

/-- Why a value does not fit the type that was expected of it. -/
inductive Mismatch where
  | wrongType (found : Json) (expected : String)
  | tooManyItems (count : Nat)
  | missing (field : String)
  | other (detail : String)
  deriving DecidableEq

/-- How a message names a value: by its type, and by its content if it is a scalar. -/
def describe : Json → String
  | .null => "null"
  | .bool b => "boolean `" ++ (if b then "true" else "false") ++ "`"
  | .int n => "integer `" ++ Number.intString n ++ "`"
  | .float x => "floating point `" ++ String.ofList (Number.floatText x) ++ "`"
  | .str s => "string " ++ Text.quoted s
  | .arr _ => "sequence"
  | .obj _ => "map"

/-- The message of a mismatch. -/
def Mismatch.message : Mismatch → String
  | .wrongType found expected => "invalid type: " ++ found.describe ++ ", expected " ++ expected
  | .tooManyItems count =>
    "invalid length " ++ Number.natString count ++ ", expected fewer elements in array"
  | .missing field => "missing field `" ++ field ++ "`"
  | .other detail => detail

/-- A result of decoding. -/
abbrev Decoded (α : Type) := Except Mismatch α

/-- Decodes a string. -/
def decodeString : Json → Decoded String
  | .str s => .ok s
  | v => .error (.wrongType v "a string")

/-- Decodes a boolean. -/
def decodeBool : Json → Decoded Bool
  | .bool b => .ok b
  | v => .error (.wrongType v "a boolean")

/-- Decodes a binary64 number; whole numbers are rounded to one. -/
def decodeFloat : Json → Decoded Float
  | .int n => .ok (Float.ofInt n)
  | .float x => .ok x
  | v => .error (.wrongType v "f64")

/-- Decodes a whole number within bounds. -/
def decodeInt (min max : Int) (expected : String) : Json → Decoded Int
  | .int n =>
    if min ≤ n ∧ n ≤ max then .ok n
    else .error (.other ("invalid value, expected " ++ expected))
  | v => .error (.wrongType v expected)

/-- Decodes a whole number of 64 signed bits. -/
def decodeSigned64 : Json → Decoded Int :=
  decodeInt Number.minSigned64 Number.maxSigned64 "i64"

/-- Decodes a whole number of 64 unsigned bits. -/
def decodeUnsigned64 (v : Json) : Decoded Nat :=
  (decodeInt 0 Number.maxUnsigned64 "u64" v).map Int.toNat

/-- Decodes `null` as none and anything else by `decode`. -/
def decodeOption {α : Type} (decode : Json → Decoded α) : Json → Decoded (Option α)
  | .null => .ok none
  | v => (decode v).map some

/-- Decodes an array item by item. -/
def decodeList {α : Type} (decode : Json → Decoded α) : Json → Decoded (List α)
  | .arr xs => xs.mapM decode
  | v => .error (.wrongType v "a sequence")

/-- Decodes an object member by member as a map. -/
def decodeMap {α : Type} (decode : Json → Decoded α) : Json → Decoded (List (String × α))
  | .obj ms => ms.mapM fun m => (decode m.2).map fun a => (m.1, a)
  | v => .error (.wrongType v "a map")

/-- Decodes a record. `set` stores the value of a field, `fields` lists the fields as declared. -/
def decodeRecord {α : Type} (expected : String) (fields : List String)
    (set : String → Json → α → Decoded α) (start : α) : Json → Decoded α
  | .obj ms =>
    ms.foldlM (fun a m => if m.1 ∈ fields then set m.1 m.2 a else .ok a) start
  | .arr xs => do
    let a ← (fields.zip xs).foldlM (fun a p => set p.1 p.2 a) start
    if xs.length > fields.length then .error (.tooManyItems xs.length) else .ok a
  | v => .error (.wrongType v expected)

/-- The members that are present. -/
def presentMembers (members : List (String × Option Json)) : List (String × Json) :=
  members.filterMap fun m => m.2.map fun v => (m.1, v)

/-- An object of texts. -/
def ofTexts (m : List (String × String)) : Json :=
  .obj (Keyed.mapValues .str m)

end FleetGate.Json
