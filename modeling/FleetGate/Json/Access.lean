import FleetGate.Json.Value

/-!
# Lenient access

Members of a value where anything will do: a member that is missing, or of another type than the one
asked for, counts as empty, false or zero.
-/

namespace FleetGate.Json

/-- A member, or `null`. -/
def field (j : Json) (name : String) : Json := (j.member? name).getD .null

/-- The text of a member, if it is text. -/
def text? (j : Json) (name : String) : Option String := (j.field name).string?

/-- The text of a member. -/
def text (j : Json) (name : String) : String := (j.text? name).getD ""

/-- The flag of a member, if it is one. -/
def flag? (j : Json) (name : String) : Option Bool := (j.field name).bool?

/-- The flag of a member. -/
def flag (j : Json) (name : String) : Bool := (j.flag? name).getD false

/-- The whole number of a member, if it is one. -/
def whole? (j : Json) (name : String) : Option Int :=
  match j.field name with
  | .int n => some n
  | _ => none

/-- The whole number of a member. -/
def whole (j : Json) (name : String) : Int := (j.whole? name).getD 0

/-- The items of a member. -/
def list (j : Json) (name : String) : List Json := (j.field name).items?.getD []

/-- The texts among the items of an array. -/
def texts (j : Json) : List String := (j.items?.getD []).filterMap string?

/-- The members of an object that are text. -/
def textMembers (j : Json) : List (String × String) :=
  (j.members?.getD []).filterMap fun m => m.2.string?.map fun s => (m.1, s)

end FleetGate.Json
