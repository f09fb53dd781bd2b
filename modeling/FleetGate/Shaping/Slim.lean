import FleetGate.Json.Value
import FleetGate.Text.Search

/-!
# Slimming

Removing members of an object by dotted paths. A key may itself hold dots, so at every depth the
rest of the path is first tried as one key, and only if no such member is there does the path
descend by its next segment. A segment that ends in `[*]` descends into every item of an array.
-/

namespace FleetGate.Shaping

/-- The segments of a dotted path. -/
def pathSegments (path : String) : List String :=
  (Text.splitOn '.' path.toList).map String.ofList

/-- Segments joined again into one key. -/
def joinSegments (segments : List String) : String :=
  ".".intercalate segments

/-- The name of the array that a segment walks, if it ends in `[*]`. -/
def arrayName? (segment : String) : Option String :=
  (Text.stripEnd? ['[', '*', ']'] segment.toList).map String.ofList

/-- Applies a function to the items of an array. -/
def mapItems (f : Json → Json) : Json → Json
  | .arr xs => .arr (xs.map f)
  | v => v

/-- Removes what a path addresses. -/
def removePath : List String → Json → Json
  | head :: rest, .obj ms =>
    if !rest.isEmpty && Keyed.has (joinSegments (head :: rest)) ms then
      .obj (Keyed.erase (joinSegments (head :: rest)) ms)
    else
      match arrayName? head with
      | some name =>
        if rest.isEmpty then .obj ms
        else .obj (Keyed.modify name (mapItems (removePath rest)) ms)
      | none =>
        if rest.isEmpty then .obj (Keyed.erase head ms)
        else .obj (Keyed.modify head (removePath rest) ms)
  | _, v => v

/-- The value with every one of the paths removed, in their order. -/
def slim (excluded : List String) (v : Json) : Json :=
  (excluded.filter fun path => !path.isEmpty).foldl
    (fun v path => removePath (pathSegments path) v) v

end FleetGate.Shaping
