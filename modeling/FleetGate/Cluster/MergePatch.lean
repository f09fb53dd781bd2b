import FleetGate.Json.Value

/-!
# Merge patches

Merging a patch into a value: members merge one by one where both sides are objects, a member that
is `null` in the patch is removed, and anything else replaces what was there. What replaces is taken
as it stands, so that a `null` deeper inside it stays.
-/

namespace FleetGate.Json

mutual

/-- The value after the patch. -/
def mergePatch (target : Json) : (patch : Json) → Json
  | .obj changes =>
    match target with
    | .obj members => .obj (mergeMembers members changes)
    | _ => .obj changes
  | patch => patch

/-- The members after those of a patch. -/
def mergeMembers (members : List (String × Json)) :
    (changes : List (String × Json)) → List (String × Json)
  | [] => members
  | (key, .null) :: rest => mergeMembers (Keyed.erase key members) rest
  | (key, change) :: rest =>
    let value := mergePatch ((Keyed.get? key members).getD .null) change
    mergeMembers (Keyed.put key value members) rest

end

end FleetGate.Json
