import FleetGate.Cluster.Call

/-!
# Answers of a cluster as JSON

The written forms of a page, of an access review and of its verdict.
-/

namespace FleetGate

/-- Writes a page, its items by `item`. -/
def Page.toJson (item : Object → Json) (p : Page) : Json :=
  let orNull {α : Type} (f : α → Json) : Option α → Json
    | some a => f a
    | none => .null
  .ofMembers [("items", .arr (p.items.map item)), ("continueToken", orNull .str p.continue?),
    ("resourceVersion", orNull .str p.resourceVersion?),
    ("remainingItems", orNull .int p.remaining?),
    ("totalItems", orNull (fun n : Nat => .int n) p.total?), ("hasMore", .bool p.hasMore)]

/-- Writes an access review. -/
def AccessReview.toJson (r : AccessReview) : Json :=
  .ofMembers [("verb", .str r.verb), ("resource", .str r.resource), ("group", .str r.group),
    ("namespace", .str r.ns), ("name", .str r.name), ("subresource", .str r.subresource)]

/-- Writes a verdict, the raw text of the cluster included. -/
def AccessVerdict.toJson (v : AccessVerdict) : Json :=
  .ofMembers [("allowed", .bool v.allowed), ("denied", .bool v.denied), ("reason", .str v.reason),
    ("evaluation_error", .str v.evaluationError)]

end FleetGate
