import FleetGate.Json.Writer
import FleetGate.Shaping.Secrets
import FleetGate.Shaping.Slim
import FleetGate.Shaping.Truncation

/-!
# The response pipeline

What happens to results on their way out: each is masked and then slimmed, the list is cut to the
count limit, and items are dropped from its end until the rest, encoded as one compact array, fits
the byte budget.
-/

namespace FleetGate.Shaping

/-- What was done to a list of results. -/
structure ProcessingMetadata where
  originalCount : Nat
  finalCount : Nat
  truncated : Bool
  slimApplied : Bool
  secretsMasked : Bool
  deriving DecidableEq, Repr

/-- A list of results on its way out. -/
structure ProcessingResult where
  items : List Json
  warnings : List TruncationWarning
  metadata : ProcessingMetadata
  deriving DecidableEq

/-- Masks and slims one item, under limits that are in range. -/
def shapeItem (c : OutputConfig) (v : Json) : Json :=
  let masked := if c.maskSecrets then maskSecrets v else v
  if c.slimOutput then slim c.excludedFields masked else masked

/-- How many bytes items of the given sizes take as one array: the brackets, the items, and a comma
between any two. -/
def arraySize (sizes : List Nat) : Nat :=
  2 + sizes.foldr Nat.add 0 + (sizes.length - 1)

/-- Drops sizes from the front of the reversed list until the array that is left fits the budget or
is empty; `used` is its size. The sizes are those of the items kept, latest first. -/
def dropUntilFits (budget used : Nat) : List Nat → List Nat
  | [] => []
  | size :: rest =>
    if used ≤ budget then size :: rest
    else dropUntilFits budget (used - (size + if rest.isEmpty then 0 else 1)) rest

/-- The warning for items dropped over the byte budget. -/
def budgetWarning (budget shown total : Nat) : TruncationWarning :=
  { shown, total
    message := "Response size limit of " ++ Number.natString budget ++ " bytes reached. Showing " ++
      Number.natString shown ++ " of " ++ Number.natString total ++
      " items. Use filters or summary mode to reduce the response."
    suggestSummary := true }

/-- Drops items from the end until the array fits the budget. `total` is how many items there were
at the start, for the warning. -/
def fitToBudget (budget total : Nat) (items : List Json) :
    List Json × Option TruncationWarning :=
  let sizes := items.map Json.compactSize
  let used := arraySize sizes
  if used ≤ budget then (items, none)
  else
    let kept := items.take (dropUntilFits budget used sizes.reverse).length
    (kept, some (budgetWarning budget kept.length total))

/-- Shapes a list, keeping at most the tighter of `limit` and the configured number of items. -/
def processWithLimit (config : OutputConfig) (limit : Int) (items : List Json) :
    ProcessingResult :=
  let c := config.validated
  let (counted, countWarning) :=
    truncate (effectiveLimit limit c.maxItems) (items.map (shapeItem c))
  let (kept, sizeWarning) := fitToBudget c.maxResponseBytes.toNat items.length counted
  { items := kept
    warnings := countWarning.toList ++ sizeWarning.toList
    metadata := {
      originalCount := items.length
      finalCount := kept.length
      truncated := kept.length < items.length
      slimApplied := c.slimOutput
      secretsMasked := c.maskSecrets && items.any isSecret } }

/-- Shapes a list under the configured limits alone. -/
def process (config : OutputConfig) (items : List Json) : ProcessingResult :=
  processWithLimit config 0 items

/-- Shapes a single object, which is never cut. -/
def processSingle (config : OutputConfig) (v : Json) : Json :=
  shapeItem config.validated v

/-- The bookkeeping that stands beside the items of a response, by which a caller sees that it is
partial. -/
def ProcessingResult.bookkeeping (r : ProcessingResult) : List (String × Json) :=
  let counts :=
    if r.metadata.truncated then
      [("_originalCount", Json.int r.metadata.originalCount),
        ("_returnedCount", .int r.metadata.finalCount), ("_truncated", .bool true)]
    else []
  let warnings :=
    if r.warnings.isEmpty then []
    else [("_warnings", Json.arr (r.warnings.map fun w => .str w.message))]
  counts ++ warnings

end FleetGate.Shaping
