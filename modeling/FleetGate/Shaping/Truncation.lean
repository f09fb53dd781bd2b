import FleetGate.Number.Numeral
import FleetGate.Shaping.Config

/-!
# Truncation

Keeping the first items of a list within a limit, and saying so.
-/

namespace FleetGate.Shaping

/-- Says that items were dropped. -/
structure TruncationWarning where
  shown : Nat
  total : Nat
  message : String
  suggestSummary : Bool := false
  suggestFilters : List String := []
  deriving DecidableEq, Repr

/-- A limit as a count: the default for one that is not positive, never above the ceiling. -/
def bounded (limit fallback ceiling : Int) : Nat :=
  (min (if limit ≤ 0 then fallback else limit) ceiling).toNat

/-- The filters suggested for a list that is much too long. -/
def itemFilters : List String := [
  "Use labelSelector to filter by labels (e.g., app=nginx)",
  "Use namespace to limit to a specific namespace",
  "Use summary=true to get counts instead of full objects"]

/-- The filters suggested for a long list of clusters. -/
def clusterFilters : List String := [
  "Use organization to filter by namespace/org",
  "Use provider to filter by infrastructure provider",
  "Use status to filter by cluster phase"]

/-- The warning for items dropped over a count limit. -/
def itemWarning (shown total : Nat) : TruncationWarning :=
  let message := "Output truncated. Showing " ++ Number.natString shown ++ " of " ++
    Number.natString total ++ " items. Refine your query with namespace, label, or field " ++
    "filters for complete results."
  if (total : Int) > 5 * OutputConfig.defaultMaxItems then
    { shown, total, message, suggestSummary := true, suggestFilters := itemFilters }
  else { shown, total, message }

/-- The warning for clusters dropped over a count limit. -/
def clusterWarning (shown total : Nat) : TruncationWarning :=
  { shown, total
    message := "Cluster results truncated. Showing " ++ Number.natString shown ++ " of " ++
      Number.natString total ++ " clusters. Use organization or provider filters to narrow results."
    suggestFilters := clusterFilters }

/-- The first items up to a limit, with a warning if some are left out. -/
def keepFirst {α : Type u} (limit : Nat) (warning : Nat → Nat → TruncationWarning)
    (items : List α) : List α × Option TruncationWarning :=
  if items.length ≤ limit then (items, none)
  else (items.take limit, some (warning limit items.length))

/-- Keeps at most `limit` items. -/
def truncate {α : Type u} (limit : Int) (items : List α) : List α × Option TruncationWarning :=
  keepFirst (bounded limit OutputConfig.defaultMaxItems OutputConfig.ceilingItems) itemWarning items

/-- Keeps at most `limit` clusters. -/
def truncateClusters {α : Type u} (limit : Int) (clusters : List α) :
    List α × Option TruncationWarning :=
  keepFirst (bounded limit OutputConfig.defaultMaxClusters OutputConfig.ceilingClusters)
    clusterWarning clusters

/-- The tighter of two limits, where one that is not positive does not count. -/
def combineLimits (request config fallback ceiling : Int) : Int :=
  let wanted :=
    if 0 < request then (if 0 < config then min request config else request)
    else if 0 < config then config
    else fallback
  min wanted ceiling

/-- The tighter of the caller's and the configured limit on items. -/
def effectiveLimit (request config : Int) : Int :=
  combineLimits request config OutputConfig.defaultMaxItems OutputConfig.ceilingItems

/-- The tighter of the caller's and the configured limit on clusters. -/
def effectiveClusterLimit (request config : Int) : Int :=
  combineLimits request config OutputConfig.defaultMaxClusters OutputConfig.ceilingClusters

end FleetGate.Shaping
