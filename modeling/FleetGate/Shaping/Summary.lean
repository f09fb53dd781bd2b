import FleetGate.Shaping.Config
import FleetGate.Shaping.Status
import FleetGate.Text.Search

/-!
# Summaries

Counts that stand in for a long list: by status, cluster, namespace and kind, and a sample of
names. Each count is taken by one label function, so a summary is four tallies and a sample.
-/

namespace FleetGate.Shaping

/-- What a summary counts. -/
structure SummaryOptions where
  maxSampleSize : Nat := 10
  /-- How many namespaces are kept, the busiest first; zero keeps all. -/
  maxNamespaces : Nat := 10
  byStatus : Bool := true
  byCluster : Bool := false
  byNamespace : Bool := true
  byKind : Bool := false
  /-- The dotted path to the name of an item's cluster. -/
  clusterField : String := "metadata.labels.cluster"
  deriving DecidableEq, Repr

/-- The options for results gathered from many clusters. -/
def SummaryOptions.fleet (clusterField : Option String) : SummaryOptions :=
  let start : SummaryOptions := { byCluster := true, byNamespace := false }
  match clusterField.filter fun f => !f.isEmpty with
  | some field => { start with clusterField := field }
  | none => start

/-- Counts in place of a list. -/
structure ResourceSummary where
  total : Nat
  byStatus : List (String × Nat)
  byCluster : List (String × Nat)
  byNamespace : List (String × Nat)
  namespacesTruncated : Bool
  byKind : List (String × Nat)
  sample : List String
  hasMore : Bool
  deriving DecidableEq, Repr

/-- How often each label occurs; an item may have none. -/
def tally (label : Json → Option String) (items : List Json) : List (String × Nat) :=
  (items.filterMap label).foldl (fun m key => Keyed.count key m) []

/-- The order of counts: the larger first, equal ones by name. -/
def countBefore (a b : String × Nat) : Bool :=
  a.2 > b.2 || (a.2 == b.2 && a.1 ≤ b.1)

/-- The `n` largest counts, or all for zero, the larger first. -/
def topCounts (n : Nat) (counts : List (String × Nat)) : List (String × Nat) :=
  let sorted := counts.mergeSort countBefore
  if n = 0 then sorted else sorted.take n

/-- A status that says something. -/
def statusKey? (v : Json) : Option String :=
  let status := statusLabel v
  if status.isEmpty then none else some status

/-- The text at a dotted path, unless it is empty. -/
def clusterKey? (path : String) (v : Json) : Option String :=
  (v.stringAt? ((Text.splitOn '.' path.toList).map String.ofList)).filter fun s => !s.isEmpty

/-- The namespace of an item. -/
def namespaceKey? (v : Json) : Option String := v.stringAt? ["metadata", "namespace"]

/-- The kind of an item. -/
def kindKey? (v : Json) : Option String := v.stringAt? ["kind"]

/-- The name of an item with its namespace before it, if it has one. -/
def sampleName? (v : Json) : Option String :=
  (v.stringAt? ["metadata", "name"]).map fun name =>
    match namespaceKey? v with
    | some ns => if ns.isEmpty then name else ns ++ "/" ++ name
    | none => name

/-- The summary of a list. -/
def summarize (opts : SummaryOptions) (items : List Json) : ResourceSummary :=
  let tallyIf (wanted : Bool) (label : Json → Option String) :=
    if wanted then tally label items else []
  let namespaces := tallyIf opts.byNamespace namespaceKey?
  { total := items.length
    byStatus := tallyIf opts.byStatus statusKey?
    byCluster := tallyIf opts.byCluster (clusterKey? opts.clusterField)
    byNamespace := Keyed.ofPairs (topCounts opts.maxNamespaces namespaces)
    namespacesTruncated := 0 < opts.maxNamespaces && opts.maxNamespaces < namespaces.length
    byKind := tallyIf opts.byKind kindKey?
    sample := (items.take opts.maxSampleSize).filterMap sampleName?
    hasMore := opts.maxSampleSize < items.length }

/-- Whether a list of this length should be summarized. The length is compared as 64 signed bits
hold it. -/
def suggestsSummary (count : Nat) (threshold : Int) : Bool :=
  (if threshold ≤ 0 then OutputConfig.defaultSummaryThreshold else threshold) <
    Int.bmod count (Number.maxUnsigned64 + 1)

end FleetGate.Shaping
