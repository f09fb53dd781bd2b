import FleetGate.Json.Decode
import FleetGate.Shaping.Pipeline
import FleetGate.Shaping.Summary

/-!
# Output records as JSON

The written forms of limits, warnings, results and summaries, and the reader of limits. Empty maps
and lists and flags that are not set are left out.
-/

namespace FleetGate

/-- The fields of the output limits as declared. -/
def OutputConfig.fields : List String :=
  ["maxItems", "maxClusters", "maxResponseBytes", "slimOutput", "maskSecrets", "summaryThreshold",
    "excludedFields"]

/-- Stores one of the output limits. -/
def OutputConfig.set (key : String) (v : Json) (c : OutputConfig) : Json.Decoded OutputConfig :=
  match key with
  | "maxItems" => return { c with maxItems := ← Json.decodeSigned64 v }
  | "maxClusters" => return { c with maxClusters := ← Json.decodeSigned64 v }
  | "maxResponseBytes" => return { c with maxResponseBytes := ← Json.decodeSigned64 v }
  | "slimOutput" => return { c with slimOutput := ← Json.decodeBool v }
  | "maskSecrets" => return { c with maskSecrets := ← Json.decodeBool v }
  | "summaryThreshold" => return { c with summaryThreshold := ← Json.decodeSigned64 v }
  | "excludedFields" =>
    return { c with excludedFields := ← Json.decodeList Json.decodeString v }
  | _ => .ok c

/-- Reads output limits; missing ones have their defaults. -/
def OutputConfig.ofJson : Json → Json.Decoded OutputConfig :=
  Json.decodeRecord "struct OutputConfig" fields set default

/-- Writes output limits. -/
def OutputConfig.toJson (c : OutputConfig) : Json :=
  .ofMembers [
    ("maxItems", .int c.maxItems),
    ("maxClusters", .int c.maxClusters),
    ("maxResponseBytes", .int c.maxResponseBytes),
    ("slimOutput", .bool c.slimOutput),
    ("maskSecrets", .bool c.maskSecrets),
    ("summaryThreshold", .int c.summaryThreshold),
    ("excludedFields", .arr (c.excludedFields.map .str))]

namespace Shaping

/-- A member that is left out when its condition fails. -/
def memberIf (wanted : Bool) (name : String) (v : Json) : List (String × Json) :=
  if wanted then [(name, v)] else []

/-- Writes a warning. -/
def TruncationWarning.toJson (w : TruncationWarning) : Json :=
  .ofMembers ([("shown", .int w.shown), ("total", .int w.total), ("message", .str w.message)] ++
    memberIf w.suggestSummary "suggestSummary" (.bool true) ++
    memberIf (!w.suggestFilters.isEmpty) "suggestFilters" (.arr (w.suggestFilters.map .str)))

/-- Writes what was done, without the time at which it was. -/
def ProcessingMetadata.toJson (m : ProcessingMetadata) : Json :=
  .ofMembers [
    ("originalCount", .int m.originalCount),
    ("finalCount", .int m.finalCount),
    ("truncated", .bool m.truncated),
    ("slimApplied", .bool m.slimApplied),
    ("secretsMasked", .bool m.secretsMasked)]

/-- Writes a list of results, its items as given. -/
def ProcessingResult.toJson (r : ProcessingResult) (items : Json) : Json :=
  .ofMembers ([("items", items), ("metadata", r.metadata.toJson)] ++
    memberIf (!r.warnings.isEmpty) "warnings" (.arr (r.warnings.map TruncationWarning.toJson)))

/-- Writes counts as an object. -/
def countsJson (counts : List (String × Nat)) : Json :=
  .obj (Keyed.mapValues (fun n : Nat => Json.int n) counts)

/-- Writes a summary. -/
def ResourceSummary.toJson (s : ResourceSummary) : Json :=
  let counts (name : String) (m : List (String × Nat)) := memberIf (!m.isEmpty) name (countsJson m)
  .ofMembers ([("total", .int s.total)] ++ counts "byStatus" s.byStatus ++
    counts "byCluster" s.byCluster ++ counts "byNamespace" s.byNamespace ++
    memberIf s.namespacesTruncated "namespacesTruncated" (.bool true) ++
    counts "byKind" s.byKind ++
    memberIf (!s.sample.isEmpty) "sample" (.arr (s.sample.map .str)) ++
    memberIf s.hasMore "hasMore" (.bool true))

end Shaping

end FleetGate
