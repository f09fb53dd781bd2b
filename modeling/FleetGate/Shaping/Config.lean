import FleetGate.Number.Numeral

/-!
# Output limits

The limits under which results leave the service. Each limit has a default and a ceiling; a value
that is not positive falls back to the default, and one above the ceiling is capped, never refused.
-/

namespace FleetGate

/-- Limits and switches of the output. -/
structure OutputConfig where
  maxItems : Int
  maxClusters : Int
  maxResponseBytes : Int
  slimOutput : Bool
  maskSecrets : Bool
  summaryThreshold : Int
  /-- Dotted paths that slimming removes; a segment ending in `[*]` walks the items of an array. -/
  excludedFields : List String
  deriving DecidableEq, Repr

namespace OutputConfig

/-- Items shown when nothing else is said. -/
def defaultMaxItems : Int := 100
/-- Clusters shown when nothing else is said. -/
def defaultMaxClusters : Int := 20
/-- Bytes of a response when nothing else is said. -/
def defaultMaxResponseBytes : Int := 524288
/-- Items from which on a summary is suggested when nothing else is said. -/
def defaultSummaryThreshold : Int := 500
/-- Most items ever shown. -/
def ceilingItems : Int := 1000
/-- Most clusters ever shown. -/
def ceilingClusters : Int := 100
/-- Most bytes of a response. -/
def ceilingResponseBytes : Int := 2097152

/-- The paths that slimming removes when nothing else is said: what the server keeps for its own
bookkeeping. -/
def defaultExcludedFields : List String := [
  "metadata.managedFields",
  "metadata.annotations.kubectl.kubernetes.io/last-applied-configuration",
  "metadata.annotations.deployment.kubernetes.io/revision",
  "status.conditions[*].lastTransitionTime",
  "status.conditions[*].lastProbeTime",
  "status.conditions[*].lastHeartbeatTime",
  "metadata.ownerReferences",
  "metadata.finalizers",
  "metadata.generation",
  "metadata.resourceVersion",
  "metadata.uid",
  "metadata.selfLink"]

/-- The output limits when nothing is configured. -/
def default : OutputConfig where
  maxItems := defaultMaxItems
  maxClusters := defaultMaxClusters
  maxResponseBytes := defaultMaxResponseBytes
  slimOutput := true
  maskSecrets := true
  summaryThreshold := defaultSummaryThreshold
  excludedFields := defaultExcludedFields

instance : Inhabited OutputConfig := ⟨default⟩

/-- A limit brought into range. -/
def clamp (value fallback ceiling : Int) : Int :=
  if value ≤ 0 then fallback else min value ceiling

/-- Every limit brought into range. Slimming without any path falls back to the default paths. -/
def validated (c : OutputConfig) : OutputConfig :=
  { c with
    maxItems := clamp c.maxItems defaultMaxItems ceilingItems
    maxClusters := clamp c.maxClusters defaultMaxClusters ceilingClusters
    maxResponseBytes := clamp c.maxResponseBytes defaultMaxResponseBytes ceilingResponseBytes
    summaryThreshold :=
      if c.summaryThreshold ≤ 0 then defaultSummaryThreshold else c.summaryThreshold
    excludedFields :=
      if c.slimOutput && c.excludedFields.isEmpty then defaultExcludedFields
      else c.excludedFields }

end OutputConfig

end FleetGate
