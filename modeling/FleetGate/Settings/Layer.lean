import FleetGate.Settings.Basic

/-!
# Layers of settings

What one source says, setting by setting, with everything it does not mention left open. A layer is
laid over another by taking each setting from the upper one if it is set there, else from the lower
one; `Layer.resolve` fills what is still open with the defaults, brings the output limits into range
and checks the result.
-/

namespace FleetGate

/-- What a source says about the federation. -/
structure FederationLayer where
  enabled? : Option Bool := none
  cacheTtlSeconds? : Option Nat := none
  cacheMaxEntries? : Option Nat := none
  cacheSweepSeconds? : Option Nat := none
  credentialMode? : Option CredentialMode := none
  deriving DecidableEq, Repr

/-- What a source says about the output. -/
structure OutputLayer where
  maxItems? : Option Int := none
  maxClusters? : Option Int := none
  maxResponseBytes? : Option Int := none
  slimOutput? : Option Bool := none
  maskSecrets? : Option Bool := none
  summaryThreshold? : Option Int := none
  excludedFields? : Option (List String) := none
  deriving DecidableEq, Repr

/-- What a source says about the log. -/
structure LoggingLayer where
  level? : Option String := none
  json? : Option Bool := none
  deriving DecidableEq, Repr

/-- What a source says. -/
structure Layer where
  federation? : Option FederationLayer := none
  output? : Option OutputLayer := none
  logging? : Option LoggingLayer := none
  deriving DecidableEq, Repr

/-- Lays a section over another, a missing one counting as nothing said. -/
def layOver {α : Type} (lay : α → α → α) : Option α → Option α → Option α
  | some upper, some lower => some (lay upper lower)
  | some upper, none => some upper
  | none, lower => lower

namespace FederationLayer

/-- Lays `upper` over `lower`. -/
def onto (upper lower : FederationLayer) : FederationLayer where
  enabled? := upper.enabled?.or lower.enabled?
  cacheTtlSeconds? := upper.cacheTtlSeconds?.or lower.cacheTtlSeconds?
  cacheMaxEntries? := upper.cacheMaxEntries?.or lower.cacheMaxEntries?
  cacheSweepSeconds? := upper.cacheSweepSeconds?.or lower.cacheSweepSeconds?
  credentialMode? := upper.credentialMode?.or lower.credentialMode?

/-- Fills what is open with the defaults. -/
def resolve (l : FederationLayer) : FederationSettings :=
  let d : FederationSettings := {}
  { enabled := l.enabled?.getD d.enabled
    cacheTtlSeconds := l.cacheTtlSeconds?.getD d.cacheTtlSeconds
    cacheMaxEntries := l.cacheMaxEntries?.getD d.cacheMaxEntries
    cacheSweepSeconds := l.cacheSweepSeconds?.getD d.cacheSweepSeconds
    credentialMode := l.credentialMode?.getD d.credentialMode }

end FederationLayer

namespace OutputLayer

/-- Lays `upper` over `lower`. -/
def onto (upper lower : OutputLayer) : OutputLayer where
  maxItems? := upper.maxItems?.or lower.maxItems?
  maxClusters? := upper.maxClusters?.or lower.maxClusters?
  maxResponseBytes? := upper.maxResponseBytes?.or lower.maxResponseBytes?
  slimOutput? := upper.slimOutput?.or lower.slimOutput?
  maskSecrets? := upper.maskSecrets?.or lower.maskSecrets?
  summaryThreshold? := upper.summaryThreshold?.or lower.summaryThreshold?
  excludedFields? := upper.excludedFields?.or lower.excludedFields?

/-- Fills what is open with the defaults and brings every limit into range. -/
def resolve (l : OutputLayer) : OutputConfig :=
  let d := OutputConfig.default
  OutputConfig.validated {
    maxItems := l.maxItems?.getD d.maxItems
    maxClusters := l.maxClusters?.getD d.maxClusters
    maxResponseBytes := l.maxResponseBytes?.getD d.maxResponseBytes
    slimOutput := l.slimOutput?.getD d.slimOutput
    maskSecrets := l.maskSecrets?.getD d.maskSecrets
    summaryThreshold := l.summaryThreshold?.getD d.summaryThreshold
    excludedFields := l.excludedFields?.getD d.excludedFields }

end OutputLayer

namespace LoggingLayer

/-- Lays `upper` over `lower`. -/
def onto (upper lower : LoggingLayer) : LoggingLayer where
  level? := upper.level?.or lower.level?
  json? := upper.json?.or lower.json?

/-- Fills what is open with the defaults. -/
def resolve (l : LoggingLayer) : LoggingSettings :=
  let d : LoggingSettings := {}
  { level := l.level?.getD d.level, json := l.json?.getD d.json }

end LoggingLayer

namespace Layer

/-- Lays `upper` over `lower`. -/
def onto (upper lower : Layer) : Layer where
  federation? := layOver FederationLayer.onto upper.federation? lower.federation?
  output? := layOver OutputLayer.onto upper.output? lower.output?
  logging? := layOver LoggingLayer.onto upper.logging? lower.logging?

/-- The settings that a layer leads to. -/
def resolve (l : Layer) : Except SettingsError Settings := do
  let federation := (l.federation?.getD {}).resolve
  federation.check
  return {
    federation
    output := (l.output?.getD {}).resolve
    logging := (l.logging?.getD {}).resolve }

end Layer

end FleetGate
