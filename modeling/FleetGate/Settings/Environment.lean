import FleetGate.Keyed
import FleetGate.Settings.Layer
import FleetGate.Text.Search

/-!
# Settings from the environment

The layer that environment variables make up. An empty variable counts as unset. A switch is on for
`true` in any case and for `1`, and off for any other text; a number that cannot be read is an
error; a list is split at commas and its blank items are dropped.
-/

namespace FleetGate

/-- Variables by name. -/
abbrev Environment := List (String × String)

namespace Environment

/-- The names of all variables that are looked at. -/
def variableNames : List String := [
  "KMCP_SERVER_FEDERATION_ENABLED", "KMCP_SERVER_FEDERATION_CREDENTIAL_MODE",
  "KMCP_SERVER_FEDERATION_CACHE_TTL_SECS", "KMCP_SERVER_FEDERATION_CACHE_MAX_ENTRIES",
  "KMCP_SERVER_FEDERATION_CACHE_CLEANUP_INTERVAL_SECS", "KMCP_SERVER_OUTPUT_MAX_ITEMS",
  "KMCP_SERVER_OUTPUT_MAX_CLUSTERS", "KMCP_SERVER_OUTPUT_MAX_RESPONSE_BYTES",
  "KMCP_SERVER_OUTPUT_SUMMARY_THRESHOLD", "KMCP_SERVER_OUTPUT_SLIM_OUTPUT",
  "KMCP_SERVER_OUTPUT_MASK_SECRETS", "KMCP_SERVER_OUTPUT_EXCLUDED_FIELDS",
  "KMCP_SERVER_LOGGING_LEVEL", "KMCP_SERVER_LOGGING_JSON"]

/-- The text of a variable that is set and not empty. -/
def text? (env : Environment) (name : String) : Option String :=
  (Keyed.get? name env).filter fun s => !s.isEmpty

/-- Whether the text of a switch turns it on. -/
def isOn (s : String) : Bool :=
  Text.eqIgnoringAsciiCase s "true" || s = "1"

/-- A switch. -/
def switch? (env : Environment) (name : String) : Option Bool :=
  (env.text? name).map isOn

/-- A value that `parse` reads; `type` names what it must be. -/
def parsed {α : Type} (env : Environment) (name type : String) (parse : List Char → Option α) :
    Except SettingsError (Option α) :=
  match env.text? name with
  | none => .ok none
  | some s =>
    match parse s.toList with
    | some a => .ok (some a)
    | none => .error (.invalidVariable name ("invalid " ++ type ++ " value '" ++ s ++ "'"))

/-- A number of 64 unsigned bits, under one of its names. -/
def unsigned (env : Environment) (name type : String) : Except SettingsError (Option Nat) :=
  env.parsed name type (Number.natUpTo? Number.maxUnsigned64)

/-- A number of 64 signed bits. -/
def signed (env : Environment) (name : String) : Except SettingsError (Option Int) :=
  env.parsed name "i64" (Number.intBetween? Number.minSigned64 Number.maxSigned64)

/-- A list. -/
def list? (env : Environment) (name : String) : Option (List String) :=
  (env.text? name).map fun s =>
    ((Text.splitOn ',' s.toList).map fun item => String.ofList (Text.trimChars item)).filter
      fun item => !item.isEmpty

/-- The credential mode. -/
def mode (env : Environment) (name : String) : Except SettingsError (Option CredentialMode) :=
  match env.text? name with
  | none => .ok none
  | some s =>
    match CredentialMode.parse s with
    | .ok mode => .ok (some mode)
    | .error reason => .error (.invalidVariable name reason)

/-- The federation section. -/
def federation (env : Environment) : Except SettingsError FederationLayer := do
  let credentialMode? ← env.mode "KMCP_SERVER_FEDERATION_CREDENTIAL_MODE"
  let cacheTtlSeconds? ← env.unsigned "KMCP_SERVER_FEDERATION_CACHE_TTL_SECS" "u64"
  let cacheMaxEntries? ← env.unsigned "KMCP_SERVER_FEDERATION_CACHE_MAX_ENTRIES" "usize"
  let cacheSweepSeconds? ←
    env.unsigned "KMCP_SERVER_FEDERATION_CACHE_CLEANUP_INTERVAL_SECS" "u64"
  return {
    enabled? := env.switch? "KMCP_SERVER_FEDERATION_ENABLED"
    cacheTtlSeconds?
    cacheMaxEntries?
    cacheSweepSeconds?
    credentialMode? }

/-- The output section. -/
def output (env : Environment) : Except SettingsError OutputLayer := do
  let maxItems? ← env.signed "KMCP_SERVER_OUTPUT_MAX_ITEMS"
  let maxClusters? ← env.signed "KMCP_SERVER_OUTPUT_MAX_CLUSTERS"
  let maxResponseBytes? ← env.signed "KMCP_SERVER_OUTPUT_MAX_RESPONSE_BYTES"
  let summaryThreshold? ← env.signed "KMCP_SERVER_OUTPUT_SUMMARY_THRESHOLD"
  return {
    maxItems?
    maxClusters?
    maxResponseBytes?
    slimOutput? := env.switch? "KMCP_SERVER_OUTPUT_SLIM_OUTPUT"
    maskSecrets? := env.switch? "KMCP_SERVER_OUTPUT_MASK_SECRETS"
    summaryThreshold?
    excludedFields? := env.list? "KMCP_SERVER_OUTPUT_EXCLUDED_FIELDS" }

/-- The logging section. -/
def logging (env : Environment) : LoggingLayer where
  level? := env.text? "KMCP_SERVER_LOGGING_LEVEL"
  json? := env.switch? "KMCP_SERVER_LOGGING_JSON"

/-- The layer that the variables make up. Every section is there, even if it says nothing. -/
def layer (env : Environment) : Except SettingsError Layer := do
  let federation ← env.federation
  let output ← env.output
  return { federation? := some federation, output? := some output, logging? := some env.logging }

end Environment

end FleetGate
