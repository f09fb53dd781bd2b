import FleetGate.Json.Decode
import FleetGate.Settings.Layer

/-!
# Decoding layers

Layers as records: an object per section, or an array of its fields in order. The outer record may
leave fields out in either form, a section given as an array must have all of them. `null` leaves a
field open.
-/

namespace FleetGate

/-- What a file format lets pass where the formats differ. -/
structure FormatRules where
  /-- Whether items of an array past the last field are ignored. -/
  surplusIgnored : Bool
  /-- Whether a value counts as nothing, so that a mode may be written as the only member of an
  object that has such a value. -/
  isNothing : Json → Bool

/-- JSON is strict on surplus items, and `null` is nothing. -/
def FormatRules.json : FormatRules where
  surplusIgnored := false
  isNothing := Json.isNull

/-- TOML lets surplus items pass, and empty arrays and tables are nothing. -/
def FormatRules.toml : FormatRules where
  surplusIgnored := true
  isNothing
    | .arr items => items.isEmpty
    | .obj members => members.isEmpty
    | _ => false

namespace Layer

open Json (Decoded)

/-- Decodes a record that may be shorter than its list of fields only if `shortAllowed`. -/
def decodeFields {α : Type} (rules : FormatRules) (shortAllowed : Bool) (expected : String)
    (fields : List String) (set : String → Json → α → Decoded α) (start : α) (v : Json) :
    Decoded α :=
  match v with
  | .arr items =>
    if items.length < fields.length ∧ !shortAllowed then .error (.missing expected)
    else
      let kept := if rules.surplusIgnored then items.take fields.length else items
      Json.decodeRecord expected fields set start (.arr kept)
  | _ => Json.decodeRecord expected fields set start v

/-- Decodes the name of a credential mode. -/
def decodeMode (rules : FormatRules) (v : Json) : Decoded CredentialMode :=
  let named (s : String) : Decoded CredentialMode :=
    match CredentialMode.ofName? s with
    | some mode => .ok mode
    | none => .error (.other "unknown variant")
  match v with
  | .str s => named s
  | .obj [(s, w)] => if rules.isNothing w then named s else .error (.wrongType w "unit variant")
  | _ => .error (.wrongType v "enum CredentialMode")

/-- Stores a field of the federation section. -/
def setFederation (rules : FormatRules) (key : String) (v : Json) (l : FederationLayer) :
    Decoded FederationLayer :=
  match key with
  | "enabled" => return { l with enabled? := ← Json.decodeOption Json.decodeBool v }
  | "cache_ttl_secs" =>
    return { l with cacheTtlSeconds? := ← Json.decodeOption Json.decodeUnsigned64 v }
  | "cache_max_entries" =>
    return { l with cacheMaxEntries? := ← Json.decodeOption Json.decodeUnsigned64 v }
  | "cache_cleanup_interval_secs" =>
    return { l with cacheSweepSeconds? := ← Json.decodeOption Json.decodeUnsigned64 v }
  | "credential_mode" =>
    return { l with credentialMode? := ← Json.decodeOption (decodeMode rules) v }
  | _ => .ok l

/-- Stores a field of the output section. -/
def setOutput (key : String) (v : Json) (l : OutputLayer) : Decoded OutputLayer :=
  match key with
  | "max_items" => return { l with maxItems? := ← Json.decodeOption Json.decodeSigned64 v }
  | "max_clusters" => return { l with maxClusters? := ← Json.decodeOption Json.decodeSigned64 v }
  | "max_response_bytes" =>
    return { l with maxResponseBytes? := ← Json.decodeOption Json.decodeSigned64 v }
  | "slim_output" => return { l with slimOutput? := ← Json.decodeOption Json.decodeBool v }
  | "mask_secrets" => return { l with maskSecrets? := ← Json.decodeOption Json.decodeBool v }
  | "summary_threshold" =>
    return { l with summaryThreshold? := ← Json.decodeOption Json.decodeSigned64 v }
  | "excluded_fields" => do
    let fields ← Json.decodeOption (Json.decodeList Json.decodeString) v
    return { l with excludedFields? := fields }
  | _ => .ok l

/-- Stores a field of the logging section. -/
def setLogging (key : String) (v : Json) (l : LoggingLayer) : Decoded LoggingLayer :=
  match key with
  | "level" => return { l with level? := ← Json.decodeOption Json.decodeString v }
  | "json" => return { l with json? := ← Json.decodeOption Json.decodeBool v }
  | _ => .ok l

/-- Decodes the federation section. -/
def decodeFederation (rules : FormatRules) : Json → Decoded FederationLayer :=
  decodeFields rules false "struct FederationConfigLayer"
    ["enabled", "cache_ttl_secs", "cache_max_entries", "cache_cleanup_interval_secs",
      "credential_mode"] (setFederation rules) {}

/-- Decodes the output section. -/
def decodeOutput (rules : FormatRules) : Json → Decoded OutputLayer :=
  decodeFields rules false "struct OutputConfigLayer"
    ["max_items", "max_clusters", "max_response_bytes", "slim_output", "mask_secrets",
      "summary_threshold", "excluded_fields"] setOutput {}

/-- Decodes the logging section. -/
def decodeLogging (rules : FormatRules) : Json → Decoded LoggingLayer :=
  decodeFields rules false "struct LoggingConfigLayer" ["level", "json"] setLogging {}

/-- Stores a section. -/
def setSection (rules : FormatRules) (key : String) (v : Json) (l : Layer) : Decoded Layer :=
  match key with
  | "federation" =>
    return { l with federation? := ← Json.decodeOption (decodeFederation rules) v }
  | "output" => return { l with output? := ← Json.decodeOption (decodeOutput rules) v }
  | "logging" => return { l with logging? := ← Json.decodeOption (decodeLogging rules) v }
  | _ => .ok l

/-- Decodes a layer. -/
def ofJson (rules : FormatRules) : Json → Decoded Layer :=
  decodeFields rules true "struct ServerConfigLayer" ["federation", "output", "logging"]
    (setSection rules) {}

end Layer

end FleetGate
