import FleetGate.Json.Value
import FleetGate.Settings.Basic
import FleetGate.Shaping.Encode

/-!
# Settings as JSON

The written form of settings, section by section. The limits of the cache of clients, which follow
from the federation section, are written beside it.
-/

namespace FleetGate

/-- Writes the limits of a cache, times in whole seconds. -/
def CacheConfig.toJson (c : CacheConfig) : Json :=
  .ofMembers [("ttlSecs", .int ((c.ttl / 1000 : Nat) : Int)), ("maxEntries", .int c.maxEntries),
    ("cleanupSecs", .int ((c.sweepInterval / 1000 : Nat) : Int))]

/-- Writes the federation section. -/
def FederationSettings.toJson (s : FederationSettings) : Json :=
  .ofMembers [("enabled", .bool s.enabled), ("cacheTtlSecs", .int s.cacheTtlSeconds),
    ("cacheMaxEntries", .int s.cacheMaxEntries),
    ("cacheCleanupIntervalSecs", .int s.cacheSweepSeconds),
    ("credentialMode", .str s.credentialMode.name)]

/-- Writes settings. -/
def Settings.toJson (s : Settings) : Json :=
  .ofMembers [("federation", s.federation.toJson), ("cache", s.federation.cacheConfig.toJson),
    ("output", s.output.toJson),
    ("logging", .ofMembers [("level", .str s.logging.level), ("json", .bool s.logging.json)])]

end FleetGate
