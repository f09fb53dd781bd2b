import FleetGate.Cache.Config
import FleetGate.CredentialMode
import FleetGate.Shaping.Config

/-!
# Settings

The settings of the server in three sections: federation, output and logging. `check` refuses
settings under which the cache of clients could not work.
-/

namespace FleetGate

/-- Settings of the federation. -/
structure FederationSettings where
  enabled : Bool := true
  cacheTtlSeconds : Nat := 600
  cacheMaxEntries : Nat := 1000
  cacheSweepSeconds : Nat := 60
  credentialMode : CredentialMode := .user
  deriving DecidableEq, Repr

/-- Settings of the log. -/
structure LoggingSettings where
  level : String := "info"
  json : Bool := false
  deriving DecidableEq, Repr

/-- Settings of the server. -/
structure Settings where
  federation : FederationSettings := {}
  output : OutputConfig := .default
  logging : LoggingSettings := {}
  deriving DecidableEq, Repr

/-- Why no settings could be had. -/
inductive SettingsError where
  | unreadableFile
  | malformedFile
  | invalidVariable (name reason : String)
  | zero (setting : String)
  deriving DecidableEq, Repr

namespace SettingsError

/-- The message. What exactly is wrong with a file is left to the log. -/
def message : SettingsError → String
  | .unreadableFile => "failed to read the configuration file"
  | .malformedFile => "failed to parse the configuration file"
  | .invalidVariable name reason => "invalid value for " ++ name ++ ": " ++ reason
  | .zero setting => "invalid configuration: " ++ setting ++ " must be greater than zero"

end SettingsError

namespace FederationSettings

/-- The limits of the cache of clients. -/
def cacheConfig (s : FederationSettings) : CacheConfig where
  ttl := 1000 * s.cacheTtlSeconds
  maxEntries := s.cacheMaxEntries
  sweepInterval := 1000 * s.cacheSweepSeconds

/-- Refuses a cache without time, room or sweeps. -/
def check (s : FederationSettings) : Except SettingsError Unit :=
  if s.cacheTtlSeconds = 0 then .error (.zero "federation.cache_ttl_secs")
  else if s.cacheMaxEntries = 0 then .error (.zero "federation.cache_max_entries")
  else if s.cacheSweepSeconds = 0 then .error (.zero "federation.cache_cleanup_interval_secs")
  else .ok ()

end FederationSettings

end FleetGate
