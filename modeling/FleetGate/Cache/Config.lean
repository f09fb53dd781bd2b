/-!
# Cache limits

How long a client stays in the cache, how many there may be, and how often the expired ones are
swept out. All times are in milliseconds.
-/

namespace FleetGate

/-- Limits of a cache. -/
structure CacheConfig where
  /-- An entry expires this long after its last use. -/
  ttl : Nat := 600000
  maxEntries : Nat := 1000
  /-- The time between two sweeps; zero switches them off. -/
  sweepInterval : Nat := 60000
  deriving DecidableEq, Repr, Inhabited

namespace CacheConfig

/-- How many moments the millisecond clock of a cache can tell apart. -/
def clockRange : Nat := 18446744073709551616

/-- Whether an entry last used at `used` has expired at `now`. The limit is compared as the
millisecond clock holds it, that is modulo its range. -/
def expired (c : CacheConfig) (used now : Nat) : Bool :=
  c.ttl % clockRange ≤ now - used

end CacheConfig

end FleetGate
