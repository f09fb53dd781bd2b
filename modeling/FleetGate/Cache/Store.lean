import FleetGate.Cache.Config
import FleetGate.Keyed

/-!
# The store of a cache

The entries of a cache with its counters, and the operations that change them in one go. An entry
belongs to a cluster and a principal together, so that nothing one caller built serves another. It
expires some time after its last use; an expired entry stays until it is replaced, swept out or
evicted, but is never found.
-/

namespace FleetGate

/-- What an entry is kept under. The management cluster has the empty name. -/
structure CacheKey where
  cluster : String
  principal : String
  deriving DecidableEq, Repr, Inhabited

/-- A value with the times, in milliseconds, at which it was stored and last used. -/
structure CacheEntry (V : Type) where
  value : V
  created : Nat
  lastUse : Nat
  deriving DecidableEq, Repr

/-- The entries of a cache and its counters. -/
structure CacheStore (V : Type) where
  config : CacheConfig := {}
  entries : List (CacheKey × CacheEntry V) := []
  hits : Nat := 0
  misses : Nat := 0
  evictions : Nat := 0
  deriving Inhabited

/-- What is told about a cache. Ages are counted from when entries were stored. -/
structure CacheStats where
  size : Nat
  hits : Nat
  misses : Nat
  evictions : Nat
  maxEntries : Nat
  ttl : Nat
  oldest? : Option Nat
  newest? : Option Nat
  deriving DecidableEq, Repr

namespace CacheStore

variable {V : Type}

/-- Whether an entry has expired. -/
def expired (s : CacheStore V) (e : CacheEntry V) (now : Nat) : Bool :=
  s.config.expired e.lastUse now

/-- The entry of a key, unless it has expired. -/
def live? (s : CacheStore V) (key : CacheKey) (now : Nat) : Option (CacheEntry V) :=
  (Keyed.get? key s.entries).filter fun e => !s.expired e now

/-- Finds the value of a key and counts the use. -/
def lookup (s : CacheStore V) (key : CacheKey) (now : Nat) : Option V × CacheStore V :=
  match s.live? key now with
  | some e =>
    (some e.value, { s with
      entries := Keyed.modify key (fun e => { e with lastUse := now }) s.entries
      hits := s.hits + 1 })
  | none => (none, s)

/-- Counts a construction. -/
def countMiss (s : CacheStore V) : CacheStore V :=
  { s with misses := s.misses + 1 }

/-- The key whose entry was used least recently, the first of several. -/
def leastRecent? : List (CacheKey × CacheEntry V) → Option CacheKey
  | [] => none
  | (key, e) :: rest =>
    if rest.all fun p => e.lastUse ≤ p.2.lastUse then some key else leastRecent? rest

/-- Evicts the least recently used entry if a new key would find no room. -/
def makeRoom (s : CacheStore V) (key : CacheKey) : CacheStore V :=
  if Keyed.has key s.entries || s.entries.length < s.config.maxEntries then s
  else
    match leastRecent? s.entries with
    | some old =>
      { s with entries := Keyed.erase old s.entries, evictions := s.evictions + 1 }
    | none => s

/-- Stores a value. The entry of the same key is replaced, whether it has expired or not. -/
def insert (s : CacheStore V) (key : CacheKey) (value : V) (now : Nat) : CacheStore V :=
  let s := s.makeRoom key
  let e : CacheEntry V := ⟨value, now, now⟩
  { s with
    entries :=
      if Keyed.has key s.entries then Keyed.modify key (fun _ => e) s.entries
      else s.entries ++ [(key, e)] }

/-- Keeps the entries that pass a test, counting the others as evicted, and tells how many those
were. -/
def keep (s : CacheStore V) (test : CacheKey × CacheEntry V → Bool) : Nat × CacheStore V :=
  let kept := s.entries.filter test
  let removed := s.entries.length - kept.length
  (removed, { s with entries := kept, evictions := s.evictions + removed })

/-- Drops the entry of a key and tells whether there was one. -/
def invalidate (s : CacheStore V) (key : CacheKey) : Bool × CacheStore V :=
  let (removed, s) := s.keep fun p => p.1 ≠ key
  (removed != 0, s)

/-- Drops the entries of a cluster, whoever they belong to. -/
def invalidateCluster (s : CacheStore V) (cluster : String) : Nat × CacheStore V :=
  s.keep fun p => p.1.cluster ≠ cluster

/-- Drops the expired entries. -/
def removeExpired (s : CacheStore V) (now : Nat) : Nat × CacheStore V :=
  s.keep fun p => !s.expired p.2 now

/-- Drops every entry, without counting. -/
def clear (s : CacheStore V) : CacheStore V :=
  { s with entries := [] }

/-- What is told about the cache. -/
def stats (s : CacheStore V) (now : Nat) : CacheStats :=
  let ages := s.entries.map fun p => now - p.2.created
  { size := s.entries.length
    hits := s.hits
    misses := s.misses
    evictions := s.evictions
    maxEntries := s.config.maxEntries
    ttl := s.config.ttl
    oldest? := ages.max?
    newest? := ages.min? }

end CacheStore

end FleetGate
