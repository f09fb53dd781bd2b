import FleetGate.Cluster.Call
import FleetGate.Fleet.Client

/-!
# Backends

What a fleet stands on: the management cluster, the workload clusters behind it and the means to
build clients for them. A backend is known only by what it does to its state, so everything said
about a fleet holds whether its clusters are reached through a network or are held in memory.
-/

namespace FleetGate

/-- What a fleet stands on, with a state of type `σ`. -/
structure Backend (σ : Type) where
  /-- Starts to build a client and tells how many milliseconds that takes. -/
  startBuild : Client → σ → Nat × σ
  /-- Ends the build that was started for a client. -/
  endBuild : Client → Attempt σ Unit
  /-- Whether the service has a client of its own. -/
  hasService : σ → Bool
  /-- Calls a cluster through a client. -/
  call : {α : Type} → Client → ClusterCall α → Attempt σ α
  /-- The most pages that a listing through a client can have. -/
  pageBound : Client → σ → Nat

namespace Backend

variable {σ : Type}

/-- The objects of a listing over the whole cluster, from the page that the options ask for to the
last one, but of no more pages than given. A page that fails fails the listing. -/
def listPages (b : Backend σ) (client : Client) (resource : ResourceType) :
    Nat → ListOptions → Attempt σ (List Object)
  | 0, _ => fun s => (.ok [], s)
  | pages + 1, options => fun s =>
    match b.call client (.list resource none options) s with
    | (.error e, s) => (.error e, s)
    | (.ok page, s) =>
      if page.hasMore then
        match listPages b client resource pages { options with continue? := page.continue? } s with
        | (.error e, s) => (.error e, s)
        | (.ok rest, s) => (.ok (page.items ++ rest), s)
      else (.ok page.items, s)

/-- All objects of a type, read in the largest pages. -/
def listAll (b : Backend σ) (client : Client) (resource : ResourceType) :
    Attempt σ (List Object) := fun s =>
  b.listPages client resource (b.pageBound client s)
    { allNamespaces := true, limit? := some ListOptions.maxLimit } s

/-- A backend without clusters. -/
def none : Backend σ where
  startBuild _ s := (0, s)
  endBuild _ s := (.error (.connection "no cluster is configured"), s)
  hasService _ := false
  call _ _ s := (.error (.connection "no cluster is configured"), s)
  pageBound _ _ := 0

end Backend

end FleetGate
