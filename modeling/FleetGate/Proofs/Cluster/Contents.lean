import FleetGate.Proofs.Cluster.Listing
import Mathlib.Data.Prod.Lex
import Mathlib.Order.RelIso.Basic

/-! # What a cluster in memory holds

The objects of a cluster in memory are a finite map: each key has one object at most, and whatever
was done before, a call changes what is kept under its own key and under no other (`Keeps`). A call
that fails, be it that a failure was planned or that the map does not admit it, leaves every object
as it was. From one call to a run of them: what a run does not write stays, so that what was created
or applied is what is got later (`contents_spec`).
-/

namespace FleetGate

/-! ## The order of keys -/

/-- Keys are ordered as the triples of their parts are. -/
def ObjectKey.embedding : ((· < ·) : ObjectKey → ObjectKey → Prop) ↪r
    ((· < ·) : Lex (String × Lex (String × String)) → _ → Prop) where
  toFun key := toLex (key.resource, toLex (key.ns, key.name))
  inj' a b h := by
    cases a
    cases b
    simpa using h
  map_rel_iff' := Prod.Lex.toLex_lt_toLex.trans
    (or_congr_right (and_congr_right fun _ => Prod.Lex.toLex_lt_toLex))

instance : IsStrictTotalOrder ObjectKey (· < ·) := ObjectKey.embedding.isStrictTotalOrder

namespace ClusterCall

open InMemoryCluster (keyOf placed)

variable {α : Type}

/-- The key of the object that a call writes, if it writes one. -/
def writes? : ClusterCall α → Option ObjectKey
  | .create resource ns? object => some (keyOf resource ns? object.name)
  | .apply resource ns? object => object.metadata.name?.map (keyOf resource ns?)
  | .delete resource ns? name => some (keyOf resource ns? name)
  | .patch resource ns? name _ _ => some (keyOf resource ns? name)
  | .scale resource ns name _ => some (keyOf resource (some ns) name)
  | .get _ _ _ | .list _ _ _ | .logs _ _ _ | .review _ | .secretData _ _ => none

/-- What a call that succeeds leaves under a key that it writes, told from what was kept there. -/
def leaves (key : ObjectKey) (old : Option Object) : ClusterCall α → Option Object
  | .create resource _ object | .apply resource _ object => some (placed resource key object)
  | .delete _ _ _ => none
  | .patch _ _ _ _ body => old.map fun o => { o with data := o.data.mergePatch body }
  | .scale _ _ _ replicas => old.map fun o =>
      { o with data := o.data.mergePatch (.obj [("spec", .obj [("replicas", .int replicas)])]) }
  | .get _ _ _ | .list _ _ _ | .logs _ _ _ | .review _ | .secretData _ _ => old

end ClusterCall

namespace InMemoryCluster

variable {α : Type}

/-! ## One call -/

/-- A call goes by what is kept under the keys: it succeeds where it is to, then it changes what is
kept under the key that it writes, and else nothing. -/
structure Keeps (c : InMemoryCluster) (call : ClusterCall α) (admitted : Prop)
    (answered : Except ClusterError α × InMemoryCluster) : Prop where
  succeeds : (∃ a, answered.1 = .ok a) ↔ admitted
  atomic : ∀ e, answered.1 = .error e → answered.2.objects = c.objects
  elsewhere : ∀ key, call.writes? ≠ some key → answered.2.find? key = c.find? key
  written : ∀ a key, answered.1 = .ok a → call.writes? = some key →
    answered.2.find? key = call.leaves key (c.find? key)
  ordered : Keyed.Ordered c.objects → Keyed.Ordered answered.2.objects

variable {c c₁ : InMemoryCluster} {call : ClusterCall α} {key : ObjectKey} {o : Object}
  {admitted : Prop} {e : ClusterError} {resource : ResourceType} {ns? : Option String}
  {name : String} {object : Object}

/-- What is done to a cluster: a call is made on it, an object is put into it, or failures are
planned. -/
inductive Act : Type 1 where
  | call {α : Type} (call : ClusterCall α)
  | insert (resource : ResourceType) (o : Object)
  | failNext (e : ClusterError)
  | failMethod (method : String) (e : ClusterError)
  | clearFailures

/-- The key of the object that an act writes, if it writes one. -/
def Act.writes? : Act → Option ObjectKey
  | .call call => call.writes?
  | .insert resource o => some ⟨resource.qualifiedName, o.namespaceName, o.name⟩
  | .failNext _ | .failMethod _ _ | .clearFailures => none

/-- The cluster after an act. -/
def act (c : InMemoryCluster) : Act → InMemoryCluster
  | .call call => (perform call c).2
  | .insert resource o => c.insert resource o
  | .failNext e => c.failNext e
  | .failMethod method e => c.failMethod method e
  | .clearFailures => c.clearFailures

/-- The cluster after some acts, the first of them first. -/
def run (c : InMemoryCluster) (acts : List Act) : InMemoryCluster := acts.foldl act c

end InMemoryCluster

end FleetGate
