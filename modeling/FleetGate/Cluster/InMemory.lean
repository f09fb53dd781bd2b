import FleetGate.Cluster.Call
import FleetGate.Cluster.Matching
import FleetGate.Cluster.MergePatch

/-!
# A cluster in memory

A cluster that holds its objects in memory, for trying things out without an API server. Objects
are kept under resource, namespace and name, in that order; the namespace of a resource without
namespaces is empty. Failures can be planned: for the very next call, or for all calls of a kind.

`InMemoryCluster.perform` answers any call. A call that fails leaves the objects as they were.
-/

namespace FleetGate

/-- Where an object is kept. -/
structure ObjectKey where
  /-- The plural of the resource with its group. -/
  resource : String
  ns : String
  name : String
  deriving DecidableEq, Repr

/-- Resource first, then namespace, then name. -/
instance : LT ObjectKey where
  lt a b := a.resource < b.resource ∨
    (a.resource = b.resource ∧ (a.ns < b.ns ∨ (a.ns = b.ns ∧ a.name < b.name)))

instance : DecidableLT ObjectKey := fun a b =>
  inferInstanceAs (Decidable (a.resource < b.resource ∨
    (a.resource = b.resource ∧ (a.ns < b.ns ∨ (a.ns = b.ns ∧ a.name < b.name)))))

/-- A cluster in memory. -/
structure InMemoryCluster where
  objects : List (ObjectKey × Object) := []
  /-- Secrets as read by namespace and name, apart from the objects. -/
  secrets : List ((String × String) × SecretData) := []
  /-- Logs by namespace and pod. -/
  podLogs : List ((String × String) × String) := []
  /-- Resources whose listing fails as if they were not installed. -/
  missing : List String := []
  verdict : AccessVerdict := {}
  /-- Access reviews received, latest last. -/
  reviews : List AccessReview := []
  /-- Failures of the next calls, in order. -/
  nextFailures : List ClusterError := []
  /-- Failures of all calls of a kind. -/
  failures : List (String × ClusterError) := []
  /-- How many calls of each kind were made. -/
  calls : List (String × Nat) := []
  deriving Inhabited

namespace InMemoryCluster

/-- The namespace under which objects of a resource are kept. -/
def namespaceOf (resource : ResourceType) (ns? : Option String) : String :=
  if resource.namespaced then ns?.getD "" else ""

/-- The key of an object that a call names. -/
def keyOf (resource : ResourceType) (ns? : Option String) (name : String) : ObjectKey :=
  ⟨resource.qualifiedName, namespaceOf resource ns?, name⟩

/-- The object under a key. -/
def find? (c : InMemoryCluster) (key : ObjectKey) : Option Object :=
  Keyed.get? key c.objects

/-- The cluster with an object put under a key. -/
def store (c : InMemoryCluster) (key : ObjectKey) (o : Object) : InMemoryCluster :=
  { c with objects := Keyed.put key o c.objects }

/-! ## Setting up -/

/-- Puts an object under the namespace and name that it states itself. -/
def insert (c : InMemoryCluster) (resource : ResourceType) (o : Object) : InMemoryCluster :=
  c.store ⟨resource.qualifiedName, o.namespaceName, o.name⟩ o

/-- Puts an object of the given name and data. -/
def add (c : InMemoryCluster) (resource : ResourceType) (ns name : String) (data : Json) :
    InMemoryCluster :=
  c.insert resource {
    types? := some resource.typeMeta
    metadata := { name? := some name, ns? := if resource.namespaced then some ns else none }
    data }

/-- Sets a secret. -/
def addSecret (c : InMemoryCluster) (ns name : String) (data : SecretData) : InMemoryCluster :=
  { c with secrets := ((ns, name), data) :: Keyed.erase (ns, name) c.secrets }

/-- Sets the log of a pod. -/
def setLog (c : InMemoryCluster) (ns pod text : String) : InMemoryCluster :=
  { c with podLogs := ((ns, pod), text) :: Keyed.erase (ns, pod) c.podLogs }

/-- Plans a failure for the call after those already planned for. -/
def failNext (c : InMemoryCluster) (e : ClusterError) : InMemoryCluster :=
  { c with nextFailures := c.nextFailures ++ [e] }

/-- Plans a failure for all calls of a kind. -/
def failMethod (c : InMemoryCluster) (method : String) (e : ClusterError) : InMemoryCluster :=
  { c with failures := Keyed.put method e c.failures }

/-- Forgets every planned failure. -/
def clearFailures (c : InMemoryCluster) : InMemoryCluster :=
  { c with nextFailures := [], failures := [] }

/-- How many calls of a kind were made. -/
def callCount (c : InMemoryCluster) (method : String) : Nat :=
  (Keyed.get? method c.calls).getD 0

/-! ## Calls -/

/-- Counts a call and tells the failure planned for it. A failure of the next call is used up. -/
def record (c : InMemoryCluster) (method : String) : Option ClusterError × InMemoryCluster :=
  let c := { c with calls := Keyed.count method c.calls }
  match c.nextFailures with
  | e :: rest => (some e, { c with nextFailures := rest })
  | [] => (Keyed.get? method c.failures, c)

/-- The failure of a call on an object that is not there. -/
def absent (resource : ResourceType) (name : String) : ClusterError :=
  .notFound resource.kind name

/-- The objects that a listing is about, in order of their keys. -/
def selected (c : InMemoryCluster) (resource : ResourceType) (ns? : Option String)
    (options : ListOptions) : List Object :=
  let scope :=
    if options.allNamespaces || !resource.namespaced then none
    else ns?.filter fun ns => !ns.isEmpty
  let stored := c.objects.filter fun p =>
    p.1.resource = resource.qualifiedName && scope.all fun ns => ns = p.1.ns
  (stored.map (·.2)).filter fun o =>
    options.fieldSelector?.all o.matchesFields && options.labelSelector?.all o.matchesLabels

/-- The position that a continue token states; a token that is no number starts over. -/
def offset (options : ListOptions) : Nat :=
  (options.continue?.bind fun t => Number.natUpTo? Number.maxUnsigned64 t.toList).getD 0

/-- The page of a listing. Positions wrap at the range of 64 bits, and a page that would end before
it starts is empty. -/
def pageOf (resource : ResourceType) (options : ListOptions) (all : List Object) : Page :=
  let start := offset options
  let stop : Nat := min ((start + options.effectiveLimit) % (Number.maxUnsigned64 + 1)) all.length
  let left : Nat := all.length - stop
  { items := ((all.take stop).drop start).map resource.stamp
    continue? := if 0 < left then some (Number.natString stop) else none
    resourceVersion? := some "1"
    remaining? := if 0 < left then some left else none }

/-- An object as it is stored: in the namespace of its key, if its resource has namespaces. -/
def placed (resource : ResourceType) (key : ObjectKey) (o : Object) : Object :=
  if resource.namespaced then { o with metadata := { o.metadata with ns? := some key.ns } } else o

/-- Changes the data of an object that must be there. -/
def patchData (c : InMemoryCluster) (resource : ResourceType) (key : ObjectKey) (body : Json) :
    Except ClusterError Object × InMemoryCluster :=
  match c.find? key with
  | none => (.error (absent resource key.name), c)
  | some o =>
    let patched := { o with data := o.data.mergePatch body }
    (.ok patched, c.store key patched)

/-- The last lines of a log. -/
def tail (text : String) (lines : Nat) : String :=
  let all := Text.lines text.toList
  String.ofList (Text.joinWith ['\n'] (all.drop (all.length - lines)))

/-- Answers a call for which no failure is planned. -/
def answer {α : Type} : ClusterCall α → Attempt InMemoryCluster α
  | .get resource ns? name => fun c =>
    match c.find? (keyOf resource ns? name) with
    | some o => (.ok o, c)
    | none => (.error (absent resource name), c)
  | .list resource ns? options => fun c =>
    if resource.qualifiedName ∈ c.missing then (.error (.notInstalled resource.qualifiedName), c)
    else (.ok (pageOf resource options (c.selected resource ns? options)), c)
  | .create resource ns? object => fun c =>
    let key := keyOf resource ns? object.name
    match c.find? key with
    | some _ =>
      let detail := resource.plural ++ " \"" ++ object.name ++ "\" already exists"
      (.error (.api 409 detail), c)
    | none =>
      let object := placed resource key object
      (.ok object, c.store key object)
  | .apply resource ns? object => fun c =>
    match object.metadata.name? with
    | none => (.error (.invalidRequest "object to apply has no metadata.name"), c)
    | some name =>
      let key := keyOf resource ns? name
      let object := placed resource key object
      (.ok object, c.store key object)
  | .delete resource ns? name => fun c =>
    let key := keyOf resource ns? name
    match c.find? key with
    | some _ => (.ok (), { c with objects := Keyed.erase key c.objects })
    | none => (.error (absent resource name), c)
  | .patch resource ns? name _ body => fun c =>
    c.patchData resource (keyOf resource ns? name) body
  | .scale resource ns name replicas => fun c =>
    let body := Json.obj [("spec", .obj [("replicas", .int replicas)])]
    let (result, c) := c.patchData resource (keyOf resource (some ns) name) body
    (result.map fun _ => (), c)
  | .logs ns pod options => fun c =>
    match Keyed.get? (ns, pod) c.podLogs with
    | none => (.error (.notFound "Pod" pod), c)
    | some text =>
      match options.tailLines? with
      | some n => (.ok (if 0 ≤ n then tail text n.toNat else text), c)
      | none => (.ok text, c)
  | .review question => fun c =>
    (.ok c.verdict, { c with reviews := c.reviews ++ [question] })
  | .secretData ns name => fun c =>
    match Keyed.get? (ns, name) c.secrets with
    | some data => (.ok data, c)
    | none => (.error (.notFound "Secret" name), c)

/-- Answers a call. -/
def perform {α : Type} (call : ClusterCall α) : Attempt InMemoryCluster α := fun c =>
  match c.record call.method with
  | (some e, c) => (.error e, c)
  | (none, c) => answer call c

end InMemoryCluster

end FleetGate
