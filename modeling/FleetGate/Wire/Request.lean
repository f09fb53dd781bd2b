import FleetGate.Cluster.Call
import FleetGate.Encoding.Form
import FleetGate.Impersonation
import FleetGate.Net.Target

/-!
# Requests to an API server

The HTTP request that each call on a cluster is sent as, and the headers that go with it. A call
whose path could not be written, such as one for an object without a name, is refused before
anything is sent.
-/

namespace FleetGate.Wire

/-- A request to an API server. -/
structure Request where
  method : String
  /-- The path with the query. -/
  target : String
  contentType? : Option String := none
  body? : Option Json := none
  deriving DecidableEq

/-! ## Paths -/

/-- The path of the resources of a type, in a namespace or in all of them. -/
def path (r : ResourceType) (ns? : Option String) : String :=
  let scope := match ns? with
    | some ns => "namespaces/" ++ ns ++ "/"
    | none => ""
  (if r.group.isEmpty then "/api/" else "/apis/") ++ r.apiVersion ++ "/" ++ scope ++ r.plural

/-- The namespace that a path names: none for resources without namespaces, and an empty one counts
as none. -/
def scope (r : ResourceType) (ns? : Option String) : Option String :=
  if r.namespaced then ns?.filter fun ns => !ns.isEmpty else none

/-- The path of one resource. -/
def itemPath (r : ResourceType) (ns? : Option String) (name : String) : String :=
  path r (scope r ns?) ++ "/" ++ name

/-- A query of pairs, each behind an ampersand. -/
def query (pairs : List (String × String)) : String :=
  "?" ++ (pairs.foldr (fun p rest =>
    "&" ++ Encoding.formText p.1 ++ "=" ++ Encoding.formText p.2 ++ rest) "")

/-- The pairs that have a value. -/
def present (pairs : List (String × Option String)) : List (String × String) :=
  pairs.filterMap fun p => p.2.map fun v => (p.1, v)

/-! ## Refusals -/

/-- The failure of a call that cannot be sent. -/
def unsendable (detail : String) : ClusterError := .api 0 detail

/-- Refuses an empty name. -/
def requireName (name : String) : Except ClusterError Unit :=
  if name.isEmpty then .error (unsendable "a name is required") else .ok ()

/-- Refuses a request whose target is malformed. -/
def checkTarget (r : Request) : Except ClusterError Request :=
  if Net.isTarget r.target then .ok r else .error (unsendable "the path is malformed")

/-! ## Calls -/

/-- The content type of JSON. -/
def jsonType : String := "application/json"

/-- The content type of a patch. -/
def patchType : PatchKind → String
  | .merge => "application/merge-patch+json"
  | .strategic => "application/strategic-merge-patch+json"

/-- The content type of an object that is applied. -/
def applyType : String := "application/apply-patch+yaml"

/-- Who owns the fields of an applied object. -/
def fieldManager : String := "kmcp"

/-- The most bytes of a log that are asked for. -/
def maxLogBytes : Nat := 1048576

/-- An access review as an object. Empty attributes are left out. -/
def reviewBody (q : AccessReview) : Json :=
  let attributes := [("namespace", q.ns), ("verb", q.verb), ("group", q.group),
    ("resource", q.resource), ("name", q.name), ("subresource", q.subresource)]
  let given := (attributes.filter fun a => !a.2.isEmpty).map fun a => (a.1, Json.str a.2)
  let type := ResourceType.accessReview.typeMeta
  .ofMembers [("apiVersion", .str type.apiVersion), ("kind", .str type.kind),
    ("metadata", .obj []), ("spec", .ofMembers [("resourceAttributes", .ofMembers given)])]

/-- The query of a listing. -/
def listQuery (o : ListOptions) : String :=
  query (present [("fieldSelector", ListOptions.sent o.fieldSelector?),
    ("labelSelector", ListOptions.sent o.labelSelector?),
    ("limit", some (Number.natString o.effectiveLimit)),
    ("continue", ListOptions.sent o.continue?)])

/-- The query of a log. -/
def logQuery (o : LogOptions) : String :=
  let flag (on : Bool) : Option String := if on then some "true" else none
  query (present [("container", o.container?), ("limitBytes", some (Number.natString maxLogBytes)),
    ("previous", flag o.previous), ("tailLines", o.tailLines?.map Number.intString),
    ("timestamps", flag o.timestamps)])

/-- A patch of the resource at a path. -/
def patchRequest (target type : String) (body : Json) : Request :=
  { method := "PATCH", target, contentType? := some type, body? := some body }

/-- A new resource at a path. -/
def postRequest (target : String) (body : Json) : Request :=
  { method := "POST", target, contentType? := some jsonType, body? := some body }

/-- The request that a call is sent as, its target not yet checked. -/
def plainRequest {α : Type} : ClusterCall α → Except ClusterError Request
  | .get r ns? name => do
    requireName name
    return { method := "GET", target := itemPath r ns? name }
  | .list r ns? options =>
    let ns? := if options.allNamespaces then none else scope r ns?
    return { method := "GET", target := path r ns? ++ listQuery options }
  | .create r ns? object =>
    return postRequest (path r (scope r ns?) ++ query []) object.toJson
  | .apply r ns? object =>
    match object.metadata.name? with
    | none => throw (.invalidRequest "object to apply has no metadata.name")
    | some name => do
      requireName name
      let options := query [("force", "true"), ("fieldManager", fieldManager)]
      return patchRequest (itemPath r ns? name ++ options) applyType (r.stamp object).toJson
  | .delete r ns? name => do
    requireName name
    return {
      method := "DELETE"
      target := itemPath r ns? name ++ query []
      contentType? := some jsonType
      body? := some (.obj []) }
  | .patch r ns? name kind body => do
    requireName name
    return patchRequest (itemPath r ns? name ++ query []) (patchType kind) body
  | .scale r ns name replicas => do
    if replicas < 0 then throw (.invalidRequest "replicas must not be negative")
    requireName name
    let body := Json.obj [("spec", .obj [("replicas", .int replicas)])]
    return patchRequest (itemPath r (some ns) name ++ "/scale" ++ query []) (patchType .merge) body
  | .logs ns pod options => do
    requireName pod
    return {
      method := "GET"
      target := path .pod (some ns) ++ "/" ++ pod ++ "/log" ++ logQuery options }
  | .review question =>
    return postRequest (path .accessReview none ++ query []) (reviewBody question)
  | .secretData ns name => do
    requireName name
    return { method := "GET", target := path .secret (some ns) ++ "/" ++ name }

/-- The request that a call is sent as. -/
def requestOf {α : Type} (call : ClusterCall α) : Except ClusterError Request := do
  checkTarget (← plainRequest call)

/-! ## Headers -/

/-- The headers of a request that say what it holds and whom it acts as, in order of their names. -/
def headers (settings : ClientSettings) (r : Request) : List (String × String) :=
  let content := r.contentType?.toList.map fun t => ("content-type", t)
  let user := settings.user?.toList.map fun u => ("impersonate-user", u)
  let groups := (settings.groups?.getD []).map fun g => ("impersonate-group", g)
  (content ++ settings.headers ++ user ++ groups).mergeSort fun a b => a.1 ≤ b.1

end FleetGate.Wire
