import FleetGate.Fleet.Encode
import FleetGate.Shaping.Pipeline
import FleetGate.Tools.Basic

/-!
# Tools on the fleet

Listing the clusters, looking one up, finding one by a part of its name and judging its health. All
of them only read, and all of them first ask whether there is a federation and a caller.

Every failure goes through `ClusterTool.inWords`, which leaves a few constant sentences.
-/

namespace FleetGate.ClusterTool

/-! ## Failures -/

/-- What a caller is told when there is nothing to serve the request. -/
def notAvailable : ToolError := .rejected "this operation is not available"

/-- What a caller is told who is not known. -/
def authenticationRequired : ToolError := .rejected "authentication required"

/-- The failure of an operation in words for the caller. -/
def inWords (operation : String) (e : FleetError) : ToolError :=
  match e with
  | .clusterNotFound _ _ | .discovery _ | .accessDenied _ _ _ _ _
  | .identity (.invalidClusterName _) => .rejected e.userFacing
  | .userRequired | .identity _ => authenticationRequired
  | .closed => .rejected "service temporarily unavailable"
  | .clusterApiMissing => notAvailable
  | .invalidSelector _ => .rejected "invalid label selector"
  | _ => .rejected ("failed to " ++ operation ++ ": an unexpected error occurred")

/-! ## Arguments -/

/-- Reads the arguments of a tool that takes one text. -/
def decodeText (expected field : String) : Json → Json.Decoded (Option String) :=
  Json.decodeRecord expected [field]
    (fun _ v _ => Json.decodeOption Json.decodeString v) none

namespace ListLimit

/-- How many clusters are shown when no number is asked for. -/
def default : Nat := 100

/-- The most clusters that are ever shown; who asks for more gets so many. -/
def ceiling : Nat := 500

/-- The limit for a wish of at least one. -/
def ofPositive (n : Nat) : Nat := min (max n 1) ceiling

/-- Reads a wish. A number that is not positive counts as none, and of a fraction the whole part
counts, but at least one. -/
def decode : Json → Json.Decoded Nat
  | .null => .ok default
  | .int n => .ok (if 0 < n then ofPositive n.toNat else default)
  | .float x => .ok (if 0 < x then ofPositive x.toUInt64.toNat else default)
  | v => .error (.wrongType v "f64")

end ListLimit

/-- The arguments of a listing. -/
structure ListArgs where
  filter : ClusterFilter := {}
  limit : Nat := ListLimit.default
  deriving DecidableEq, Repr, Inhabited

namespace ListArgs

/-- A text argument; a missing one is empty. -/
def decodeText (v : Json) : Json.Decoded String := do
  return (← Json.decodeOption Json.decodeString v).getD ""

/-- Stores an argument. -/
def set (key : String) (v : Json) (a : ListArgs) : Json.Decoded ListArgs := do
  match key with
  | "organization" => return { a with filter := { a.filter with ns := ← decodeText v } }
  | "provider" =>
    return { a with filter := { a.filter with provider := Text.lowercase (← decodeText v) } }
  | "status" => return { a with filter := { a.filter with status := ← decodeText v } }
  | "readyOnly" =>
    let ready? ← Json.decodeOption Json.decodeBool v
    return { a with filter := { a.filter with readyOnly := ready?.getD false } }
  | "labelSelector" => return { a with filter := { a.filter with labelSelector := ← decodeText v } }
  | _ => return { a with limit := ← ListLimit.decode v }

/-- Reads the arguments. -/
def ofJson : Json → Json.Decoded ListArgs :=
  Json.decodeRecord "struct ListClustersArgs"
    ["organization", "provider", "status", "readyOnly", "labelSelector", "limit"] set {}

end ListArgs

/-! ## Answers -/

/-- The answer of a listing. -/
def listAnswer (now : Time.Timestamp) (args : ListArgs) (found : List ClusterSummary) : Json :=
  let shown := found.take args.limit
  .ofMembers [
    ("clusters", .arr (shown.map fun c => c.rowJson now)),
    ("totalCount", .int found.length),
    ("returnedCount", .int shown.length),
    ("truncated", .bool (args.limit < found.length)),
    ("filterApplied", .bool !args.filter.isEmpty)]

/-- The answer to a part of a name. -/
def resolveAnswer (now : Time.Timestamp) (pattern : String) (found : Resolution) : Json :=
  let quoted := "'" ++ pattern ++ "'"
  match found.resolved?, found.candidates with
  | _, [] =>
    .ofMembers [("resolved", .bool false),
      ("message", .str ("No clusters match pattern " ++ quoted ++
        ". Use capi_list_clusters to see available clusters."))]
  | some c, [_] =>
    .ofMembers [("resolved", .bool true), ("cluster", c.rowJson now),
      ("message", .str ("Pattern " ++ quoted ++ " resolved to cluster '" ++ c.name ++
        "' in namespace '" ++ c.ns ++ "'."))]
  | _, candidates =>
    .ofMembers [("resolved", .bool false),
      ("matches", .arr (candidates.map fun c => c.rowJson now)),
      ("message", .str ("Multiple clusters match pattern " ++ quoted ++
        ". Please use a more specific name."))]

/-- The annotations that remain after shaping, so that bulky ones are not shown. -/
def shapedAnnotations (output : OutputConfig) (annotations : List (String × String)) :
    List (String × String) :=
  if annotations.isEmpty then []
  else
    let whole := Json.obj [("metadata", .obj [("annotations", Json.ofTexts annotations)])]
    match (Shaping.processSingle output whole).at? ["metadata", "annotations"] with
    | some (.obj ms) => ms.filterMap fun m => m.2.string?.map fun text => (m.1, text)
    | _ => []

/-- The full view of a cluster, its annotations shaped. -/
def detailAnswer (now : Time.Timestamp) (output : OutputConfig) (c : ClusterSummary) : Json :=
  c.detailJson (shapedAnnotations output c.annotations) now

/-! ## The tools -/

variable {σ : Type}

/-- The federation and the caller, asked for in this order. -/
def ready (r : Request) : ToolM σ (Federation σ × RawIdentity) := do
  let f ← ToolM.federation notAvailable
  let raw ← ToolM.sender r authenticationRequired
  return (f, raw)

/-- Lists the clusters. -/
def list (b : Backend σ) (r : Request) (args : Json) : ToolM σ Json := do
  let (f, raw) ← ready r
  let args ← ToolM.arguments ListArgs.ofJson args
  let found ← ToolM.onFederation (inWords "list clusters") f
    (Federation.clusters b (some raw) args.filter)
  return listAnswer r.now args found

/-- Shows one cluster. -/
def get (b : Backend σ) (r : Request) (args : Json) : ToolM σ Json := do
  let (f, raw) ← ready r
  let name? ← ToolM.arguments (decodeText "struct GetClusterArgs" "name") args
  let name ← ToolM.required name? "name parameter is required"
  let c ← ToolM.onFederation (inWords "get cluster") f (Federation.cluster b name (some raw))
  return detailAnswer r.now (← MonadState.get).output c

/-- Finds a cluster by a part of its name. -/
def resolve (b : Backend σ) (r : Request) (args : Json) : ToolM σ Json := do
  let (f, raw) ← ready r
  let pattern? ← ToolM.arguments (decodeText "struct ResolveClusterArgs" "pattern") args
  let pattern ← ToolM.required pattern? "pattern parameter is required"
  let all ← ToolM.onFederation (inWords "resolve cluster") f
    (Federation.clusters b (some raw) {})
  return resolveAnswer r.now pattern (resolveName all pattern)

/-- Judges the health of a cluster. -/
def health (b : Backend σ) (r : Request) (args : Json) : ToolM σ Json := do
  let (f, raw) ← ready r
  let name? ← ToolM.arguments (decodeText "struct ClusterHealthArgs" "name") args
  let name ← ToolM.required name? "name parameter is required"
  let c ← ToolM.onFederation (inWords "check cluster health") f
    (Federation.cluster b name (some raw))
  return (Health.assess c).toJson

end FleetGate.ClusterTool
