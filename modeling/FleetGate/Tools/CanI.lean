import FleetGate.Tools.Basic

/-!
# The permission check

Tells a caller whether the caller may do something on a cluster. The cluster itself is asked, under
the caller's identity. A fault of the request is told in full; of any other failure the caller
learns only that the check failed.
-/

namespace FleetGate.CanI

/-- The arguments of the check. -/
structure Args where
  verb? : Option String := none
  resource? : Option String := none
  apiGroup? : Option String := none
  ns? : Option String := none
  name? : Option String := none
  subresource? : Option String := none
  cluster? : Option String := none
  deriving DecidableEq, Repr, Inhabited

/-- Stores an argument. -/
def Args.set (key : String) (v : Json) (a : Args) : Json.Decoded Args := do
  let text? ← Json.decodeOption Json.decodeString v
  match key with
  | "verb" => return { a with verb? := text? }
  | "resource" => return { a with resource? := text? }
  | "apiGroup" => return { a with apiGroup? := text? }
  | "namespace" => return { a with ns? := text? }
  | "name" => return { a with name? := text? }
  | "subresource" => return { a with subresource? := text? }
  | _ => return { a with cluster? := text? }

/-- Reads the arguments. -/
def Args.ofJson : Json → Json.Decoded Args :=
  Json.decodeRecord "struct CanIArgs"
    ["verb", "resource", "apiGroup", "namespace", "name", "subresource", "cluster"] Args.set {}

/-- How the management cluster is named in an answer. -/
def managementName : String := "local"

/-- A failed check in words for the caller. -/
def inWords (e : FleetError) : ToolError :=
  if e.isValidation then .invalidArguments ("invalid request: " ++ e.userFacing)
  else .rejected "failed to check permissions - please try again"

/-- Writes the answer. -/
def answer (user cluster : String) (check : AccessCheck) (verdict : AccessVerdict) : Json :=
  let reason := verdict.displayReason
  .ofMembers (
    [("allowed", Json.bool verdict.allowed)] ++
    (if verdict.denied then [("denied", Json.bool true)] else []) ++
    (if reason.isEmpty then [] else [("reason", Json.str reason)]) ++
    [("user", .str user), ("cluster", .str (if cluster.isEmpty then managementName else cluster)),
      ("check", check.toJson)])

variable {σ : Type}

/-- Answers a request for a permission check. -/
def invoke (b : Backend σ) (r : Request) (args : Json) : ToolM σ Json := do
  let args ← ToolM.arguments Args.ofJson args
  let verb ← ToolM.required args.verb? "verb is required"
  let resource ← ToolM.required args.resource? "resource is required"
  let f ← ToolM.federation
    (.rejected "permission checks require federation mode to be enabled")
  let raw ← ToolM.sender r (.rejected "authentication required: no user info in context")
  let check : AccessCheck := {
    verb, resource
    apiGroup := args.apiGroup?.getD ""
    ns := args.ns?.getD ""
    name := args.name?.getD ""
    subresource := args.subresource?.getD "" }
  let cluster := args.cluster?.getD ""
  let verdict ← ToolM.onFederation inWords f (Federation.checkAccess b cluster (some raw) check)
  return answer raw.email cluster check verdict

end FleetGate.CanI
