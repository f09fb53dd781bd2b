import FleetGate.Tools.CanI
import FleetGate.Tools.Clusters
import FleetGate.Tools.Definition

/-!
# Calling a tool

From the name of a tool and its arguments to the text that the caller gets. Everything that can
happen ends in a text, and whether it is an error is said beside it.
-/

namespace FleetGate

/-- What a caller gets. -/
structure ToolResult where
  isError : Bool
  text : String
  deriving DecidableEq, Repr

/-- The result of an answer or of a failure. An answer is written with one member to a line. -/
def ToolResult.of : Except ToolError Json → ToolResult
  | .ok answer => ⟨false, answer.pretty⟩
  | .error e => ⟨true, e.text⟩

namespace Tool

variable {σ : Type}

/-- The work of a tool. -/
def invoke (b : Backend σ) (r : Request) (args : Json) : Tool → ToolM σ Json
  | .canI => CanI.invoke b r args
  | .clusterHealth => ClusterTool.health b r args
  | .getCluster => ClusterTool.get b r args
  | .listClusters => ClusterTool.list b r args
  | .resolveCluster => ClusterTool.resolve b r args

/-- Calls a tool by its name. A request that was cancelled before does nothing. -/
def dispatch (b : Backend σ) (name : String) (args : Json) (r : Request) (server : Server σ) :
    ToolResult × Server σ :=
  match ofName? name with
  | none => (⟨true, "unknown tool: " ++ name⟩, server)
  | some tool =>
    if r.cancelled then (⟨true, "request cancelled"⟩, server)
    else
      let (outcome, server) := (tool.invoke b r args).run server
      (.of outcome, server)

end Tool

end FleetGate
