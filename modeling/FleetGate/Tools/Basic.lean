import FleetGate.Fleet.Federation
import FleetGate.Json.Writer
import FleetGate.Shaping.Config

/-!
# Serving tools

What every tool works with: the server it runs on, the request it answers and the ways in which it
may fail. A tool's failure is shown to the caller as it is, so each text of one is made for callers
and none is taken from a cluster.
-/

namespace FleetGate

/-- Why a tool gave no answer, in words for the caller. -/
inductive ToolError where
  | invalidArguments (text : String)
  | rejected (text : String)
  deriving DecidableEq, Repr

/-- The words for the caller. -/
def ToolError.text : ToolError → String
  | .invalidArguments text | .rejected text => text

/-- What a server keeps between requests. One without a federation serves no tool. -/
structure Server (σ : Type) where
  federation? : Option (Federation σ)
  output : OutputConfig := .default

/-- What is known of a request beside its arguments. -/
structure Request where
  identity? : Option RawIdentity := none
  cancelled : Bool := false
  /-- When the request is served. -/
  now : Time.Timestamp

/-- The work of a tool on a server. -/
abbrev ToolM (σ : Type) := ExceptT ToolError (StateM (Server σ))

namespace ToolM

variable {σ : Type}

/-- The federation of the server. -/
def federation (absent : ToolError) : ToolM σ (Federation σ) := do
  match (← get).federation? with
  | some f => pure f
  | none => throw absent

/-- Who sent a request. -/
def sender (r : Request) (absent : ToolError) : ToolM σ RawIdentity :=
  match r.identity? with
  | some raw => pure raw
  | none => throw absent

/-- Works on the federation, a failure being put into words for the caller. -/
def onFederation {α : Type} (inWords : FleetError → ToolError) (f : Federation σ)
    (work : FederationM σ α) : ToolM σ α := do
  let (outcome, f) := work.run f
  modify fun server => { server with federation? := some f }
  match outcome with
  | .ok a => pure a
  | .error e => throw (inWords e)

/-- Reads the arguments of a tool; `null` stands for no arguments. -/
def arguments {α : Type} (decode : Json → Json.Decoded α) (args : Json) : ToolM σ α :=
  match decode (if args.isNull then .obj [] else args) with
  | .ok a => pure a
  | .error e => throw (.invalidArguments ("invalid arguments: " ++ e.message))

/-- An argument that must not be missing or empty. -/
def required (text? : Option String) (otherwise : String) : ToolM σ String :=
  match text?.filter fun s => !s.isEmpty with
  | some s => pure s
  | none => throw (.invalidArguments otherwise)

end ToolM

end FleetGate
