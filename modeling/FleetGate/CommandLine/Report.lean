import FleetGate.CommandLine.Invocation
import FleetGate.Json.Reader
import FleetGate.Settings.Source
import FleetGate.Tools.Dispatch

/-!
# Answering a command line

What the program prints and how it exits. A call loads the settings, reads the arguments, makes a
federation unless that is switched off, and runs the tool; the first of these that fails ends the
program. The result of a tool is printed whether or not it is an error.
-/

namespace FleetGate

/-- What the program prints and how it exits. -/
structure Report where
  exitCode : Nat := 0
  output : String := ""
  /-- The first line about a failure. -/
  error? : Option String := none
  deriving DecidableEq, Repr

namespace Report

/-- The program fails before a tool was run. -/
def failed (reason : String) : Report :=
  { exitCode := 1, error? := some ("Error: " ++ reason) }

/-- The program prints the result of a tool. -/
def ofResult (r : ToolResult) : Report :=
  { exitCode := if r.isError then 1 else 0, output := r.text ++ "\n" }

end Report

namespace CommandLine

/-- The name of the program. -/
def programName : String := "kmcp-server"

/-- The version of the program. -/
def programVersion : String := "0.1.0"

/-- The platform that the program is made for. -/
def platform : String := "linux-x86_64"

/-- How the program is used. -/
def usage : String :=
  "Multi-cluster Kubernetes tools for agents\n\nUsage: " ++ programName ++ " <COMMAND>\n\n" ++
    "Commands:\n  version  Show version and build information\n" ++
    "  call     Invoke a single tool and print its result\n"

/-- Where the settings file is looked for. -/
def defaultConfigPath : String := "/etc/kmcp/server.toml"

/-- The path of the settings file of a call. -/
def configPath (o : CallOptions) : String := o.config?.getD defaultConfigPath

/-- Reads the arguments of the tool. -/
def toolArguments (o : CallOptions) : Except String Json :=
  match Json.parse? o.args with
  | none => .error "--args must be valid JSON"
  | some args => if args.isObject then .ok args else .error "--args must be a JSON object"

/-- What a call finds when it is run. -/
structure Surroundings (σ : Type) where
  env : Environment
  /-- What stands at the path of the settings file. -/
  file : FileContent
  now : Time.Timestamp
  /-- How clusters are reached, if they are, with or without a client of the service's own. -/
  backend? : Bool → Option (Backend σ)
  world : σ

variable {σ : Type}

/-- Runs the tool of a call on a server. -/
def runOn (b : Backend σ) (federation? : Option (Federation σ)) (around : Surroundings σ)
    (o : CallOptions) (settings : Settings) (args : Json) : ToolResult :=
  let request : Request := { identity? := o.identity?, now := around.now }
  (Tool.dispatch b o.tool args request { federation?, output := settings.output }).1

/-- Runs the tool of a call, over a federation if the settings ask for one. -/
def runWith (around : Surroundings σ) (o : CallOptions) (settings : Settings) (args : Json) :
    Except String ToolResult :=
  let f := settings.federation
  if f.enabled then
    match around.backend? (f.credentialMode = .privileged) with
    | some b =>
      let federation := Federation.start f.credentialMode f.cacheConfig around.world
      .ok (runOn b (some federation) around o settings args)
    | none => .error "failed to initialize the Kubernetes client factory"
  else .ok (runOn .none none around o settings args)

/-- Runs the tool of a call. -/
def runTool (around : Surroundings σ) (o : CallOptions) : Except String ToolResult := do
  let settings ← (Settings.ofProcess around.file around.env).mapError fun _ =>
    "failed to load configuration"
  runWith around o settings (← toolArguments o)

/-- Answers a call. -/
def runCall (around : Surroundings σ) (o : CallOptions) : Report :=
  match runTool around o with
  | .ok result => .ofResult result
  | .error reason => .failed reason

/-- Answers a command line, if it could be understood. -/
def report (around : Surroundings σ) : Option Invocation → Report
  | none => { exitCode := 2 }
  | some .help => { output := usage }
  | some .version => { output := programName ++ " " ++ programVersion ++ "\n" }
  | some .versionDetails =>
    { output := programName ++ " version: " ++ programVersion ++ "\nPlatform:            " ++
        platform ++ "\n" }
  | some (.call o) => runCall around o

end CommandLine

end FleetGate
