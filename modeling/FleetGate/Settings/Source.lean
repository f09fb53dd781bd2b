import FleetGate.Settings.Decode
import FleetGate.Settings.Environment
import FleetGate.Toml.Reader

/-!
# Sources of settings

Where settings come from: the defaults, a file, the environment. Sources are read in ascending
order of precedence, those of equal precedence in the order given, and each is laid over those
before it. The first that cannot be read decides the error.
-/

namespace FleetGate

/-- What stands at the path of a settings file. -/
inductive FileContent where
  | missing
  /-- Something that cannot be read, such as a directory. -/
  | unreadable
  | bytes (content : List UInt8)
  deriving DecidableEq

/-- The levels that sources lie on. -/
inductive SourceLevel where
  | defaults
  | configFile
  | environment
  deriving DecidableEq, Repr

/-- A source of settings. -/
structure Source where
  name : String
  level : SourceLevel
  /-- What the source says, or why it cannot be read. -/
  layer : Except SettingsError Layer

namespace Source

/-- The precedence of a source. One of higher precedence is laid over one of lower precedence. -/
def precedence (s : Source) : Nat :=
  match s.level with
  | .defaults => 10
  | .configFile => 20
  | .environment => 50

/-- The layer of a file. A file that is not there says nothing. -/
def fileLayer : FileContent → Except SettingsError Layer
  | .missing => .ok {}
  | .unreadable => .error .unreadableFile
  | .bytes content =>
    match String.fromUTF8? ⟨content.toArray⟩ with
    | none => .error .unreadableFile
    | some text =>
      match Toml.parse? text with
      | none => .error .malformedFile
      | some document => (Layer.ofJson .toml document).mapError fun _ => .malformedFile

/-- The defaults. They say nothing, since whatever stays open is filled with them. -/
def defaults : Source where
  name := "defaults"
  level := .defaults
  layer := .ok {}

/-- A settings file. -/
def file (content : FileContent) : Source where
  name := "toml-config"
  level := .configFile
  layer := fileLayer content

/-- The environment. -/
def environment (env : Environment) : Source where
  name := "environment"
  level := .environment
  layer := env.layer

/-- Sources by ascending precedence, those of equal precedence as given. -/
def inOrder (sources : List Source) : List Source :=
  sources.mergeSort fun a b => a.precedence ≤ b.precedence

/-- The layers of sources laid over each other, the last one on top. -/
def stacked (sources : List Source) : Except SettingsError Layer :=
  sources.foldlM (fun lower s => s.layer.map fun upper => upper.onto lower) {}

end Source

namespace Settings

/-- The settings that sources lead to. -/
def load (sources : List Source) : Except SettingsError Settings := do
  (← Source.stacked (Source.inOrder sources)).resolve

/-- The settings of a process: its file over the defaults, its environment over both. -/
def ofProcess (file : FileContent) (env : Environment) : Except SettingsError Settings :=
  load [.defaults, .file file, .environment env]

end Settings

end FleetGate
