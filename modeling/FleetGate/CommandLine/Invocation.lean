import FleetGate.Identity.Basic
import FleetGate.Settings.Environment

/-!
# Command lines

What the words of a command line ask for. A word that starts with a hyphen is an option unless it
follows a lone `--`; the value of an option stands behind an equals sign or is the next word, which
must then not look like an option. Of the options only `--group` may be given more than once.
-/

namespace FleetGate

/-- How a tool is to be called. -/
structure CallOptions where
  tool : String
  /-- The arguments of the tool, as JSON text. -/
  args : String := "\x7b\x7d"
  email? : Option String := none
  groups : List String := []
  subject? : Option String := none
  /-- The path of the settings file. -/
  config? : Option String := none
  deriving DecidableEq, Repr

/-- What a command line asks for. -/
inductive Invocation where
  | help
  /-- The name of the program with its version. -/
  | version
  /-- The version and the platform. -/
  | versionDetails
  | call (options : CallOptions)
  deriving DecidableEq, Repr

namespace CallOptions

/-- The variable that stands in for a missing email. -/
def emailVariable : String := "KMCP_EMAIL"

/-- Who calls. Without an email the caller is nobody. -/
def identity? (o : CallOptions) : Option RawIdentity :=
  (o.email?.filter fun e => !e.isEmpty).map fun email =>
    { subjectId := o.subject?.getD "", email, groups := o.groups }

end CallOptions

namespace CommandLine

/-- A word of a command line. -/
inductive Word where
  /-- A lone `--`, behind which no word is an option. -/
  | escape
  | long (name : String) (value? : Option String)
  | short (letters : List Char)
  | plain (text : String)
  deriving DecidableEq, Repr

/-- The kind of a word. A lone hyphen is plain. -/
def Word.of (s : String) : Word :=
  match s.toList with
  | ['-', '-'] => .escape
  | '-' :: '-' :: rest =>
    match Text.splitOnce? ['='] rest with
    | some (name, value) => .long (String.ofList name) (some (String.ofList value))
    | none => .long (String.ofList rest) none
  | '-' :: c :: rest => .short (c :: rest)
  | _ => .plain s

/-- The options of a call that take a value. -/
inductive Setting where
  | args
  | email
  | group
  | subject
  | config
  deriving DecidableEq, Repr

/-- The option of a name. -/
def Setting.ofName? : String → Option Setting
  | "args" => some .args
  | "email" => some .email
  | "group" => some .group
  | "subject" => some .subject
  | "config" => some .config
  | _ => none

/-- What was read of a call so far. -/
structure Draft where
  tool? : Option String := none
  args? : Option String := none
  email? : Option String := none
  groups : List String := []
  subject? : Option String := none
  config? : Option String := none
  deriving DecidableEq, Repr

namespace Draft

/-- A value for something that must not have one yet. -/
def fresh (old? : Option String) (value : String) : Option (Option String) :=
  if old?.isSome then none else some (some value)

/-- Takes the value of an option. A path must not be empty. -/
def take (p : Draft) (value : String) : Setting → Option Draft
  | .args => do return { p with args? := ← fresh p.args? value }
  | .email => do return { p with email? := ← fresh p.email? value }
  | .group => some { p with groups := p.groups ++ [value] }
  | .subject => do return { p with subject? := ← fresh p.subject? value }
  | .config => do
    if value.isEmpty then none
    return { p with config? := ← fresh p.config? value }

/-- Takes the name of the tool. -/
def takeTool (p : Draft) (name : String) : Option Draft := do
  return { p with tool? := ← fresh p.tool? name }

/-- The call, if its tool is named. -/
def finish (p : Draft) (env : Environment) : Option Invocation := do
  let tool ← p.tool?
  return .call {
    tool
    args := p.args?.getD "\x7b\x7d"
    email? := p.email?.or (Keyed.get? CallOptions.emailVariable env)
    groups := p.groups
    subject? := p.subject?
    config? := p.config? }

end Draft

/-- Reads the words of a call. `pending?` is an option that waits for its value. -/
def parseCall (env : Environment) (pending? : Option Setting) (p : Draft) :
    List String → Option Invocation
  | [] => if pending?.isSome then none else p.finish env
  | s :: rest =>
    match pending?, Word.of s with
    | some setting, .plain text => do parseCall env none (← p.take text setting) rest
    | some _, _ => none
    | none, .plain text => do parseCall env none (← p.takeTool text) rest
    | none, .escape => do (← rest.foldlM takeTool p).finish env
    | none, .long "help" none => some .help
    | none, .long name (some value) => do
      parseCall env none (← p.take value (← Setting.ofName? name)) rest
    | none, .long name none => do parseCall env (some (← Setting.ofName? name)) p rest
    | none, .short ('h' :: _) => some .help
    | none, .short _ => none
where
  /-- Takes a word as the name of the tool. -/
  takeTool (p : Draft) (name : String) : Option Draft := p.takeTool name

/-- Reads the words behind `version`, of which none but a wish for help is known. -/
def parseVersion : List String → Option Invocation
  | [] => some .versionDetails
  | s :: rest =>
    match Word.of s with
    | .long "help" none | .short ('h' :: _) => some .help
    | .escape => if rest.isEmpty then some .versionDetails else none
    | _ => none

/-- Reads the words behind `help`: at most the name of a command. -/
def parseHelp : List String → Option Invocation
  | [] | ["version"] | ["call"] | ["help"] => some .help
  | _ => none

/-- What a command line asks for; none if it cannot be understood. -/
def parse (env : Environment) : List String → Option Invocation
  | [] => none
  | s :: rest =>
    match Word.of s with
    | .long "version" none | .short ('V' :: _) => some .version
    | .long "help" none | .short ('h' :: _) => some .help
    | .plain "version" => parseVersion rest
    | .plain "call" => parseCall env none {} rest
    | .plain "help" => parseHelp rest
    | _ => none

end CommandLine

end FleetGate
