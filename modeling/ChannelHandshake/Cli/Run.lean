import ChannelHandshake.Cli.Invocation
import ChannelHandshake.Cli.Output
import ChannelHandshake.Config.Setup
import ChannelHandshake.EnvironmentFile.Assignment
import ChannelHandshake.Registry.Login

/-!
# The program

A run of the program is a function of the files it sees, the environment, its arguments and its
standard input. It ends with status 0, or with 1 after a failure, a refused peer or a faulty
configuration, or with 2 if its arguments make no command. It breaks off with 101 before all that if
the variables that a file adds cannot be set.
-/

namespace ChannelHandshake.Cli

/-- What a run leaves behind. -/
structure Outcome where
  status : Nat
  output : String
  errors : String
deriving DecidableEq, Repr

/-- A run that has succeeded or not, and has printed lines. -/
def Outcome.printed (succeeded : Bool) (texts : List String) : Outcome :=
  ⟨if succeeded then 0 else 1, lines texts, ""⟩

/-- A failure, with its cause if that is told apart. -/
structure Trouble where
  text : String
  cause : Option String
deriving DecidableEq, Repr

/-- A run that has failed. -/
def Outcome.failed (t : Trouble) : Outcome :=
  ⟨1, "",
    lines (("Error: " ++ t.text) :: match t.cause with
      | some cause => ["", "Caused by:", "    " ++ cause]
      | none => [])⟩

/-- The name and the version of the program. -/
def versionLine : String :=
  "netreg 0.3.0"

/-- The commands, one in each line. -/
def helpLines : List String :=
  ["Usage: netreg [OPTIONS] <COMMAND>", "", "Commands:"] ++
    commandForms.map fun form => "  " ++ form.name

/-- A run that has come to an end in its arguments. -/
def Outcome.stopped : Stop → Outcome
  | .help => .printed true helpLines
  | .version => .printed true [versionLine]
  | .usage e => ⟨2, "", lines ["error: " ++ e.message]⟩

/-- A run that has broken off. -/
def Outcome.aborted : Outcome :=
  ⟨101, "", ""⟩

/-! ## Input -/

/-- The path that stands for the standard input. -/
def isStandardInput (path : String) : Bool :=
  match path.splitOn "/" with
  | "-" :: rest => rest.all fun part => part = "" || part = "."
  | _ => false

/-- The path at which variables are read that are not set. -/
def environmentPath : String :=
  ".env"

/-- The environment with the variables that a file adds, if they can be set. -/
def environment? (files : Files) (env : Environment) : Option Environment :=
  match files.read environmentPath with
  | .ok file => EnvironmentFile.load? env file
  | .error _ => some env

/-- The configuration that is named, or else the one that is found. -/
def configuration (files : Files) (env : Environment) (path : Option String) :
    Except Trouble Config :=
  match path with
  | none => .ok (Config.discover files env)
  | some path => (Config.load files env path).mapError fun e => ⟨e.message, none⟩

/-- The registry of a configuration. -/
def registryState (c : Config) : Except Trouble State :=
  (State.initial.configure c).mapError fun e => ⟨e.place, some e.cause.message⟩

/-- The bytes of a peer's manifest. -/
def payload (files : Files) (stdin : List UInt8) (path : String) : Except Trouble (List UInt8) :=
  if isStandardInput path then .ok stdin
  else (files.read path).mapError fun fault => ⟨"failed to read " ++ path, some fault.text⟩

/-! ## Commands -/

/-- Validates the manifest at a path. -/
def validate (files : Files) (stdin : List UInt8) (s : State) (side : Side) (path : String) :
    Except Trouble Outcome := do
  let bytes ← payload files stdin path
  let manifest ← (Manifest.decode bytes).mapError fun e => ⟨e.message, none⟩
  let report := (s.validate manifest side).1
  return .printed report.isAccepted (reportLines report)

/-- Runs a command with a configuration and its registry. -/
def perform (files : Files) (stdin : List UInt8) (c : Config) (s : State) :
    Command → Except Trouble Outcome
  | .channels => .ok (.printed true (channelLines s))
  | .manifest side list =>
    let format := if list then ManifestFormat.list else c.format
    .ok (.printed true [manifestLine s (side.getD c.side) format])
  | .validate side input => validate files stdin s (side.getD c.side) input
  | .loginPayloads direction =>
    .ok (.printed true (payloadLines direction (s.gather direction).1))
  | .checkConfig _ => .ok (.printed true [])

/-- Checks the configuration file. -/
def checkConfig (files : Files) (env : Environment) (path : Option String) (verbose : Bool) :
    Outcome :=
  let i := Config.inspect files env path
  ⟨if hasErrors i.diagnostics then 1 else 0, "", lines (inspectionLines i verbose)⟩

/-- Runs an invocation. -/
def execute (files : Files) (env : Environment) (stdin : List UInt8) (i : Invocation) : Outcome :=
  match i.command with
  | .checkConfig verbose => checkConfig files env i.config verbose
  | command =>
    let outcome : Except Trouble Outcome := do
      let c ← configuration files env i.config
      let s ← registryState c
      perform files stdin c s command
    match outcome with
    | .ok outcome => outcome
    | .error t => .failed t

/-- A run of the program. -/
def run (files : Files) (env : Environment) (arguments : List String) (stdin : List UInt8) :
    Outcome :=
  match environment? files env with
  | none => .aborted
  | some env =>
    match Invocation.parse env arguments with
    | .error stop => .stopped stop
    | .ok i => execute files env stdin i

/-! ## What a run looks at -/

/-- The paths that an invocation may read, besides that of the environment. -/
def Invocation.paths (env : Environment) (i : Invocation) : List String :=
  (match i.config with
    | some path => [path]
    | none => Config.searchPaths env) ++
    match i.command with
    | .validate _ input => [input]
    | _ => []

/-- The invocation reads the standard input. -/
def Invocation.readsInput (i : Invocation) : Bool :=
  match i.command with
  | .validate _ input => isStandardInput input
  | _ => false

end ChannelHandshake.Cli
