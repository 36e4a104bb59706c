import ChannelHandshake.Cli.Arguments
import ChannelHandshake.Environment
import ChannelHandshake.Side

/-!
# Invocations

The commands of the program, and how one is read from its arguments. The options for the log and
the configuration file may stand before or behind the name of a command, and once in both places;
then the place behind it counts. The configuration file can also be named by a variable.
-/

namespace ChannelHandshake.Cli

/-- A command with its arguments. -/
inductive Command where
  | channels
  /-- As which side the manifest is sent, and whether it is printed as a bare list. -/
  | manifest (side : Option Side) (list : Bool)
  /-- Which side validates, and the path of the peer's manifest. -/
  | validate (side : Option Side) (input : String)
  | loginPayloads (direction : Direction)
  /-- Whether remarks are shown too. -/
  | checkConfig (verbose : Bool)
deriving DecidableEq, Repr

/-- What the program is asked to do. -/
structure Invocation where
  /-- The configuration file, if one is named. -/
  config : Option String
  command : Command
deriving DecidableEq, Repr

/-- The variable that may name the configuration file. -/
def configVariable : String :=
  "NETREG_CONFIG"

/-- A flag. -/
def flag (name : String) : OptionSpec :=
  ⟨name, none⟩

/-- An option that takes the values `accepts`. -/
def valued (name : String) (accepts : String → Bool) : OptionSpec :=
  ⟨name, some accepts⟩

/-- A path, which is not empty. -/
def isPath (text : String) : Bool :=
  text ≠ ""

/-- The side of an option, if it is given. -/
def sideOf (g : Given) : Option Side :=
  (g.value? "as").bind fun text => (Side.parse text).toOption

/-- The option for a side. -/
def sideOption : OptionSpec :=
  valued "as" fun text => (Side.parse text).toOption.isSome

/-- The options of every command. -/
def globalOptions : List OptionSpec :=
  [valued "log-level" fun _ => true, flag "json-logs", valued "config" isPath]

/-- How a command is given. -/
structure CommandForm where
  name : String
  options : List OptionSpec
  operands : List (String → Bool)
  /-- The command that complete arguments ask for. -/
  command? : Given → Option Command

/-- The forms of all commands. -/
def commandForms : List CommandForm :=
  [{ name := "channels", options := [], operands := [], command? := fun _ => some .channels },
    { name := "manifest", options := [sideOption, flag "list"], operands := [],
      command? := fun g => some (.manifest (sideOf g) (g.has "list")) },
    { name := "validate", options := [sideOption], operands := [isPath],
      command? := fun g => g.operands.head?.map (.validate (sideOf g)) },
    { name := "login-payloads",
      options := [valued "direction" fun text => (Direction.parse text).toOption.isSome],
      operands := [],
      command? := fun g =>
        match g.value? "direction" with
        | some text => (Direction.parse text).toOption.map .loginPayloads
        | none => some (.loginPayloads .loginToClient) },
    { name := "check-config", options := [flag "verbose"], operands := [],
      command? := fun g => some (.checkConfig (g.has "verbose")) }]

/-- What may come before the name of a command. -/
def programGrammar : Grammar where
  options := globalOptions
  operands := []
  commands := commandForms.map CommandForm.name ++ ["help"]
  versioned := true

/-- What may come behind the name of a command. -/
def CommandForm.grammar (form : CommandForm) : Grammar where
  options := globalOptions ++ form.options
  operands := form.operands
  commands := []
  versioned := false

/-- The configuration file that is named behind the command or before it, or else by the variable,
which must not be empty unless both of these places name one. -/
def configOf (env : Environment) (before behind : Given) : Except Stop (Option String) :=
  let named := (behind.value? "config").or (before.value? "config")
  match env.value configVariable with
  | none => .ok named
  | some path =>
    -- the variable is read where the arguments of a place do not name a file
    if isPath path || (before.has "config" && behind.has "config") then .ok (named.or (some path))
    else .error (.usage (.invalidValue configVariable path))

/-- The answer to a request for help about a command. -/
def helpAbout : List String → Stop
  | [] => .help
  | [name] =>
    if programGrammar.commands.contains name then .help
    else .usage (.unexpectedArgument name)
  | _ :: name :: _ => .usage (.unexpectedArgument name)

/-- Reads the arguments of the program. -/
def Invocation.parse (env : Environment) (arguments : List String) : Except Stop Invocation := do
  let before ← programGrammar.read arguments
  match before.command with
  | none => throw (.usage .missingArgument)
  | some (name, rest) =>
    match commandForms.find? (·.name = name) with
    | none => throw (helpAbout rest)
    | some form =>
      let behind ← form.grammar.read rest
      let config ← configOf env before behind
      match form.command? behind with
      | none => throw (.usage .missingArgument)
      | some command => return { config, command }

end ChannelHandshake.Cli
