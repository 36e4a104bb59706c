import ChannelHandshake.Text.Split

/-!
# Reading arguments

The arguments behind a command's name are flags, options with a value, and operands. A value stands
in the argument of its option, behind an equals sign, or is the next argument unless that looks like
an option. Every flag and option may be given once. Two hyphens alone end the options.
-/

namespace ChannelHandshake.Cli

/-- A flag or an option, by its name without the hyphens. -/
structure OptionSpec where
  name : String
  /-- The values that it takes; none for a flag. -/
  accepts : Option (String → Bool)

/-- What may follow the name of a command. -/
structure Grammar where
  options : List OptionSpec
  /-- The values that each of the operands takes. -/
  operands : List (String → Bool)
  /-- The names of the commands that may come instead of an operand and end the arguments. -/
  commands : List String
  /-- The version can be asked for. -/
  versioned : Bool

/-- What arguments say. -/
structure Given where
  /-- The flags and options with their values; that of a flag is empty. -/
  options : List (String × String)
  operands : List String
  /-- A command and the arguments behind it. -/
  command : Option (String × List String)

/-- The value of an option, if it was given. -/
def Given.value? (g : Given) (name : String) : Option String :=
  g.options.lookup name

/-- A flag was given. -/
def Given.has (g : Given) (name : String) : Bool :=
  (g.value? name).isSome

/-- What is wrong with arguments. -/
inductive UsageError where
  | unknownOption (argument : String)
  | unexpectedValue (option : String)
  | missingValue (option : String)
  | invalidValue (option value : String)
  | repeatedOption (option : String)
  | unexpectedArgument (argument : String)
  | missingArgument
deriving DecidableEq, Repr

/-- What the user is told. -/
def UsageError.message : UsageError → String
  | unknownOption argument => "unknown option " ++ argument
  | unexpectedValue option => "--" ++ option ++ " takes no value"
  | missingValue option => "--" ++ option ++ " needs a value"
  | invalidValue option value => "invalid value for " ++ option ++ ": " ++ value
  | repeatedOption option => "--" ++ option ++ " is given more than once"
  | unexpectedArgument argument => "unexpected argument " ++ argument
  | missingArgument => "an argument is missing"

/-- Why the arguments were not read to their end. -/
inductive Stop where
  | help
  | version
  | usage (error : UsageError)
deriving DecidableEq, Repr

/-- An argument that is taken for an option: one that begins with a hyphen and goes on. -/
def looksLikeOption (argument : String) : Bool :=
  argument.startsWith "-" && argument ≠ "-"

/-- The name of a long option and its value, if that is behind an equals sign. -/
def splitLong (argument : String) : String × Option String :=
  let text := (argument.drop 2).toString
  match Text.splitAtFirst '=' text.toList with
  | some (name, value) => (String.ofList name, some (String.ofList value))
  | none => (text, none)

namespace Given

/-- Nothing given. -/
def nothing : Given :=
  ⟨[], [], none⟩

/-- With one more flag or option. -/
def add (g : Given) (spec : OptionSpec) (value : String) : Except Stop Given :=
  if g.has spec.name then .error (.usage (.repeatedOption spec.name))
  else if spec.accepts.all (· value) then
    .ok { g with options := g.options ++ [(spec.name, value)] }
  else .error (.usage (.invalidValue spec.name value))

/-- With one more operand. -/
def addOperand (g : Given) (grammar : Grammar) (argument : String) : Except Stop Given :=
  match grammar.operands[g.operands.length]? with
  | none => .error (.usage (.unexpectedArgument argument))
  | some accepts =>
    if accepts argument then .ok { g with operands := g.operands ++ [argument] }
    else .error (.usage (.invalidValue "an argument" argument))

end Given

namespace Grammar

/-- What a long option does by itself: it has its value in the same argument, or is a flag and has
none. -/
def long (grammar : Grammar) (g : Given) (name : String) (value : Option String) :
    Except Stop Given :=
  match grammar.options.find? (·.name = name), value with
  | some spec, some v =>
    if spec.accepts.isSome then g.add spec v else .error (.usage (.unexpectedValue name))
  | some spec, none =>
    if spec.accepts.isSome then .error (.usage (.missingValue name)) else g.add spec ""
  | none, none =>
    if name = "help" then .error .help
    else if name = "version" ∧ grammar.versioned then .error .version
    else .error (.usage (.unknownOption name))
  | none, some _ => .error (.usage (.unknownOption name))

/-- A long option that takes its value from the next argument. -/
def awaitsValue (grammar : Grammar) (argument : String) : Option OptionSpec :=
  if argument.startsWith "--" then
    let (name, value) := splitLong argument
    if value.isSome then none
    else grammar.options.find? fun spec => spec.name = name && spec.accepts.isSome
  else none

/-- What an argument that looks like an option does. -/
def option (grammar : Grammar) (g : Given) (argument : String) : Except Stop Given :=
  if argument.startsWith "--" then
    let (name, value) := splitLong argument
    grammar.long g name value
  else if argument.startsWith "-h" then .error .help
  else if argument.startsWith "-V" ∧ grammar.versioned then .error .version
  else .error (.usage (.unknownOption argument))

/-- Reads arguments after those in `g`; `ended` if two hyphens have ended the options. -/
def readAfter (grammar : Grammar) : Bool → List String → Given → Except Stop Given
  | _, [], g => .ok g
  | true, argument :: rest, g => do
    readAfter grammar true rest (← g.addOperand grammar argument)
  | false, argument :: rest, g =>
    if grammar.commands.contains argument then .ok { g with command := some (argument, rest) }
    else if argument = "--" then readAfter grammar true rest g
    else if looksLikeOption argument then
      match grammar.awaitsValue argument with
      | none => do readAfter grammar false rest (← grammar.option g argument)
      | some spec =>
        match rest with
        | [] => .error (.usage (.missingValue spec.name))
        | value :: rest =>
          -- an option does not take another one for its value
          if looksLikeOption value then .error (.usage (.missingValue spec.name))
          else do readAfter grammar false rest (← g.add spec value)
    else do readAfter grammar false rest (← g.addOperand grammar argument)

/-- What arguments say. -/
def read (grammar : Grammar) (arguments : List String) : Except Stop Given :=
  readAfter grammar false arguments .nothing

end Grammar

end ChannelHandshake.Cli
