import ChannelHandshake.Config.Lint
import ChannelHandshake.Config.Placeholder
import ChannelHandshake.Environment
import ChannelHandshake.Files
import ChannelHandshake.Text.Utf8
import ChannelHandshake.Toml.Document
import ChannelHandshake.Yaml.Document

/-!
# Loading a configuration

A configuration is read from a file whose extension tells its format, after the placeholders in its
text are replaced by environment variables. Where no file is named, the first one that is found in
the current directory or in the user's configuration directory counts; if there is none, or it
cannot be loaded, the configuration says nothing.
-/

namespace ChannelHandshake

/-- A format of configuration files. -/
inductive ConfigFormat where
  | toml
  | yaml
  | json
deriving DecidableEq, Repr

namespace ConfigFormat

/-- The extensions of configuration files, in the order in which files are looked for. -/
def extensions : List (String × ConfigFormat) :=
  [("toml", toml), ("yaml", yaml), ("yml", yaml), ("json", json)]

/-- The configuration that a text of this format holds. -/
def read? : ConfigFormat → String → Option Config
  | toml, text => (Toml.document? text).bind Document.config?
  | yaml, text => (Yaml.document? text).bind Document.config?
  | json, text => (Json.Value.ofString? text).bind Document.config?

end ConfigFormat

/-- Why a configuration was not loaded. -/
inductive LoadError where
  | unreadable (path : String) (fault : FileFault)
  /-- The text is not of the format, or does not fit the schema. -/
  | malformed
  | unsupportedFormat (extension : String)
deriving DecidableEq, Repr

/-- What the user is told. -/
def LoadError.message : LoadError → String
  | unreadable path fault => "failed to read " ++ path ++ ": " ++ fault.text
  | malformed => "malformed configuration"
  | unsupportedFormat extension => "unsupported config format: ." ++ extension

/-- The text of a file. -/
def Files.readText (files : Files) (path : String) : Except FileFault String := do
  match Utf8.text? (← files.read path) with
  | some text => return text
  | none => throw .notUtf8

namespace Config

/-- The configuration in a text that was read from `path`. A path without an extension is taken for
one of the first format. -/
def parse (env : Environment) (path text : String) : Except LoadError Config :=
  let extension := (extension? path).getD "toml"
  match ConfigFormat.extensions.lookup extension with
  | none => .error (.unsupportedFormat extension)
  | some format =>
    match format.read? (Placeholder.substitute env.value text) with
    | some config => .ok config
    | none => .error .malformed

/-- The configuration in a file. -/
def load (files : Files) (env : Environment) (path : String) : Except LoadError Config :=
  match files.readText path with
  | .ok text => parse env path text
  | .error fault => .error (.unreadable path fault)

/-! ## Discovery -/

/-- The user's configuration directory, which is the variable for it if that is an absolute path. -/
def userDirectory? (env : Environment) : Option String :=
  match (env.value "XDG_CONFIG_HOME").filter (·.startsWith "/") with
  | some path => some (pathIn path "netreg")
  | none => ((env.value "HOME").filter (· ≠ "")).map (pathIn · ".config/netreg")

/-- The paths at which a configuration is looked for, in order. -/
def searchPaths (env : Environment) : List String :=
  ("." :: (userDirectory? env).toList).flatMap fun directory =>
    ConfigFormat.extensions.map fun (extension, _) => pathIn directory ("netreg." ++ extension)

/-- The first of the search paths that exists. -/
def find? (files : Files) (env : Environment) : Option String :=
  (searchPaths env).find? files.present

/-- The configuration that is found, or else the one that says nothing. -/
def discover (files : Files) (env : Environment) : Config :=
  match find? files env with
  | none => .default
  | some path =>
    match load files env path with
    | .ok config => config
    | .error _ => .default

/-! ## Inspection -/

/-- Findings about a configuration file, or about having none. -/
structure Inspection where
  path : Option String
  diagnostics : List Diagnostic

/-- The findings about the file at `path`. -/
def inspectFile (files : Files) (env : Environment) (path : String) : List Diagnostic :=
  match load files env path with
  | .ok config => config.lint
  | .error (.unreadable _ fault) =>
    [⟨.error, .file, "", "failed to read config file: " ++ fault.text⟩]
  | .error e => [⟨.error, .grammar, "", "parse error: " ++ e.message⟩]

/-- The findings about the file at `path`, or else about the one that is found. -/
def inspect (files : Files) (env : Environment) (path : Option String) : Inspection :=
  match path.or (find? files env) with
  | some path => ⟨some path, inspectFile files env path⟩
  | none => ⟨none, [⟨.info, .file, "", "no config file found; using defaults"⟩]⟩

end Config

end ChannelHandshake
