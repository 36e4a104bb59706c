import ChannelHandshake.ChannelName
import ChannelHandshake.Config.Schema
import ChannelHandshake.Manifest

/-!
# Checking a configuration

`Config.lint` lists what is wrong or doubtful about a configuration, channel by channel in the order
of the file. Only an invalid or repeated name makes a configuration unusable; everything else is
found out in a handshake or a login, and so is said here first.
-/

namespace ChannelHandshake

/-- How bad a finding is. -/
inductive Severity where
  | error
  | warning
  | info
deriving DecidableEq, Repr

/-- The name of a severity. -/
def Severity.text : Severity → String
  | error => "error"
  | warning => "warning"
  | info => "info"

/-- What a finding is about. -/
inductive Category where
  | name
  | duplicate
  | version
  | reserved
  | policy
  | side
  | payload
  | file
  | grammar
deriving DecidableEq, Repr

/-- The name of a category. -/
def Category.text : Category → String
  | name => "name"
  | duplicate => "duplicate"
  | version => "version"
  | reserved => "reserved"
  | policy => "policy"
  | side => "side"
  | payload => "payload"
  | file => "file-ref"
  | grammar => "syntax"

/-- A finding. -/
structure Diagnostic where
  severity : Severity
  category : Category
  /-- The place in the configuration; empty for the file as a whole. -/
  path : String
  message : String
deriving DecidableEq, Repr

/-- Some finding is an error. -/
def hasErrors (diagnostics : List Diagnostic) : Bool :=
  diagnostics.any (·.severity == .error)

/-- How many findings have this severity. -/
def countSeverity (severity : Severity) (diagnostics : List Diagnostic) : Nat :=
  diagnostics.countP (·.severity == severity)

namespace Config

/-- The place of a channel. -/
def channelPath (i : Nat) : String :=
  "channels[" ++ toString i ++ "]"

/-- The name of a channel, if it is one. -/
def nameOf? (c : ChannelConfig) : Option ChannelName :=
  (ChannelName.parse c.name).toOption

/-- Findings about the name of a channel, where `before` are the names of the channels before it,
with none for a name that is invalid. -/
def lintName (before : List (Option ChannelName)) (c : ChannelConfig) (place : String) :
    List Diagnostic :=
  -- an invalid name is never a repetition
  match ChannelName.parse c.name with
  | .error e => [⟨.error, .name, place ++ ".name", e.message⟩]
  | .ok name =>
    match before.idxOf? (some name) with
    | some first =>
      [⟨.error, .duplicate, place ++ ".name",
        "channel " ++ name.text ++ " is already declared at " ++ channelPath first⟩]
    | none => []

/-- Findings about the version of a channel. -/
def lintVersion (c : ChannelConfig) (place : String) : List Diagnostic :=
  if c.version = "" then
    [⟨.error, .version, place ++ ".version", "version must not be empty"⟩]
  else if c.version = absent then
    [⟨.error, .reserved, place ++ ".version", "version is the reserved absent sentinel"⟩]
  else []

/-- Findings about a policy. -/
def lintPolicy (p : AcceptPolicy) (place : String) : List Diagnostic :=
  (if absent ∈ p.versions then
    [⟨.warning, .reserved, place ++ ".versions",
      "the absent sentinel is matched through allow_absent, not versions"⟩] else []) ++
  (if "" ∈ p.versions then
    [⟨.warning, .policy, place ++ ".versions", "empty version strings are never advertised"⟩]
    else []) ++
  if p.any && (p.allowAbsent || !p.versions.isEmpty) then
    [⟨.info, .policy, place, "`any` overrides versions and allow_absent"⟩]
  else []

/-- The finding about a payload, if its data denotes no bytes. -/
def lintPayload (p : PayloadConfig) (place : String) : List Diagnostic :=
  match p.decode with
  | .ok _ => []
  | .error e => [⟨.error, .payload, place ++ ".data", e.message⟩]

/-- Findings about the login payloads of a channel. -/
def lintPayloads (side : Side) (c : ChannelConfig) (place : String) : List Diagnostic :=
  (if !c.loginPayloads.isEmpty && side == .client then
    [⟨.warning, .side, place ++ ".login_payloads",
      "login payloads are only sent by the server"⟩]
    else []) ++
  (c.loginPayloads.zipIdx.flatMap fun (p, j) =>
    lintPayload p (place ++ ".login_payloads[" ++ toString j ++ "]"))

/-- Findings about a channel that comes after channels with the names `before`. -/
def lintChannel (side : Side) (before : List (Option ChannelName)) (c : ChannelConfig) :
    List Diagnostic :=
  let place := channelPath before.length
  lintName before c place ++ lintVersion c place ++ lintPolicy c.client (place ++ ".client")
    ++ lintPolicy c.server (place ++ ".server") ++ lintPayloads side c place

/-- Findings about each of `channels`, which come after channels with the names `before`. -/
def lintChannels (side : Side) (before : List (Option ChannelName)) :
    List ChannelConfig → List Diagnostic
  | [] => []
  | c :: rest => lintChannel side before c ++ lintChannels side (before ++ [nameOf? c]) rest

/-- What is wrong or doubtful about a configuration. -/
def lint (c : Config) : List Diagnostic :=
  if c.channels.isEmpty then
    [⟨.info, .name, "channels", "no channels configured; only vanilla peers will be accepted"⟩]
  else lintChannels c.side [] c.channels

end Config

end ChannelHandshake
