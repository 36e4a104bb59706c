import ChannelHandshake.Config.Lint
import ChannelHandshake.Registry.State

/-!
# The registry of a configuration

Each configured channel is registered with a constant version, the tests of its two policies and,
if it has login payloads, one gatherer that pushes them in the order of the file and fails at the
first one whose data denotes no bytes.
-/

namespace ChannelHandshake

/-- The test of a policy for a channel of version `own`. -/
def AcceptPolicy.test (p : AcceptPolicy) (own : String) : VersionTest :=
  if p.any then .any
  else if p.allowAbsent then
    fun v => VersionTest.isAbsent v || VersionTest.oneOf (p.acceptedVersions own) v
  else .oneOf (p.acceptedVersions own)

/-- The act that delivers a payload on behalf of the channel `name`. -/
def PayloadConfig.act (p : PayloadConfig) (name : ChannelName) : LoginAct :=
  match p.decode with
  | .ok data =>
    .push fun sink =>
      { channel := sink.channel, data, context := p.context.getD sink.channel.text }
  | .error e => .fail (.inContext ("login payload for " ++ name.text) e.message)

/-- What a configured channel is registered with, under the name `name`. -/
def ChannelConfig.registration (c : ChannelConfig) (name : ChannelName) : Registration where
  name := name
  supplier := .constant c.version
  client := c.client.test c.version
  server := c.server.test c.version
  gatherers :=
    if c.loginPayloads.isEmpty then [] else [.always (c.loginPayloads.map (·.act name))]

/-- The channel of a configuration that could not be registered, and why. -/
structure SetupError where
  index : Nat
  /-- The name as it is configured. -/
  name : String
  cause : RegisterError
deriving DecidableEq

/-- The place and the name of the channel, as the user is told. -/
def SetupError.place (e : SetupError) : String :=
  Config.channelPath e.index ++ " (" ++ e.name ++ ")"

namespace State

/-- Registers a configured channel. -/
def configureChannel (s : State) (c : ChannelConfig) : Except RegisterError State :=
  match ChannelName.parse c.name with
  | .error e => .error (.invalidName e)
  | .ok name =>
    match s.register (c.registration name) with
    | (.ok (), s) => .ok s
    | (.error e, _) => .error e

/-- Registers configured channels, the first of which is number `index`. -/
def configureFrom (s : State) (index : Nat) : List ChannelConfig → Except SetupError State
  | [] => .ok s
  | c :: rest =>
    match s.configureChannel c with
    | .ok s => configureFrom s (index + 1) rest
    | .error cause => .error ⟨index, c.name, cause⟩

/-- Registers the channels of a configuration. -/
def configure (s : State) (c : Config) : Except SetupError State :=
  s.configureFrom 0 c.channels

end State

end ChannelHandshake
