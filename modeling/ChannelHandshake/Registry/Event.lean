import ChannelHandshake.Registry.Channel

/-!
# The log

An event of the log is data: what happened, and to which channels. Its level, its message and its
fields are functions of that.
-/

namespace ChannelHandshake

/-- How much an event matters. -/
inductive Level where
  | error | warn | info | debug | trace
deriving DecidableEq, Repr

/-- The name of a level. -/
def Level.text : Level → String
  | error => "ERROR"
  | warn => "WARN"
  | info => "INFO"
  | debug => "DEBUG"
  | trace => "TRACE"

/-- The value of a field. -/
inductive FieldValue where
  | text (value : String)
  | count (value : Nat)
deriving DecidableEq, Repr

/-- What is logged. -/
inductive Event where
  /-- A channel was registered, as one of `total`. -/
  | registered (channel : ChannelName) (total : Nat)
  /-- A registration found its name taken. -/
  | conflict (channel : ChannelName)
  /-- A supplier returned the version of absence. -/
  | suppliedAbsent (channel : ChannelName)
  /-- A manifest of so many entries was built. -/
  | manifestBuilt (entries : Nat)
  /-- A peer's entry has a name that is none. -/
  | unreadable (name : String) (error : ChannelName.Invalid)
  /-- A channel tested the version of the side `origin`. -/
  | tested (channel : ChannelName) (version : String) (origin : Side) (passed : Bool)
  /-- The side `origin` listed channels more than once. -/
  | duplicated (channels : List ChannelName) (origin : Side)
  /-- The list of the side `origin` was accepted. -/
  | accepted (origin : Side)
  /-- Channels refused the version of the side `origin`. -/
  | rejected (channels : List ChannelName) (origin : Side)
  /-- Payloads were asked for in a direction that has none. -/
  | gatherSkipped (direction : Direction)
  /-- A gatherer failed. -/
  | gathererFailed (channel : ChannelName) (failure : Failure)
  /-- A gatherer panicked. -/
  | gathererPanicked (channel : ChannelName)
  /-- So many payloads were gathered while so many gatherers failed. -/
  | gathered (payloads failures : Nat)
deriving DecidableEq

namespace Event

/-- How much the event matters. -/
def level : Event → Level
  | registered .. => .info
  | conflict .. | duplicated .. | rejected .. => .error
  | suppliedAbsent .. | gathererFailed .. | gathererPanicked .. => .warn
  | manifestBuilt .. | unreadable .. | tested .. | accepted .. | gathered .. => .debug
  | gatherSkipped .. => .trace

/-- The sentence that is logged. -/
def message : Event → String
  | registered .. => "registered network channel"
  | conflict .. => "network channel already registered"
  | suppliedAbsent .. => "version supplier returned the reserved absent sentinel"
  | manifestBuilt .. => "built channel manifest"
  | unreadable .. => "ignoring unparseable remote channel"
  | tested .. => "channel version test"
  | duplicated .. => "remote listed channels more than once"
  | accepted .. => "accepting channel list"
  | rejected .. => "channels rejected their remote version"
  | gatherSkipped .. => "login payloads are only gathered for login-to-client"
  | gathererFailed .. => "login payload gatherer failed"
  | gathererPanicked .. => "login payload gatherer panicked"
  | gathered .. => "gathered login payloads"

/-- Names in one field, with commas between them. -/
def nameList (names : List ChannelName) : FieldValue :=
  .text (Text.joined "," (names.map ChannelName.text))

/-- The fields that are logged with the sentence. -/
def fields : Event → List (String × FieldValue)
  | registered channel total => [("channel", .text channel.text), ("total", .count total)]
  | conflict channel | suppliedAbsent channel | gathererPanicked channel =>
    [("channel", .text channel.text)]
  | manifestBuilt entries => [("channels", .count entries)]
  | unreadable name error => [("name", .text name), ("error", .text error.message)]
  | tested channel version origin passed =>
    [("channel", .text channel.text), ("version", .text version), ("from", .text origin.text),
      ("result", .text (if passed then "ACCEPTED" else "REJECTED"))]
  | duplicated channels origin | rejected channels origin =>
    [("channels", nameList channels), ("from", .text origin.text)]
  | accepted origin => [("from", .text origin.text)]
  | gatherSkipped direction => [("direction", .text direction.text)]
  | gathererFailed channel failure =>
    [("channel", .text channel.text), ("error", .text failure.text)]
  | gathered payloads failures =>
    [("payloads", .count payloads), ("failed_gatherers", .count failures)]

end Event

end ChannelHandshake
