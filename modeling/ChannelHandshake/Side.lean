import ChannelHandshake.Json.Value

/-!
# Sides and directions

The two ends of a connection, and the phase and direction in which a packet travels. Both are read
from text in any letter case and have one canonical text; in JSON only the canonical spelling is
read, as a string or as the only key of an object whose value is null.
-/

namespace ChannelHandshake

/-- An end of a connection. -/
inductive Side where
  | client
  | server
deriving DecidableEq, Repr

namespace Side

/-- The other end. -/
def opposite : Side → Side
  | client => server
  | server => client

/-- The canonical text. -/
def text : Side → String
  | client => "client"
  | server => "server"

/-- The side with this canonical text. -/
def ofText? (text : String) : Option Side :=
  [client, server].find? (·.text = text)

/-- A text, in lower case, that names no side. -/
structure Unknown where
  text : String
deriving DecidableEq, Repr

/-- What a reader of the text is told. -/
def Unknown.message (e : Unknown) : String :=
  "unknown side: " ++ e.text

/-- The side that `text` names in any letter case. -/
def parse (text : String) : Except Unknown Side :=
  match ofText? text.toLower with
  | some side => .ok side
  | none => .error ⟨text.toLower⟩

end Side

/-- The phase of a connection and the way a packet goes. -/
inductive Direction where
  | playToServer
  | playToClient
  | loginToServer
  | loginToClient
deriving DecidableEq, Repr

namespace Direction

/-- Every direction. -/
def all : List Direction :=
  [playToServer, playToClient, loginToServer, loginToClient]

/-- The direction of an answer. -/
def reply : Direction → Direction
  | playToServer => playToClient
  | playToClient => playToServer
  | loginToServer => loginToClient
  | loginToClient => loginToServer

/-- The side that sends. -/
def origination : Direction → Side
  | playToServer | loginToServer => .client
  | playToClient | loginToClient => .server

/-- The side that receives. -/
def reception (d : Direction) : Side :=
  d.origination.opposite

/-- A direction of the login phase. -/
def isLogin : Direction → Bool
  | loginToServer | loginToClient => true
  | playToServer | playToClient => false

/-- The canonical text. -/
def text : Direction → String
  | playToServer => "play-to-server"
  | playToClient => "play-to-client"
  | loginToServer => "login-to-server"
  | loginToClient => "login-to-client"

/-- The name in JSON: the canonical text with underscores. -/
def jsonName : Direction → String
  | playToServer => "play_to_server"
  | playToClient => "play_to_client"
  | loginToServer => "login_to_server"
  | loginToClient => "login_to_client"

/-- A text that names no direction. -/
structure Unknown where
  text : String
deriving DecidableEq, Repr

/-- What a reader of the text is told. -/
def Unknown.message (e : Unknown) : String :=
  "unknown network direction: " ++ e.text

/-- The direction that `text` names, in any letter case and with hyphens or underscores. -/
def parse (text : String) : Except Unknown Direction :=
  let normal := String.ofList (text.toList.map fun c => if c = '_' then '-' else c.toLower)
  match all.find? (·.text = normal) with
  | some direction => .ok direction
  | none => .error ⟨text⟩

end Direction

/-- The side that a JSON value names. -/
def Side.ofJson? (v : Json.Value) : Option Side :=
  v.choice?.bind Side.ofText?

/-- The direction that a JSON value names. -/
def Direction.ofJson? (v : Json.Value) : Option Direction :=
  v.choice?.bind fun name => Direction.all.find? (·.jsonName = name)

end ChannelHandshake
