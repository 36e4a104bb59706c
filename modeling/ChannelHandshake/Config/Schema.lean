import ChannelHandshake.Side
import ChannelHandshake.Text.Hex

/-!
# The configuration

What a configuration says, with the defaults of what it leaves out: the side it is written for, the
form in which manifests are printed, labels for metrics, and the channels with their policies and
login payloads.
-/

namespace ChannelHandshake

/-- How a manifest is printed. -/
inductive ManifestFormat where
  | frame
  | list
deriving DecidableEq, Repr

/-- Which versions of a peer a channel accepts. -/
structure AcceptPolicy where
  /-- The accepted versions; none stands for the channel's own version. -/
  versions : List String
  /-- Accept a peer without the channel. -/
  allowAbsent : Bool
  /-- Accept every peer. -/
  any : Bool
deriving DecidableEq, Repr

/-- How the data of a login payload is written. -/
inductive PayloadEncoding where
  | utf8
  | hex
deriving DecidableEq, Repr

/-- A login payload of a configured channel. -/
structure PayloadConfig where
  data : String
  encoding : PayloadEncoding
  context : Option String
deriving DecidableEq, Repr

/-- A configured channel. -/
structure ChannelConfig where
  name : String
  version : String
  client : AcceptPolicy
  server : AcceptPolicy
  loginPayloads : List PayloadConfig
deriving DecidableEq, Repr

/-- Whether metrics are wanted, and the labels that each of them gets. -/
structure MetricsConfig where
  enabled : Bool
  labels : List (String × String)
deriving DecidableEq, Repr

/-- A configuration. -/
structure Config where
  side : Side
  format : ManifestFormat
  metrics : MetricsConfig
  channels : List ChannelConfig
deriving DecidableEq, Repr

/-- The name of a format in a configuration. -/
def ManifestFormat.text : ManifestFormat → String
  | frame => "frame"
  | list => "list"

/-- The name of an encoding in a configuration. -/
def PayloadEncoding.text : PayloadEncoding → String
  | utf8 => "utf8"
  | hex => "hex"

/-- Accepts the channel's own version. -/
def AcceptPolicy.default : AcceptPolicy :=
  ⟨[], false, false⟩

/-- No metrics. -/
def MetricsConfig.default : MetricsConfig :=
  ⟨false, []⟩

/-- The configuration that says nothing. -/
def Config.default : Config :=
  ⟨.server, .frame, .default, []⟩

/-- The versions a policy accepts for a channel of version `own`. -/
def AcceptPolicy.acceptedVersions (p : AcceptPolicy) (own : String) : List String :=
  if p.versions.isEmpty then [own] else p.versions

/-- Data that does not denote bytes. -/
inductive PayloadError where
  | invalidHex
deriving DecidableEq, Repr

/-- What the reader is told. -/
def PayloadError.message : PayloadError → String
  | invalidHex => "invalid hex payload"

/-- The bytes of a payload. -/
def PayloadConfig.decode (p : PayloadConfig) : Except PayloadError (List UInt8) :=
  match p.encoding with
  | .utf8 => .ok p.data.toUTF8.toList
  | .hex =>
    match Hex.decode? p.data.toList with
    | some bytes => .ok bytes
    | none => .error .invalidHex

end ChannelHandshake
