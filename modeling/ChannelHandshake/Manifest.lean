import Std.Data.HashSet
import ChannelHandshake.Side
import ChannelHandshake.Json.Printer

/-!
# Channel manifests

During a handshake each peer sends the list of its channels with their versions. A manifest in
memory may hold anything; `check` says what a receiver refuses: a name that repeats an earlier one,
and the version that stands for absence. The first offending entry is blamed, and a repeated name
before an absent version.

A manifest travels as a JSON list of `name` and `version`, alone or inside a frame whose `type`
tells the sender. `decodeList` and `decodeFrame` read the two forms, `decode` either one. What a
list does not ask for is only held to the grammar, while a frame is read as a whole with the limits
of `Json.Value.isBounded`.
-/

namespace ChannelHandshake

/-- A name with the version that a peer has of it. -/
structure Entry where
  name : String
  version : String
deriving DecidableEq, Repr

/-- The channels of a peer, in the order in which it lists them. -/
abbrev Manifest := List Entry

/-- The version that stands for a channel the peer does not have. -/
def absent : String :=
  "ABSENT 🤔"

/-- The size of the largest payload that is read. -/
def maxPayloadBytes : Nat :=
  262144

/-- The depth of brackets up to which a frame is read. -/
def maxFrameDepth : Nat :=
  127

/-- Why a payload is refused. -/
inductive DecodeError where
  /-- Not JSON, or not of the expected form. -/
  | malformed
  | tooLarge (size : Nat)
  | duplicateChannel (name : String)
  | reservedVersion (name : String)
deriving DecidableEq, Repr

/-- What the receiver is told. -/
def DecodeError.message : DecodeError → String
  | malformed => "malformed JSON or unexpected form"
  | tooLarge size => s!"manifest of {size} bytes exceeds limit of {maxPayloadBytes}"
  | duplicateChannel name => s!"channel {name} listed more than once in manifest"
  | reservedVersion name => s!"channel {name} advertised the reserved absent version"

namespace Manifest

/-- The version listed for `name`. -/
def versionOf (m : Manifest) (name : String) : Option String :=
  (m.find? (·.name = name)).map Entry.version

/-- The first entry that repeats one of the names `seen` or an earlier entry's, or that carries
the version of absence. -/
def firstOffence (seen : Std.HashSet String) : Manifest → Option DecodeError
  | [] => none
  | e :: rest =>
    if seen.contains e.name then some (.duplicateChannel e.name)
    else if e.version = absent then some (.reservedVersion e.name)
    else firstOffence (seen.insert e.name) rest

/-- The manifest itself, unless an entry offends. -/
def check (m : Manifest) : Except DecodeError Manifest :=
  match firstOffence ∅ m with
  | some e => .error e
  | none => .ok m

end Manifest

/-! ## Writing -/

/-- An entry as a JSON object. -/
def Entry.toJson (e : Entry) : Json.Value :=
  .object [(some "name", .string (some e.name)), (some "version", .string (some e.version))]

namespace Manifest

/-- A manifest as a JSON list. -/
def toJson (m : Manifest) : Json.Value :=
  .array (m.map Entry.toJson)

/-- The `type` of the frame that `sender` sends. -/
def frameType : Side → String
  | .server => "channel_list"
  | .client => "channel_list_reply"

/-- A manifest in the frame that `sender` sends. -/
def toFrameJson (sender : Side) (m : Manifest) : Json.Value :=
  .object [(some "type", .string (some (frameType sender))), (some "channels", m.toJson)]

/-- The text of the bare list. -/
def encodeList (m : Manifest) : String :=
  m.toJson.render

/-- The text of the frame that `sender` sends. -/
def encodeFrame (sender : Side) (m : Manifest) : String :=
  (m.toFrameJson sender).render

end Manifest

/-! ## Reading -/

/-- An entry as an object, which may hold other keys too, or as the list of its two fields. -/
def Entry.ofJson? : Json.Value → Option Entry
  | .object members =>
    -- keys must be texts, also those that are skipped
    if members.all (·.1.isSome) then do
      let name ← (← Json.Value.member? "name" members).text?
      let version ← (← Json.Value.member? "version" members).text?
      return { name, version }
    else none
  | .array [name, version] => do return { name := ← name.text?, version := ← version.text? }
  | _ => none

namespace Manifest

/-- A manifest as the list of its entries. -/
def ofJson? : Json.Value → Option Manifest
  | .array items => items.mapM Entry.ofJson?
  | _ => none

/-- The side that sends frames of this type. -/
def senderOf? (type : String) : Option Side :=
  [Side.server, Side.client].find? (frameType · = type)

/-- The sender and the manifest of a frame: an object with a `type` and `channels`, which may hold
other keys too, or the list of those two. -/
def ofFrameJson? : Json.Value → Option (Side × Manifest)
  | .object members => do
    let sender ← senderOf? (← (← Json.Value.member? "type" members).text?)
    return (sender, ← ofJson? (← Json.Value.member? "channels" members))
  | .array [type, channels] => do
    let sender ← senderOf? (← type.text?)
    return (sender, ← ofJson? channels)
  | _ => none

/-- The value of a payload of acceptable size. -/
def readJson (payload : List UInt8) : Except DecodeError Json.Value :=
  if maxPayloadBytes < payload.length then .error (.tooLarge payload.length)
  else
    match Json.Value.ofBytes? payload with
    | some v => .ok v
    | none => .error .malformed

/-- The manifest of a bare list. -/
def decodeList (payload : List UInt8) : Except DecodeError Manifest := do
  match ofJson? (← readJson payload) with
  | some m => m.check
  | none => .error .malformed

/-- The sender and the manifest of a frame. -/
def decodeFrame (payload : List UInt8) : Except DecodeError (Side × Manifest) := do
  let v ← readJson payload
  if v.isBounded maxFrameDepth then
    match ofFrameJson? v with
    | some (sender, m) => return (sender, ← m.check)
    | none => .error .malformed
  else .error .malformed

/-- The manifest of a payload that is a frame or, failing that, a bare list. -/
def decode (payload : List UInt8) : Except DecodeError Manifest :=
  match decodeFrame payload with
  | .ok (_, m) => .ok m
  | .error .malformed => decodeList payload
  | .error e => .error e

end Manifest

end ChannelHandshake
