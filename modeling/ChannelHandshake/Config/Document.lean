import ChannelHandshake.Config.Schema

/-!
# Reading a configuration from a document

The schema is the same for every format of documents. A format presents its values through the
class `Document`: as text, as a flag, as one of several choices, as items, as a record. A record
names its fields, or lists their values in the order of the schema.

A name that the schema does not know, or that occurs twice, is refused; so is a value of the wrong
shape. Only labels may repeat, and then the last one holds.
-/

namespace ChannelHandshake

/-- A value that is to be read as a record. -/
inductive RecordForm (ν : Type) where
  /-- Values by name. -/
  | named (fields : List (String × ν))
  /-- Values in the order of the schema; `closed` if more values than fields are an error. -/
  | listed (values : List ν) (closed : Bool)

/-- The shapes in which a format presents its values. -/
class Document (ν : Type) where
  text? : ν → Option String
  flag? : ν → Option Bool
  /-- A text that may be left out: `some none` where the format says that there is none. -/
  optionalText? : ν → Option (Option String)
  /-- The name of a choice without data. -/
  choice? : ν → Option String
  items? : ν → Option (List ν)
  record? : ν → Option (RecordForm ν)
  /-- Values under free names, in the order of the document. -/
  entries? : ν → Option (List (String × ν))

namespace Document

variable {ν α : Type}

/-- The values of the fields `names`, in that order, with `none` for a field that is left out. -/
def recordFields? (names : List String) : RecordForm ν → Option (List (Option ν))
  | .named fields =>
    let given := fields.map Prod.fst
    if given.all (names.contains ·) && given.eraseDups.length == given.length then
      some (names.map fun name => fields.lookup name)
    else none
  | .listed values closed =>
    if closed && names.length < values.length then none
    else some ((List.range names.length).map (values[·]?))

/-- The value of a field that must be there. -/
def required (read : ν → Option α) (field : Option ν) : Option α :=
  field.bind read

/-- The value of a field that may be left out. -/
def optional (otherwise : α) (read : ν → Option α) : Option ν → Option α
  | none => some otherwise
  | some v => read v

variable [Document ν]

/-- The fields `names` of a value that is a record. -/
def fields? (names : List String) (v : ν) : Option (List (Option ν)) :=
  (record? v).bind (recordFields? names)

/-- The items of a value, each read by `read`. -/
def list? (read : ν → Option α) (v : ν) : Option (List α) :=
  (items? v).bind (·.mapM read)

/-- One of the values `all` that are called by `name`. -/
def oneOf? (all : List α) (name : α → String) (v : ν) : Option α :=
  (choice? v).bind fun text => all.find? (name · == text)

/-- The labels with one more; a label of the same name gives way. -/
def putLabel (labels : List (String × String)) (label : String × String) :
    List (String × String) :=
  labels.filter (·.1 ≠ label.1) ++ [label]

/-- Texts under free names. -/
def labels? (v : ν) : Option (List (String × String)) := do
  let entries ← entries? v
  let labels ← entries.mapM fun (key, value) => (text? value).map (key, ·)
  return labels.foldl putLabel []

/-- The side of a configuration. -/
def side? : ν → Option Side :=
  oneOf? [Side.client, Side.server] Side.text

/-- The settings of the handshake. -/
def handshake? (v : ν) : Option ManifestFormat := do
  match ← fields? ["format"] v with
  | [format] => optional .frame (oneOf? [ManifestFormat.frame, .list] ManifestFormat.text) format
  | _ => none

/-- The settings of the metrics. -/
def metrics? (v : ν) : Option MetricsConfig := do
  match ← fields? ["enabled", "labels"] v with
  | [enabled, labels] =>
    return { enabled := ← optional false flag? enabled, labels := ← optional [] labels? labels }
  | _ => none

/-- The policy of a channel. -/
def policy? (v : ν) : Option AcceptPolicy := do
  match ← fields? ["versions", "allow_absent", "any"] v with
  | [versions, allowAbsent, any] =>
    return { versions := ← optional [] (list? text?) versions,
             allowAbsent := ← optional false flag? allowAbsent,
             any := ← optional false flag? any }
  | _ => none

/-- A login payload. -/
def payload? (v : ν) : Option PayloadConfig := do
  match ← fields? ["data", "encoding", "context"] v with
  | [data, encoding, context] =>
    return { data := ← required text? data,
             encoding := ← optional .utf8
               (oneOf? [PayloadEncoding.utf8, .hex] PayloadEncoding.text) encoding,
             context := ← optional none optionalText? context }
  | _ => none

/-- A channel. -/
def channel? (v : ν) : Option ChannelConfig := do
  match ← fields? ["name", "version", "client", "server", "login_payloads"] v with
  | [name, version, client, server, loginPayloads] =>
    return { name := ← required text? name,
             version := ← required text? version,
             client := ← optional .default policy? client,
             server := ← optional .default policy? server,
             loginPayloads := ← optional [] (list? payload?) loginPayloads }
  | _ => none

/-- The configuration that a document holds. -/
def config? (v : ν) : Option Config := do
  match ← fields? ["side", "handshake", "metrics", "channels"] v with
  | [side, handshake, metrics, channels] =>
    return { side := ← optional .server side? side,
             format := ← optional .frame handshake? handshake,
             metrics := ← optional .default metrics? metrics,
             channels := ← optional [] (list? channel?) channels }
  | _ => none

end Document

/-! ## JSON documents -/

/-- Members whose keys are texts. -/
def Json.Value.members? (members : List (Option String × Json.Value)) :
    Option (List (String × Json.Value)) :=
  members.mapM fun (key, v) => key.map (·, v)

instance : Document Json.Value where
  text? := Json.Value.text?
  flag?
    | .bool b => some b
    | _ => none
  optionalText?
    | .null => some none
    | v => v.text?.map some
  choice? := Json.Value.choice?
  items?
    | .array items => some items
    | _ => none
  record?
    | .object members => (Json.Value.members? members).map .named
    | .array items => some (.listed items true)
    | _ => none
  entries?
    | .object members => Json.Value.members? members
    | _ => none

end ChannelHandshake
