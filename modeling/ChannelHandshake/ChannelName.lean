import ChannelHandshake.Json.Value
import ChannelHandshake.Text.Quoted
import ChannelHandshake.Text.Split

/-!
# Channel names

A channel is named `namespace:path`. Both parts are non-empty, over lower-case letters, digits and
`_ . -`; a path may also hold slashes. A name written without a colon is a path of the namespace
`netreg`. Names are ordered by namespace, then by path.
-/

namespace ChannelHandshake

/-- The namespace of a name that is written without one. -/
def defaultNamespace : String :=
  "netreg"

/-- A character that a namespace may hold. -/
def isNamespaceChar (c : Char) : Bool :=
  ('a' ≤ c && c ≤ 'z') || ('0' ≤ c && c ≤ '9') || c == '_' || c == '.' || c == '-'

/-- A character that a path may hold. -/
def isPathChar (c : Char) : Bool :=
  isNamespaceChar c || c == '/'

/-- The name of a channel. -/
@[ext]
structure ChannelName where
  /-- The part before the colon. -/
  scope : String
  /-- The part after the colon. -/
  path : String
  scope_ne_empty : scope ≠ ""
  path_ne_empty : path ≠ ""
  scope_chars : scope.toList.all isNamespaceChar = true
  path_chars : path.toList.all isPathChar = true
deriving DecidableEq

namespace ChannelName

/-- Why a text is no channel name. -/
inductive Fault where
  | emptyNamespace
  | emptyPath
  | badNamespace
  | badPath
deriving DecidableEq, Repr

/-- The wording of a fault. -/
def Fault.reason : Fault → String
  | emptyNamespace => "namespace cannot be empty"
  | emptyPath => "path cannot be empty"
  | badNamespace => "namespace may only contain [a-z0-9_.-]"
  | badPath => "path may only contain [a-z0-9_.-/]"

/-- A name that was refused: its parts with the colon between them, and the first fault. -/
structure Invalid where
  text : String
  fault : Fault
deriving DecidableEq, Repr

/-- What a reader of the name is told. -/
def Invalid.message (e : Invalid) : String :=
  "invalid channel name " ++ Text.quoted e.text ++ ": " ++ e.fault.reason

/-- The name with these parts, or the first fault: emptiness before characters, and the namespace
before the path. -/
def make (scope path : String) : Except Invalid ChannelName :=
  let refuse (fault : Fault) : Except Invalid ChannelName :=
    .error ⟨scope ++ ":" ++ path, fault⟩
  if hs : scope = "" then refuse .emptyNamespace
  else if hp : path = "" then refuse .emptyPath
  else if hsc : scope.toList.all isNamespaceChar = true then
    if hpc : path.toList.all isPathChar = true then .ok ⟨scope, path, hs, hp, hsc, hpc⟩
    else refuse .badPath
  else refuse .badNamespace

/-- The canonical text. -/
def text (n : ChannelName) : String :=
  n.scope ++ ":" ++ n.path

/-- The name that `text` spells: cut at the first colon, or a path of the default namespace. -/
def parse (text : String) : Except Invalid ChannelName :=
  match Text.splitAtFirst ':' text.toList with
  | some (scope, path) => make (String.ofList scope) (String.ofList path)
  | none => make defaultNamespace text

/-- The JSON form of a name: a string with its canonical text. -/
def toJson (n : ChannelName) : Json.Value :=
  .string (some n.text)

/-- The name that a JSON string spells. -/
def ofJson? (v : Json.Value) : Option ChannelName :=
  match v with
  | .string (some text) => (parse text).toOption
  | _ => none

instance : LT ChannelName where
  lt a b := a.scope < b.scope ∨ (a.scope = b.scope ∧ a.path < b.path)

instance (a b : ChannelName) : Decidable (a < b) :=
  inferInstanceAs (Decidable (_ ∨ _))

instance : Hashable ChannelName where
  hash name := mixHash (hash name.scope) (hash name.path)

/-- `a` does not come after `b`. -/
def le (a b : ChannelName) : Bool :=
  !decide (b < a)

/-- The names of a list in order, each once. -/
def sorted (names : List ChannelName) : List ChannelName :=
  (names.mergeSort le).eraseReps

/-- The names that stand next to an equal one, each once, of a list in order. -/
def repeats : List ChannelName → List ChannelName
  | a :: b :: rest =>
    if a = b then a :: (repeats (b :: rest)).dropWhile (· = a) else repeats (b :: rest)
  | _ => []

/-- The names that occur more than once, in order and each once. -/
def duplicates (names : List ChannelName) : List ChannelName :=
  repeats (names.mergeSort le)

end ChannelName

end ChannelHandshake
