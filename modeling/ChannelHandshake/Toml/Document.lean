import ChannelHandshake.Config.Document
import ChannelHandshake.Toml.Statement

/-!
# TOML: documents

The statements of a text build one table. A header opens a table, which may have come about on the
way to another header but not in any other way; a header in double brackets adds a table to an
array of such tables; a pair adds a value to the table that is open. A key with dots leads through
tables of its own, and no such table is opened by a header or taken for one that was. What an inline
table holds is complete.
-/

namespace ChannelHandshake.Toml

/-- How a table came about. -/
inductive TableKind where
  /-- By a header. -/
  | headed
  /-- On the way to a header. -/
  | implied
  /-- On the way of a key with dots. -/
  | dotted
  /-- Between braces. -/
  | braced
  /-- On the way of a key with dots between braces. -/
  | bracedDotted
deriving DecidableEq, Repr

/-- A table on the way of a key with dots. -/
def TableKind.isDotted : TableKind → Bool
  | dotted | bracedDotted => true
  | headed | implied | braced => false

/-- A table that is a value. -/
def TableKind.isBraced : TableKind → Bool
  | braced | bracedDotted => true
  | headed | implied | dotted => false

/-- A way that makes tables of the kind `made` may lead through tables of the other kind. -/
def TableKind.leadsThrough (made : TableKind) : TableKind → Bool
  | headed => made = implied
  | implied | dotted => made = implied || made = dotted
  | braced => false
  | bracedDotted => made = bracedDotted

/-- A value or a table. -/
inductive Node where
  | text (value : String)
  | flag (value : Bool)
  | number
  | dateTime (value : DateTime)
  | array (items : List Node)
  | table (kind : TableKind) (entries : List (String × Node))
  /-- The tables of headers in double brackets, last first. -/
  | tables (items : List Node)

/-- The keys of a table with their values, in order. -/
abbrev Entries := List (String × Node)

namespace Entries

/-- The entries after the one under `key` is changed, or added at the end. -/
def alter? (key : String) (change : Option Node → Option Node) (entries : Entries) :
    Option Entries :=
  match entries with
  | [] => (change none).map fun v => [(key, v)]
  | (k, v) :: rest =>
    if k = key then (change (some v)).map fun v => (k, v) :: rest
    else (alter? key change rest).map ((k, v) :: ·)

/-- The entries after `change` at the end of a way from a table of kind `kind`. Tables that are
missing on the way are made, of the kind `made`; of the tables of headers in double brackets the
last one is on the way. -/
def updateAt (made : TableKind) (change : TableKind → Entries → Option Entries) :
    List String → TableKind → Entries → Option Entries
  | [], kind, entries => change kind entries
  | key :: way, _, entries =>
    entries.alter? key fun
      | none => (updateAt made change way made []).map (.table made)
      | some (.table kind inner) =>
        if made.leadsThrough kind then (updateAt made change way kind inner).map (.table kind)
        else none
      -- the way goes on in the table that was added last
      | some (.tables (.table kind inner :: before)) =>
        (updateAt made change way kind inner).map fun inner => .tables (.table kind inner :: before)
      | _ => none

/-- The entries of a table of kind `kind` with one more pair. A key with dots adds it to a table
on the way of such keys, any other key does not. -/
def insert? (made : TableKind) (key : List String) (value : Node) (kind : TableKind)
    (entries : Entries) : Option Entries :=
  let way := key.dropLast
  updateAt made (fun kind entries =>
    -- a key with dots ends in a table of such keys, and no other key does
    if kind.isDotted == way.isEmpty then none
    else entries.alter? (key.getLastD "") fun
      | none => some value
      | some _ => none) way kind entries

/-- The entries with the table `key` opened by a header. -/
def openTable? (key : String) (entries : Entries) : Option Entries :=
  match entries.lookup key with
  | none => some (entries ++ [(key, .table .headed [])])
  | some (.table .implied inner) =>
    -- the table takes its place among those that headers open
    some (entries.filter (·.1 ≠ key) ++ [(key, .table .headed inner)])
  | some _ => none

/-- The entries with one more table in the array `key`. -/
def openItem? (key : String) (entries : Entries) : Option Entries :=
  entries.alter? key fun
    | none => some (.tables [.table .headed []])
    | some (.tables items) => some (.tables (.table .headed [] :: items))
    | some _ => none

end Entries

mutual

/-- The value that is written. -/
def Node.ofLiteral? : Literal → Option Node
  | .text value => some (.text value)
  | .flag value => some (.flag value)
  | .number => some .number
  | .dateTime value => some (.dateTime value)
  | .array items => (ofLiterals? items).map .array
  | .table pairs => (ofPairs? pairs []).map (.table .braced)

/-- The values of a list. -/
def Node.ofLiterals? : List Literal → Option (List Node)
  | [] => some []
  | item :: rest => do return (← Node.ofLiteral? item) :: (← Node.ofLiterals? rest)

/-- The entries of an inline table after the entries `done`. -/
def Node.ofPairs? : List (List String × Literal) → Entries → Option Entries
  | [], done => some done
  | (key, value) :: rest, done => do
    Node.ofPairs? rest (← done.insert? .bracedDotted key (← Node.ofLiteral? value) .braced)

end

/-- What the statements so far have built, and the way to the table that is open. -/
structure Draft where
  entries : Entries
  way : List String

/-- The draft after one more statement. -/
def Draft.add (d : Draft) : Statement → Option Draft
  | .header key => do
    let change (_ : TableKind) := Entries.openTable? (key.getLastD "")
    return ⟨← d.entries.updateAt .implied change key.dropLast .headed, key⟩
  | .itemHeader key => do
    let change (_ : TableKind) := Entries.openItem? (key.getLastD "")
    return ⟨← d.entries.updateAt .implied change key.dropLast .headed, key⟩
  | .pair key value => do
    let value ← Node.ofLiteral? value
    return { d with
      entries := ← d.entries.updateAt .implied (Entries.insert? .dotted key value) d.way .headed }

/-- The table that a text builds. -/
def document? (text : String) : Option Node := do
  let draft ← (← statements? text).foldlM Draft.add ⟨[], []⟩
  return .table .headed draft.entries

/-! ## Documents of a configuration -/

namespace Node

/-- A value without content, which may follow the name of a choice. -/
def isEmpty : Node → Bool
  | .array items | .tables items => items.isEmpty
  | .table _ entries => entries.isEmpty
  | _ => false

/-- The name of a choice: a text, the only key of an inline table, or the first key of any other
table, with an empty value. -/
def choice? : Node → Option String
  | .text value => some value
  | .table kind ((key, value) :: rest) =>
    if value.isEmpty && (rest.isEmpty || !kind.isBraced) then some key else none
  | _ => none

/-- The items of an array of either form. -/
def items? : Node → Option (List Node)
  | .array items => some items
  | .tables items => some items.reverse
  | _ => none

/-- The name under which a date or time presents its text. -/
def dateTimeName : String :=
  "$__toml_private_datetime"

/-- The entries of a table. A date or time is presented as a table of its text. -/
def entries? : Node → Option Entries
  | .table _ entries => some entries
  | .dateTime value => some [(dateTimeName, .text value.text)]
  | _ => none

end Node

instance : Document Node where
  text?
    | .text value => some value
    | _ => none
  flag?
    | .flag value => some value
    | _ => none
  optionalText?
    | .text value => some (some value)
    | _ => none
  choice? := Node.choice?
  items? := Node.items?
  record? v := (v.entries?.map .named).or (v.items?.map (.listed · false))
  entries? := Node.entries?

end ChannelHandshake.Toml
