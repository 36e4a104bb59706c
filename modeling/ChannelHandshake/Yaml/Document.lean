import ChannelHandshake.Config.Document
import ChannelHandshake.Yaml.Jumps

/-!
# YAML: documents of a configuration

Where a text is due every scalar is one, whatever it would denote elsewhere. An empty scalar stands
for an empty list or record. A choice may also be given as a tag of its own without a value. A
value is read together with the tree that holds it, so that an alias is read as what it stands for.
-/

namespace ChannelHandshake.Yaml

/-- The tag of a kind of values that YAML itself defines. -/
def standardTag (kind : String) : Tag :=
  Utf8.encode ("tag:yaml.org,2002:" ++ kind)

/-- A word that says that there is no value. -/
def isNull (text : String) : Bool :=
  ["null", "Null", "NULL", "~"].contains text

/-- The flag that a word stands for. -/
def flagOf? (text : String) : Option Bool :=
  if ["true", "True", "TRUE"].contains text then some true
  else if ["false", "False", "FALSE"].contains text then some false
  else none

/-- The name in a tag of one's own: what follows its exclamation mark, if that is a text. -/
def ownName? : Tag → Option String
  | 0x21 :: rest => Utf8.text? rest
  | _ => none

namespace Node

/-- The text of a scalar. -/
def text? : Node → Option String
  | .scalar text _ _ => some text
  | _ => none

/-- A scalar without text and quotes. -/
def isEmpty : Node → Bool
  | .scalar text style _ => text = "" && style = .plain
  | _ => false

/-- A flag: a plain scalar, or a literal one whose tag says that it is a flag. -/
def flag? : Node → Option Bool
  | .scalar text .plain _ => flagOf? text
  | .scalar text .literal (some tag) => if tag = standardTag "bool" then flagOf? text else none
  | _ => none

/-- A text that may be left out. What is not plain, or has another tag than that of no value, is
never left out; a tag of no value demands a word for it. -/
def optionalText? : Node → Option (Option String)
  | .scalar text .plain none => some (if text = "" ∨ isNull text then none else some text)
  | .scalar text .plain (some tag) =>
    if tag = standardTag "null" then if isNull text then some none else none
    else some (some text)
  | .scalar text _ _ => some (some text)
  | _ => none

/-- The name of a choice: a scalar, or a tag of its own with no value. -/
def choice? : Node → Option String
  | .scalar text style tag =>
    match tag.bind ownName? with
    | some name => if style = .plain ∧ (text = "" ∨ isNull text) then some name else none
    | none => some text
  | _ => none

/-- The items of a sequence. -/
def items? : Node → Option (List Node)
  | .sequence items => some items
  | node => if node.isEmpty then some [] else none

/-- The pairs of a mapping. -/
def pairs? : Node → Option (List (Node × Node))
  | .mapping pairs => some pairs
  | node => if node.isEmpty then some [] else none

end Node

/-- A node of a document. -/
structure Value where
  node : Node
  /-- What the numbers of aliases stand for. -/
  anchored : Array Node

namespace Value

/-- The node itself, or what it stands for if it is an alias. -/
def target (v : Value) : Node :=
  match v.node with
  | .alias number => v.anchored[number]?.getD .empty
  | node => node

/-- Another node of the same document. -/
def withNode (v : Value) (node : Node) : Value :=
  { v with node }

/-- The values under the keys of a mapping, which are scalars. -/
def entries? (v : Value) : Option (List (String × Value)) := do
  (← v.target.pairs?).mapM fun (key, value) => do
    return (← (v.withNode key).target.text?, v.withNode value)

end Value

instance : Document Value where
  text? v := v.target.text?
  flag? v := v.target.flag?
  optionalText? v := v.target.optionalText?
  choice? v := v.target.choice?
  items? v := v.target.items?.map (·.map v.withNode)
  record? v := v.entries?.map .named
  entries? := Value.entries?

/-- The root of the document that a text holds. -/
def document? (text : String) : Option Value := do
  let tree ← Tree.ofTokens? (← tokens? text)
  if tree.isModest then some ⟨tree.root, tree.anchored⟩ else none

end ChannelHandshake.Yaml
