import ChannelHandshake.Yaml.Token

/-!
# YAML: nodes

The tokens of a text form one document, whose root is a node: a scalar, a sequence, a mapping or an
alias. An alias holds a number. A node with a name gets as its number how many names are in use, and
so a name that is used again may come to share a number with another one. What a number stands for
is the node with that number that begins last.
-/

namespace ChannelHandshake.Yaml

/-- A node. -/
inductive Node where
  | scalar (text : String) (style : Style) (tag : Option Tag)
  | sequence (items : List Node)
  | mapping (pairs : List (Node × Node))
  | alias (number : Nat)

/-- A node that is not there. -/
def Node.empty : Node :=
  .scalar "" .plain none

/-- What a number stands for. -/
structure Anchored where
  /-- How many nodes with a name began before this one. -/
  ordinal : Nat
  /-- The node, once it is complete. -/
  node : Node

/-- What is known of a document while its nodes are read. -/
structure Composition where
  /-- What tags with a handle begin with. -/
  handles : List (String × Tag)
  /-- The numbers of the names. -/
  names : List (String × Nat)
  anchored : Array Anchored
  /-- How many nodes with a name have begun. -/
  begun : Nat
  /-- The number of scalars and aliases and of the ends of sequences and mappings. -/
  size : Nat

namespace Composition

/-- Nothing read, where `handles` are explained. -/
def start (handles : List (String × Tag)) : Composition :=
  ⟨handles, [], #[], 0, 0⟩

/-- The composition with a larger size. -/
def grow (c : Composition) (n : Nat) : Composition :=
  { c with size := c.size + n }

/-- The number that the next node with a name gets. -/
def nextNumber (c : Composition) : Nat :=
  c.names.length

/-- The composition when a node of this name begins. -/
def beginAnchor (c : Composition) (name : String) : Composition :=
  let number := c.nextNumber
  let entry : Anchored := ⟨c.begun, .empty⟩
  { c with
    names := (name, number) :: c.names.filter (·.1 ≠ name),
    anchored :=
      if number < c.anchored.size then c.anchored.setIfInBounds number entry
      else c.anchored.push entry,
    begun := c.begun + 1 }

/-- The composition when the node that began as `ordinal` with this number is complete. -/
def endAnchor (c : Composition) (number ordinal : Nat) (node : Node) : Composition :=
  -- the number may have gone to a node that began later
  { c with anchored := c.anchored.modify number fun a =>
      if a.ordinal = ordinal then { a with node } else a }

/-- The tag that is spelled, if its handle is known. -/
def tag? (c : Composition) (t : TagSpelling) : Option Tag :=
  if t.handle = "" then some t.suffix
  else (c.handles.lookup t.handle).map (· ++ t.suffix)

end Composition

/-- The name and the tag of a node, in either order, and the tokens behind them. -/
def properties : List Token → Option String × Option TagSpelling × List Token
  | .anchor name :: .tag t :: rest | .tag t :: .anchor name :: rest => (some name, some t, rest)
  | .anchor name :: rest => (some name, none, rest)
  | .tag t :: rest => (none, some t, rest)
  | rest => (none, none, rest)

/-- No node begins here, inside a block. -/
def endsBlockNode : List Token → Bool
  | .key :: _ | .value :: _ | .blockEnd :: _ => true
  | _ => false

/-- No node begins here, inside brackets or braces. -/
def endsFlowNode : List Token → Bool
  | .value :: _ | .comma :: _ | .closeSequence :: _ | .closeMapping :: _ => true
  | _ => false

/-- The tokens behind the comma that must stand before every entry but the first. -/
def nextEntry? (first : Bool) : List Token → Option (List Token)
  | .comma :: rest => if first then none else some rest
  | tokens => if first then some tokens else none

/-- What was read, and what follows it. -/
abbrev Reading (α : Type) := α × Composition × List Token

mutual

/-- A node. Blocks are read only if `inBlock`, and a sequence without indentation of its own only
if `indentless`. `depth` is the number of collections that may still be opened; `fuel` bounds the
readers at work. -/
def node? : Nat → Nat → Bool → Bool → Composition → List Token → Option (Reading Node)
  | 0, _, _, _, _, _ => none
  | fuel + 1, depth, inBlock, indentless, c, tokens =>
    match tokens with
    | .alias name :: rest => do return (.alias (← c.names.lookup name), c.grow 1, rest)
    | _ => do
      let (name, spelling, rest) := properties tokens
      -- a tag with an unknown handle is refused
      let tag ← match spelling with
        | some t => (c.tag? t).map some
        | none => some none
      match name with
      | none => content? fuel depth inBlock indentless tag tag.isNone c rest
      | some name =>
        let (number, ordinal) := (c.nextNumber, c.begun)
        let (node, c, rest) ←
          content? fuel depth inBlock indentless tag false (c.beginAnchor name) rest
        return (node, c.endAnchor number ordinal node, rest)

/-- A node behind its name and tag; without these it must not be empty. -/
def content? :
    Nat → Nat → Bool → Bool → Option Tag → Bool → Composition → List Token →
    Option (Reading Node)
  | 0, _, _, _, _, _, _, _ => none
  | fuel + 1, depth, inBlock, indentless, tag, bare, c, tokens =>
    let inside := depth - 1
    -- a name or a tag may stand alone
    let omitted : Option (Reading Node) :=
      if bare then none else some (.scalar "" .plain tag, c.grow 1, tokens)
    let sequence (r : Reading (List Node)) : Reading Node := (.sequence r.1, r.2)
    let mapping (r : Reading (List (Node × Node))) : Reading Node := (.mapping r.1, r.2)
    match tokens with
    | .scalar text style :: rest =>
      some (.scalar text style (tag.filter (· ≠ Utf8.encode "!")), c.grow 1, rest)
    | .item :: _ =>
      if !indentless then omitted
      else if depth = 0 then none
      else (indentlessItems? fuel inside (c.grow 2) tokens []).map sequence
    | .blockSequence :: rest =>
      if !inBlock then omitted
      else if depth = 0 then none
      else (blockItems? fuel inside (c.grow 2) rest []).map sequence
    | .blockMapping :: rest =>
      if !inBlock then omitted
      else if depth = 0 then none
      else (blockPairs? fuel inside (c.grow 2) rest []).map mapping
    | .openSequence :: rest =>
      if depth = 0 then none
      else (flowItems? fuel inside true (c.grow 2) rest []).map sequence
    | .openMapping :: rest =>
      if depth = 0 then none
      else (flowPairs? fuel inside true (c.grow 2) rest []).map mapping
    | _ => omitted

/-- The items of an indented sequence, after those in `done`, last first. -/
def blockItems? :
    Nat → Nat → Composition → List Token → List Node → Option (Reading (List Node))
  | 0, _, _, _, _ => none
  | fuel + 1, depth, c, tokens, done =>
    match tokens with
    | .item :: .item :: rest => blockItems? fuel depth (c.grow 1) (.item :: rest) (.empty :: done)
    | .item :: .blockEnd :: rest => some ((.empty :: done).reverse, c.grow 1, rest)
    | .item :: rest => do
      let (node, c, rest) ← node? fuel depth true false c rest
      blockItems? fuel depth c rest (node :: done)
    | .blockEnd :: rest => some (done.reverse, c, rest)
    | _ => none

/-- The items of a sequence without indentation, after those in `done`, last first. -/
def indentlessItems? :
    Nat → Nat → Composition → List Token → List Node → Option (Reading (List Node))
  | 0, _, _, _, _ => none
  | fuel + 1, depth, c, tokens, done =>
    match tokens with
    | .item :: .item :: rest =>
      indentlessItems? fuel depth (c.grow 1) (.item :: rest) (.empty :: done)
    | .item :: rest =>
      if endsBlockNode rest then indentlessItems? fuel depth (c.grow 1) rest (.empty :: done)
      else do
        let (node, c, rest) ← node? fuel depth true false c rest
        indentlessItems? fuel depth c rest (node :: done)
    | _ => some (done.reverse, c, tokens)

/-- The key or the value of a pair in an indented mapping. -/
def blockPart? : Nat → Nat → Composition → List Token → Option (Reading Node)
  | 0, _, _, _ => none
  | fuel + 1, depth, c, tokens =>
    if endsBlockNode tokens then some (.empty, c.grow 1, tokens)
    else node? fuel depth true true c tokens

/-- The pairs of an indented mapping, after those in `done`, last first. -/
def blockPairs? : Nat → Nat → Composition → List Token → List (Node × Node) →
    Option (Reading (List (Node × Node)))
  | 0, _, _, _, _ => none
  | fuel + 1, depth, c, tokens, done =>
    match tokens with
    | .key :: rest => do
      let (key, c, rest) ← blockPart? fuel depth c rest
      match rest with
      | .value :: rest =>
        let (value, c, rest) ← blockPart? fuel depth c rest
        blockPairs? fuel depth c rest ((key, value) :: done)
      | _ => blockPairs? fuel depth (c.grow 1) rest ((key, .empty) :: done)
    | .blockEnd :: rest => some (done.reverse, c, rest)
    | _ => none

/-- The key or the value of a pair between brackets or braces. -/
def flowPart? : Nat → Nat → Composition → List Token → Option (Reading Node)
  | 0, _, _, _ => none
  | fuel + 1, depth, c, tokens =>
    if endsFlowNode tokens then some (.empty, c.grow 1, tokens)
    else node? fuel depth false false c tokens

/-- A pair behind the mark for its key, between brackets or braces. -/
def flowPair? : Nat → Nat → Composition → List Token → Option (Reading (Node × Node))
  | 0, _, _, _ => none
  | fuel + 1, depth, c, tokens => do
    let (key, c, rest) ← flowPart? fuel depth c tokens
    match rest with
    | .value :: rest =>
      let (value, c, rest) ← flowPart? fuel depth c rest
      return ((key, value), c, rest)
    | _ => return ((key, .empty), c.grow 1, rest)

/-- The items of a sequence in brackets, after those in `done`, last first. -/
def flowItems? :
    Nat → Nat → Bool → Composition → List Token → List Node → Option (Reading (List Node))
  | 0, _, _, _, _, _ => none
  | fuel + 1, depth, first, c, tokens, done =>
    match tokens with
    | .closeSequence :: rest => some (done.reverse, c, rest)
    | _ => do
      match ← nextEntry? first tokens with
      | .closeSequence :: rest => return (done.reverse, c, rest)
      | .key :: rest =>
        -- a pair among the items of a sequence is a mapping of its own
        let (pair, c, rest) ← flowPair? fuel (depth - 1) (c.grow 2) rest
        flowItems? fuel depth false c rest (.mapping [pair] :: done)
      | tokens =>
        let (node, c, rest) ← node? fuel depth false false c tokens
        flowItems? fuel depth false c rest (node :: done)

/-- The pairs of a mapping in braces, after those in `done`, last first. -/
def flowPairs? : Nat → Nat → Bool → Composition → List Token → List (Node × Node) →
    Option (Reading (List (Node × Node)))
  | 0, _, _, _, _, _ => none
  | fuel + 1, depth, first, c, tokens, done =>
    match tokens with
    | .closeMapping :: rest => some (done.reverse, c, rest)
    | _ => do
      match ← nextEntry? first tokens with
      | .closeMapping :: rest => return (done.reverse, c, rest)
      | .key :: rest =>
        let (pair, c, rest) ← flowPair? fuel depth c rest
        flowPairs? fuel depth false c rest (pair :: done)
      | tokens =>
        let (node, c, rest) ← node? fuel depth false false c tokens
        flowPairs? fuel depth false (c.grow 1) rest ((node, .empty) :: done)

end

/-! ## Documents -/

/-- What tags begin with where no directive says otherwise. -/
def defaultHandles : List (String × Tag) :=
  [("!", Utf8.encode "!"), ("!!", Utf8.encode "tag:yaml.org,2002:")]

/-- The handles of the directives in front, after those in `done`, and the tokens behind them. Of
versions there may be one, which must be 1.1 or 1.2, and of explanations one for each handle. -/
def directives? : List Token → Bool → List (String × Tag) →
    Option (List (String × Tag) × List Token)
  | .directive (.version major minor) :: rest, versioned, done =>
    if versioned || major != 1 || (minor != 1 && minor != 2) then none
    else directives? rest true done
  | .directive (.handle handle lead) :: rest, versioned, done =>
    if (done.lookup handle).isSome then none
    else directives? rest versioned (done ++ [(handle, lead)])
  | rest, _, done => some (done ++ defaultHandles, rest)

/-- The root of a document, and the tokens behind it. A document that is marked may be empty. -/
def root? (marked : Bool) (handles : List (String × Tag)) (tokens : List Token) :
    Option (Reading Node) :=
  let c := Composition.start handles
  match marked, tokens with
  | true, [] | true, .documentStart :: _ | true, .documentEnd :: _ | true, .directive _ :: _ =>
    some (.empty, c.grow 1, tokens)
  | _, _ => node? (3 * tokens.length + 3) maxDepth true false c tokens

/-- A document. -/
structure Tree where
  root : Node
  /-- What the numbers of its aliases stand for. -/
  anchored : Array Node
  /-- The number of scalars and aliases and of the ends of sequences and mappings. -/
  size : Nat

/-- The only document that the tokens form. No tokens form an empty document. -/
def Tree.ofTokens? (tokens : List Token) : Option Tree := do
  let (handles, rest) ← directives? tokens false []
  let (node, c, rest) ←
    match tokens, rest with
    | [], _ => root? true handles []
    | _, .documentStart :: rest => root? true handles rest
    -- directives belong to a document whose start is marked
    | .directive _ :: _, _ => none
    | _, _ => root? false handles rest
  if rest.all (· == .documentEnd) then some ⟨node, c.anchored.map Anchored.node, c.size⟩ else none

end ChannelHandshake.Yaml
