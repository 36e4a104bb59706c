import ChannelHandshake.Yaml.Property
import ChannelHandshake.Yaml.Scalar

/-!
# YAML: tokens

The tokens of a text are its marks, its scalars and the brackets that indentation stands for. What
a key is shows only at the colon behind it: wherever a key may begin, its place among the tokens is
remembered, and the marks for the key and for the mapping that it opens are put there when the
colon comes. A possible key ends with its line or after 1024 bytes, and at the column of an open
block it must be a key.
-/

namespace ChannelHandshake.Yaml

/-- A token. -/
inductive Token where
  | directive (value : Directive)
  | documentStart
  | documentEnd
  /-- A sequence, or a mapping, that indentation holds together. -/
  | blockSequence
  | blockMapping
  | blockEnd
  /-- A sequence, or a mapping, between brackets or braces. -/
  | openSequence
  | closeSequence
  | openMapping
  | closeMapping
  /-- The hyphen before an item. -/
  | item
  | comma
  | key
  | value
  | alias (name : String)
  | anchor (name : String)
  | tag (spelling : TagSpelling)
  | scalar (text : String) (style : Style)
deriving DecidableEq

/-- How many sequences and mappings may be inside one another. -/
def maxDepth : Nat :=
  128

/-- A place where a key may have begun. -/
structure PossibleKey where
  place : Place
  /-- How many tokens come before it. -/
  ahead : Nat
  /-- Nothing but a key may stand here. -/
  required : Bool

/-- The tokens so far and what is open. -/
structure Scan where
  tokens : Array Token
  /-- The columns of the open blocks, innermost first. -/
  blocks : List Nat
  /-- The possible key inside the innermost bracket, or in a block. -/
  key : Option PossibleKey
  /-- The possible keys outside of each open bracket, innermost first. -/
  outer : List (Option PossibleKey)
  /-- A key may begin at the next token. -/
  keyAllowed : Bool

namespace Scan

/-- Nothing read. -/
def start : Scan :=
  ⟨#[], [], none, [], true⟩

/-- Inside brackets or braces indentation does not count. -/
def inFlow (d : Scan) : Bool :=
  !d.outer.isEmpty

/-- The least column of text that belongs to the innermost block. -/
def floor (d : Scan) : Nat :=
  d.blocks.head?.elim 0 (· + 1)

/-- With one more token. -/
def emit (d : Scan) (t : Token) : Scan :=
  { d with tokens := d.tokens.push t }

/-- Whether a key may begin at the next token. -/
def allowKey (d : Scan) (allowed : Bool) : Scan :=
  { d with keyAllowed := allowed }

/-! ## Blocks -/

/-- Closes the blocks right of a column, or all of them. -/
def closeBlocks (d : Scan) (column : Option Nat) : Scan :=
  if d.inFlow then d
  else
    let closed := d.blocks.takeWhile fun b => column.all (· < b)
    { d with
      tokens := d.tokens ++ List.replicate closed.length Token.blockEnd,
      blocks := d.blocks.drop closed.length }

/-- Opens a block at a column that is right of the innermost one; its token goes to a place among
those that are there. -/
def openBlock (d : Scan) (column place : Nat) (t : Token) : Scan :=
  if d.inFlow || d.blocks.head?.any (column ≤ ·) then d
  else { d with tokens := d.tokens.insertIdxIfInBounds place t, blocks := column :: d.blocks }

/-! ## Possible keys -/

/-- Gives up the possible key, unless it is required. -/
def dropKey? (d : Scan) : Option Scan :=
  if d.key.any (·.required) then none else some { d with key := none }

/-- Remembers that a key may begin at a place. -/
def saveKey? (d : Scan) (p : Place) : Option Scan :=
  if d.keyAllowed then do
    let d ← d.dropKey?
    -- right at the column of an open block nothing but its next key can stand
    let required := !d.inFlow && d.blocks.head? == some p.column
    return { d with key := some ⟨p, d.tokens.size, required⟩ }
  else some d

/-- A place is too far away for a colon that ends the key. -/
def PossibleKey.isStale (k : PossibleKey) (p : Place) : Bool :=
  k.place.line < p.line || k.place.offset + 1024 < p.offset

/-- Gives up the possible keys that are too far away from a place; none of them may be required. -/
def expireKeys? (d : Scan) (p : Place) : Option Scan :=
  let stale (k : Option PossibleKey) : Bool := k.any (PossibleKey.isStale · p)
  if (d.key :: d.outer).any fun k => stale k && k.any (·.required) then none
  else
    let keep (k : Option PossibleKey) : Option PossibleKey := if stale k then none else k
    some { d with key := keep d.key, outer := d.outer.map keep }

/-! ## Marks -/

/-- The start or the end of a document. -/
def documentMark? (d : Scan) (t : Token) : Option Scan := do
  return ((← (d.closeBlocks none).dropKey?).allowKey false).emit t

/-- An opening bracket or brace, unless too many are open. -/
def openFlow? (d : Scan) (p : Place) (t : Token) : Option Scan := do
  let d ← if d.outer.length < maxDepth then d.saveKey? p else none
  return { d with key := none, outer := d.key :: d.outer, keyAllowed := true }.emit t

/-- A closing bracket or brace. -/
def closeFlow? (d : Scan) (t : Token) : Option Scan := do
  let d ← d.dropKey?
  let d := match d.outer with
    | key :: outer => { d with key, outer }
    | [] => d
  return (d.allowKey false).emit t

/-- A comma. -/
def comma? (d : Scan) : Option Scan := do
  return ((← d.dropKey?).allowKey true).emit .comma

/-- The hyphen before an item. -/
def item? (d : Scan) (p : Place) : Option Scan := do
  if !d.inFlow && !d.keyAllowed then none
  else
    let d := d.openBlock p.column d.tokens.size .blockSequence
    return ((← d.dropKey?).allowKey true).emit .item

/-- The question mark before a key. -/
def key? (d : Scan) (p : Place) : Option Scan := do
  if !d.inFlow && !d.keyAllowed then none
  else
    let d := d.openBlock p.column d.tokens.size .blockMapping
    return ((← d.dropKey?).allowKey (!d.inFlow)).emit .key

/-- The colon before a value. -/
def value? (d : Scan) (p : Place) : Option Scan :=
  match d.key with
  | some k =>
    -- the key has come without its mark, which now goes in front of it
    let d := { d with tokens := d.tokens.insertIdxIfInBounds k.ahead .key, key := none }
    some (((d.openBlock k.place.column k.ahead .blockMapping).allowKey false).emit .value)
  | none =>
    if !d.inFlow && !d.keyAllowed then none
    else
      let d := d.openBlock p.column d.tokens.size .blockMapping
      some ((d.allowKey (!d.inFlow)).emit .value)

/-! ## Tokens -/

/-- A token that may begin a key and ends at `rest`. -/
def word? (d : Scan) (p : Place) (t : Token) (rest : Source) : Option (Scan × Source) := do
  return (((← d.saveKey? p).allowKey false).emit t, rest)

/-- A block scalar behind its indicator. -/
def block? (d : Scan) (fuel : Nat) (style : Style) (rest : Source) : Option (Scan × Source) := do
  let d ← d.dropKey?
  let (text, rest) ← Scalar.block? fuel style d.blocks.head? rest
  return ((d.allowKey true).emit (.scalar (String.ofList text) style), rest)

/-- A quoted scalar behind its opening quote. -/
def quoted? (d : Scan) (fuel : Nat) (p : Place) (style : Style) (rest : Source) :
    Option (Scan × Source) := do
  let (text, rest) ← Scalar.quoted? fuel p.char rest
  d.word? p (.scalar (String.ofList text) style) rest

/-- A plain scalar. -/
def plain? (d : Scan) (fuel : Nat) (p : Place) (s : Source) : Option (Scan × Source) := do
  let plain ← Scalar.plain? fuel d.inFlow d.floor s
  let (d, rest) ← d.word? p (.scalar (String.ofList plain.text) .plain) plain.rest
  -- a scalar that runs to the end of its line leaves a key to the next one
  return (d.allowKey plain.crossesLine, rest)

/-- A character that begins no plain scalar, whatever follows. -/
def isIndicator (c : Char) : Bool :=
  isBlank c || isBreak c || ",[]\x7b\x7d#&*!|>'\"%@\x60".toList.contains c

/-- The token at the place `p`, with which the source begins; `fuel` bounds its length. -/
def token? (d : Scan) (fuel : Nat) (p : Place) (rest : Source) : Option (Scan × Source) :=
  let s := p :: rest
  if p.column = 0 ∧ p.char = '%' then do
    let d ← (d.closeBlocks none).dropKey?
    let (directive, rest) ← Property.directive? rest
    return ((d.allowKey false).emit (.directive directive), rest)
  else if Source.atMark '-' s then (d.documentMark? .documentStart).map (·, s.drop 3)
  else if Source.atMark '.' s then (d.documentMark? .documentEnd).map (·, s.drop 3)
  else
    let standsAlone := d.inFlow || Source.atWordEnd rest
    match p.char with
    | '[' => (d.openFlow? p .openSequence).map (·, rest)
    | '\x7b' => (d.openFlow? p .openMapping).map (·, rest)
    | ']' => (d.closeFlow? .closeSequence).map (·, rest)
    | '\x7d' => (d.closeFlow? .closeMapping).map (·, rest)
    | ',' => d.comma?.map (·, rest)
    | '-' =>
      if Source.atWordEnd rest then (d.item? p).map (·, rest) else d.plain? fuel p s
    | '?' => if standsAlone then (d.key? p).map (·, rest) else d.plain? fuel p s
    | ':' => if standsAlone then (d.value? p).map (·, rest) else d.plain? fuel p s
    | '*' => do
      let (name, rest) ← Property.anchor? rest
      d.word? p (.alias name) rest
    | '&' => do
      let (name, rest) ← Property.anchor? rest
      d.word? p (.anchor name) rest
    | '!' => do
      let (tag, rest) ← Property.tag? d.inFlow s
      d.word? p (.tag tag) rest
    | '\'' => d.quoted? fuel p .singleQuoted rest
    | '"' => d.quoted? fuel p .doubleQuoted rest
    | c =>
      if c = '|' ∧ !d.inFlow then d.block? fuel .literal rest
      else if c = '>' ∧ !d.inFlow then d.block? fuel .folded rest
      else if isIndicator c then none
      else d.plain? fuel p s

/-- The tokens of a source after those that were read. The source is shorter than `fuel`, and each
token takes at least one character. -/
def run? : Nat → Source → Scan → Option (List Token)
  | 0, _, _ => none
  | fuel + 1, s, d =>
    let (s, keyAllowed) := s.skipToToken d.inFlow false d.keyAllowed
    let d := d.allowKey keyAllowed
    match s with
    | [] => do return (← (d.closeBlocks none).dropKey?).tokens.toList
    | p :: rest => do
      let d := (← d.expireKeys? p).closeBlocks (some p.column)
      let (d, s) ← d.token? fuel p rest
      run? fuel s d

end Scan

/-- The tokens of a text. -/
def tokens? (text : String) : Option (List Token) := do
  let s ← Source.ofString? text
  Scan.run? (s.length + 1) s .start

end ChannelHandshake.Yaml
