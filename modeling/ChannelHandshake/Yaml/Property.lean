import ChannelHandshake.Text.Hex
import ChannelHandshake.Text.Utf8
import ChannelHandshake.Yaml.Source

/-!
# YAML: names, tags and directives

A node may carry a name for later and a tag, and a document may begin with directives that say how
tags are spelled. A tag is a row of bytes. It is spelled as a handle, which stands for its
beginning, and the rest, in which a byte may be escaped; a zero byte ends what is spelled there.
-/

namespace ChannelHandshake.Yaml

/-- A tag. -/
abbrev Tag := List UInt8

/-- A tag as it is written. -/
structure TagSpelling where
  /-- The part that a directive may explain; empty for a tag that is written in full. -/
  handle : String
  suffix : Tag
deriving DecidableEq, Repr

/-- A directive. -/
inductive Directive where
  | version (major minor : Nat)
  /-- Tags with this handle begin with `lead`. -/
  | handle (handle : String) (lead : Tag)
deriving DecidableEq, Repr

namespace Property

/-- The characters of a name, and the source behind them. -/
def name (s : Source) : List Char × Source :=
  (Source.chars (s.takeWhile fun p => isNameChar p.char), s.dropWhile fun p => isNameChar p.char)

/-- The name of an anchor or an alias, and the source behind it. -/
def anchor? (s : Source) : Option (String × Source) :=
  match name s with
  | ([], _) => none
  | (chars, rest) =>
    if rest.atWordEnd || ['?', ':', ',', ']', '\x7d', '%', '@', '\x60'].any rest.startsWith then
      some (String.ofList chars, rest)
    else none

/-! ## Tags -/

/-- A character of a tag. Some stand only in tags that are written in full. -/
def isTagChar (full : Bool) (c : Char) : Bool :=
  isNameChar c || ";/?:@&=+$.%!~*'()".toList.contains c || (full && [',', '[', ']'].contains c)

/-- How many bytes continue the character that a byte begins. -/
def continuations? (b : UInt8) : Option Nat :=
  if b < 0x80 then some 0
  else if b < 0xC0 then none
  else if b < 0xE0 then some 1
  else if b < 0xF0 then some 2
  else if b < 0xF8 then some 3
  else none

/-- The bytes of a part of a tag after those in `done`, last first; a percent sign with two digits
stands for one byte. The next `due` bytes are escaped and continue a character. -/
def tagBytes? : List Char → Nat → Tag → Option Tag
  | [], 0, done => some done.reverse
  | '%' :: a :: b :: rest, due, done => do
    let byte := UInt8.ofNat (← Hex.value? [a, b])
    match due with
    | 0 => tagBytes? rest (← continuations? byte) (byte :: done)
    | due + 1 => if Utf8.isContinuation byte then tagBytes? rest due (byte :: done) else none
  | '%' :: _, _, _ => none
  | c :: rest, 0, done => tagBytes? rest 0 (UInt8.ofNat c.toNat :: done)
  | _, _, _ => none

/-- A part of a tag, and the source behind it. -/
def tagPart? (full : Bool) (s : Source) : Option (Tag × Source) := do
  let chars := Source.chars (s.takeWhile fun p => isTagChar full p.char)
  let bytes ← tagBytes? chars 0 []
  return (bytes.takeWhile (· != 0), s.dropWhile fun p => isTagChar full p.char)

/-- Like `tagPart?`, where at least one character must be written. -/
def tagPartNonempty? (full : Bool) (s : Source) : Option (Tag × Source) :=
  if s.head?.any fun p => isTagChar full p.char then tagPart? full s else none

/-- An exclamation mark, a name and, if it is there, a second mark. -/
def handle? : Source → Option (String × Source)
  | [] => none
  | p :: rest =>
    if p.char = '!' then
      let (chars, rest) := name rest
      if rest.startsWith '!' then some (String.ofList ('!' :: chars ++ ['!']), rest.tail)
      else some (String.ofList ('!' :: chars), rest)
    else none

/-- A handle that ends with a mark of its own. -/
def isClosed (handle : String) : Bool :=
  handle ≠ "!" && handle.endsWith "!"

/-- A tag at its exclamation mark, without a look at what follows. -/
def spelling? (s : Source) : Option (TagSpelling × Source) :=
  if Source.startsWith s.tail '<' then do
    let (suffix, rest) ← tagPartNonempty? true (s.drop 2)
    if rest.startsWith '>' then some (⟨"", suffix⟩, rest.tail) else none
  else do
    let (handle, rest) ← handle? s
    if isClosed handle then
      let (suffix, rest) ← tagPartNonempty? false rest
      return (⟨handle, suffix⟩, rest)
    else
      let (part, rest) ← tagPart? false rest
      let suffix := Utf8.encode (handle.drop 1).toString ++ part
      -- the mark alone is a tag
      return (if suffix.isEmpty then ⟨"", Utf8.encode "!"⟩ else ⟨"!", suffix⟩, rest)

/-- A tag at its exclamation mark. -/
def tag? (inFlow : Bool) (s : Source) : Option (TagSpelling × Source) :=
  (spelling? s).filter fun (_, rest) => (inFlow && rest.startsWith ',') || rest.atWordEnd

/-! ## Directives -/

/-- A number of up to nine digits, and the source behind it. -/
def number? (s : Source) : Option (Nat × Source) :=
  let digits := Source.chars (s.takeWhile fun p => p.char.isDigit)
  if digits.isEmpty || 9 < digits.length then none
  else
    some (digits.foldl (fun n d => n * 10 + (d.toNat - 48)) 0, s.dropWhile fun p => p.char.isDigit)

/-- The version of a directive. -/
def version? (s : Source) : Option (Directive × Source) := do
  let (major, rest) ← number? s
  if rest.startsWith '.' then
    let (minor, rest) ← number? rest.tail
    return (.version major minor, rest)
  else none

/-- The handle of a directive and what tags with it begin with. -/
def handleLead? (s : Source) : Option (Directive × Source) := do
  let (handle, rest) ← handle? s
  if (handle = "!" ∨ isClosed handle) ∧ rest.head?.any (isBlank ·.char) then
    let (lead, rest) ← tagPartNonempty? true rest.skipBlanks
    if rest.atWordEnd then some (.handle handle lead, rest) else none
  else none

/-- A directive behind its percent sign, and the source of the next line. -/
def directive? (s : Source) : Option (Directive × Source) := do
  let (chars, rest) := name s
  let (d, rest) ←
    if !rest.atWordEnd then none
    else if chars = "YAML".toList then version? rest.skipBlanks
    else if chars = "TAG".toList then handleLead? rest.skipBlanks
    else none
  return (d, ← rest.endLine?)

end Property

end ChannelHandshake.Yaml
