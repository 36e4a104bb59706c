/-!
# YAML: the source

A YAML text is read as a row of places, each a character with its line and its column. Indentation
and one-line keys are then questions about places. Line ends of every kind but the two separators of
Unicode are one line feed, and a text with a character that YAML forbids is no source.
-/

namespace ChannelHandshake.Yaml

/-- A character and where it stands. Lines and columns count from zero. -/
structure Place where
  char : Char
  line : Nat
  column : Nat
  /-- The number of bytes in front of it in its line. -/
  offset : Nat
deriving DecidableEq, Repr

/-- What is left of a text. -/
abbrev Source := List Place

/-- A character that a text may hold. -/
def isAllowed (c : Char) : Bool :=
  c == '\t' || c == '\n' || c == '\r' || (' ' ≤ c && c ≤ '~') || c == '\u0085' ||
    ('\u00a0' ≤ c && c != '\ufffe' && c != '\uffff')

/-- A line end. -/
def isBreak (c : Char) : Bool :=
  c == '\n' || c == '\u2028' || c == '\u2029'

/-- A space or a tab. -/
def isBlank (c : Char) : Bool :=
  c == ' ' || c == '\t'

/-- A letter, a digit or one of the two signs that a name may hold. -/
def isNameChar (c : Char) : Bool :=
  c.isAlphanum || c == '-' || c == '_'

/-- The characters with every line end as a single character. -/
def normalizeBreaks : List Char → List Char
  | '\r' :: '\n' :: rest => '\n' :: normalizeBreaks rest
  | '\r' :: rest | '\u0085' :: rest => '\n' :: normalizeBreaks rest
  | c :: rest => c :: normalizeBreaks rest
  | [] => []

namespace Source

/-- The places of characters, after those in `done`, last first. -/
def place : List Char → Nat → Nat → Nat → Source → Source
  | [], _, _, _, done => done.reverse
  | c :: rest, line, column, offset, done =>
    let done := ⟨c, line, column, offset⟩ :: done
    if isBreak c then place rest (line + 1) 0 0 done
    else place rest line (column + 1) (offset + c.utf8Size) done

/-- The source of a text. -/
def ofString? (text : String) : Option Source :=
  if text.toList.all isAllowed then some (place (normalizeBreaks text.toList) 0 0 0 []) else none

/-- The characters of a source. -/
def chars (s : Source) : List Char :=
  s.map Place.char

/-- The next character is `c`. -/
def startsWith (s : Source) (c : Char) : Bool :=
  s.head?.any (·.char == c)

/-- Nothing is left of the word: a blank, a line end or the end of the text is next. -/
def atWordEnd (s : Source) : Bool :=
  s.head?.all fun p => isBlank p.char || isBreak p.char

/-- Nothing is left of the line. -/
def atLineEnd (s : Source) : Bool :=
  s.head?.all fun p => isBreak p.char

/-- Three times `c` at the start of a line and alone. -/
def atMark (c : Char) : Source → Bool
  | p :: q :: r :: rest =>
    p.column == 0 && p.char == c && q.char == c && r.char == c && atWordEnd rest
  | _ => false

/-- The start or the end of a document is marked here. -/
def atDocumentMark (s : Source) : Bool :=
  s.atMark '-' || s.atMark '.'

/-- The source behind blanks. -/
def skipBlanks (s : Source) : Source :=
  s.dropWhile fun p => isBlank p.char

/-- The source from the next line end on. -/
def skipLine (s : Source) : Source :=
  s.dropWhile fun p => !isBreak p.char

/-- The source of the next line, where nothing but blanks and a comment is left on this one. -/
def endLine? (s : Source) : Option Source :=
  let s := s.skipBlanks
  let s := if s.startsWith '#' then s.skipLine else s
  if s.atLineEnd then some s.tail else none

/-- The mark of the byte order, which counts for nothing in front of a line. -/
def isOrderMark (p : Place) : Bool :=
  p.column == 0 && p.char == '\ufeff'

/-- The source behind blanks, line ends and comments, and whether a key may stand there: at the
start of a line of a block it always may, and then no tab may stand before it. -/
def skipToToken (inFlow : Bool) : Source → Bool → Bool → Source × Bool
  | [], _, keyAllowed => ([], keyAllowed)
  | p :: rest, inComment, keyAllowed =>
    -- a new line of a block may begin with a key
    if isBreak p.char then skipToToken inFlow rest false (keyAllowed || !inFlow)
    else if inComment || p.char == ' ' || (p.char == '\t' && (inFlow || !keyAllowed)) ||
        isOrderMark p then
      skipToToken inFlow rest inComment keyAllowed
    else if p.char == '#' then skipToToken inFlow rest true keyAllowed
    else (p :: rest, keyAllowed)

end Source

end ChannelHandshake.Yaml
