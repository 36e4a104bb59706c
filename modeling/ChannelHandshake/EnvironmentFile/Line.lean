import ChannelHandshake.Text.Letter
import ChannelHandshake.Text.Utf8

/-!
# Environment files: lines

A line of the file ends at its line end, unless a quote or an escape is still open there; then the
next line belongs to it. Quotes and escapes are followed by a machine that reads one character at a
time. A number sign behind a blank begins a comment, and so does one in front of everything else.
-/

namespace ChannelHandshake.EnvironmentFile

/-- Where in a line the machine is. -/
inductive LineState where
  | complete
  /-- Behind a blank. -/
  | blank
  | escape
  | strong
  | strongEscape
  | weak
  | weakEscape
  /-- At the number sign of a comment. -/
  | comment
deriving DecidableEq, Repr

/-- The state behind a character outside of quotes. -/
def LineState.outside (c : Char) : LineState :=
  if c = '\\' then escape
  else if c = '"' then weak
  else if c = '\'' then strong
  else complete

/-- The state behind one more character. -/
def LineState.step (s : LineState) (c : Char) : LineState :=
  match s with
  | complete =>
    if Text.isBlank c ∧ c ≠ '\n' ∧ c ≠ '\r' then blank else outside c
  | blank => if c = '#' then comment else outside c
  | escape => complete
  | strong => if c = '\\' then strongEscape else if c = '\'' then complete else strong
  | strongEscape => strong
  | weak => if c = '\\' then weakEscape else if c = '"' then complete else weak
  | weakEscape => weak
  | comment => comment

/-- Reads on in a line, up to a comment. The characters read so far are held last first. -/
def LineState.scan : LineState → List Char → List Char → LineState × List Char
  | s, [], done => (s, done)
  | s, c :: rest, done =>
    match s.step c with
    | comment => (comment, done)
    | s => scan s rest (c :: done)

/-- The bytes of a file cut behind every line feed, after the lines in `done`, last first. -/
def physicalAfter : List UInt8 → List UInt8 → List (List UInt8) → List (List UInt8)
  | [], [], done => done.reverse
  | [], line, done => (line.reverse :: done).reverse
  | b :: rest, line, done =>
    if b = 10 then physicalAfter rest [] ((b :: line).reverse :: done)
    else physicalAfter rest (b :: line) done

/-- The texts of the lines of a file; none for a line that is no text. -/
def physical (bytes : List UInt8) : List (Option (List Char)) :=
  (physicalAfter bytes [] []).map fun line => (Utf8.text? line).map String.toList

/-- The line without its line end, from its characters, last first. -/
def dropLineEnd : List Char → List Char
  | '\n' :: '\r' :: rest => rest.reverse
  | '\n' :: rest => rest.reverse
  | rest => rest.reverse

/-- The lines that hold assignments, where `done` are the characters of the line that is open, last
first. The list ends with none where a line is no text or its quotes are never closed. -/
def logicalAfter :
    List (Option (List Char)) → LineState → List Char → List (Option (List Char))
  | [], .complete, _ => []
  | [], _, _ => [none]
  | none :: _, _, _ => [none]
  | some line :: rest, s, done =>
    -- a line that begins with a comment is skipped whole
    if (done.reverse ++ line).dropWhile Text.isBlank |>.head? |>.any (· == '#') then
      logicalAfter rest .complete []
    else
      match s.scan line done with
      | (.complete, done) => some (dropLineEnd done) :: logicalAfter rest .complete []
      | (.comment, done) => some done.reverse :: logicalAfter rest .complete []
      | (s, done) => logicalAfter rest s done

/-- The file without the mark of the byte order. -/
def dropByteOrderMark : List UInt8 → List UInt8
  | 0xEF :: 0xBB :: 0xBF :: rest => rest
  | bytes => bytes

/-- The lines of a file. -/
def lines (bytes : List UInt8) : List (Option (List Char)) :=
  logicalAfter (physical (dropByteOrderMark bytes)) .complete []

end ChannelHandshake.EnvironmentFile
