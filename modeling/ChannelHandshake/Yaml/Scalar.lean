import ChannelHandshake.Text.Hex
import ChannelHandshake.Yaml.Source

/-!
# YAML: scalars

A scalar is a text in one of five styles. Plain and quoted ones fold their lines: a single line end
between two words becomes a space, and of several the first one is dropped. Block scalars keep
their lines or fold them, and their head says what becomes of the line ends at the end.
-/

namespace ChannelHandshake.Yaml

/-- How a scalar is written. -/
inductive Style where
  | plain
  | singleQuoted
  | doubleQuoted
  | literal
  | folded
deriving DecidableEq, Repr

namespace Scalar

/-! ## Gaps between words -/

/-- The line ends up to the next word after those in `done`, last first, and the source behind
them. Blanks before the word count for nothing, but a tab left of the column `floor` is refused. -/
def breaks? (floor : Nat) : Source → List Char → Option (List Char × Source)
  | [], done => some (done.reverse, [])
  | p :: rest, done =>
    if isBreak p.char then breaks? floor rest (p.char :: done)
    else if p.char = '\t' ∧ p.column < floor then none
    else if isBlank p.char then breaks? floor rest done
    else some (done.reverse, p :: rest)

/-- What the line ends between two words stand for. -/
def fold : List Char → List Char
  | ['\n'] => [' ']
  | '\n' :: rest => rest
  | breaks => breaks

/-- What stands between two words. -/
structure Gap where
  text : List Char
  /-- The next word is on another line. -/
  crossesLine : Bool

/-- The gap at the front of a source, and the source behind it. -/
def gap? (floor : Nat) (s : Source) : Option (Gap × Source) := do
  let blanks := s.takeWhile fun p => isBlank p.char
  match ← breaks? floor s.skipBlanks [] with
  | ([], rest) => return (⟨blanks.map Place.char, false⟩, rest)
  | (breaks, rest) => return (⟨fold breaks, true⟩, rest)

/-! ## Plain scalars -/

/-- A character that ends a word inside brackets or braces. -/
def isFlowMark (c : Char) : Bool :=
  [',', '[', ']', '\x7b', '\x7d'].contains c

/-- The characters of a word, last first and before those in `done`. A colon inside brackets or
braces with another mark behind it is refused. -/
def plainWord? (inFlow : Bool) : Source → List Char → Option (List Char × Source)
  | [], done => some (done, [])
  | p :: rest, done =>
    let next := rest.head?.map Place.char
    if isBlank p.char || isBreak p.char then some (done, p :: rest)
    else if inFlow && p.char == ':' && next.any (fun c => c == '?' || isFlowMark c) then none
    else if (p.char == ':' && Source.atWordEnd rest) || (inFlow && isFlowMark p.char) then
      some (done, p :: rest)
    else plainWord? inFlow rest (p.char :: done)

/-- A scalar with the source behind it, and whether the two are on different lines. -/
structure Plain where
  text : List Char
  rest : Source
  crossesLine : Bool

/-- The words of a plain scalar, after the text `done`, last character first, and a gap; `fuel`
bounds their number. Words left of the column `floor` are not part of it. -/
def plainAfter? (inFlow : Bool) (floor : Nat) :
    Nat → Source → List Char → Gap → Option Plain
  | 0, s, done, gap => some ⟨done.reverse, s, gap.crossesLine⟩
  | fuel + 1, s, done, gap =>
    if s.atDocumentMark || s.startsWith '#' then some ⟨done.reverse, s, gap.crossesLine⟩
    else do
      match ← plainWord? inFlow s [] with
      | ([], _) => return ⟨done.reverse, s, gap.crossesLine⟩
      | (word, rest) =>
        let done := word ++ gap.text.reverse ++ done
        -- the word has ended at a mark
        if rest.isEmpty || !rest.atWordEnd then return ⟨done.reverse, rest, false⟩
        else
          let (gap, rest) ← gap? floor rest
          if !inFlow && rest.head?.any (·.column < floor) then
            return ⟨done.reverse, rest, gap.crossesLine⟩
          else plainAfter? inFlow floor fuel rest done gap

/-- The plain scalar at the front of a source; `fuel` bounds its length. -/
def plain? (fuel : Nat) (inFlow : Bool) (floor : Nat) (s : Source) : Option Plain :=
  plainAfter? inFlow floor fuel s [] ⟨[], false⟩

/-! ## Quoted scalars -/

/-- The character of an escape behind its backslash. -/
def escape? : Source → Option (Char × Source)
  | [] => none
  | p :: rest =>
    let digits (count : Nat) : Option (Char × Source) :=
      (Hex.char? count (Source.chars (rest.take count))).map (·, rest.drop count)
    match p.char with
    | '0' => some ('\x00', rest)
    | 'a' => some ('\x07', rest)
    | 'b' => some ('\x08', rest)
    | 't' | '\t' => some ('\t', rest)
    | 'n' => some ('\n', rest)
    | 'v' => some ('\x0b', rest)
    | 'f' => some ('\x0c', rest)
    | 'r' => some ('\r', rest)
    | 'e' => some ('\x1b', rest)
    | ' ' | '"' | '/' | '\\' => some (p.char, rest)
    | 'N' => some ('\u0085', rest)
    | '_' => some ('\u00a0', rest)
    | 'L' => some ('\u2028', rest)
    | 'P' => some ('\u2029', rest)
    | 'x' => digits 2
    | 'u' => digits 4
    | 'U' => digits 8
    | _ => none

/-- The rest of a scalar between the quotes `quote`, after the text `done`, last character first;
`fuel` bounds its length. -/
def quotedAfter? (quote : Char) : Nat → Source → List Char → Option (List Char × Source)
  | 0, _, _ => none
  | _, [], _ => none
  | fuel + 1, p :: rest, done =>
    let s := p :: rest
    if Source.atDocumentMark s then none
    else if isBlank p.char || isBreak p.char then do
      let (gap, rest) ← gap? 0 s
      quotedAfter? quote fuel rest (gap.text.reverse ++ done)
    else if p.char = quote then
      -- two single quotes stand for one
      if quote = '\'' ∧ Source.startsWith rest '\'' then
        quotedAfter? quote fuel rest.tail ('\'' :: done)
      else some (done.reverse, rest)
    else if p.char = '\\' ∧ quote = '"' then
      if !rest.isEmpty && Source.atLineEnd rest then do
        -- an escaped line end is dropped, those behind it stay
        let (breaks, rest) ← breaks? 0 rest.tail []
        quotedAfter? quote fuel rest (breaks.reverse ++ done)
      else do
        let (c, rest) ← escape? rest
        quotedAfter? quote fuel rest (c :: done)
    else quotedAfter? quote fuel rest (p.char :: done)

/-- A quoted scalar behind its opening quote; `fuel` bounds its length. -/
def quoted? (fuel : Nat) (quote : Char) (s : Source) : Option (List Char × Source) :=
  quotedAfter? quote fuel s []

/-! ## Block scalars -/

/-- What becomes of the line ends at the end of a block scalar. -/
inductive Chomping where
  | strip
  | clip
  | keep
deriving DecidableEq, Repr

/-- The head of a block scalar: what becomes of its last line ends, and how much deeper than its
parent it is; zero leaves that to its first line. -/
structure BlockHead where
  chomping : Chomping
  increment : Nat

/-- The sign of a chomping, and the source behind it. -/
def chomping? : Source → Option (Chomping × Source)
  | [] => none
  | p :: rest =>
    if p.char = '+' then some (.keep, rest)
    else if p.char = '-' then some (.strip, rest)
    else none

/-- A digit, and the source behind it. -/
def increment? : Source → Option (Nat × Source)
  | [] => none
  | p :: rest => if p.char.isDigit then some (p.char.toNat - 48, rest) else none

/-- The signs of a head in either order, and the source behind them. A zero is refused. -/
def blockHead? (s : Source) : Option (BlockHead × Source) :=
  let (chomping, increment, rest) :=
    match chomping? s with
    | some (c, rest) =>
      match increment? rest with
      | some (n, rest) => (c, some n, rest)
      | none => (c, none, rest)
    | none =>
      match increment? s with
      | some (n, rest) =>
        match chomping? rest with
        | some (c, rest) => (c, some n, rest)
        | none => (.clip, some n, rest)
      | none => (.clip, none, s)
  if increment = some 0 then none else some (⟨chomping, increment.getD 0⟩, rest)

/-- The line ends of blank lines, after those in `done`, last first, with the greatest column that
was reached and the source behind. The indentation `indent` is skipped, all of it if that is
zero; a tab in it is refused. -/
def blockBreaks? (indent : Nat) :
    Source → Nat → List Char → Option (List Char × Nat × Source)
  | [], deepest, done => some (done.reverse, deepest, [])
  | p :: rest, deepest, done =>
    let inIndentation := indent = 0 || p.column < indent
    if inIndentation && p.char == ' ' then blockBreaks? indent rest deepest done
    else if inIndentation && p.char == '\t' then none
    else
      let deepest := max deepest p.column
      if isBreak p.char then blockBreaks? indent rest deepest (p.char :: done)
      else some (done.reverse, deepest, p :: rest)

/-- What has been read of a block scalar: its lines, last character first, the line end of the last
one, those of the blank lines behind it, and whether it began with a blank. -/
structure BlockDraft where
  done : List Char
  lineEnd : List Char
  blankLines : List Char
  deeper : Bool

/-- What stands for the line ends in front of a line that does or does not begin with a blank. -/
def BlockDraft.joint (d : BlockDraft) (style : Style) (deeper : Bool) : List Char :=
  if style = .folded ∧ d.lineEnd = ['\n'] ∧ !d.deeper ∧ !deeper then
    if d.blankLines.isEmpty then [' '] else d.blankLines
  else d.lineEnd ++ d.blankLines

/-- The text with its last line ends. -/
def BlockDraft.finish (d : BlockDraft) (chomping : Chomping) : List Char :=
  d.done.reverse ++
    match chomping with
    | .strip => []
    | .clip => d.lineEnd
    | .keep => d.lineEnd ++ d.blankLines

/-- The lines of a block scalar whose indentation is `indent`; `fuel` bounds their number. -/
def blockLines? (style : Style) (indent : Nat) : Nat → Source → BlockDraft →
    Option (BlockDraft × Source)
  | 0, s, d => some (d, s)
  | fuel + 1, s, d =>
    match s with
    | [] => some (d, [])
    | p :: _ =>
      if p.column = indent then do
        let deeper := isBlank p.char
        let line := (s.takeWhile fun q => !isBreak q.char).map Place.char
        let rest := s.skipLine
        let (blankLines, _, next) ← blockBreaks? indent rest.tail 0 []
        blockLines? style indent fuel next
          { done := line.reverse ++ (d.joint style deeper).reverse ++ d.done,
            lineEnd := Source.chars (rest.take 1), blankLines, deeper }
      else some (d, s)

/-- A block scalar behind its indicator, in a block of the column `parent` if there is one; `fuel`
bounds its length. -/
def block? (fuel : Nat) (style : Style) (parent : Option Nat) (s : Source) :
    Option (List Char × Source) := do
  let (head, rest) ← blockHead? s
  let given := if head.increment = 0 then 0 else parent.getD 0 + head.increment
  let (blankLines, deepest, rest) ← blockBreaks? given (← rest.endLine?) 0 []
  -- without an indicator the first line of text tells the indentation
  let floor := max 1 (parent.elim 0 (· + 1))
  let indent := if given = 0 then max deepest floor else given
  let (d, rest) ← blockLines? style indent fuel rest ⟨[], [], blankLines, false⟩
  return (d.finish head.chomping, rest)

end Scalar

end ChannelHandshake.Yaml
