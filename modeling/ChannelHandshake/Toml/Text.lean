import ChannelHandshake.Text.Hex

/-!
# TOML: blanks, strings and keys

The smallest parts of a TOML text. Every reader gets the characters that are left and returns what
it read with the characters behind it.
-/

namespace ChannelHandshake.Toml

/-- A character that no TOML text holds, line ends apart. -/
def isControl (c : Char) : Bool :=
  (c < ' ' && c != '\t') || c == '\x7f'

/-- The text behind spaces and tabs. -/
def skipBlanks (text : List Char) : List Char :=
  text.dropWhile fun c => c == ' ' || c == '\t'

/-- The text behind a line end. -/
def newline? : List Char → Option (List Char)
  | '\n' :: rest => some rest
  | '\r' :: '\n' :: rest => some rest
  | _ => none

/-- The text from the line end on that ends a comment. -/
def commentEnd? : List Char → Option (List Char)
  | [] => some []
  | c :: rest =>
    if (newline? (c :: rest)).isSome then some (c :: rest)
    else if isControl c then none
    else commentEnd? rest

/-- The text behind a comment, if there is one. -/
def skipComment? : List Char → Option (List Char)
  | '#' :: rest => commentEnd? rest
  | text => some text

/-- The text of the next line, where nothing but blanks and a comment is left on this one. -/
def endLine? (text : List Char) : Option (List Char) := do
  match ← skipComment? (skipBlanks text) with
  | [] => some []
  | rest => newline? rest

/-- The text behind blanks, comments and line ends; `fuel` bounds their number. -/
def skipLines? : Nat → List Char → Option (List Char)
  | 0, text => some text
  | fuel + 1, text => do
    let rest ← skipComment? (skipBlanks text)
    match newline? rest with
    | some next => skipLines? fuel next
    | none => some rest

/-! ## Strings -/

/-- The character of so many hexadecimal digits. -/
def charOfDigits? (count : Nat) (text : List Char) : Option (Char × List Char) :=
  (Hex.char? count (text.take count)).map (·, text.drop count)

/-- The character of the escape that begins behind a backslash. -/
def escape? : List Char → Option (Char × List Char)
  | 'b' :: rest => some ('\x08', rest)
  | 't' :: rest => some ('\t', rest)
  | 'n' :: rest => some ('\n', rest)
  | 'f' :: rest => some ('\x0c', rest)
  | 'r' :: rest => some ('\r', rest)
  | '"' :: rest => some ('"', rest)
  | '\\' :: rest => some ('\\', rest)
  | 'u' :: rest => charOfDigits? 4 rest
  | 'U' :: rest => charOfDigits? 8 rest
  | _ => none

/-- A basic string behind its opening quote. -/
def basicString? : Nat → List Char → List Char → Option (List Char × List Char)
  | 0, _, _ => none
  | _, '"' :: rest, done => some (done.reverse, rest)
  | fuel + 1, '\\' :: rest, done => do
    let (c, rest) ← escape? rest
    basicString? fuel rest (c :: done)
  | fuel + 1, c :: rest, done => if isControl c then none else basicString? fuel rest (c :: done)
  | _, [], _ => none

/-- A literal string behind its opening quote. -/
def literalString? : List Char → List Char → Option (List Char × List Char)
  | '\'' :: rest, done => some (done.reverse, rest)
  | c :: rest, done => if isControl c then none else literalString? rest (c :: done)
  | [], _ => none

/-- The text behind blanks and line ends. -/
def skipBlankLines : List Char → List Char
  | ' ' :: rest | '\t' :: rest | '\n' :: rest => skipBlankLines rest
  | '\r' :: '\n' :: rest => skipBlankLines rest
  | text => text

/-- The text behind a backslash at the end of a line and the blanks of the lines that follow. -/
def skipFold? (text : List Char) : Option (List Char) :=
  (newline? (skipBlanks text)).map skipBlankLines

/-- A string of several lines between triple quotes. Up to two quotes may stand right before the
closing ones; `escapes` says whether a backslash begins an escape. -/
def multilineString? (quote : Char) (escapes : Bool) :
    Nat → List Char → List Char → Option (List Char × List Char)
  | 0, _, _ => none
  | fuel + 1, text, done =>
    match text with
    | [] => none
    | c :: rest =>
      if c = quote then
        -- the last three of the quotes close the string
        let count := min 5 (text.takeWhile (· == quote)).length
        if count < 3 then multilineString? quote escapes fuel rest (c :: done)
        else some ((List.replicate (count - 3) quote ++ done).reverse, text.drop count)
      else
        match newline? text with
        | some rest => multilineString? quote escapes fuel rest ('\n' :: done)
        | none =>
          if c = '\\' ∧ escapes then
            match skipFold? rest with
            | some rest => multilineString? quote escapes fuel rest done
            | none =>
              match escape? rest with
              | some (e, rest) => multilineString? quote escapes fuel rest (e :: done)
              | none => none
          else if isControl c then none
          else multilineString? quote escapes fuel rest (c :: done)

/-- The text behind a line end that follows opening quotes directly. -/
def trimFirstLine (text : List Char) : List Char :=
  (newline? text).getD text

/-- A string of any form; `fuel` bounds its length. -/
def string? (fuel : Nat) (text : List Char) : Option (List Char × List Char) :=
  match text with
  | '"' :: '"' :: '"' :: rest => multilineString? '"' true fuel (trimFirstLine rest) []
  | '\'' :: '\'' :: '\'' :: rest => multilineString? '\'' false fuel (trimFirstLine rest) []
  | '"' :: rest => basicString? fuel rest []
  | '\'' :: rest => literalString? rest []
  | _ => none

/-! ## Keys -/

/-- A character of a key without quotes. -/
def isBareKeyChar (c : Char) : Bool :=
  c.isAlphanum || c == '_' || c == '-'

/-- One part of a key; `fuel` bounds its length. -/
def keyPart? (fuel : Nat) (text : List Char) : Option (String × List Char) :=
  match text with
  | '"' :: rest => (basicString? fuel rest []).map fun (s, r) => (String.ofList s, r)
  | '\'' :: rest => (literalString? rest []).map fun (s, r) => (String.ofList s, r)
  | _ =>
    match text.takeWhile isBareKeyChar with
    | [] => none
    | part => some (String.ofList part, text.dropWhile isBareKeyChar)

/-- One or more parts of a key with dots between them; `fuel` bounds their length. -/
def keyParts? : Nat → List Char → Option (List String × List Char)
  | 0, _ => none
  | fuel + 1, text => do
    let (part, rest) ← keyPart? fuel (skipBlanks text)
    match skipBlanks rest with
    | '.' :: rest => (keyParts? fuel rest).map fun (parts, rest) => (part :: parts, rest)
    | rest => some ([part], rest)

/-- How many parts a key may have, and how many arrays and inline tables may be inside one
another. -/
def maxDepth : Nat :=
  79

/-- A key; `fuel` bounds its length. -/
def key? (fuel : Nat) (text : List Char) : Option (List String × List Char) :=
  (keyParts? fuel text).filter fun (parts, _) => parts.length ≤ maxDepth

end ChannelHandshake.Toml
