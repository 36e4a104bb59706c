import ChannelHandshake.Toml.DateTime
import ChannelHandshake.Toml.Text

/-!
# TOML: values and statements

A TOML text is a row of statements: the header of a table, the header of one table of an array, or
a key with its value. Arrays and inline tables may be inside one another to a limit.
-/

namespace ChannelHandshake.Toml

/-- A value as it is written. -/
inductive Literal where
  | text (value : String)
  | flag (value : Bool)
  | number
  | dateTime (value : DateTime)
  | array (items : List Literal)
  /-- The keys of an inline table with their values, in order. -/
  | table (pairs : List (List String × Literal))

/-- A statement. -/
inductive Statement where
  | header (key : List String)
  | itemHeader (key : List String)
  | pair (key : List String) (value : Literal)

/-! ## Numbers, dates and times -/

/-- A row of characters with every digit put as `0`. -/
def digitShape (text : List Char) : String :=
  String.ofList (text.map fun c => if c.isDigit then '0' else c)

/-- A character of a number, a date or a time. -/
def isQuantityChar (c : Char) : Bool :=
  c.isAlphanum || c == '+' || c == '-' || c == '_' || c == '.' || c == ':'

/-- The characters of a number, a date or a time in front; a date may go on behind one space. -/
def quantityChars (text : List Char) : List Char :=
  let first := text.takeWhile isQuantityChar
  match text.drop first.length with
  | ' ' :: rest =>
    if digitShape first == "0000-00-00" && digitShape (rest.take 3) == "00:" then
      first ++ ' ' :: rest.takeWhile isQuantityChar
    else first
  | _ => first

/-! ## Values -/

mutual

/-- A value. Here and below `fuel` is at least twice the length of the text, and so bounds whatever
is counted in it; `depth` is the number of arrays and inline tables that may still be opened. -/
def value? : Nat → Nat → List Char → Option (Literal × List Char)
  | 0, _, _ => none
  | fuel + 1, depth, text =>
    let inside := depth - 1
    match text with
    | '[' :: rest =>
      if depth = 0 then none
      else do
        let (items, rest) ← items? fuel inside (← skipLines? fuel rest) []
        return (.array items, rest)
    | '\x7b' :: rest =>
      if depth = 0 then none
      else
        match skipBlanks rest with
        | '\x7d' :: rest => some (.table [], rest)
        | rest => do
          let (pairs, rest) ← pairs? fuel inside rest []
          return (.table pairs, rest)
    | 't' :: 'r' :: 'u' :: 'e' :: rest => some (.flag true, rest)
    | 'f' :: 'a' :: 'l' :: 's' :: 'e' :: rest => some (.flag false, rest)
    | c :: _ =>
      if c = '"' ∨ c = '\'' then
        (string? fuel text).map fun (s, rest) => (.text (String.ofList s), rest)
      else
        let word := quantityChars text
        let rest := text.drop word.length
        match DateTime.ofChars? word with
        | some value => some (.dateTime value, rest)
        | none => if isNumber word then some (.number, rest) else none
    | [] => none

/-- The items of an array up to its closing bracket, after those in `done`, last first. -/
def items? : Nat → Nat → List Char → List Literal → Option (List Literal × List Char)
  | 0, _, _, _ => none
  | fuel + 1, depth, text, done =>
    match text with
    | ']' :: rest => some (done.reverse, rest)
    | _ => do
      let (item, rest) ← value? fuel depth text
      match ← skipLines? fuel rest with
      | ',' :: rest => items? fuel depth (← skipLines? fuel rest) (item :: done)
      | ']' :: rest => some ((item :: done).reverse, rest)
      | _ => none

/-- The pairs of an inline table up to its closing brace, after those in `done`, last first. -/
def pairs? : Nat → Nat → List Char → List (List String × Literal) →
    Option (List (List String × Literal) × List Char)
  | 0, _, _, _ => none
  | fuel + 1, depth, text, done => do
    let (key, rest) ← key? fuel text
    match rest with
    | '=' :: rest =>
      let (value, rest) ← value? fuel depth (skipBlanks rest)
      match skipBlanks rest with
      | ',' :: rest => pairs? fuel depth rest ((key, value) :: done)
      | '\x7d' :: rest => some (((key, value) :: done).reverse, rest)
      | _ => none
    | _ => none

end

/-! ## Statements -/

/-- The statement at the front of a line that is not blank. -/
def statement? (fuel : Nat) (text : List Char) : Option (Statement × List Char) :=
  match text with
  | '[' :: '[' :: rest => do
    match ← key? fuel rest with
    | (key, ']' :: ']' :: rest) => some (.itemHeader key, rest)
    | _ => none
  | '[' :: rest => do
    match ← key? fuel rest with
    | (key, ']' :: rest) => some (.header key, rest)
    | _ => none
  | _ => do
    match ← key? fuel text with
    | (key, '=' :: rest) =>
      let (value, rest) ← value? fuel maxDepth (skipBlanks rest)
      return (.pair key value, rest)
    | _ => none

/-- The statements of a text, after those in `done`, last first. Every line takes a unit of fuel and
at least one character. -/
def statementsAfter? : Nat → List Char → List Statement → Option (List Statement)
  | 0, _, done => some done.reverse
  | fuel + 1, text, done =>
    match text with
    | [] => some done.reverse
    | _ =>
      match endLine? text with
      | some rest => statementsAfter? fuel rest done
      | none => do
        let (s, rest) ← statement? fuel (skipBlanks text)
        statementsAfter? fuel (← endLine? rest) (s :: done)

/-- The statements of a text. A mark of the byte order in front is skipped. -/
def statements? (text : String) : Option (List Statement) :=
  let fuel := 2 * text.length + 2
  match text.toList with
  | '\ufeff' :: rest => statementsAfter? fuel rest []
  | chars => statementsAfter? fuel chars []

end ChannelHandshake.Toml
