import ChannelHandshake.Json.Value

/-!
# JSON text

Texts are written without blanks. A string escapes the quote, the backslash and the controls, the
latter by letter where JSON has one, and nothing else.
-/

namespace ChannelHandshake.Json

/-- One character of a text as it is written inside a string. -/
def escapedChar (c : Char) : List Char :=
  match c with
  | '"' => ['\\', '"']
  | '\\' => ['\\', '\\']
  | '\x08' => ['\\', 'b']
  | '\x0c' => ['\\', 'f']
  | '\n' => ['\\', 'n']
  | '\r' => ['\\', 'r']
  | '\t' => ['\\', 't']
  | c =>
    if c < ' ' then
      ['\\', 'u', '0', '0', Hex.digitChar (c.toNat / 16), Hex.digitChar (c.toNat % 16)]
    else [c]

/-- A text as a JSON string, between its quotes. -/
def quote (text : String) : List Char :=
  '"' :: text.toList.flatMap escapedChar ++ ['"']

/-- A token written out. A string that denotes no text is written as half a surrogate pair. -/
def Token.spelling : Token → List Char
  | .openArray => ['[']
  | .closeArray => [']']
  | .openObject => ['\x7b']
  | .closeObject => ['\x7d']
  | .comma => [',']
  | .colon => [':']
  | .null => ['n', 'u', 'l', 'l']
  | .bool true => ['t', 'r', 'u', 'e']
  | .bool false => ['f', 'a', 'l', 's', 'e']
  | .number n => n.spelling
  | .string (some text) => quote text
  | .string none => ['"', '\\', 'u', 'd', '8', '0', '0', '"']

/-- The tokens of several values with commas between them. -/
def commaSeparated (parts : List (List Token)) : List Token :=
  (parts.intersperse [.comma]).flatten

/-- The tokens of a value in the order of its text. -/
def Value.tokens : Value → List Token
  | .null => [.null]
  | .bool b => [.bool b]
  | .number n => [.number n]
  | .string s => [.string s]
  | .array items => .openArray :: commaSeparated (items.map tokens) ++ [.closeArray]
  | .object members =>
    .openObject :: commaSeparated (members.map fun m => .string m.1 :: .colon :: m.2.tokens)
      ++ [.closeObject]
decreasing_by
  · decreasing_tactic
  · have := List.sizeOf_lt_of_mem ‹_ ∈ members›
    cases ‹Option String × Value›
    simp_all
    omega

/-- The text of a value, without blanks. -/
def Value.render (v : Value) : String :=
  String.ofList (v.tokens.flatMap Token.spelling)

end ChannelHandshake.Json
