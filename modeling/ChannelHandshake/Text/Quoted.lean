import ChannelHandshake.Text.Invisible

/-!
# Quoted text

A text shown inside a message stands between double quotes. What could be mistaken for something
else is written as an escape: the quote and the backslash, line ends and tabs, and every character
that has no glyph of its own.
-/

namespace ChannelHandshake.Text

/-- The digits of `n` in base 16, lower case and without leading zeros. -/
def lowerHex (n : Nat) : String :=
  String.ofList (Nat.toDigits 16 n)

/-- One character as it stands between the quotes. -/
def quotedChar (c : Char) : String :=
  match c with
  | '"' => "\\\""
  | '\\' => "\\\\"
  | '\n' => "\\n"
  | '\r' => "\\r"
  | '\t' => "\\t"
  | '\x00' => "\\0"
  | c =>
    if isInvisible c then "\\u\x7b" ++ lowerHex c.toNat ++ "\x7d"
    else c.toString

/-- `text` between double quotes. -/
def quoted (text : String) : String :=
  "\"" ++ String.join (text.toList.map quotedChar) ++ "\""

end ChannelHandshake.Text
