import ChannelHandshake.Json.Printer
import ChannelHandshake.Proofs.Utf8

/-!
# The grammar of JSON texts

What a payload has to look like, said without a reader: each token has its spellings, and a text is
the tokens of its value, each in one of its spellings, with blanks around them (`Spells`).

A string is given twice. `SpellsText` writes a text, each character plain, as an escape by letter or
as its UTF-16 units; `IsStringBody` is all that the grammar asks of a string, which may then denote
no text: its bytes need not be UTF-8, nor its units characters.
-/

namespace ChannelHandshake.Json

/-! ## Strings -/

/-- The letters of the short escapes with what they stand for. -/
def escapes : List (Char × Char) :=
  [('"', '"'), ('\\', '\\'), ('/', '/'), ('b', '\x08'), ('f', '\x0c'), ('n', '\n'), ('r', '\r'),
    ('t', '\t')]

/-- An escape by number: four digits of either case. -/
inductive SpellsUnit : List Char → Nat → Prop where
  | digits {a b c d : Char} {unit : Nat} (hvalue : Hex.value? [a, b, c, d] = some unit) :
      SpellsUnit ['\\', 'u', a, b, c, d] unit

/-- A character inside a string. -/
inductive SpellsChar : List Char → Char → Prop where
  | plain {c : Char} (hcontrol : ' ' ≤ c) (hquote : c ≠ '"') (hslash : c ≠ '\\') : SpellsChar [c] c
  | letter {e c : Char} (hescape : (e, c) ∈ escapes) : SpellsChar ['\\', e] c
  | unit {spelling : List Char} {c : Char} (hunit : SpellsUnit spelling c.toNat) :
      SpellsChar spelling c
  /-- A surrogate pair: two units of ten bits each, for a character beyond U+FFFF. -/
  | pair {spelling spelling' : List Char} {c : Char} (hc : 0x10000 ≤ c.toNat)
      (hhigh : SpellsUnit spelling (0xD800 + (c.toNat - 0x10000) / 0x400))
      (hlow : SpellsUnit spelling' (0xDC00 + (c.toNat - 0x10000) % 0x400)) :
      SpellsChar (spelling ++ spelling') c

/-- The inside of a string that denotes a text. -/
inductive SpellsText : List Char → List Char → Prop where
  | nil : SpellsText [] []
  | cons {spelling rest : List Char} {c : Char} {text : List Char} (hc : SpellsChar spelling c)
      (hrest : SpellsText rest text) : SpellsText (spelling ++ rest) (c :: text)

/-- The inside of a string, whether it denotes a text or not. -/
inductive IsStringBody : List UInt8 → Prop where
  | nil : IsStringBody []
  | byte {b : UInt8} {rest : List UInt8} (hcontrol : 0x20 ≤ b) (hquote : b ≠ 0x22)
      (hslash : b ≠ 0x5C) (hrest : IsStringBody rest) : IsStringBody (b :: rest)
  | letter {e c : Char} {rest : List UInt8} (hescape : (e, c) ∈ escapes)
      (hrest : IsStringBody rest) : IsStringBody (Utf8.ofChars ['\\', e] ++ rest)
  | unit {spelling : List Char} {unit : Nat} {rest : List UInt8}
      (hunit : SpellsUnit spelling unit) (hrest : IsStringBody rest) :
      IsStringBody (Utf8.ofChars spelling ++ rest)

/-- The inside of a string with the text that it denotes, if any. -/
inductive SpellsString : List UInt8 → Option String → Prop where
  | text {spelling : List Char} {text : String} (htext : SpellsText spelling text.toList) :
      SpellsString (Utf8.ofChars spelling) (some text)
  | other {body : List UInt8} (hbody : IsStringBody body)
      (hother : ∀ spelling text, body = Utf8.ofChars spelling → ¬SpellsText spelling text) :
      SpellsString body none

/-! ## Numbers -/

/-- A row of decimal digits. -/
def IsRow (row : List Nat) : Prop :=
  ∀ digit ∈ row, digit < 10

/-- The digits that the parts of a number consist of. -/
structure Number.IsWellFormed (n : Number) : Prop where
  whole : IsRow n.whole
  /-- A number has a digit, and begins with a zero only if this is all before the point. -/
  leading : n.whole = [0] ∨ ∃ first ∈ n.whole.head?, first ≠ 0
  fraction : IsRow n.fraction
  exponent : ∀ e ∈ n.exponent, e.2 ≠ [] ∧ IsRow e.2

/-- The point with the digits behind it; nothing where there are none. -/
def Number.fractionSpelling (row : List Nat) : List Char :=
  if row = [] then [] else '.' :: digits row

/-- The ways of writing the sign of an exponent. -/
def Number.signSpellings (negative : Bool) : List (List Char) :=
  if negative then [['-']] else [[], ['+']]

/-- The ways of writing an exponent. -/
def Number.exponentSpellings : Option (Bool × List Nat) → List (List Char)
  | none => [[]]
  | some (negative, row) =>
    ['e', 'E'].flatMap fun mark =>
      (signSpellings negative).map fun sign => mark :: sign ++ digits row

/-- A number as it is written, without its sign. -/
inductive SpellsUnsigned : List Char → Number → Prop where
  | intro {n : Number} {exponent : List Char} (hn : n.IsWellFormed)
      (hexponent : exponent ∈ Number.exponentSpellings n.exponent) :
      SpellsUnsigned (Number.digits n.whole ++ (Number.fractionSpelling n.fraction ++ exponent)) n

/-- A number as it is written. -/
inductive SpellsNumber : List Char → Number → Prop where
  | plain {spelling : List Char} {n : Number} (hsign : n.negative = false)
      (hn : SpellsUnsigned spelling n) : SpellsNumber spelling n
  | minus {spelling : List Char} {n : Number} (hsign : n.negative = true)
      (hn : SpellsUnsigned spelling n) : SpellsNumber ('-' :: spelling) n

/-! ## Tokens -/

/-- A token as it is written: marks and literals in one way. -/
inductive SpellsToken : List UInt8 → Token → Prop where
  | fixed {t : Token} (hnumber : ∀ n, t ≠ .number n) (hstring : ∀ text, t ≠ .string text) :
      SpellsToken (Utf8.ofChars t.spelling) t
  | number {spelling : List Char} {n : Number} (hn : SpellsNumber spelling n) :
      SpellsToken (Utf8.ofChars spelling) (.number n)
  | string {body : List UInt8} {text : Option String} (hbody : SpellsString body text) :
      SpellsToken (0x22 :: body ++ [0x22]) (.string text)

/-- The characters that may stand around a token. -/
def blanks : List Char :=
  [' ', '\t', '\n', '\r']

/-- Tokens as they are written, with blanks around them and nothing else. -/
inductive Spells : List UInt8 → List Token → Prop where
  | nil : Spells [] []
  | blank {c : Char} {rest : List UInt8} {tokens : List Token} (hc : c ∈ blanks)
      (hrest : Spells rest tokens) : Spells (Utf8.ofChars [c] ++ rest) tokens
  | token {spelling rest : List UInt8} {t : Token} {tokens : List Token}
      (ht : SpellsToken spelling t) (hrest : Spells rest tokens) :
      Spells (spelling ++ rest) (t :: tokens)

end ChannelHandshake.Json
