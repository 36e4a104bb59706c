import ChannelHandshake.Text.Utf8
import ChannelHandshake.Text.Hex
import ChannelHandshake.Json.Number

/-!
# JSON tokens

The marks, literals, numbers and strings of a JSON text. `scan?` reads the tokens of a payload and
fails where the next characters begin no token.

A string is scanned in two steps. The grammar admits any characters but the controls, bytes that
are no UTF-8, and escapes of half a surrogate pair; `Piece.text?` then says whether such a string
denotes a text at all. A token keeps `none` for one that does not, so that a reader may skip it
where nobody asks for its text.

Main statement: `length_scanOne`, every token takes at least one character.
-/

namespace ChannelHandshake.Json

/-- One element of a string between its quotes. -/
inductive Piece where
  | char (c : Char)
  /-- A byte that is part of no character. -/
  | stray
  /-- An escape by number: a UTF-16 unit. -/
  | unit (value : Nat)
deriving DecidableEq, Repr

/-- The first half of a surrogate pair. -/
def isHighSurrogate (unit : Nat) : Bool :=
  0xD800 ≤ unit && unit < 0xDC00

/-- The second half of a surrogate pair. -/
def isLowSurrogate (unit : Nat) : Bool :=
  0xDC00 ≤ unit && unit < 0xE000

/-- The character beyond U+FFFF that a surrogate pair stands for. -/
def ofSurrogates (high low : Nat) : Char :=
  Char.ofNat (0x10000 + (high - 0xD800) * 0x400 + (low - 0xDC00))

/-- The characters of a string after those in `done`, which are held last first. -/
def Piece.charsAfter : List Piece → List Char → Option (List Char)
  | [], done => some done.reverse
  | .char c :: rest, done => charsAfter rest (c :: done)
  | .stray :: _, _ => none
  | .unit high :: .unit low :: rest, done =>
    if isHighSurrogate high then
      if isLowSurrogate low then charsAfter rest (ofSurrogates high low :: done) else none
    else if isLowSurrogate high then none
    else charsAfter (.unit low :: rest) (Char.ofNat high :: done)
  | .unit value :: rest, done =>
    if isHighSurrogate value || isLowSurrogate value then none
    else charsAfter rest (Char.ofNat value :: done)

/-- The text a string denotes: none if it holds a stray byte or half a surrogate pair. -/
def Piece.text? (pieces : List Piece) : Option String :=
  (Piece.charsAfter pieces []).map String.ofList

/-- A token; a string carries the text it denotes, if any. -/
inductive Token where
  | openArray | closeArray | openObject | closeObject | comma | colon
  | null
  | bool (value : Bool)
  | number (value : Number)
  | string (text : Option String)
deriving DecidableEq, Repr

/-- The UTF-16 unit of four hexadecimal digits. -/
def unit? (a b c d : Symbol) : Option Nat := do
  let digit (s : Symbol) := s.bind Hex.digit?
  return (((← digit a) * 16 + (← digit b)) * 16 + (← digit c)) * 16 + (← digit d)

/-- The character that a backslash and `c` stand for. -/
def escaped? (c : Char) : Option Char :=
  match c with
  | '"' => some '"'
  | '\\' => some '\\'
  | '/' => some '/'
  | 'b' => some '\x08'
  | 'f' => some '\x0c'
  | 'n' => some '\n'
  | 'r' => some '\r'
  | 't' => some '\t'
  | _ => none

/-- The rest of a string whose opening quote and first pieces `done` (last first) are read, and the
symbols after its closing quote. -/
def scanString : List Symbol → List Piece → Option (List Piece × List Symbol)
  | [], _ => none
  | none :: rest, done => scanString rest (.stray :: done)
  | some '"' :: rest, done => some (done.reverse, rest)
  | some '\\' :: some 'u' :: a :: b :: c :: d :: rest, done =>
    match unit? a b c d with
    | some value => scanString rest (.unit value :: done)
    | none => none
  | some '\\' :: some e :: rest, done =>
    match escaped? e with
    | some c => scanString rest (.char c :: done)
    | none => none
  | some c :: rest, done => if c = '\\' ∨ c < ' ' then none else scanString rest (.char c :: done)

/-- A decimal digit's value. -/
def digit? (s : Symbol) : Option Nat :=
  s.bind fun c => if '0' ≤ c ∧ c ≤ '9' then some (c.toNat - 48) else none

/-- The digits in front, after those in `done` (last first), and what follows them. -/
def scanDigits : List Symbol → List Nat → List Nat × List Symbol
  | [], done => (done.reverse, [])
  | s :: rest, done =>
    match digit? s with
    | some d => scanDigits rest (d :: done)
    | none => (done.reverse, s :: rest)

/-- One or more digits, and what follows them. -/
def scanDigits1 : List Symbol → Option (List Nat × List Symbol)
  | [] => none
  | s :: rest => (digit? s).map fun d => scanDigits rest [d]

/-- The digits before the point: a lone zero, or digits that begin with another one. -/
def scanWhole : List Symbol → Option (List Nat × List Symbol)
  | some '0' :: rest => some ([0], rest)
  | symbols => scanDigits1 symbols

/-- The point and the digits behind it, if there is one. -/
def scanFraction : List Symbol → Option (List Nat × List Symbol)
  | some '.' :: rest => scanDigits1 rest
  | symbols => some ([], symbols)

/-- The sign in front of an exponent's digits. -/
def scanSign (symbols : List Symbol) : Bool × List Symbol :=
  match symbols with
  | some '-' :: rest => (true, rest)
  | some '+' :: rest => (false, rest)
  | _ => (false, symbols)

/-- The exponent, if there is one. -/
def scanExponent : List Symbol → Option (Option (Bool × List Nat) × List Symbol)
  | some c :: rest =>
    if c = 'e' ∨ c = 'E' then
      (scanDigits1 (scanSign rest).2).map fun (digits, rest') =>
        (some ((scanSign rest).1, digits), rest')
    else some (none, some c :: rest)
  | symbols => some (none, symbols)

/-- A number without its sign. -/
def scanNumber (negative : Bool) (symbols : List Symbol) : Option (Token × List Symbol) := do
  let (whole, rest) ← scanWhole symbols
  let (fraction, rest) ← scanFraction rest
  let (exponent, rest) ← scanExponent rest
  return (.number { negative, whole, fraction, exponent }, rest)

/-- The token in front and the symbols after it. -/
def scanOne : List Symbol → Option (Token × List Symbol)
  | some '[' :: rest => some (.openArray, rest)
  | some ']' :: rest => some (.closeArray, rest)
  | some '\x7b' :: rest => some (.openObject, rest)
  | some '\x7d' :: rest => some (.closeObject, rest)
  | some ',' :: rest => some (.comma, rest)
  | some ':' :: rest => some (.colon, rest)
  | some 'n' :: some 'u' :: some 'l' :: some 'l' :: rest => some (.null, rest)
  | some 't' :: some 'r' :: some 'u' :: some 'e' :: rest => some (.bool true, rest)
  | some 'f' :: some 'a' :: some 'l' :: some 's' :: some 'e' :: rest => some (.bool false, rest)
  | some '"' :: rest =>
    (scanString rest []).map fun (pieces, rest) => (.string (Piece.text? pieces), rest)
  | some '-' :: rest => scanNumber true rest
  | symbols => scanNumber false symbols

theorem length_scanString {symbols : List Symbol} {done pieces : List Piece} {rest : List Symbol}
    (h : scanString symbols done = some (pieces, rest)) : rest.length < symbols.length := by
  fun_induction scanString symbols done with
  | case4 a b c d rest' done value hu ih =>
    have := ih h
    simp only [List.length_cons]
    omega
  | _ => grind

theorem length_scanDigits (symbols : List Symbol) (done : List Nat) :
    (scanDigits symbols done).2.length ≤ symbols.length := by
  fun_induction scanDigits symbols done <;> grind

theorem length_scanDigits1 {symbols rest : List Symbol} {digits : List Nat}
    (h : scanDigits1 symbols = some (digits, rest)) : rest.length < symbols.length := by
  cases symbols with
  | nil => simp [scanDigits1] at h
  | cons s tail =>
    simp only [scanDigits1, Option.map_eq_some_iff] at h
    obtain ⟨d, -, hd⟩ := h
    have := length_scanDigits tail [d]
    simp_all only [List.length_cons]
    omega

theorem length_scanWhole {symbols rest : List Symbol} {digits : List Nat}
    (h : scanWhole symbols = some (digits, rest)) : rest.length < symbols.length := by
  unfold scanWhole at h
  split at h
  · simp_all
  · exact length_scanDigits1 h

theorem length_scanFraction {symbols rest : List Symbol} {digits : List Nat}
    (h : scanFraction symbols = some (digits, rest)) : rest.length ≤ symbols.length := by
  unfold scanFraction at h
  split at h
  · have := length_scanDigits1 h
    simp only [List.length_cons]
    omega
  · simp_all

theorem length_scanSign (symbols : List Symbol) :
    (scanSign symbols).2.length ≤ symbols.length := by
  unfold scanSign
  split <;> simp

theorem length_scanExponent {symbols rest : List Symbol} {e : Option (Bool × List Nat)}
    (h : scanExponent symbols = some (e, rest)) : rest.length ≤ symbols.length := by
  unfold scanExponent at h
  split at h
  · rename_i tail
    split at h
    · simp only [Option.map_eq_some_iff, Prod.mk.injEq, Prod.exists] at h
      obtain ⟨digits, rest', hd, -, rfl⟩ := h
      have := length_scanDigits1 hd
      have := length_scanSign tail
      simp only [List.length_cons]
      omega
    · simp_all
  · simp_all

theorem length_scanNumber {negative : Bool} {symbols rest : List Symbol} {t : Token}
    (h : scanNumber negative symbols = some (t, rest)) : rest.length < symbols.length := by
  simp only [scanNumber, Option.bind_eq_bind, Option.bind_eq_some_iff, Prod.exists,
    Option.pure_def, Option.some.injEq, Prod.mk.injEq] at h
  obtain ⟨whole, r₁, hw, fraction, r₂, hf, exponent, r₃, he, -, rfl⟩ := h
  have := length_scanWhole hw
  have := length_scanFraction hf
  have := length_scanExponent he
  omega

/-- Every token takes at least one character. -/
theorem length_scanOne {symbols rest : List Symbol} {t : Token}
    (h : scanOne symbols = some (t, rest)) : rest.length < symbols.length := by
  unfold scanOne at h
  split at h
  case h_10 =>
    simp only [Option.map_eq_some_iff, Prod.mk.injEq, Prod.exists] at h
    obtain ⟨pieces, rest', hs, -, rfl⟩ := h
    have := length_scanString hs
    simp only [List.length_cons]
    omega
  case h_11 =>
    have := length_scanNumber h
    simp only [List.length_cons]
    omega
  case h_12 => exact length_scanNumber h
  all_goals
    simp only [Option.some.injEq, Prod.mk.injEq] at h
    simp only [← h.2, List.length_cons]
    omega

/-- The blanks that may stand between tokens. -/
def isBlank (s : Symbol) : Bool :=
  s == some ' ' || s == some '\t' || s == some '\n' || s == some '\r'

/-- The tokens of `symbols` after those in `done`, which are held last first. -/
def scanAfter (symbols : List Symbol) (done : List Token) : Option (List Token) :=
  match symbols with
  | [] => some done.reverse
  | s :: rest =>
    if isBlank s then scanAfter rest done
    else
      match _h : scanOne (s :: rest) with
      | some (t, rest') => scanAfter rest' (t :: done)
      | none => none
termination_by symbols.length
decreasing_by
  · simp
  · exact length_scanOne (by assumption)

/-- The tokens of a text, if it consists of tokens and blanks. -/
def scan? (symbols : List Symbol) : Option (List Token) :=
  scanAfter symbols []

end ChannelHandshake.Json
