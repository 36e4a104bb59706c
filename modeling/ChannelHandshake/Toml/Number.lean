import ChannelHandshake.Text.Hex

/-!
# TOML: numbers

A number is a word. Which words are numbers depends on their values too: an integer fits 64 bits,
and a float is not so large that it is rounded up to infinity. Nothing else is made of the values.
-/

namespace ChannelHandshake.Toml

/-- Digits of a base, which single underscores may divide. -/
def isDigitRun (isDigit : Char → Bool) (text : List Char) : Bool :=
  ((String.ofList text).splitOn "_").all fun part => !part.isEmpty && part.all isDigit

/-- The number that digits of a base denote, whatever stands between them. -/
def natOf (base : Nat) (text : List Char) : Nat :=
  (text.filterMap Hex.digit?).foldl (fun n d => base * n + d) 0

/-- The text behind a sign, if there is one. -/
def dropSign : List Char → List Char
  | '+' :: rest | '-' :: rest => rest
  | text => text

/-- The text begins with a minus sign. -/
def isNegative (text : List Char) : Bool :=
  text.head? == some '-'

/-- A decimal integer without its sign: no zero in front of another digit. -/
def isDecimal (text : List Char) : Bool :=
  isDigitRun Char.isDigit text && (text.length = 1 || text.head? != some '0')

/-! ## Integers -/

/-- Digits of a base whose number fits 64 bits with a sign. -/
def isBased (base : Nat) (isDigit : Char → Bool) (digits : List Char) : Bool :=
  isDigitRun isDigit digits && natOf base digits < Nat.pow 2 63

/-- An integer. -/
def isInteger : List Char → Bool
  | '0' :: 'x' :: digits => isBased 16 (fun c => (Hex.digit? c).isSome) digits
  | '0' :: 'o' :: digits => isBased 8 (fun c => '0' ≤ c && c ≤ '7') digits
  | '0' :: 'b' :: digits => isBased 2 (fun c => c == '0' || c == '1') digits
  | text =>
    let digits := dropSign text
    -- below zero there is one number more
    isDecimal digits && natOf 10 digits < Nat.pow 2 63 + (if isNegative text then 1 else 0)

/-! ## Floats -/

/-- The least number that is rounded up to infinity. -/
def floatLimit : Nat :=
  Nat.pow 2 1024 - Nat.pow 2 970

/-- The number of `digits` times ten to the `exponent` is at least `floatLimit`, which has 309
places. -/
def reachesLimit (digits : List Char) (exponent : Int) : Bool :=
  let digits := (digits.filter Char.isDigit).dropWhile (· == '0')
  let places := digits.length + exponent
  !digits.isEmpty &&
    (309 < places ||
      places = 309 &&
        floatLimit * Nat.pow 10 (-exponent).toNat ≤
          natOf 10 digits * Nat.pow 10 exponent.toNat)

/-- The value of an exponent. Digits that come when it is past all use are not counted. -/
def exponentOf (text : List Char) : Int :=
  let step (n d : Nat) : Nat := if n < 65536 then 10 * n + d else n
  let value := ((dropSign text).filterMap Hex.digit?).foldl step 0
  if isNegative text then -(value : Int) else value

/-- The exponent that ends a number, or zero at its end. -/
def exponent? : List Char → Option Int
  | [] => some 0
  | c :: rest =>
    if (c == 'e' || c == 'E') && isDigitRun Char.isDigit (dropSign rest) then
      some (exponentOf rest)
    else none

/-- The digits of a number with a point or an exponent, and the power of ten that belongs to the
last of them. -/
def scientific? (text : List Char) : Option (List Char × Int) :=
  let inNumber (c : Char) : Bool := c.isDigit || c == '_'
  let whole := text.takeWhile inNumber
  if !isDecimal whole then none
  else
    match text.dropWhile inNumber with
    | '.' :: rest => do
      let part := rest.takeWhile inNumber
      let exponent ← exponent? (rest.dropWhile inNumber)
      if isDigitRun Char.isDigit part then
        return (whole ++ part, exponent - (part.filter Char.isDigit).length)
      else none
    | [] => none
    | rest => (exponent? rest).map (whole, ·)

/-- A number with a point or an exponent, or one of the special ones. -/
def isFloat (text : List Char) : Bool :=
  let body := dropSign text
  body == "inf".toList || body == "nan".toList ||
    (scientific? body).any fun (digits, exponent) =>
      isNegative text || !reachesLimit digits exponent

/-- A number. -/
def isNumber (text : List Char) : Bool :=
  isInteger text || isFloat text

end ChannelHandshake.Toml
