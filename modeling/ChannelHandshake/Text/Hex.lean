/-!
# Hexadecimal text

Bytes as pairs of hexadecimal digits of either case. Reading ignores blanks wherever they stand,
also between the two digits of a byte; writing uses lower case and no blanks.
-/

namespace ChannelHandshake.Hex

/-- The value of a hexadecimal digit of either case. -/
def digit? (c : Char) : Option Nat :=
  if '0' ≤ c ∧ c ≤ '9' then some (c.toNat - 48)
  else if 'a' ≤ c ∧ c ≤ 'f' then some (c.toNat - 87)
  else if 'A' ≤ c ∧ c ≤ 'F' then some (c.toNat - 55)
  else none

/-- The number that a row of digits denotes. -/
def value? (digits : List Char) : Option Nat :=
  (digits.mapM digit?).map (·.foldl (fun v d => v * 16 + d) 0)

/-- The character whose number a row of exactly `count` digits denotes. -/
def char? (count : Nat) (digits : List Char) : Option Char := do
  let value ← value? digits
  if digits.length = count ∧ value.isValidChar then some (Char.ofNat value) else none

/-- The lower-case digit of a number below 16. -/
def digitChar (n : Nat) : Char :=
  if n < 10 then Char.ofNat (48 + n) else Char.ofNat (87 + n)

/-- A character that is skipped: space, tab, line feed, form feed or carriage return. -/
def isBlank (c : Char) : Bool :=
  c == ' ' || c == '\t' || c == '\n' || c == '\x0c' || c == '\r'

/-- The bytes of pairs of digits, after those in `done`, which are held last first. -/
def pairsAfter : List Char → List UInt8 → Option (List UInt8)
  | [], done => some done.reverse
  | [_], _ => none
  | a :: b :: rest, done =>
    match digit? a, digit? b with
    | some high, some low => pairsAfter rest (UInt8.ofNat (16 * high + low) :: done)
    | _, _ => none

/-- The bytes that the digits of `text` denote, if they are digits and of even number. -/
def decode? (text : List Char) : Option (List UInt8) :=
  pairsAfter (text.filter fun c => !isBlank c) []

/-- The two digits of a byte. -/
def encodeByte (b : UInt8) : List Char :=
  [digitChar (b.toNat / 16), digitChar (b.toNat % 16)]

/-- The digits of some bytes. -/
def encode (bytes : List UInt8) : String :=
  String.ofList (bytes.flatMap encodeByte)

end ChannelHandshake.Hex
