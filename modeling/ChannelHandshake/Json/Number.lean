/-!
# JSON numbers

A number is kept as its digits. `isFinite` says whether a double can hold its magnitude, the way a
reader finds out that scales by powers of ten: the leading digits that fit in 64 bits are taken as
an integer, the decimal point and the digits left out become an exponent of ten, and the two
doubles nearest to them are multiplied.
-/

namespace ChannelHandshake.Json

/-- The digits of a number: `-12.5e+3` has `whole` 12, `fraction` 5 and the exponent 3. -/
structure Number where
  negative : Bool
  /-- The digits before the point: a lone zero, or no zero in front. -/
  whole : List Nat
  /-- The digits after the point; empty for a number without one. -/
  fraction : List Nat
  /-- Whether the exponent is negative, and its digits. -/
  exponent : Option (Bool × List Nat)
deriving DecidableEq, Repr

namespace Number

/-- The value of a row of decimal digits. -/
def ofDigits (digits : List Nat) : Nat :=
  digits.foldl (fun n d => n * 10 + d) 0

/-- An integer below `2 ^ 64` with a decimal exponent, and whether a digit was already left out. -/
structure Scaled where
  significand : Nat
  exponent : Int
  full : Bool

/-- Takes one more digit in front of the decimal point. -/
def Scaled.pushWhole (s : Scaled) (digit : Nat) : Scaled :=
  if s.full || Nat.pow 2 64 ≤ s.significand * 10 + digit then
    { s with exponent := s.exponent + 1, full := true }
  else { s with significand := s.significand * 10 + digit }

/-- Takes one more digit behind the decimal point. -/
def Scaled.pushFraction (s : Scaled) (digit : Nat) : Scaled :=
  if s.full || Nat.pow 2 64 ≤ s.significand * 10 + digit then { s with full := true }
  else { s with significand := s.significand * 10 + digit, exponent := s.exponent - 1 }

/-- The leading digits of the number as an integer, with the exponent of ten that goes with them. -/
def scaled (n : Number) : Scaled :=
  let whole := n.whole.foldl Scaled.pushWhole ⟨0, 0, false⟩
  -- behind the point digits are taken again, even if one before it was left out
  let digits := n.fraction.foldl Scaled.pushFraction { whole with full := false }
  match n.exponent with
  | none => digits
  | some (false, e) => { digits with exponent := digits.exponent + ofDigits e }
  | some (true, e) => { digits with exponent := digits.exponent - ofDigits e }

/-- The integer nearest to `n` that has at most 53 binary digits before its trailing zeros; a tie
goes to the even one. -/
def roundToDouble (n : Nat) : Nat :=
  -- for a short number the difference is zero, and so nothing is rounded
  let unit := Nat.pow 2 (n.log2 - 52)
  let quotient := n / unit
  let twice := 2 * (n % unit)
  if unit < twice ∨ (unit = twice ∧ quotient % 2 = 1) then (quotient + 1) * unit
  else quotient * unit

/-- The least magnitude that rounds beyond the greatest double. -/
def overflow : Nat :=
  Nat.pow 2 1024 - Nat.pow 2 970

/-- A double can hold the magnitude of the number. -/
def isFinite (n : Number) : Bool :=
  let s := n.scaled
  -- a division cannot overflow, and 10 ^ 309 is no double
  s.significand == 0 || s.exponent < 0 ||
    (s.exponent ≤ 308 &&
      roundToDouble s.significand * roundToDouble (Nat.pow 10 s.exponent.toNat) < overflow)

/-- The character of a decimal digit. -/
def digitChar (digit : Nat) : Char :=
  Char.ofNat (48 + digit)

/-- The digits written out. -/
def digits (row : List Nat) : List Char :=
  row.map digitChar

/-- The number written out from its digits. -/
def spelling (n : Number) : List Char :=
  (if n.negative then ['-'] else []) ++ digits n.whole ++
    (if n.fraction.isEmpty then [] else '.' :: digits n.fraction) ++
    match n.exponent with
    | none => []
    | some (false, e) => 'e' :: digits e
    | some (true, e) => 'e' :: '-' :: digits e

end Number

end ChannelHandshake.Json
