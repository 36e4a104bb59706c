import ChannelHandshake.Toml.Number

/-!
# TOML: dates and times

A date, a time of day, or both and then with an optional distance from universal time. Only days
that the calendar has are dates. Every such value has one text, whatever it was written as.
-/

namespace ChannelHandshake.Toml

/-- A day. -/
structure Date where
  year : Nat
  month : Nat
  day : Nat
deriving DecidableEq, Repr

/-- A time of day. -/
structure TimeOfDay where
  hour : Nat
  minute : Nat
  second : Nat
  nanosecond : Nat
deriving DecidableEq, Repr

/-- A distance from universal time. -/
inductive Offset where
  | universal
  /-- East of universal time, or west if negative. -/
  | minutes (count : Int)
deriving DecidableEq, Repr

/-- A date, a time of day or both. -/
inductive DateTime where
  | date (d : Date)
  | time (t : TimeOfDay)
  | both (d : Date) (t : TimeOfDay) (offset : Option Offset)
deriving DecidableEq, Repr

/-! ## Calendar -/

/-- A year with a day more. -/
def isLeap (year : Nat) : Bool :=
  year % 4 == 0 && (year % 100 != 0 || year % 400 == 0)

/-- The number of days in a month. -/
def daysIn (year month : Nat) : Nat :=
  if month = 2 then if isLeap year then 29 else 28
  else if month = 4 ∨ month = 6 ∨ month = 9 ∨ month = 11 then 30
  else 31

/-! ## Reading -/

/-- The number that exactly `count` digits in front denote, and the text behind them. -/
def digits? (count : Nat) (text : List Char) : Option (Nat × List Char) :=
  let front := text.take count
  if front.length = count ∧ front.all Char.isDigit then some (natOf 10 front, text.drop count)
  else none

/-- A number of two digits within bounds, and the text behind it. -/
def bounded? (least most : Nat) (text : List Char) : Option (Nat × List Char) :=
  (digits? 2 text).filter fun (n, _) => least ≤ n && n ≤ most

/-- The text behind the mark `c`. -/
def behind? (c : Char) : List Char → Option (List Char)
  | d :: rest => if d = c then some rest else none
  | [] => none

/-- A date, and the text behind it. -/
def Date.read? (text : List Char) : Option (Date × List Char) := do
  let (year, rest) ← digits? 4 text
  let (month, rest) ← bounded? 1 12 (← behind? '-' rest)
  let (day, rest) ← bounded? 1 (daysIn year month) (← behind? '-' rest)
  return (⟨year, month, day⟩, rest)

/-- The nanoseconds of the digits behind a point, of which nine count. -/
def nanoseconds (digits : List Char) : Nat :=
  natOf 10 ((digits ++ List.replicate 9 '0').take 9)

/-- A time of day, and the text behind it. A minute may end with a leap second. -/
def TimeOfDay.read? (text : List Char) : Option (TimeOfDay × List Char) := do
  let (hour, rest) ← bounded? 0 23 text
  let (minute, rest) ← bounded? 0 59 (← behind? ':' rest)
  let (second, rest) ← bounded? 0 60 (← behind? ':' rest)
  match rest with
  | '.' :: rest =>
    match rest.takeWhile Char.isDigit with
    | [] => none
    | digits => return (⟨hour, minute, second, nanoseconds digits⟩, rest.dropWhile Char.isDigit)
  | _ => return (⟨hour, minute, second, 0⟩, rest)

/-- The distance that a text spells. -/
def Offset.ofChars? : List Char → Option Offset
  | ['Z'] | ['z'] => some universal
  | sign :: rest => do
    let (hours, rest) ← bounded? 0 23 rest
    let (more, rest) ← bounded? 0 59 (← behind? ':' rest)
    let count : Int := 60 * hours + more
    if rest ≠ [] then none
    else if sign = '+' then some (minutes count)
    else if sign = '-' then some (minutes (-count))
    else none
  | [] => none

/-- The date or time that a text spells. -/
def DateTime.ofChars? (text : List Char) : Option DateTime :=
  match Date.read? text with
  | some (d, []) => some (date d)
  | some (d, c :: rest) =>
    if c = 'T' ∨ c = 't' ∨ c = ' ' then
      match TimeOfDay.read? rest with
      | some (t, []) => some (both d t none)
      | some (t, rest) => (Offset.ofChars? rest).map fun offset => both d t (some offset)
      | none => none
    else none
  | none =>
    match TimeOfDay.read? text with
    | some (t, []) => some (time t)
    | _ => none

/-! ## Writing -/

/-- A number with zeros in front up to a width. -/
def padded (width n : Nat) : String :=
  String.ofList (List.leftpad width '0' (Nat.toDigits 10 n))

/-- The text of a date. -/
def Date.text (d : Date) : String :=
  padded 4 d.year ++ "-" ++ padded 2 d.month ++ "-" ++ padded 2 d.day

/-- The part of a second behind its point, without zeros at the end. -/
def fractionText (nanosecond : Nat) : String :=
  if nanosecond = 0 then ""
  else "." ++ ((padded 9 nanosecond).dropEndWhile (· == '0')).toString

/-- The text of a time of day. -/
def TimeOfDay.text (t : TimeOfDay) : String :=
  padded 2 t.hour ++ ":" ++ padded 2 t.minute ++ ":" ++ padded 2 t.second ++
    fractionText t.nanosecond

/-- The text of a distance from universal time. -/
def Offset.text : Offset → String
  | universal => "Z"
  | minutes count =>
    (if count < 0 then "-" else "+") ++ padded 2 (count.natAbs / 60) ++ ":" ++
      padded 2 (count.natAbs % 60)

/-- The text of a date or time. -/
def DateTime.text : DateTime → String
  | date d => d.text
  | time t => t.text
  | both d t offset => d.text ++ "T" ++ t.text ++ offset.elim "" Offset.text

end ChannelHandshake.Toml
