/-!
# UTF-8

A payload is a list of bytes, its text a list of characters. `symbols` reads a payload as far as
it is UTF-8: each character it holds, and `none` for each byte that is part of no character.
`text?` is the reading of a payload that is UTF-8 throughout.

Main statement: `length_decodeFirst`, every character takes at least one byte.
-/

namespace ChannelHandshake

/-- One place of a byte sequence read as UTF-8: a character, or `none` for a stray byte. -/
abbrev Symbol := Option Char

namespace Utf8

/-- A byte that continues a character. -/
def isContinuation (b : UInt8) : Bool :=
  0x80 ≤ b && b < 0xC0

/-- The character whose lead byte carries `lead` and whose other bytes are `tail`. A value below
`least` has a shorter form, which is the only one allowed. -/
def assemble (least lead : Nat) (tail : List UInt8) : Option Char :=
  if tail.all isContinuation then
    let value := tail.foldl (fun v b => v * 64 + b.toNat % 64) lead
    if least ≤ value ∧ value.isValidChar then some (Char.ofNat value) else none
  else none

/-- The first character and the bytes after it, if the bytes begin with a character. -/
def decodeFirst : List UInt8 → Option (Char × List UInt8)
  | [] => none
  | a :: rest =>
    if a < 0x80 then some (Char.ofNat a.toNat, rest)
    -- a byte that continues a character does not begin one
    else if a < 0xC0 then none
    else if a < 0xE0 then
      match rest with
      | b :: rest => (assemble 0x80 (a.toNat % 32) [b]).map (·, rest)
      | _ => none
    else if a < 0xF0 then
      match rest with
      | b :: c :: rest => (assemble 0x800 (a.toNat % 16) [b, c]).map (·, rest)
      | _ => none
    else if a < 0xF8 then
      match rest with
      | b :: c :: d :: rest => (assemble 0x10000 (a.toNat % 8) [b, c, d]).map (·, rest)
      | _ => none
    else none

theorem length_decodeFirst {bytes rest : List UInt8} {c : Char}
    (h : decodeFirst bytes = some (c, rest)) : rest.length < bytes.length := by
  unfold decodeFirst at h
  split at h
  · simp at h
  · repeat' split at h
    all_goals simp_all only [Option.map_eq_some_iff, Option.some.injEq, Prod.mk.injEq,
      List.length_cons, reduceCtorEq]
    all_goals grind

/-- The reading of `bytes` after the symbols `done`, which are held last first. -/
def symbolsAfter (bytes : List UInt8) (done : List Symbol) : List Symbol :=
  match bytes with
  | [] => done.reverse
  | b :: rest =>
    match _h : decodeFirst (b :: rest) with
    | some (c, rest') => symbolsAfter rest' (some c :: done)
    | none => symbolsAfter rest (none :: done)
termination_by bytes.length
decreasing_by
  · exact length_decodeFirst (by assumption)
  · simp

/-- The characters of `bytes`, with `none` for every byte that is part of none. -/
def symbols (bytes : List UInt8) : List Symbol :=
  symbolsAfter bytes []

/-- The characters of a reading that has no stray byte. -/
def chars? (symbols : List Symbol) : Option (List Char) :=
  if symbols.all Option.isSome then some (symbols.filterMap id) else none

/-- The text that `bytes` encode, if they are UTF-8. -/
def text? (bytes : List UInt8) : Option String :=
  (chars? (symbols bytes)).map String.ofList

/-- The bytes that encode `text`. -/
def encode (text : String) : List UInt8 :=
  text.toUTF8.toList

end Utf8

end ChannelHandshake
