import Mathlib.Data.List.Induction
import ChannelHandshake.Config.Schema

/-!
# Payloads in hexadecimal

What data denotes which bytes, said without a reader: without its blanks it is a row of digits, two
for each byte and of either case (`Hex.Denotes`). A reader that goes through the text accepts exactly
this (`decode?_eq_some_iff`), so blanks may stand anywhere (`Hex.Spaced.decode?_eq`), and blanks and
case are all in which two texts of the same bytes may differ (`Hex.Denotes.map_toLower`).
-/

namespace ChannelHandshake

namespace Hex

/-! ## Digits -/

/-- The characters that are skipped: space, tab, line feed, form feed and carriage return. -/
def blanks : List Char :=
  [' ', '\t', '\n', '\x0c', '\r']

/-- The digits in the order of their values, in lower case. -/
def lowerDigits : List Char :=
  "0123456789abcdef".toList

/-- The digits in the order of their values, in upper case. -/
def upperDigits : List Char :=
  "0123456789ABCDEF".toList

/-- The character is the digit for `value`, in either case. -/
def IsDigit (c : Char) (value : Nat) : Prop :=
  lowerDigits[value]? = some c ∨ upperDigits[value]? = some c

/-- A row of digits, two for each byte. -/
inductive Denotes : List Char → List UInt8 → Prop where
  | nil : Denotes [] []
  | byte {high low : Char} {b : UInt8} {digits : List Char} {bytes : List UInt8}
      (hhigh : IsDigit high (b.toNat / 16)) (hlow : IsDigit low (b.toNat % 16))
      (hrest : Denotes digits bytes) : Denotes (high :: low :: digits) (b :: bytes)

/-- A text without its blanks. -/
def unspaced (text : String) : List Char :=
  text.toList.filter (· ∉ blanks)

/-- A text of some digits, with blanks anywhere between and around them. -/
inductive Spaced : List Char → List Char → Prop where
  | nil : Spaced [] []
  | blank {c : Char} {digits text : List Char} (hc : c ∈ blanks) (hrest : Spaced digits text) :
      Spaced digits (c :: text)
  | digit {c : Char} {digits text : List Char} (hrest : Spaced digits text) :
      Spaced (c :: digits) (c :: text)

theorem isBlank_iff {c : Char} : isBlank c = true ↔ c ∈ blanks := by
  simp [isBlank, blanks, or_assoc]

theorem toNat_lt_of_digit? {c : Char} (h : (digit? c).isSome) : c.toNat < 128 := by
  have hbound : ∀ d : Char, d.toNat < 128 → c ≤ d → c.toNat < 128 :=
    fun d hd hcd => Nat.lt_of_le_of_lt hcd hd
  unfold digit? at h
  split at h
  · rename_i hc
    exact hbound '9' (by decide) hc.2
  split at h
  · rename_i hc
    exact hbound 'f' (by decide) hc.2
  split at h
  · rename_i hc
    exact hbound 'F' (by decide) hc.2
  · simp at h

theorem IsDigit.lt {c : Char} {value : Nat} (h : IsDigit c value) : value < 16 := by
  rcases h with h | h
  · exact (List.getElem?_eq_some_iff.1 h).1
  · exact (List.getElem?_eq_some_iff.1 h).1

/-- A digit is read as its place among the digits. -/
theorem digit?_eq_some_iff {c : Char} {value : Nat} :
    digit? c = some value ↔ IsDigit c value := by
  constructor
  · intro h
    have hsmall : ∀ n < 128, ∀ v ∈ digit? (Char.ofNat n), lowerDigits[v]? = some (Char.ofNat n) ∨
        upperDigits[v]? = some (Char.ofNat n) := by
      decide +kernel
    have hc := hsmall c.toNat (toNat_lt_of_digit? (by simp [h])) value
    rw [Char.ofNat_toNat] at hc
    exact hc h
  · intro h
    have hdigits : ∀ v < 16, lowerDigits[v]?.bind digit? = some v ∧
        upperDigits[v]?.bind digit? = some v := by
      decide
    obtain ⟨hlower, hupper⟩ := hdigits value h.lt
    rcases h with h | h
    · rwa [h] at hlower
    · rwa [h] at hupper

theorem IsDigit.not_mem_blanks {c : Char} {value : Nat} (h : IsDigit c value) : c ∉ blanks := by
  have hblanks : ∀ d ∈ blanks, digit? d = none := by
    apply List.filterMap_eq_nil_iff.1
    decide
  intro hc
  rw [← digit?_eq_some_iff, hblanks c hc] at h
  simp at h

/-- In lower case a digit is the one that is written. -/
theorem IsDigit.toLower {c : Char} {value : Nat} (h : IsDigit c value) :
    c.toLower = digitChar value := by
  have hdigits : ∀ v < 16, lowerDigits[v]?.map Char.toLower = some (digitChar v) ∧
      upperDigits[v]?.map Char.toLower = some (digitChar v) := by
    decide
  obtain ⟨hlower, hupper⟩ := hdigits value h.lt
  rcases h with h | h
  · rw [h] at hlower
    exact Option.some.inj hlower
  · rw [h] at hupper
    exact Option.some.inj hupper

theorem isDigit_digitChar {value : Nat} (h : value < 16) : IsDigit (digitChar value) value := by
  have hdigits : ∀ v < 16, lowerDigits[v]? = some (digitChar v) := by
    decide
  exact .inl (hdigits value h)

/-! ## Rows of digits -/

/-- Two digits denote a byte. -/
theorem Denotes.pair {a b : Char} {high low : Nat} {digits : List Char} {bytes : List UInt8}
    (ha : IsDigit a high) (hb : IsDigit b low) (hrest : Denotes digits bytes) :
    Denotes (a :: b :: digits) (UInt8.ofNat (16 * high + low) :: bytes) := by
  have hhigh := ha.lt
  have hlow := hb.lt
  have hbyte : (UInt8.ofNat (16 * high + low)).toNat = 16 * high + low := by
    rw [UInt8.toNat_ofNat']
    omega
  refine .byte ?_ ?_ hrest
  · rw [hbyte, show (16 * high + low) / 16 = high by omega]
    exact ha
  · rw [hbyte, show (16 * high + low) % 16 = low by omega]
    exact hb

/-- The reader of pairs adds what a row denotes to what it has read before. -/
theorem pairsAfter_eq_some_iff {digits : List Char} {done bytes : List UInt8} :
    pairsAfter digits done = some bytes ↔
      ∃ rest, bytes = done.reverse ++ rest ∧ Denotes digits rest := by
  fun_induction pairsAfter digits done with
  | case1 done =>
    constructor
    · intro h
      cases h
      exact ⟨[], by simp, .nil⟩
    · rintro ⟨rest, rfl, hrest⟩
      cases hrest
      simp
  | case2 c done =>
    constructor
    · intro h
      simp at h
    · rintro ⟨rest, -, hrest⟩
      cases hrest
  | case3 a b digits done high low hlow hhigh ih =>
    rw [ih]
    constructor
    · rintro ⟨rest, rfl, hrest⟩
      rw [digit?_eq_some_iff] at hhigh hlow
      exact ⟨UInt8.ofNat (16 * high + low) :: rest, by simp, .pair hhigh hlow hrest⟩
    · rintro ⟨rest, rfl, hrest⟩
      cases hrest with
      | @byte _ _ byte _ rest hhigh' hlow' hrest =>
        rw [← digit?_eq_some_iff] at hhigh' hlow'
        -- the two values that are read are the halves of the byte
        have hhalves : high = byte.toNat / 16 ∧ low = byte.toNat % 16 :=
          ⟨Option.some.inj (hhigh.symm.trans hhigh'), Option.some.inj (hlow.symm.trans hlow')⟩
        have hread : UInt8.ofNat (16 * high + low) = byte := by
          rw [hhalves.1, hhalves.2, Nat.div_add_mod, UInt8.ofNat_toNat]
        exact ⟨rest, by simp [hread], hrest⟩
  | case4 a b digits done hnone =>
    constructor
    · intro h
      simp at h
    · rintro ⟨rest, -, hrest⟩
      cases hrest with
      | byte hhigh hlow hrest =>
        exact absurd (digit?_eq_some_iff.2 hlow)
          (hnone _ _ (digit?_eq_some_iff.2 hhigh))

theorem decode?_eq_some_iff (text : String) (bytes : List UInt8) :
    decode? text.toList = some bytes ↔ Denotes (unspaced text) bytes := by
  have hunspaced : text.toList.filter (fun c => !isBlank c) = unspaced text := by
    refine List.filter_congr fun c _ => ?_
    simp [← isBlank_iff]
  rw [decode?, hunspaced, pairsAfter_eq_some_iff]
  simp

theorem Denotes.unique {digits : List Char} {bytes bytes' : List UInt8}
    (h : Denotes digits bytes) (h' : Denotes digits bytes') : bytes = bytes' := by
  have hread : pairsAfter digits [] = some bytes := pairsAfter_eq_some_iff.2 ⟨bytes, rfl, h⟩
  have hread' : pairsAfter digits [] = some bytes' := pairsAfter_eq_some_iff.2 ⟨bytes', rfl, h'⟩
  exact Option.some.inj (hread.symm.trans hread')

theorem Denotes.not_mem_blanks {digits : List Char} {bytes : List UInt8}
    (h : Denotes digits bytes) : ∀ c ∈ digits, c ∉ blanks := by
  induction h with
  | nil => simp
  | byte hhigh hlow hrest ih =>
    intro c hc
    rcases List.mem_cons.1 hc with rfl | hc
    · exact hhigh.not_mem_blanks
    rcases List.mem_cons.1 hc with rfl | hc
    · exact hlow.not_mem_blanks
    · exact ih c hc

/-- Bytes are denoted by what is written for them. -/
theorem denotes_encode (bytes : List UInt8) : Denotes (encode bytes).toList bytes := by
  rw [encode, String.toList_ofList]
  induction bytes with
  | nil => exact .nil
  | cons b rest ih =>
    have hb := b.toNat_lt
    exact .byte (isDigit_digitChar (by omega)) (isDigit_digitChar (by omega)) ih

/-- In lower case a row of digits is what is written for its bytes. -/
theorem Denotes.map_toLower {digits : List Char} {bytes : List UInt8} (h : Denotes digits bytes) :
    digits.map Char.toLower = (encode bytes).toList := by
  rw [encode, String.toList_ofList]
  induction h with
  | nil => rfl
  | byte hhigh hlow hrest ih =>
    rw [List.map_cons, List.map_cons, ih, hhigh.toLower, hlow.toLower]
    rfl

/-- Two rows of digits denote the same bytes if they differ in case only. -/
theorem Denotes.eq_iff {digits digits' : List Char} {bytes bytes' : List UInt8}
    (h : Denotes digits bytes) (h' : Denotes digits' bytes') :
    bytes = bytes' ↔ digits.map Char.toLower = digits'.map Char.toLower := by
  rw [h.map_toLower, h'.map_toLower]
  constructor
  · rintro rfl
    rfl
  · intro heq
    have hbytes := denotes_encode bytes
    rw [heq] at hbytes
    exact hbytes.unique (denotes_encode bytes')

/-- A row of digits denotes bytes if their number is even. -/
theorem exists_denotes_iff {digits : List Char} :
    (∃ bytes, Denotes digits bytes) ↔
      digits.length % 2 = 0 ∧ ∀ c ∈ digits, c ∈ lowerDigits ∨ c ∈ upperDigits := by
  have hdigit : ∀ c, (∃ value, IsDigit c value) ↔ c ∈ lowerDigits ∨ c ∈ upperDigits := by
    intro c
    simp only [IsDigit, exists_or, List.mem_iff_getElem?]
  constructor
  · rintro ⟨bytes, h⟩
    induction h with
    | nil => simp
    | byte hhigh hlow hrest ih =>
      simp only [List.length_cons, List.forall_mem_cons]
      exact ⟨by omega, (hdigit _).1 ⟨_, hhigh⟩, (hdigit _).1 ⟨_, hlow⟩, ih.2⟩
  · rintro ⟨heven, hall⟩
    -- pair by pair, as bytes are denoted
    induction digits using List.twoStepInduction with
    | nil => exact ⟨[], .nil⟩
    | singleton c => simp at heven
    | cons_cons a b rest ih =>
      simp only [List.length_cons, List.forall_mem_cons] at heven hall
      obtain ⟨high, hhigh⟩ := (hdigit a).2 hall.1
      obtain ⟨low, hlow⟩ := (hdigit b).2 hall.2.1
      obtain ⟨bytes, hrest⟩ := ih (by omega) hall.2.2
      exact ⟨_, .pair hhigh hlow hrest⟩

/-! ## Blanks -/

theorem Spaced.filter_eq {digits text : List Char} (h : Spaced digits text)
    (hdigits : ∀ c ∈ digits, c ∉ blanks) : text.filter (· ∉ blanks) = digits := by
  induction h with
  | nil => rfl
  | blank hc hrest ih =>
    rw [List.filter_cons_of_neg (by simpa using hc)]
    exact ih hdigits
  | digit hrest ih =>
    simp only [List.forall_mem_cons] at hdigits
    rw [List.filter_cons_of_pos (by simpa using hdigits.1), ih hdigits.2]

/-- Digits are read wherever blanks stand, also inside a pair. -/
theorem Spaced.decode?_eq {digits text : List Char} {bytes : List UInt8} (h : Spaced digits text)
    (hdigits : Denotes digits bytes) : decode? text = some bytes := by
  have hunspaced : unspaced (String.ofList text) = digits := by
    rw [unspaced, String.toList_ofList]
    exact h.filter_eq hdigits.not_mem_blanks
  have hread := decode?_eq_some_iff (String.ofList text) bytes
  rw [hunspaced, String.toList_ofList] at hread
  exact hread.2 hdigits

end Hex

namespace PayloadConfig

variable {data : String} {context : Option String}

theorem decode_hex_eq_ok_iff {bytes : List UInt8} :
    decode ⟨data, .hex, context⟩ = .ok bytes ↔ Hex.decode? data.toList = some bytes := by
  rw [decode]
  cases Hex.decode? data.toList <;> simp

theorem decode_hex_eq_error_iff {e : PayloadError} :
    decode ⟨data, .hex, context⟩ = .error e ↔ Hex.decode? data.toList = none := by
  rw [decode]
  cases Hex.decode? data.toList <;> simp

end PayloadConfig

/-- A payload in hexadecimal. It is decoded to some bytes if its data, without the blanks, is a row
of digits of either case, two for each byte; there are such bytes if the number of digits is even,
and all other data fails. So a row of digits is decoded with blanks anywhere in it, and data that is
decoded denotes the same bytes if it differs in blanks and case only. -/
theorem bytes_of_hex_payload (context : Option String) :
    let decode (data : String) := PayloadConfig.decode ⟨data, .hex, context⟩
    (∀ data bytes, decode data = .ok bytes ↔ Hex.Denotes (Hex.unspaced data) bytes) ∧
    (∀ data, (∃ bytes, decode data = .ok bytes) ↔
      (Hex.unspaced data).length % 2 = 0 ∧
        ∀ c ∈ Hex.unspaced data, c ∈ Hex.lowerDigits ∨ c ∈ Hex.upperDigits) ∧
    (∀ data, (∃ e, decode data = .error e ∧ e.message = "invalid hex payload") ↔
      ¬∃ bytes, Hex.Denotes (Hex.unspaced data) bytes) ∧
    (∀ bytes, Hex.Denotes (Hex.encode bytes).toList bytes) ∧
    (∀ digits bytes text, Hex.Denotes digits bytes → Hex.Spaced digits text →
      decode (String.ofList text) = .ok bytes) ∧
    ∀ data data' bytes bytes', decode data = .ok bytes → decode data' = .ok bytes' →
      (bytes = bytes' ↔
        (Hex.unspaced data).map Char.toLower = (Hex.unspaced data').map Char.toLower) := by
  intro decode
  have hok : ∀ data bytes, decode data = .ok bytes ↔ Hex.Denotes (Hex.unspaced data) bytes := by
    intro data bytes
    rw [PayloadConfig.decode_hex_eq_ok_iff, Hex.decode?_eq_some_iff]
  refine ⟨hok, ?_, ?_, Hex.denotes_encode, ?_, ?_⟩
  · intro data
    simp only [hok]
    exact Hex.exists_denotes_iff
  · intro data
    simp only [← Hex.decode?_eq_some_iff, ← Option.isSome_iff_exists,
      Option.not_isSome_iff_eq_none, decode, PayloadConfig.decode_hex_eq_error_iff]
    constructor
    · rintro ⟨e, hnone, -⟩
      exact hnone
    · intro hnone
      exact ⟨.invalidHex, hnone, rfl⟩
  · intro digits bytes text hdigits hspaced
    rw [PayloadConfig.decode_hex_eq_ok_iff, String.toList_ofList]
    exact hspaced.decode?_eq hdigits
  · intro data data' bytes bytes' hdata hdata'
    exact ((hok data bytes).1 hdata).eq_iff ((hok data' bytes').1 hdata')

/-- A pair of digits with a line end inside, and digits of either case. -/
example : PayloadConfig.decode ⟨"c\nA f E", .hex, none⟩ = .ok [0xca, 0xfe] := by
  decide

end ChannelHandshake
