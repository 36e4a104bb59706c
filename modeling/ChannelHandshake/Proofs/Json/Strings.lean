import ChannelHandshake.Proofs.Json.Grammar
import ChannelHandshake.Proofs.Json.RoundTrip

/-!
# Strings are read by the grammar

The reader goes through a string piece by piece, and `SpellsPieces` is the string as it goes through
it. Every string it comes to the end of is of this form (`exists_of_scanString`), and it comes to
the end of whatever the grammar allows (`IsStringBody.isRead`); there bytes beyond ASCII are taken
together as characters where they can be, so that the induction is on the length of the string.

Pieces that denote a text come from a string that is written as one (`denotesAfter_of_charsAfter`),
and such a string is read as pieces that denote it (`SpellsText.exists_pieces`). So what is read
denotes what the grammar says, texts and other strings alike (`spellsString_of_scanString`,
`SpellsString.scanString`).
-/

namespace ChannelHandshake.Json

/-! ## Escapes -/

theorem escaped?_eq_some_iff {e c : Char} : escaped? e = some c ↔ (e, c) ∈ escapes := by
  constructor
  · intro h
    unfold escaped? at h
    split at h <;> cases h <;> simp [escapes]
  · intro h
    simp only [escapes, List.mem_cons, Prod.mk.injEq, List.not_mem_nil, or_false] at h
    rcases h with ⟨rfl, rfl⟩ | ⟨rfl, rfl⟩ | ⟨rfl, rfl⟩ | ⟨rfl, rfl⟩ | ⟨rfl, rfl⟩ | ⟨rfl, rfl⟩ |
      ⟨rfl, rfl⟩ | ⟨rfl, rfl⟩ <;> rfl

theorem unit?_some (a b c d : Char) :
    unit? (some a) (some b) (some c) (some d) = Hex.value? [a, b, c, d] := by
  simp only [unit?, Hex.value?, Option.bind_some, List.mapM_cons, List.mapM_nil]
  cases Hex.digit? a <;> cases Hex.digit? b <;> cases Hex.digit? c <;> cases Hex.digit? d <;> simp

theorem spellsUnit_of_unit? {a b c d : Symbol} {unit : Nat} (h : unit? a b c d = some unit) :
    ∃ spelling, SpellsUnit spelling unit ∧
      some '\\' :: some 'u' :: [a, b, c, d] = spelling.map some := by
  rcases a with _ | a <;> rcases b with _ | b <;> rcases c with _ | c <;> rcases d with _ | d
  case some.some.some.some =>
    rw [unit?_some] at h
    exact ⟨['\\', 'u', a, b, c, d], .digits h, rfl⟩
  all_goals simp [unit?] at h

theorem lt_of_hexDigit? {c : Char} {digit : Nat} (h : Hex.digit? c = some digit) : digit < 16 := by
  unfold Hex.digit? at h
  split at h
  · rename_i hc
    have hle : c.toNat ≤ 57 := hc.2
    cases h
    omega
  split at h
  · rename_i hc
    have hle : c.toNat ≤ 102 := hc.2
    cases h
    omega
  split at h
  · rename_i hc
    have hle : c.toNat ≤ 70 := hc.2
    cases h
    omega
  · simp at h

/-- Four digits make sixteen bits. -/
theorem SpellsUnit.lt {spelling : List Char} {unit : Nat} (h : SpellsUnit spelling unit) :
    unit < 0x10000 := by
  obtain ⟨hvalue⟩ := h
  rename_i a b c d
  simp only [Hex.value?, List.mapM_cons, List.mapM_nil, Option.bind_eq_bind, Option.pure_def,
    Option.map_eq_some_iff, Option.bind_eq_some_iff, Option.some.injEq] at hvalue
  obtain ⟨_, ⟨w, hw, _, ⟨x, hx, _, ⟨y, hy, _, ⟨z, hz, _, rfl, rfl⟩, rfl⟩, rfl⟩, rfl⟩, rfl⟩ := hvalue
  have hw := lt_of_hexDigit? hw
  have hx := lt_of_hexDigit? hx
  have hy := lt_of_hexDigit? hy
  have hz := lt_of_hexDigit? hz
  simp only [List.foldl_cons, List.foldl_nil]
  omega

/-! ## One piece -/

/-- The inside of a string with the pieces that it is read as. -/
inductive SpellsPieces : List UInt8 → List Piece → Prop where
  | nil : SpellsPieces [] []
  | stray {b : UInt8} {rest : List UInt8} {pieces : List Piece} (hb : 0x80 ≤ b)
      (hrest : SpellsPieces rest pieces) : SpellsPieces (b :: rest) (.stray :: pieces)
  | plain {c : Char} {rest : List UInt8} {pieces : List Piece} (hcontrol : ' ' ≤ c)
      (hquote : c ≠ '"') (hslash : c ≠ '\\') (hrest : SpellsPieces rest pieces) :
      SpellsPieces (Utf8.ofChars [c] ++ rest) (.char c :: pieces)
  | letter {e c : Char} {rest : List UInt8} {pieces : List Piece} (hescape : (e, c) ∈ escapes)
      (hrest : SpellsPieces rest pieces) :
      SpellsPieces (Utf8.ofChars ['\\', e] ++ rest) (.char c :: pieces)
  | unit {spelling : List Char} {unit : Nat} {rest : List UInt8} {pieces : List Piece}
      (hunit : SpellsUnit spelling unit) (hrest : SpellsPieces rest pieces) :
      SpellsPieces (Utf8.ofChars spelling ++ rest) (.unit unit :: pieces)

theorem scanString_plain {c : Char} (hcontrol : ' ' ≤ c) (hquote : c ≠ '"') (hslash : c ≠ '\\')
    (rest : List Symbol) (done : List Piece) :
    scanString (some c :: rest) done = scanString rest (.char c :: done) := by
  rw [scanString]
  · rw [if_neg]
    rintro (h | h)
    · exact hslash h
    · exact Char.not_lt.2 hcontrol h
  all_goals simp_all

theorem scanString_letter {e c : Char} (hescape : (e, c) ∈ escapes) (rest : List Symbol)
    (done : List Piece) :
    scanString (some '\\' :: some e :: rest) done = scanString rest (.char c :: done) := by
  have hread := escaped?_eq_some_iff.2 hescape
  have he : e ≠ 'u' := by
    rintro rfl
    simp [escapes] at hescape
  rw [scanString]
  · rw [hread]
  · simp_all

theorem scanString_unit {spelling : List Char} {unit : Nat} (hunit : SpellsUnit spelling unit)
    (rest : List Symbol) (done : List Piece) :
    scanString (spelling.map some ++ rest) done = scanString rest (.unit unit :: done) := by
  obtain ⟨hvalue⟩ := hunit
  simp only [List.map_cons, List.map_nil, List.cons_append, List.nil_append, scanString,
    unit?_some, hvalue]

/-! ## Whole strings -/

theorem ofChars_quote : Utf8.ofChars ['"'] = [0x22] := by
  decide

theorem symbols_quote (rest : List UInt8) :
    Utf8.symbols (0x22 :: rest) = some '"' :: Utf8.symbols rest := by
  have hread := Utf8.symbols_ofChars_append ['"'] rest
  rw [ofChars_quote] at hread
  exact hread

theorem ofChars_slash (text : List Char) :
    Utf8.ofChars ('\\' :: text) = 0x5C :: Utf8.ofChars text := by
  have hslash : String.utf8EncodeChar '\\' = [0x5C] := by decide
  rw [Utf8.ofChars_cons, hslash, List.singleton_append]

theorem length_lt_ofChars_slash (text : List Char) (rest : List UInt8) :
    rest.length < (Utf8.ofChars ('\\' :: text) ++ rest).length := by
  rw [ofChars_slash, List.cons_append, List.length_cons, List.length_append]
  omega

/-- A string that is read to its end is of the form it is read in. -/
theorem exists_of_scanString {bytes : List UInt8} {done pieces : List Piece} {rest' : List Symbol}
    (h : scanString (Utf8.symbols bytes) done = some (pieces, rest')) :
    ∃ body read rest, bytes = body ++ 0x22 :: rest ∧ Utf8.symbols rest = rest' ∧
      pieces = done.reverse ++ read ∧ SpellsPieces body read := by
  generalize hsymbols : Utf8.symbols bytes = symbols at h
  fun_induction scanString symbols done generalizing bytes with
  | case1 => simp at h
  | case2 tail done ih =>
    obtain ⟨b, bytes', rfl, hb, htail⟩ := Utf8.exists_of_symbols_eq_none_cons hsymbols
    obtain ⟨body, read, rest, rfl, hrest, rfl, hread⟩ := ih htail h
    exact ⟨b :: body, .stray :: read, rest, rfl, hrest, by simp, .stray hb hread⟩
  | case3 tail done =>
    obtain ⟨bytes', rfl, htail⟩ := Utf8.exists_of_symbols_eq_append ['"'] hsymbols
    cases h
    exact ⟨[], [], bytes', by rw [ofChars_quote]; rfl, htail, by simp, .nil⟩
  | case4 a b c d tail done value hvalue ih =>
    obtain ⟨spelling, hunit, hspelling⟩ := spellsUnit_of_unit? hvalue
    have happend : Utf8.symbols bytes = spelling.map some ++ tail := by
      rw [hsymbols, ← hspelling]
      rfl
    obtain ⟨bytes', rfl, htail⟩ := Utf8.exists_of_symbols_eq_append spelling happend
    obtain ⟨body, read, rest, rfl, hrest, rfl, hread⟩ := ih htail h
    exact ⟨_, .unit value :: read, rest, by simp, hrest, by simp, .unit hunit hread⟩
  | case5 => simp at h
  | case6 e tail done hne c hescape ih =>
    obtain ⟨bytes', rfl, htail⟩ := Utf8.exists_of_symbols_eq_append ['\\', e] hsymbols
    obtain ⟨body, read, rest, rfl, hrest, rfl, hread⟩ := ih htail h
    exact ⟨_, .char c :: read, rest, by simp, hrest, by simp,
      .letter (escaped?_eq_some_iff.1 hescape) hread⟩
  | case7 => simp at h
  | case8 => simp at h
  | case9 c tail done hquote hunit hescape hc ih =>
    obtain ⟨bytes', rfl, htail⟩ := Utf8.exists_of_symbols_eq_append [c] hsymbols
    obtain ⟨body, read, rest, rfl, hrest, rfl, hread⟩ := ih htail h
    have hcontrol : ' ' ≤ c := Char.not_lt.1 fun hlt => hc (.inr hlt)
    have hslash : c ≠ '\\' := fun heq => hc (.inl heq)
    exact ⟨_, .char c :: read, rest, by simp, hrest, by simp,
      .plain hcontrol hquote hslash hread⟩

theorem IsStringBody.append {high rest : List UInt8} (hhigh : ∀ b ∈ high, 0x80 ≤ b)
    (hrest : IsStringBody rest) : IsStringBody (high ++ rest) := by
  induction high with
  | nil => exact hrest
  | cons b high ih =>
    have hb : 128 ≤ b.toNat := UInt8.le_iff_toNat_le.1 (hhigh b List.mem_cons_self)
    have htail := ih fun b' hb' => hhigh b' (List.mem_cons_of_mem b hb')
    refine .byte ?_ ?_ ?_ htail
    · rw [UInt8.le_iff_toNat_le]
      exact Nat.le_trans (by decide) hb
    · rintro rfl
      exact absurd hb (by decide)
    · rintro rfl
      exact absurd hb (by decide)

theorem IsStringBody.of_cons {b : UInt8} {rest : List UInt8} (hb : 0x80 ≤ b)
    (h : IsStringBody (b :: rest)) : IsStringBody rest := by
  generalize hbody : b :: rest = body at h
  cases h with
  | nil => simp at hbody
  | byte hcontrol hquote hslash hrest =>
    cases hbody
    exact hrest
  | letter hescape hrest =>
    rw [ofChars_slash] at hbody
    cases hbody
    exact absurd hb (by decide)
  | unit hunit hrest =>
    cases hunit
    rw [ofChars_slash] at hbody
    cases hbody
    exact absurd hb (by decide)

theorem IsStringBody.of_append {high rest : List UInt8} (hhigh : ∀ b ∈ high, 0x80 ≤ b)
    (h : IsStringBody (high ++ rest)) : IsStringBody rest := by
  induction high with
  | nil => exact h
  | cons b high ih =>
    have htail := h.of_cons (hhigh b List.mem_cons_self)
    exact ih (fun b' hb' => hhigh b' (List.mem_cons_of_mem b hb')) htail

theorem IsStringBody.plain {c : Char} {rest : List UInt8} (hcontrol : ' ' ≤ c) (hquote : c ≠ '"')
    (hslash : c ≠ '\\') (hrest : IsStringBody rest) :
    IsStringBody (Utf8.ofChars [c] ++ rest) := by
  by_cases hc : c.toNat < 0x80
  · have hb : (UInt8.ofNat c.toNat).toNat = c.toNat := by
      rw [UInt8.toNat_ofNat']
      omega
    have hcontrol : 32 ≤ c.toNat := hcontrol
    have hquote : c.toNat ≠ 34 := fun h => hquote (Char.toNat_inj.1 h)
    have hslash : c.toNat ≠ 92 := fun h => hslash (Char.toNat_inj.1 h)
    rw [Utf8.ofChars_of_lt hc]
    refine .byte ?_ ?_ ?_ hrest <;>
      simp only [UInt8.le_iff_toNat_le, ne_eq, ← UInt8.toNat_inj, hb] <;> assumption
  · refine .append ?_ hrest
    intro b hb
    exact Utf8.le_of_mem_ofChars_singleton (Nat.le_of_not_lt hc) hb

theorem SpellsPieces.isStringBody {body : List UInt8} {pieces : List Piece}
    (h : SpellsPieces body pieces) : IsStringBody body := by
  induction h with
  | nil => exact .nil
  | @stray b rest pieces hb hrest ih =>
    have hhigh : ∀ b' ∈ [b], 0x80 ≤ b' := by simpa using hb
    exact ih.append hhigh
  | plain hcontrol hquote hslash hrest ih => exact .plain hcontrol hquote hslash ih
  | letter hescape hrest ih => exact .letter hescape ih
  | unit hunit hrest ih => exact .unit hunit ih

/-- In front of `rest` the string is read to its end, in the form it is read in. -/
def IsRead (body rest : List UInt8) : Prop :=
  ∃ pieces, SpellsPieces body pieces ∧ ∀ done,
    scanString (Utf8.symbols (body ++ 0x22 :: rest)) done =
      some (done.reverse ++ pieces, Utf8.symbols rest)

/-- One more piece in front is read before the others. -/
theorem IsRead.step {front body rest : List UInt8} {piece : Piece} (h : IsRead body rest)
    (hpiece : ∀ pieces, SpellsPieces body pieces → SpellsPieces (front ++ body) (piece :: pieces))
    (hscan : ∀ done, scanString (Utf8.symbols (front ++ (body ++ 0x22 :: rest))) done =
      scanString (Utf8.symbols (body ++ 0x22 :: rest)) (piece :: done)) :
    IsRead (front ++ body) rest := by
  obtain ⟨pieces, hpieces, hread⟩ := h
  refine ⟨piece :: pieces, hpiece pieces hpieces, ?_⟩
  intro done
  rw [List.append_assoc, hscan, hread, List.reverse_cons, List.append_assoc,
    List.singleton_append]

theorem isRead_nil (rest : List UInt8) : IsRead [] rest := by
  refine ⟨[], .nil, ?_⟩
  intro done
  rw [List.nil_append, symbols_quote]
  simp [scanString]

theorem IsRead.plain {c : Char} {body rest : List UInt8} (hcontrol : ' ' ≤ c) (hquote : c ≠ '"')
    (hslash : c ≠ '\\') (h : IsRead body rest) : IsRead (Utf8.ofChars [c] ++ body) rest := by
  apply h.step
  · intro pieces hpieces
    exact .plain hcontrol hquote hslash hpieces
  · intro done
    rw [Utf8.symbols_ofChars_append]
    exact scanString_plain hcontrol hquote hslash _ done

theorem IsRead.ascii {b : UInt8} {body rest : List UInt8} (hb : b < 0x80) (hcontrol : 0x20 ≤ b)
    (hquote : b ≠ 0x22) (hslash : b ≠ 0x5C) (h : IsRead body rest) : IsRead (b :: body) rest := by
  have hlt : b.toNat < 128 := UInt8.lt_iff_toNat_lt.1 hb
  have hc : (Char.ofNat b.toNat).toNat = b.toNat := Utf8.toNat_ofNat (.inl (by omega))
  have hbyte : [b] = Utf8.ofChars [Char.ofNat b.toNat] := by
    rw [Utf8.ofChars_singleton, Utf8.utf8EncodeChar_of_lt hb]
  rw [← List.singleton_append, hbyte]
  apply h.plain
  · show 32 ≤ (Char.ofNat b.toNat).toNat
    rw [hc]
    exact UInt8.le_iff_toNat_le.1 hcontrol
  · intro heq
    exact hquote (UInt8.toNat_inj.1 (hc.symm.trans (congrArg Char.toNat heq)))
  · intro heq
    exact hslash (UInt8.toNat_inj.1 (hc.symm.trans (congrArg Char.toNat heq)))

/-- A character beyond ASCII needs no escape. -/
theorem IsRead.beyond {c : Char} {body rest : List UInt8} (hc : 0x80 ≤ c.toNat)
    (h : IsRead body rest) : IsRead (Utf8.ofChars [c] ++ body) rest := by
  apply h.plain
  · exact Nat.le_trans (by decide) hc
  · rintro rfl
    exact absurd hc (by decide)
  · rintro rfl
    exact absurd hc (by decide)

theorem IsRead.letter {e c : Char} {body rest : List UInt8} (hescape : (e, c) ∈ escapes)
    (h : IsRead body rest) : IsRead (Utf8.ofChars ['\\', e] ++ body) rest := by
  apply h.step
  · intro pieces hpieces
    exact .letter hescape hpieces
  · intro done
    rw [Utf8.symbols_ofChars_append]
    exact scanString_letter hescape _ done

theorem IsRead.unit {spelling : List Char} {unit : Nat} {body rest : List UInt8}
    (hunit : SpellsUnit spelling unit) (h : IsRead body rest) :
    IsRead (Utf8.ofChars spelling ++ body) rest := by
  apply h.step
  · intro pieces hpieces
    exact .unit hunit hpieces
  · intro done
    rw [Utf8.symbols_ofChars_append]
    exact scanString_unit hunit _ done

theorem IsRead.stray {b : UInt8} {body rest : List UInt8} (hb : 0x80 ≤ b)
    (hsymbols : Utf8.symbols (b :: body ++ 0x22 :: rest) =
      none :: Utf8.symbols (body ++ 0x22 :: rest))
    (h : IsRead body rest) : IsRead (b :: body) rest := by
  rw [← List.singleton_append]
  apply h.step
  · intro pieces hpieces
    exact .stray hb hpieces
  · intro done
    rw [List.singleton_append, ← List.cons_append, hsymbols, scanString]

/-- What the grammar allows as a string is read to its end. The induction is on its length, since a
character beyond ASCII takes several of its bytes. -/
theorem IsStringBody.isRead {body : List UInt8} (h : IsStringBody body) (rest : List UInt8) :
    IsRead body rest := by
  induction hlength : body.length using Nat.strongRecOn generalizing body with
  | ind length ih =>
    subst hlength
    cases h with
    | nil => exact isRead_nil rest
    | @byte b tail hcontrol hquote hslash htail =>
      by_cases hb : b < 0x80
      · exact (ih tail.length (by simp) htail rfl).ascii hb hcontrol hquote hslash
      have hb := UInt8.not_lt.1 hb
      rcases Utf8.eq_append_or_symbols_eq_none_cons hb (a := 0x22) (by decide) tail rest with
        ⟨c, after, hc, hbytes⟩ | hsymbols
      · -- a whole character is taken at once
        have hbody : IsStringBody after := by
          have hbody := htail.byte hcontrol hquote hslash
          rw [hbytes] at hbody
          exact hbody.of_append fun b' hb' => Utf8.le_of_mem_ofChars_singleton hc hb'
        have hpos := Utf8.length_ofChars_singleton_pos c
        rw [hbytes, List.length_append] at ih
        rw [hbytes]
        exact (ih after.length (by omega) hbody rfl).beyond hc
      · exact (ih tail.length (by simp) htail rfl).stray hb hsymbols
    | @letter e c tail hescape htail =>
      exact (ih tail.length (length_lt_ofChars_slash _ tail) htail rfl).letter hescape
    | @unit spelling unit tail hunit htail =>
      have hlt : tail.length < (Utf8.ofChars spelling ++ tail).length := by
        cases hunit
        exact length_lt_ofChars_slash _ tail
      exact (ih tail.length hlt htail rfl).unit hunit

/-! ## Texts -/

/-- A unit that is no half of a pair is a character. -/
theorem toNat_ofNat_unit {unit : Nat} (hlt : unit < 0x10000) (hhigh : isHighSurrogate unit = false)
    (hlow : isLowSurrogate unit = false) : (Char.ofNat unit).toNat = unit := by
  apply Utf8.toNat_ofNat
  simp only [isHighSurrogate, isLowSurrogate, Bool.and_eq_false_iff, decide_eq_false_iff_not]
    at hhigh hlow
  simp only [Nat.isValidChar]
  omega

theorem isSurrogate_toNat (c : Char) :
    isHighSurrogate c.toNat = false ∧ isLowSurrogate c.toNat = false := by
  have hvalid : c.toNat.isValidChar := c.valid
  simp only [Nat.isValidChar] at hvalid
  simp only [isHighSurrogate, isLowSurrogate, Bool.and_eq_false_iff, decide_eq_false_iff_not]
  omega

/-- Two halves make the character that they are the halves of. -/
theorem spellsChar_of_surrogates {spelling spelling' : List Char} {high low : Nat}
    (hspelling : SpellsUnit spelling high) (hspelling' : SpellsUnit spelling' low)
    (hhigh : isHighSurrogate high = true) (hlow : isLowSurrogate low = true) :
    SpellsChar (spelling ++ spelling') (ofSurrogates high low) := by
  simp only [isHighSurrogate, isLowSurrogate, Bool.and_eq_true, decide_eq_true_eq] at hhigh hlow
  have hc : (ofSurrogates high low).toNat = 0x10000 + (high - 0xD800) * 0x400 + (low - 0xDC00) := by
    apply Utf8.toNat_ofNat
    simp only [Nat.isValidChar]
    omega
  have hhigh' : 0xD800 + ((ofSurrogates high low).toNat - 0x10000) / 0x400 = high := by omega
  have hlow' : 0xDC00 + ((ofSurrogates high low).toNat - 0x10000) % 0x400 = low := by omega
  apply SpellsChar.pair
  · omega
  · rwa [hhigh']
  · rwa [hlow']

/-- The string is written as the text `out`, but for the characters `done` in front of it, which are
held last first. -/
def DenotesAfter (body : List UInt8) (done out : List Char) : Prop :=
  ∃ spelling text, body = Utf8.ofChars spelling ∧ SpellsText spelling text ∧
    out = done.reverse ++ text

theorem DenotesAfter.step {body : List UInt8} {front done out : List Char} {c : Char}
    (hc : SpellsChar front c) (h : DenotesAfter body (c :: done) out) :
    DenotesAfter (Utf8.ofChars front ++ body) done out := by
  obtain ⟨spelling, text, rfl, htext, rfl⟩ := h
  refine ⟨front ++ spelling, c :: text, (Utf8.ofChars_append _ _).symm, .cons hc htext, ?_⟩
  rw [List.reverse_cons, List.append_assoc, List.singleton_append]

/-- Pieces that denote a text come from a string that is written as this text. -/
theorem denotesAfter_of_charsAfter {body : List UInt8} {pieces : List Piece} {done out : List Char}
    (hbody : SpellsPieces body pieces) (h : Piece.charsAfter pieces done = some out) :
    DenotesAfter body done out := by
  fun_induction Piece.charsAfter pieces done generalizing body with
  | case1 done =>
    cases hbody
    cases h
    exact ⟨[], [], rfl, .nil, (List.append_nil _).symm⟩
  | case2 c pieces done ih =>
    cases hbody with
    | plain hcontrol hquote hslash hrest => exact (ih hrest h).step (.plain hcontrol hquote hslash)
    | letter hescape hrest => exact (ih hrest h).step (.letter hescape)
  | case4 high low pieces done hhigh hlow ih =>
    -- the two halves of a pair
    cases hbody with
    | unit hunit hbody =>
      cases hbody with
      | unit hunit' hrest =>
        have hc := spellsChar_of_surrogates hunit hunit' hhigh hlow
        rw [← List.append_assoc, ← Utf8.ofChars_append]
        exact (ih hrest h).step hc
  | case7 high low pieces done hhigh hlow ih =>
    cases hbody with
    | unit hunit hrest =>
      have hc := toNat_ofNat_unit hunit.lt (Bool.eq_false_iff.2 hhigh) (Bool.eq_false_iff.2 hlow)
      exact (ih hrest h).step (.unit (by rwa [hc]))
  | case9 unit pieces done hnext hhalf ih =>
    simp only [Bool.or_eq_true, not_or, Bool.not_eq_true] at hhalf
    cases hbody with
    | unit hunit hrest =>
      have hc := toNat_ofNat_unit hunit.lt hhalf.1 hhalf.2
      exact (ih hrest h).step (.unit (by rwa [hc]))
  | _ => simp at h

/-- A character is read from what it is written as, in front of anything. -/
theorem SpellsChar.exists_pieces {spelling : List Char} {c : Char} (h : SpellsChar spelling c) :
    ∃ front : List Piece,
      (∀ rest done, scanString (spelling.map some ++ rest) done =
        scanString rest (front.reverse ++ done)) ∧
      ∀ pieces done, Piece.charsAfter (front ++ pieces) done =
        Piece.charsAfter pieces (c :: done) := by
  cases h with
  | plain hcontrol hquote hslash =>
    exact ⟨[.char c], scanString_plain hcontrol hquote hslash, by simp [Piece.charsAfter]⟩
  | letter hescape => exact ⟨[.char c], scanString_letter hescape, by simp [Piece.charsAfter]⟩
  | unit hunit =>
    obtain ⟨hhigh, hlow⟩ := isSurrogate_toNat c
    refine ⟨[.unit c.toNat], scanString_unit hunit, ?_⟩
    intro pieces done
    rw [List.singleton_append, charsAfter_unit hhigh hlow, Char.ofNat_toNat]
  | @pair spelling spelling' _ hc hhigh hlow =>
    have hmax := Utf8.toNat_lt c
    generalize hh : 0xD800 + (c.toNat - 0x10000) / 0x400 = high at hhigh
    generalize hl : 0xDC00 + (c.toNat - 0x10000) % 0x400 = low at hlow
    have hhigh' : isHighSurrogate high = true := by
      simp only [isHighSurrogate, Bool.and_eq_true, decide_eq_true_eq]
      omega
    have hlow' : isLowSurrogate low = true := by
      simp only [isLowSurrogate, Bool.and_eq_true, decide_eq_true_eq]
      omega
    have hpair : ofSurrogates high low = c := by
      have hvalue : 0x10000 + (high - 0xD800) * 0x400 + (low - 0xDC00) = c.toNat := by omega
      rw [ofSurrogates, hvalue, Char.ofNat_toNat]
    refine ⟨[.unit high, .unit low], ?_, ?_⟩
    · intro rest done
      rw [List.map_append, List.append_assoc, scanString_unit hhigh, scanString_unit hlow]
      rfl
    · intro pieces done
      simp only [List.cons_append, List.nil_append, Piece.charsAfter, hhigh', hlow', if_true, hpair]

/-- A text is read from what it is written as. -/
theorem SpellsText.exists_pieces {spelling text : List Char} (h : SpellsText spelling text) :
    ∃ pieces : List Piece,
      (∀ rest done, scanString (spelling.map some ++ rest) done =
        scanString rest (pieces.reverse ++ done)) ∧
      ∀ done, Piece.charsAfter pieces done = some (done.reverse ++ text) := by
  induction h with
  | nil => exact ⟨[], by simp, by simp [Piece.charsAfter]⟩
  | cons hc hrest ih =>
    obtain ⟨front, hscan, hchars⟩ := hc.exists_pieces
    obtain ⟨pieces, hscan', hchars'⟩ := ih
    refine ⟨front ++ pieces, ?_, ?_⟩
    · intro rest done
      rw [List.map_append, List.append_assoc, hscan, hscan', List.reverse_append, List.append_assoc]
    · intro done
      rw [hchars, hchars', List.reverse_cons, List.append_assoc, List.singleton_append]

/-! ## Strings with what they denote -/

theorem SpellsText.scanString {spelling text : List Char} (h : SpellsText spelling text)
    (rest : List UInt8) :
    ∃ pieces, scanString (Utf8.symbols (Utf8.ofChars spelling ++ 0x22 :: rest)) [] =
      some (pieces, Utf8.symbols rest) ∧ Piece.text? pieces = some (String.ofList text) := by
  obtain ⟨pieces, hscan, hchars⟩ := h.exists_pieces
  refine ⟨pieces, ?_, by rw [Piece.text?, hchars]; rfl⟩
  rw [Utf8.symbols_ofChars_append, hscan, symbols_quote]
  simp [Json.scanString]

/-- A string that is read is a string of the grammar and denotes what it is taken to. -/
theorem spellsString_of_scanString {bytes : List UInt8} {pieces : List Piece}
    {rest' : List Symbol} (h : scanString (Utf8.symbols bytes) [] = some (pieces, rest')) :
    ∃ body rest, bytes = body ++ 0x22 :: rest ∧ Utf8.symbols rest = rest' ∧
      SpellsString body (Piece.text? pieces) := by
  obtain ⟨body, _, rest, rfl, hrest, rfl, hbody⟩ := exists_of_scanString h
  refine ⟨body, rest, rfl, hrest, ?_⟩
  cases htext : Piece.text? pieces with
  | some text =>
    obtain ⟨out, hchars, rfl⟩ := Option.map_eq_some_iff.1 htext
    obtain ⟨spelling, text, rfl, hspells, rfl⟩ := denotesAfter_of_charsAfter hbody hchars
    exact .text (by simpa using hspells)
  | none =>
    refine .other hbody.isStringBody ?_
    rintro spelling text rfl hspells
    obtain ⟨pieces', hscan, htext'⟩ := hspells.scanString rest
    cases h.symm.trans hscan
    simp [htext] at htext'

/-- Every string of the grammar is read, and taken to denote what it denotes. -/
theorem SpellsString.scanString {body : List UInt8} {text : Option String}
    (h : SpellsString body text) (rest : List UInt8) :
    ∃ pieces, scanString (Utf8.symbols (body ++ 0x22 :: rest)) [] =
      some (pieces, Utf8.symbols rest) ∧ Piece.text? pieces = text := by
  cases h with
  | text htext =>
    have hread := htext.scanString rest
    rwa [String.ofList_toList] at hread
  | other hbody hother =>
    obtain ⟨pieces, hpieces, hscan⟩ := hbody.isRead rest
    refine ⟨pieces, hscan [], ?_⟩
    rw [Piece.text?, Option.map_eq_none_iff]
    cases hchars : Piece.charsAfter pieces [] with
    | none => rfl
    | some out =>
      obtain ⟨spelling, text, heq, hspells, -⟩ := denotesAfter_of_charsAfter hpieces hchars
      exact absurd hspells (hother spelling text heq)

end ChannelHandshake.Json
