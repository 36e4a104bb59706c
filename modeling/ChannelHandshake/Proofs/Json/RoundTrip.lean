import ChannelHandshake.Json.Printer
import ChannelHandshake.Proofs.Utf8

/-!
# JSON read back

What the printer writes, the reader reads back: a text as a string (`scanString_escaped`), a token
in front of any other text (`scanOne_spelling`), the tokens of a value in front of any other tokens
and inside any open brackets (`readsBack`), and so a whole value (`ofBytes?_encode_render`).

Only numbers are left out, for a number goes on as long as digits follow, so that it is read back
in front of some texts and not of others.
-/

namespace ChannelHandshake.Json

/-! ## Strings -/

theorem digit?_digitChar : ∀ n < 16, Hex.digit? (Hex.digitChar n) = some n := by
  decide

/-- What is read where a character was written. -/
def Piece.written (c : Char) : Piece :=
  if c < ' ' ∧ c ∉ ['\x08', '\x0c', '\n', '\r', '\t'] then .unit c.toNat else .char c

theorem toNat_lt_of_lt_blank {c : Char} (h : c < ' ') : c.toNat < 32 := h

/-- A character is read back from what is written for it, whatever follows. -/
theorem scanString_escapedChar (c : Char) (rest : List Symbol) (done : List Piece) :
    scanString ((escapedChar c).map some ++ rest) done =
      scanString rest (Piece.written c :: done) := by
  unfold escapedChar
  split
  case h_8 hquote hslash hb hf hn hr ht =>
    split
    · -- a control without a letter of its own
      rename_i hlt
      have hc := toNat_lt_of_lt_blank hlt
      have hhigh := digit?_digitChar (c.toNat / 16) (by omega)
      have hlow := digit?_digitChar (c.toNat % 16) (by omega)
      have hzero : Hex.digit? '0' = some 0 := by decide
      have hunit : unit? (some '0') (some '0') (some (Hex.digitChar (c.toNat / 16)))
          (some (Hex.digitChar (c.toNat % 16))) = some c.toNat := by
        simp only [unit?, Option.bind_some, hzero, hhigh, hlow, Option.bind_eq_bind,
          Option.pure_def]
        congr 1
        omega
      have hpiece : Piece.written c = .unit c.toNat := by
        simp_all [Piece.written]
      simp only [List.map_cons, List.map_nil, List.cons_append, List.nil_append, scanString,
        hunit, hpiece]
    · rename_i hge
      have hpiece : Piece.written c = .char c := by simp [Piece.written, hge]
      simp only [List.map_cons, List.map_nil, List.singleton_append, hpiece]
      rw [scanString]
      · rw [if_neg (by simp_all)]
      all_goals simp_all
  all_goals simp [scanString, escaped?, Piece.written]

/-- The inside of a string is read up to the closing quote. -/
theorem scanString_escaped (text : List Char) (rest : List Symbol) (done : List Piece) :
    scanString ((text.flatMap escapedChar).map some ++ some '"' :: rest) done =
      some (done.reverse ++ text.map Piece.written, rest) := by
  induction text generalizing done with
  | nil => simp [scanString]
  | cons c text ih =>
    rw [List.flatMap_cons, List.map_append, List.append_assoc, scanString_escapedChar, ih]
    simp

/-- A unit that is no half of a pair is a character by itself. -/
theorem charsAfter_unit {value : Nat} (hhigh : isHighSurrogate value = false)
    (hlow : isLowSurrogate value = false) (rest : List Piece) (done : List Char) :
    Piece.charsAfter (.unit value :: rest) done =
      Piece.charsAfter rest (Char.ofNat value :: done) := by
  rcases rest with _ | ⟨_ | _ | _, rest⟩ <;> simp [Piece.charsAfter, hhigh, hlow]

theorem charsAfter_written (text done : List Char) :
    Piece.charsAfter (text.map Piece.written) done = some (done.reverse ++ text) := by
  induction text generalizing done with
  | nil => simp [Piece.charsAfter]
  | cons c text ih =>
    have hstep : Piece.charsAfter ((c :: text).map Piece.written) done =
        Piece.charsAfter (text.map Piece.written) (c :: done) := by
      rw [List.map_cons, Piece.written]
      split
      · rename_i h
        have hc := toNat_lt_of_lt_blank h.1
        have hhigh : isHighSurrogate c.toNat = false := by
          simp only [isHighSurrogate, Bool.and_eq_false_iff, decide_eq_false_iff_not]
          omega
        have hlow : isLowSurrogate c.toNat = false := by
          simp only [isLowSurrogate, Bool.and_eq_false_iff, decide_eq_false_iff_not]
          omega
        rw [charsAfter_unit hhigh hlow, Char.ofNat_toNat]
      · rw [Piece.charsAfter]
    rw [hstep, ih, List.reverse_cons, List.append_assoc, List.singleton_append]

/-- A text that needs no escape stands between its quotes as it is. -/
theorem quote_of_plain {text : String} (h : ∀ c ∈ text.toList, escapedChar c = [c]) :
    quote text = '"' :: text.toList ++ ['"'] := by
  have hplain : text.toList.flatMap escapedChar = text.toList := by
    rw [List.flatMap_def, List.map_congr_left h, ← List.flatMap_def]
    exact List.flatMap_singleton' _
  rw [quote, hplain]

/-! ## Tokens -/

/-- A token is read back in front of any symbols, unless it is a number. -/
theorem scanOne_spelling {t : Token} (ht : ∀ n, t ≠ .number n) (rest : List Symbol) :
    scanOne (t.spelling.map some ++ rest) = some (t, rest) := by
  cases t with
  | number n => exact absurd rfl (ht n)
  | bool b => cases b <;> simp [Token.spelling, scanOne]
  | string text =>
    cases text with
    | none =>
      have hunit : unit? (some 'd') (some '8') (some '0') (some '0') = some 0xD800 := by decide
      have hpieces : Piece.text? [.unit 0xD800] = none := by decide
      simp [Token.spelling, scanOne, scanString, hunit, hpieces]
    | some text =>
      have hscan := scanString_escaped text.toList rest []
      have htext : Piece.text? (text.toList.map Piece.written) = some text := by
        rw [Piece.text?, charsAfter_written, List.reverse_nil, List.nil_append,
          Option.map_some, String.ofList_toList]
      simp only [List.reverse_nil, List.nil_append] at hscan
      simp only [Token.spelling, quote, List.map_append, List.map_cons, List.map_nil,
        List.cons_append, List.append_assoc, List.nil_append, scanOne, hscan, Option.map_some,
        htext]
  | _ => simp [Token.spelling, scanOne]

/-- No token begins with a blank. -/
theorem isBlank_eq_false_of_scanOne {s : Symbol} {symbols rest : List Symbol} {t : Token}
    (h : scanOne (s :: symbols) = some (t, rest)) : isBlank s = false := by
  rw [Bool.eq_false_iff]
  intro hblank
  simp only [isBlank, Bool.or_eq_true, beq_iff_eq] at hblank
  rcases hblank with ((rfl | rfl) | rfl) | rfl <;>
    simp [scanOne, scanNumber, scanWhole, scanDigits1, digit?] at h

/-- The reader goes on behind each token that it finds. -/
theorem scanAfter_of_scanOne {symbols rest : List Symbol} {t : Token}
    (h : scanOne symbols = some (t, rest)) (done : List Token) :
    scanAfter symbols done = scanAfter rest (t :: done) := by
  cases symbols with
  | nil => simp [scanOne, scanNumber, scanWhole, scanDigits1] at h
  | cons s symbols =>
    have hblank := isBlank_eq_false_of_scanOne h
    rw [scanAfter, hblank, if_neg Bool.false_ne_true]
    split <;> simp_all

theorem scanAfter_spelling {tokens : List Token} (h : ∀ t ∈ tokens, ∀ n, t ≠ .number n)
    (done : List Token) :
    scanAfter ((tokens.flatMap Token.spelling).map some) done = some (done.reverse ++ tokens) := by
  induction tokens generalizing done with
  | nil => simp [scanAfter]
  | cons t tokens ih =>
    have ht := scanOne_spelling (h t List.mem_cons_self)
      ((tokens.flatMap Token.spelling).map some)
    rw [List.flatMap_cons, List.map_append, scanAfter_of_scanOne ht,
      ih fun t' ht' => h t' (List.mem_cons_of_mem t ht')]
    simp

/-! ## Values -/

namespace Value

theorem tokens_ne_close {v : Value} {tail rest : List Token} :
    v.tokens ++ tail ≠ .closeArray :: rest := by
  cases v <;> simp [tokens]

/-- A comma stands in front of every part but the first. -/
theorem commaSeparated_cons (first : List Token) (parts : List (List Token)) :
    commaSeparated (first :: parts) = first ++ parts.flatMap (.comma :: ·) := by
  induction parts generalizing first with
  | nil => simp [commaSeparated]
  | cons second parts ih =>
    have hstep : commaSeparated (first :: second :: parts) =
        first ++ .comma :: commaSeparated (second :: parts) := by
      simp [commaSeparated]
    rw [hstep, ih, List.flatMap_cons, List.cons_append]

/-- A value is read back in front of any tokens, inside any open brackets. -/
def ReadsBack (v : Value) : Prop :=
  ∀ stack rest, build none stack (v.tokens ++ rest) = build (some v) stack rest

/-- The items of an array that follow the value `v` and those in `done`, last first. -/
theorem build_items {items : List Value} (hitems : ∀ w ∈ items, ReadsBack w) (v : Value)
    (done : List Value) (stack : List Opened) (rest : List Token) :
    build (some v) (.array done :: stack)
        ((items.map tokens).flatMap (.comma :: ·) ++ .closeArray :: rest) =
      build (some (.array (done.reverse ++ v :: items))) stack rest := by
  induction items generalizing v done with
  | nil => simp [build]
  | cons w items ih =>
    have hw := hitems w List.mem_cons_self
    have hrest := ih fun x hx => hitems x (List.mem_cons_of_mem w hx)
    simp only [List.map_cons, List.flatMap_cons, List.append_assoc, List.cons_append, build]
    rw [hw, hrest, List.reverse_cons, List.append_assoc, List.singleton_append]

/-- The members of an object that follow the value `v` of `key` and those in `done`, last first. -/
theorem build_members {members : List (Option String × Value)}
    (hmembers : ∀ m ∈ members, ReadsBack m.2) (key : Option String) (v : Value)
    (done : List (Option String × Value)) (stack : List Opened) (rest : List Token) :
    build (some v) (.object done key :: stack)
        ((members.map fun m => .string m.1 :: .colon :: m.2.tokens).flatMap (.comma :: ·) ++
          .closeObject :: rest) =
      build (some (.object (done.reverse ++ (key, v) :: members))) stack rest := by
  induction members generalizing key v done with
  | nil => simp [build]
  | cons m members ih =>
    have hm := hmembers m List.mem_cons_self
    have hrest := ih fun x hx => hmembers x (List.mem_cons_of_mem m hx)
    simp only [List.map_cons, List.flatMap_cons, List.append_assoc, List.cons_append, build]
    rw [hm, hrest, List.reverse_cons, List.append_assoc, List.singleton_append]

theorem readsBack (v : Value) : ReadsBack v := by
  induction v using Value.tokens.induct with
  | case1 => intro stack rest; simp [tokens, build]
  | case2 b => intro stack rest; simp [tokens, build]
  | case3 n => intro stack rest; simp [tokens, build]
  | case4 s => intro stack rest; simp [tokens, build]
  | case5 items ih =>
    intro stack rest
    cases items with
    | nil => simp [tokens, commaSeparated, build]
    | cons v items =>
      have hv := ih v List.mem_cons_self
      have hitems := build_items (fun w hw => ih w (List.mem_cons_of_mem v hw)) v [] stack rest
      rw [tokens, List.map_cons, commaSeparated_cons]
      simp only [List.append_assoc, List.cons_append, List.nil_append]
      rw [build, hv, hitems]
      · simp
      · intro rest' h
        exact tokens_ne_close h
  | case6 members ih =>
    intro stack rest
    cases members with
    | nil => simp [tokens, commaSeparated, build]
    | cons m members =>
      have hm := ih m List.mem_cons_self
      have hmembers := build_members (fun x hx => ih x (List.mem_cons_of_mem m hx)) m.1 m.2 []
        stack rest
      rw [tokens, List.map_cons, commaSeparated_cons]
      simp only [List.append_assoc, List.cons_append, List.nil_append, build]
      rw [hm, hmembers]
      simp

/-- The tokens of a value are read as that value. -/
theorem ofTokens?_tokens (v : Value) : ofTokens? v.tokens = some v := by
  have h := readsBack v [] []
  rw [List.append_nil] at h
  rw [ofTokens?, h, build]

/-! ## Texts -/

/-- There is no number anywhere in the value. -/
def NumberFree (v : Value) : Prop :=
  ∀ t ∈ v.tokens, ∀ n, t ≠ .number n

/-- What holds of a comma and of the tokens of every part holds of them all. -/
theorem forall_mem_commaSeparated {P : Token → Prop} {parts : List (List Token)}
    (hcomma : P .comma) (hparts : ∀ part ∈ parts, ∀ t ∈ part, P t) :
    ∀ t ∈ commaSeparated parts, P t := by
  intro t ht
  cases parts with
  | nil => simp [commaSeparated] at ht
  | cons first parts =>
    rw [commaSeparated_cons, List.mem_append, List.mem_flatMap] at ht
    rcases ht with ht | ⟨part, hpart, ht⟩
    · exact hparts first List.mem_cons_self t ht
    · rcases List.mem_cons.1 ht with rfl | ht
      · exact hcomma
      · exact hparts part (List.mem_cons_of_mem first hpart) t ht

theorem numberFree_string (text : Option String) : NumberFree (.string text) := by
  intro t ht n
  simp only [tokens, List.mem_singleton] at ht
  simp [ht]

theorem numberFree_array {items : List Value} (h : ∀ v ∈ items, NumberFree v) :
    NumberFree (.array items) := by
  have hitems : ∀ part ∈ items.map tokens, ∀ t ∈ part, ∀ n, t ≠ .number n := by
    intro part hpart
    obtain ⟨v, hv, rfl⟩ := List.mem_map.1 hpart
    exact h v hv
  intro t ht
  rw [tokens] at ht
  simp only [List.cons_append, List.mem_cons, List.mem_append, List.not_mem_nil, or_false] at ht
  rcases ht with rfl | ht | rfl
  · simp
  · exact forall_mem_commaSeparated (by simp) hitems t ht
  · simp

theorem numberFree_object {members : List (Option String × Value)}
    (h : ∀ m ∈ members, NumberFree m.2) : NumberFree (.object members) := by
  have hmembers : ∀ part ∈ members.map fun m => .string m.1 :: .colon :: m.2.tokens,
      ∀ t ∈ part, ∀ n, t ≠ .number n := by
    intro part hpart t ht
    obtain ⟨m, hm, rfl⟩ := List.mem_map.1 hpart
    simp only [List.mem_cons] at ht
    rcases ht with rfl | rfl | ht
    · simp
    · simp
    · exact h m hm t ht
  intro t ht
  rw [tokens] at ht
  simp only [List.cons_append, List.mem_cons, List.mem_append, List.not_mem_nil, or_false] at ht
  rcases ht with rfl | ht | rfl
  · simp
  · exact forall_mem_commaSeparated (by simp) hmembers t ht
  · simp

/-- The text of a value is read as that value. -/
theorem ofBytes?_encode_render {v : Value} (h : NumberFree v) :
    ofBytes? (Utf8.encode v.render) = some v := by
  rw [ofBytes?, ofSymbols?, Utf8.symbols_encode, render, String.toList_ofList, scan?,
    scanAfter_spelling h, List.reverse_nil, List.nil_append, Option.bind_some, ofTokens?_tokens]

theorem length_encode_render_le (v : Value) :
    (Utf8.encode v.render).length ≤ 4 * (v.tokens.flatMap Token.spelling).length := by
  have hlength := Utf8.length_encode_le v.render
  rwa [render, String.toList_ofList, ← render] at hlength

end Value

end ChannelHandshake.Json
