import ChannelHandshake.Text.Utf8

/-!
# UTF-8 read back

The bytes of a text are read as the characters of that text. A single character is read back
whatever bytes follow it (`decodeFirst_utf8EncodeChar`), one case for each length of its encoding;
the text follows by induction on its characters (`symbols_encode`).

Nothing else is read as a character (`eq_append_of_decodeFirst`), so that bytes can be told from
what is read: characters come from their encodings, and stray bytes are beyond ASCII
(`exists_of_symbols_eq_append`, `exists_of_symbols_eq_none_cons`).
-/

namespace ChannelHandshake.Utf8

/-! ## Bytes as lists -/

theorem toList_loop (bytes : ByteArray) (i : Nat) (done : List UInt8) :
    ByteArray.toList.loop bytes i done = done.reverse ++ bytes.data.toList.drop i := by
  have hsize : bytes.size = bytes.data.toList.length := rfl
  fun_induction ByteArray.toList.loop bytes i done with
  | case1 i done hlt ih =>
    have hi : i < bytes.data.toList.length := hsize ▸ hlt
    have hget : bytes.get! i = bytes.data.toList[i] := by
      simp only [ByteArray.get!, Array.getElem_toList]
      exact getElem!_pos bytes.data i hlt
    rw [ih, hget, List.reverse_cons, List.append_assoc, List.singleton_append,
      List.getElem_cons_drop]
  | case2 i done hge =>
    have hdrop : bytes.data.toList.drop i = [] := List.drop_eq_nil_of_le (by omega)
    rw [hdrop, List.append_nil]

theorem toList_eq_data (bytes : ByteArray) : bytes.toList = bytes.data.toList := by
  rw [ByteArray.toList, toList_loop, List.reverse_nil, List.nil_append, List.drop_zero]

/-- A text is encoded character by character. -/
theorem encode_eq_flatMap (text : String) :
    encode text = text.toList.flatMap String.utf8EncodeChar := by
  rw [encode, toList_eq_data, String.toUTF8, ← String.utf8Encode_toList, List.utf8Encode,
    List.toList_data_toByteArray]

theorem length_encode_le (text : String) : (encode text).length ≤ 4 * text.toList.length := by
  rw [encode_eq_flatMap]
  induction text.toList with
  | nil => exact Nat.le_refl 0
  | cons c rest ih =>
    have hsize := c.utf8Size_le_four
    rw [List.flatMap_cons, List.length_append, String.length_utf8EncodeChar, List.length_cons]
    omega

/-! ## One character -/

theorem toNat_lt (c : Char) : c.toNat < 0x110000 := by
  have hvalid : c.toNat.isValidChar := c.valid
  simp only [Nat.isValidChar] at hvalid
  omega

/-- The bytes after the first one hold six bits each. -/
theorem isContinuation_ofNat (n : Nat) :
    isContinuation (UInt8.ofNat (n % 64 + 128)) = true := by
  simp only [isContinuation, Bool.and_eq_true, decide_eq_true_eq, UInt8.le_iff_toNat_le,
    UInt8.lt_iff_toNat_lt, UInt8.toNat_ofNat', UInt8.reduceToNat]
  omega

theorem assemble_eq_some {least lead : Nat} {tail : List UInt8} {c : Char}
    (htail : tail.all isContinuation = true)
    (hvalue : tail.foldl (fun v b => v * 64 + b.toNat % 64) lead = c.toNat)
    (hleast : least ≤ c.toNat) : assemble least lead tail = some c := by
  have hvalid : c.toNat.isValidChar := c.valid
  simp only [assemble, htail, if_true, hvalue, hleast, hvalid, and_self, Char.ofNat_toNat]

/-- A character is read back from its bytes, whatever follows them. -/
theorem decodeFirst_utf8EncodeChar (c : Char) (rest : List UInt8) :
    decodeFirst (String.utf8EncodeChar c ++ rest) = some (c, rest) := by
  have hv : c.val.toNat = c.toNat := rfl
  have hlt := toNat_lt c
  simp only [String.utf8EncodeChar, hv]
  -- the four lengths of an encoding
  split
  · simp only [List.singleton_append, decodeFirst, UInt8.lt_iff_toNat_lt, UInt8.toNat_ofNat',
      UInt8.reduceToNat]
    rw [if_pos (by omega), Nat.mod_eq_of_lt (by omega), Char.ofNat_toNat]
  split
  · simp only [List.cons_append, List.nil_append, decodeFirst, UInt8.lt_iff_toNat_lt,
      UInt8.toNat_ofNat', UInt8.reduceToNat]
    rw [if_neg (by omega), if_neg (by omega), if_pos (by omega),
      assemble_eq_some (c := c) _ _ (by omega), Option.map_some]
    · simp only [List.all_cons, List.all_nil, isContinuation_ofNat, Bool.and_true]
    · simp only [List.foldl_cons, List.foldl_nil, UInt8.toNat_ofNat']
      omega
  split
  · simp only [List.cons_append, List.nil_append, decodeFirst, UInt8.lt_iff_toNat_lt,
      UInt8.toNat_ofNat', UInt8.reduceToNat]
    rw [if_neg (by omega), if_neg (by omega), if_neg (by omega), if_pos (by omega),
      assemble_eq_some (c := c) _ _ (by omega), Option.map_some]
    · simp only [List.all_cons, List.all_nil, isContinuation_ofNat, Bool.and_true]
    · simp only [List.foldl_cons, List.foldl_nil, UInt8.toNat_ofNat']
      omega
  · simp only [List.cons_append, List.nil_append, decodeFirst, UInt8.lt_iff_toNat_lt,
      UInt8.toNat_ofNat', UInt8.reduceToNat]
    rw [if_neg (by omega), if_neg (by omega), if_neg (by omega), if_neg (by omega), if_pos (by omega),
      assemble_eq_some (c := c) _ _ (by omega), Option.map_some]
    · simp only [List.all_cons, List.all_nil, isContinuation_ofNat, Bool.and_true]
    · simp only [List.foldl_cons, List.foldl_nil, UInt8.toNat_ofNat']
      omega

/-! ## A text -/

/-- What was read before stands in front. -/
theorem symbolsAfter_append (bytes : List UInt8) (done before : List Symbol) :
    symbolsAfter bytes (done ++ before) = before.reverse ++ symbolsAfter bytes done := by
  fun_induction symbolsAfter bytes done with
  | case1 done => rw [symbolsAfter, List.reverse_append]
  | case2 done b rest c rest' h ih =>
    rw [← ih, symbolsAfter]
    split
    · simp_all
    · simp_all
  | case3 done b rest h ih =>
    rw [← ih, symbolsAfter]
    split
    · simp_all
    · rfl

theorem symbols_of_decodeFirst {bytes rest : List UInt8} {c : Char}
    (h : decodeFirst bytes = some (c, rest)) : symbols bytes = some c :: symbols rest := by
  cases bytes with
  | nil => simp [decodeFirst] at h
  | cons b tail =>
    have hstep : symbols (b :: tail) = symbolsAfter rest [some c] := by
      rw [symbols, symbolsAfter]
      split <;> simp_all
    have happend := symbolsAfter_append rest [] [some c]
    rw [hstep]
    exact happend

/-- The bytes of a row of characters. -/
def ofChars (text : List Char) : List UInt8 :=
  text.flatMap String.utf8EncodeChar

theorem ofChars_nil : ofChars [] = [] := rfl

theorem ofChars_cons (c : Char) (text : List Char) :
    ofChars (c :: text) = String.utf8EncodeChar c ++ ofChars text :=
  List.flatMap_cons

theorem ofChars_append (text text' : List Char) :
    ofChars (text ++ text') = ofChars text ++ ofChars text' :=
  List.flatMap_append

theorem symbols_nil : symbols [] = [] := by
  rw [symbols, symbolsAfter, List.reverse_nil]

/-- Characters are read from their bytes, whatever follows. -/
theorem symbols_ofChars_append (text : List Char) (rest : List UInt8) :
    symbols (ofChars text ++ rest) = text.map some ++ symbols rest := by
  induction text with
  | nil => rfl
  | cons c text ih =>
    rw [ofChars_cons, List.append_assoc, symbols_of_decodeFirst (decodeFirst_utf8EncodeChar c _),
      ih, List.map_cons, List.cons_append]

/-- The bytes of a text hold its characters and no stray byte. -/
theorem symbols_encode (text : String) : symbols (encode text) = text.toList.map some := by
  have hread := symbols_ofChars_append text.toList []
  rw [List.append_nil, symbols_nil, List.append_nil] at hread
  rw [encode_eq_flatMap]
  exact hread

/-! ## One character from its bytes -/

theorem toNat_ofNat {n : Nat} (h : n.isValidChar) : (Char.ofNat n).toNat = n := by
  rw [Char.ofNat, dif_pos h]
  rfl

theorem of_assemble_eq_some {least lead : Nat} {tail : List UInt8} {c : Char}
    (h : assemble least lead tail = some c) :
    tail.all isContinuation = true ∧
      c.toNat = tail.foldl (fun v b => v * 64 + b.toNat % 64) lead ∧ least ≤ c.toNat := by
  unfold assemble at h
  split at h
  · rename_i htail
    dsimp only at h
    split at h
    · rename_i hvalue
      obtain rfl := Option.some.inj h
      rw [toNat_ofNat hvalue.2]
      exact ⟨htail, rfl, hvalue.1⟩
    · simp at h
  · simp at h

theorem utf8EncodeChar_of_lt {b : UInt8} (h : b < 0x80) :
    String.utf8EncodeChar (Char.ofNat b.toNat) = [b] := by
  have hlt : b.toNat < 128 := UInt8.lt_iff_toNat_lt.1 h
  have hvalue : (Char.ofNat b.toNat).val.toNat = b.toNat := toNat_ofNat (.inl (by omega))
  simp only [String.utf8EncodeChar, hvalue]
  rw [if_pos (by omega), UInt8.ofNat_toNat]

theorem utf8EncodeChar_of_assemble_two {a b : UInt8} {c : Char} (ha : 0xC0 ≤ a) (ha' : a < 0xE0)
    (h : assemble 0x80 (a.toNat % 32) [b] = some c) : String.utf8EncodeChar c = [a, b] := by
  have hv : c.val.toNat = c.toNat := rfl
  obtain ⟨htail, hvalue, hleast⟩ := of_assemble_eq_some h
  simp only [List.all_cons, List.all_nil, isContinuation, Bool.and_eq_true, decide_eq_true_eq,
    UInt8.le_iff_toNat_le, UInt8.lt_iff_toNat_lt, UInt8.reduceToNat, List.foldl_cons,
    List.foldl_nil] at *
  simp only [String.utf8EncodeChar, hv]
  rw [if_neg (by omega), if_pos (by omega)]
  simp only [List.cons.injEq, and_true, ← UInt8.toNat_inj, UInt8.toNat_ofNat']
  omega

theorem utf8EncodeChar_of_assemble_three {a b b' : UInt8} {c : Char} (ha : 0xE0 ≤ a)
    (ha' : a < 0xF0) (h : assemble 0x800 (a.toNat % 16) [b, b'] = some c) :
    String.utf8EncodeChar c = [a, b, b'] := by
  have hv : c.val.toNat = c.toNat := rfl
  obtain ⟨htail, hvalue, hleast⟩ := of_assemble_eq_some h
  simp only [List.all_cons, List.all_nil, isContinuation, Bool.and_eq_true, decide_eq_true_eq,
    UInt8.le_iff_toNat_le, UInt8.lt_iff_toNat_lt, UInt8.reduceToNat, List.foldl_cons,
    List.foldl_nil] at *
  simp only [String.utf8EncodeChar, hv]
  rw [if_neg (by omega), if_neg (by omega), if_pos (by omega)]
  simp only [List.cons.injEq, and_true, ← UInt8.toNat_inj, UInt8.toNat_ofNat']
  omega

theorem utf8EncodeChar_of_assemble_four {a b b' b'' : UInt8} {c : Char} (ha : 0xF0 ≤ a)
    (ha' : a < 0xF8) (h : assemble 0x10000 (a.toNat % 8) [b, b', b''] = some c) :
    String.utf8EncodeChar c = [a, b, b', b''] := by
  have hv : c.val.toNat = c.toNat := rfl
  have hmax := toNat_lt c
  obtain ⟨htail, hvalue, hleast⟩ := of_assemble_eq_some h
  simp only [List.all_cons, List.all_nil, isContinuation, Bool.and_eq_true, decide_eq_true_eq,
    UInt8.le_iff_toNat_le, UInt8.lt_iff_toNat_lt, UInt8.reduceToNat, List.foldl_cons,
    List.foldl_nil] at *
  simp only [String.utf8EncodeChar, hv]
  rw [if_neg (by omega), if_neg (by omega), if_neg (by omega)]
  simp only [List.cons.injEq, and_true, ← UInt8.toNat_inj, UInt8.toNat_ofNat']
  omega

/-- What is read as a character is the encoding of that character. -/
theorem eq_append_of_decodeFirst {bytes rest : List UInt8} {c : Char}
    (h : decodeFirst bytes = some (c, rest)) : bytes = String.utf8EncodeChar c ++ rest := by
  unfold decodeFirst at h
  split at h
  · simp at h
  -- by the ranges of the first byte
  split at h
  · rename_i ha
    cases h
    rw [utf8EncodeChar_of_lt ha, List.singleton_append]
  split at h
  · simp at h
  rename_i hcont
  split at h
  · rename_i ha
    split at h
    · obtain ⟨c', hread, heq⟩ := Option.map_eq_some_iff.1 h
      cases heq
      rw [utf8EncodeChar_of_assemble_two (UInt8.not_lt.1 hcont) ha hread]
      rfl
    · simp at h
  rename_i htwo
  split at h
  · rename_i ha
    split at h
    · obtain ⟨c', hread, heq⟩ := Option.map_eq_some_iff.1 h
      cases heq
      rw [utf8EncodeChar_of_assemble_three (UInt8.not_lt.1 htwo) ha hread]
      rfl
    · simp at h
  rename_i hthree
  split at h
  · rename_i ha
    split at h
    · obtain ⟨c', hread, heq⟩ := Option.map_eq_some_iff.1 h
      cases heq
      rw [utf8EncodeChar_of_assemble_four (UInt8.not_lt.1 hthree) ha hread]
      rfl
    · simp at h
  · simp at h

/-! ## Bytes from what is read -/

theorem symbols_of_decodeFirst_eq_none {b : UInt8} {rest : List UInt8}
    (h : decodeFirst (b :: rest) = none) : symbols (b :: rest) = none :: symbols rest := by
  have hstep : symbols (b :: rest) = symbolsAfter rest [none] := by
    rw [symbols, symbolsAfter]
    split <;> simp_all
  rw [hstep]
  exact symbolsAfter_append rest [] [none]

theorem eq_nil_of_symbols_eq_nil {bytes : List UInt8} (h : symbols bytes = []) : bytes = [] := by
  cases bytes with
  | nil => rfl
  | cons b tail =>
    cases hfirst : decodeFirst (b :: tail) with
    | some p => simp [symbols_of_decodeFirst hfirst] at h
    | none => simp [symbols_of_decodeFirst_eq_none hfirst] at h

theorem exists_of_symbols_eq_cons {bytes : List UInt8} {s : Symbol} {symbols' : List Symbol}
    (h : symbols bytes = s :: symbols') :
    (∃ c rest, s = some c ∧ bytes = String.utf8EncodeChar c ++ rest ∧ symbols rest = symbols') ∨
      ∃ b rest, s = none ∧ bytes = b :: rest ∧ 0x80 ≤ b ∧ symbols rest = symbols' := by
  cases bytes with
  | nil => simp [symbols_nil] at h
  | cons b tail =>
    cases hfirst : decodeFirst (b :: tail) with
    | some p =>
      obtain ⟨c, rest⟩ := p
      rw [symbols_of_decodeFirst hfirst, List.cons.injEq] at h
      exact .inl ⟨c, rest, h.1.symm, eq_append_of_decodeFirst hfirst, h.2⟩
    | none =>
      rw [symbols_of_decodeFirst_eq_none hfirst, List.cons.injEq] at h
      have hb : ¬b < 0x80 := by
        intro hlt
        simp [decodeFirst, hlt] at hfirst
      exact .inr ⟨b, tail, h.1.symm, rfl, UInt8.not_lt.1 hb, h.2⟩

/-- Characters that are read stand in the bytes. -/
theorem exists_of_symbols_eq_append (text : List Char) {bytes : List UInt8}
    {symbols' : List Symbol} (h : symbols bytes = text.map some ++ symbols') :
    ∃ rest, bytes = ofChars text ++ rest ∧ symbols rest = symbols' := by
  induction text generalizing bytes with
  | nil => exact ⟨bytes, rfl, h⟩
  | cons c text ih =>
    rw [List.map_cons, List.cons_append] at h
    rcases exists_of_symbols_eq_cons h with ⟨c', rest, hc, rfl, hrest⟩ | ⟨b, rest, hs, -⟩
    · obtain ⟨rest', rfl, hrest'⟩ := ih hrest
      cases hc
      exact ⟨rest', by rw [ofChars_cons, List.append_assoc], hrest'⟩
    · simp at hs

/-- A byte that is part of no character is beyond ASCII. -/
theorem exists_of_symbols_eq_none_cons {bytes : List UInt8} {symbols' : List Symbol}
    (h : symbols bytes = none :: symbols') :
    ∃ b rest, bytes = b :: rest ∧ 0x80 ≤ b ∧ symbols rest = symbols' := by
  rcases exists_of_symbols_eq_cons h with ⟨c, rest, hs, -⟩ | ⟨b, rest, -, hb⟩
  · simp at hs
  · exact ⟨b, rest, hb⟩

theorem ofChars_singleton (c : Char) : ofChars [c] = String.utf8EncodeChar c := by
  rw [ofChars_cons, ofChars_nil, List.append_nil]

theorem length_ofChars_singleton_pos (c : Char) : 0 < (ofChars [c]).length := by
  rw [ofChars_singleton, String.length_utf8EncodeChar]
  exact c.utf8Size_pos

/-- A character of ASCII is one byte. -/
theorem ofChars_of_lt {c : Char} (h : c.toNat < 0x80) : ofChars [c] = [UInt8.ofNat c.toNat] := by
  have hv : c.val.toNat = c.toNat := rfl
  rw [ofChars_singleton]
  simp only [String.utf8EncodeChar, hv]
  rw [if_pos (by omega)]

/-- A text of ASCII has one byte for each character. -/
theorem length_encode_of_lt {text : String} (h : ∀ c ∈ text.toList, c.toNat < 0x80) :
    (encode text).length = text.toList.length := by
  rw [encode_eq_flatMap, ← ofChars]
  generalize text.toList = chars at h
  induction chars with
  | nil => rfl
  | cons c rest ih =>
    have hc := ofChars_of_lt (h c List.mem_cons_self)
    rw [ofChars_singleton] at hc
    rw [ofChars_cons, hc, List.length_append, List.length_singleton, List.length_cons,
      ih fun d hd => h d (List.mem_cons_of_mem c hd), Nat.add_comm]

/-- A character beyond ASCII consists of bytes beyond ASCII. -/
theorem le_of_mem_ofChars_singleton {c : Char} (hc : 0x80 ≤ c.toNat) {b : UInt8}
    (hb : b ∈ ofChars [c]) : 0x80 ≤ b := by
  have hv : c.val.toNat = c.toNat := rfl
  rw [ofChars_singleton] at hb
  simp only [String.utf8EncodeChar, hv] at hb
  rw [if_neg (by omega)] at hb
  simp only [UInt8.le_iff_toNat_le, UInt8.reduceToNat]
  split at hb
  · simp only [List.mem_cons, List.not_mem_nil, or_false] at hb
    rcases hb with rfl | rfl <;> simp only [UInt8.toNat_ofNat'] <;> omega
  split at hb
  · simp only [List.mem_cons, List.not_mem_nil, or_false] at hb
    rcases hb with rfl | rfl | rfl <;> simp only [UInt8.toNat_ofNat'] <;> omega
  · simp only [List.mem_cons, List.not_mem_nil, or_false] at hb
    rcases hb with rfl | rfl | rfl | rfl <;> simp only [UInt8.toNat_ofNat'] <;> omega

theorem le_of_cons_eq_append {c : Char} {b : UInt8} {high rest : List UInt8} (hb : 0x80 ≤ b)
    (h : b :: high = ofChars [c] ++ rest) : 0x80 ≤ c.toNat := by
  apply Nat.le_of_not_lt
  intro hc
  rw [ofChars_of_lt hc, List.singleton_append, List.cons.injEq] at h
  rw [h.1, UInt8.le_iff_toNat_le, UInt8.toNat_ofNat'] at hb
  simp only [UInt8.reduceToNat] at hb
  omega

/-- A byte beyond ASCII begins a character or is read alone; a byte of ASCII ends the search. -/
theorem eq_append_or_symbols_eq_none_cons {b a : UInt8} (hb : 0x80 ≤ b) (ha : a < 0x80)
    (high rest : List UInt8) :
    (∃ c tail, 0x80 ≤ c.toNat ∧ b :: high = ofChars [c] ++ tail) ∨
      symbols (b :: high ++ a :: rest) = none :: symbols (high ++ a :: rest) := by
  cases hfirst : decodeFirst (b :: (high ++ a :: rest)) with
  | none => exact .inr (symbols_of_decodeFirst_eq_none hfirst)
  | some p =>
    obtain ⟨c, after⟩ := p
    have hbytes := eq_append_of_decodeFirst hfirst
    rw [← ofChars_singleton] at hbytes
    have hc := le_of_cons_eq_append hb hbytes
    left
    rw [← List.cons_append, List.append_eq_append_iff] at hbytes
    rcases hbytes with ⟨tail, hchar, hrest⟩ | ⟨tail, hhigh, -⟩
    · cases tail with
      | nil => exact ⟨c, [], hc, by rw [List.append_nil, hchar, List.append_nil]⟩
      | cons a' tail =>
        -- the character would go on with a byte of ASCII
        have ha' : 0x80 ≤ a' := by
          apply le_of_mem_ofChars_singleton hc
          rw [hchar]
          simp
        cases hrest
        exact absurd ha (UInt8.not_lt.2 ha')
    · exact ⟨c, tail, hc, hhigh⟩

end ChannelHandshake.Utf8
