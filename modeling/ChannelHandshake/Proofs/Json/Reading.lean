import Mathlib.Data.List.Chain
import ChannelHandshake.Proofs.Json.Numbers
import ChannelHandshake.Proofs.Json.Strings

/-!
# JSON is read by the grammar

A payload is read as a value exactly if it spells the tokens of this value (`ofBytes?_eq_some_iff`).
This holds of each token (`spellsToken_of_scanOne`, `SpellsToken.scanOne`) and so of rows of tokens
(`spells_of_scanAfter`, `Spells.scanAfter`), but for one point: two numbers that follow each other
with no blank between them are read as one. A value has no such neighbours (`isChain_of_build`), and
the tokens that a value is built from are its own (`consumed_append_of_build`).
-/

namespace ChannelHandshake.Json

/-! ## Tokens -/

/-- Characters that are read stand in the bytes, and with them the token that they spell. -/
theorem exists_spellsToken {spelling : List Char} {t : Token}
    (ht : SpellsToken (Utf8.ofChars spelling) t) {bytes : List UInt8} {rest' : List Symbol}
    (h : Utf8.symbols bytes = spelling.map some ++ rest') :
    ∃ spelling rest, bytes = spelling ++ rest ∧ Utf8.symbols rest = rest' ∧
      SpellsToken spelling t := by
  obtain ⟨rest, rfl, hrest⟩ := Utf8.exists_of_symbols_eq_append spelling h
  exact ⟨_, rest, rfl, hrest, ht⟩

/-- What is read as a token is a token of the grammar. -/
theorem spellsToken_of_scanOne {bytes : List UInt8} {t : Token} {rest' : List Symbol}
    (h : scanOne (Utf8.symbols bytes) = some (t, rest')) :
    ∃ spelling rest, bytes = spelling ++ rest ∧ Utf8.symbols rest = rest' ∧
      SpellsToken spelling t := by
  generalize hsymbols : Utf8.symbols bytes = symbols at h
  unfold scanOne at h
  split at h
  case h_10 tail =>
    obtain ⟨⟨pieces, rest''⟩, hscan, heq⟩ := Option.map_eq_some_iff.1 h
    cases heq
    obtain ⟨bytes', rfl, rfl⟩ := Utf8.exists_of_symbols_eq_append ['"'] hsymbols
    obtain ⟨body, rest, rfl, hrest, hbody⟩ := spellsString_of_scanString hscan
    refine ⟨0x22 :: body ++ [0x22], rest, ?_, hrest, .string hbody⟩
    rw [ofChars_quote]
    simp
  case h_11 tail =>
    obtain ⟨n, spelling, rfl, hsign, hn, rfl⟩ := spellsUnsigned_of_scanNumber h
    exact exists_spellsToken (.number (.minus hsign hn)) hsymbols
  case h_12 =>
    obtain ⟨n, spelling, rfl, hsign, hn, rfl⟩ := spellsUnsigned_of_scanNumber h
    exact exists_spellsToken (.number (.plain hsign hn)) hsymbols
  all_goals
    cases h
    exact exists_spellsToken (.fixed (by simp) (by simp)) hsymbols

theorem scanOne_digitChar {d : Nat} (hd : d < 10) (rest : List Symbol) :
    scanOne (some (Number.digitChar d) :: rest) =
      scanNumber false (some (Number.digitChar d) :: rest) := by
  have hcases : d = 0 ∨ d = 1 ∨ d = 2 ∨ d = 3 ∨ d = 4 ∨ d = 5 ∨ d = 6 ∨ d = 7 ∨ d = 8 ∨ d = 9 := by
    omega
  rcases hcases with rfl | rfl | rfl | rfl | rfl | rfl | rfl | rfl | rfl | rfl <;> rfl

theorem SpellsUnsigned.exists_digit {spelling : List Char} {n : Number}
    (h : SpellsUnsigned spelling n) : ∃ d tail, d < 10 ∧ spelling = Number.digitChar d :: tail := by
  obtain ⟨hn, -⟩ := h
  have hne : n.whole ≠ [] := by
    intro heq
    rcases hn.leading with hzero | ⟨first, hfirst, -⟩
    · simp [heq] at hzero
    · simp [heq] at hfirst
  obtain ⟨d, row, hrow⟩ := List.exists_cons_of_ne_nil hne
  have hd : d < 10 := hn.whole d (by simp [hrow])
  rw [hrow, Number.digits, List.map_cons, List.cons_append]
  exact ⟨d, _, hd, rfl⟩

theorem SpellsNumber.scanOne {spelling : List Char} {n : Number} (h : SpellsNumber spelling n)
    {rest : List Symbol} (hrest : EndsNumber rest) :
    scanOne (spelling.map some ++ rest) = some (.number n, rest) := by
  cases h with
  | plain hsign hn =>
    have hread := hn.scanNumber hrest
    obtain ⟨d, tail, hd, rfl⟩ := hn.exists_digit
    rw [hsign] at hread
    rw [List.map_cons, List.cons_append] at hread ⊢
    rw [scanOne_digitChar hd, hread]
  | minus hsign hn =>
    have hread := hn.scanNumber hrest
    rw [hsign] at hread
    exact hread

/-- Every token of the grammar is read, a number only in front of what does not continue it. -/
theorem SpellsToken.scanOne {spelling rest : List UInt8} {t : Token} (h : SpellsToken spelling t)
    (hrest : ∀ n, t = .number n → EndsNumber (Utf8.symbols rest)) :
    scanOne (Utf8.symbols (spelling ++ rest)) = some (t, Utf8.symbols rest) := by
  cases h with
  | fixed hnumber hstring =>
    rw [Utf8.symbols_ofChars_append]
    exact scanOne_spelling hnumber _
  | number hn =>
    rw [Utf8.symbols_ofChars_append]
    exact hn.scanOne (hrest _ rfl)
  | @string body text hbody =>
    obtain ⟨pieces, hscan, rfl⟩ := hbody.scanString rest
    rw [List.append_assoc, List.cons_append, List.singleton_append, symbols_quote]
    simp [Json.scanOne, hscan]

/-! ## Rows of tokens -/

theorem isBlank_eq_true_iff {s : Symbol} : isBlank s = true ↔ ∃ c ∈ blanks, s = some c := by
  simp [isBlank, blanks, or_assoc]

/-- What is read as tokens spells them. -/
theorem spells_of_scanAfter {bytes : List UInt8} {done tokens : List Token}
    (h : scanAfter (Utf8.symbols bytes) done = some tokens) :
    ∃ read, Spells bytes read ∧ tokens = done.reverse ++ read := by
  generalize hsymbols : Utf8.symbols bytes = symbols at h
  fun_induction scanAfter symbols done generalizing bytes with
  | case1 done =>
    cases h
    cases Utf8.eq_nil_of_symbols_eq_nil hsymbols
    exact ⟨[], .nil, (List.append_nil _).symm⟩
  | case2 done s tail hblank ih =>
    obtain ⟨c, hc, rfl⟩ := isBlank_eq_true_iff.1 hblank
    obtain ⟨rest, rfl, hrest⟩ := Utf8.exists_of_symbols_eq_append [c] hsymbols
    obtain ⟨read, hread, rfl⟩ := ih hrest h
    exact ⟨read, .blank hc hread, rfl⟩
  | case3 done s tail hblank t rest' hone ih =>
    rw [← hsymbols] at hone
    obtain ⟨spelling, rest, rfl, hrest, ht⟩ := spellsToken_of_scanOne hone
    obtain ⟨read, hread, rfl⟩ := ih hrest h
    refine ⟨t :: read, .token ht hread, ?_⟩
    rw [List.reverse_cons, List.append_assoc, List.singleton_append]
  | case4 => simp at h

/-- Tokens that are told apart without a blank between them. -/
def Apart (t t' : Token) : Prop :=
  ∀ n n', t = .number n → t' ≠ .number n'

theorem endsNumber_spelling {t : Token} (hnumber : ∀ n, t ≠ .number n)
    (hstring : ∀ text, t ≠ .string text) (rest : List Symbol) :
    EndsNumber (t.spelling.map some ++ rest) := by
  cases t with
  | number n => exact absurd rfl (hnumber n)
  | string text => exact absurd rfl (hstring text)
  | bool b => cases b <;> exact endsNumber_cons (by decide)
  | _ => exact endsNumber_cons (by decide)

/-- Only a number continues a number. -/
theorem Spells.endsNumber {bytes : List UInt8} {tokens : List Token} (h : Spells bytes tokens)
    (hnumber : ∀ n, tokens.head? ≠ some (.number n)) : EndsNumber (Utf8.symbols bytes) := by
  cases h with
  | nil =>
    rw [Utf8.symbols_nil]
    exact endsNumber_nil
  | @blank c rest _ hc hrest =>
    rw [Utf8.symbols_ofChars_append]
    simp only [blanks, List.mem_cons, List.not_mem_nil, or_false] at hc
    rcases hc with rfl | rfl | rfl | rfl <;> exact endsNumber_cons (by decide)
  | @token spelling rest t tokens ht hrest =>
    cases ht with
    | fixed hnumber hstring =>
      rw [Utf8.symbols_ofChars_append]
      exact endsNumber_spelling hnumber hstring _
    | number hn => exact absurd rfl (hnumber _)
    | string hbody =>
      rw [List.cons_append, List.cons_append, symbols_quote]
      exact endsNumber_cons (by decide)

/-- Whatever spells tokens that can be told apart is read as them. -/
theorem Spells.scanAfter {bytes : List UInt8} {tokens : List Token} (h : Spells bytes tokens)
    (happart : tokens.IsChain Apart) (done : List Token) :
    scanAfter (Utf8.symbols bytes) done = some (done.reverse ++ tokens) := by
  induction h generalizing done with
  | nil => rw [Utf8.symbols_nil, Json.scanAfter, List.append_nil]
  | @blank c rest tokens hc hrest ih =>
    rw [Utf8.symbols_ofChars_append, List.map_cons, List.map_nil, List.singleton_append,
      Json.scanAfter, if_pos (isBlank_eq_true_iff.2 ⟨c, hc, rfl⟩)]
    exact ih happart done
  | @token spelling rest t tokens ht hrest ih =>
    have hends : ∀ n, t = .number n → EndsNumber (Utf8.symbols rest) := by
      rintro n rfl
      apply hrest.endsNumber
      intro n' hhead
      obtain ⟨tail, rfl⟩ := List.head?_eq_some_iff.1 hhead
      exact happart.rel n n' rfl rfl
    rw [scanAfter_of_scanOne (ht.scanOne hends), ih happart.tail, List.reverse_cons,
      List.append_assoc, List.singleton_append]

/-! ## Values -/

namespace Value

/-- Tokens that a value is read from can be told apart; behind a value there is no number. -/
theorem isChain_of_build {current : Option Value} {stack : List Opened} {tokens : List Token}
    {v : Value} (h : build current stack tokens = some v) :
    tokens.IsChain Apart ∧ (current.isSome → ∀ n, tokens.head? ≠ some (.number n)) := by
  fun_induction build current stack tokens with
  | case1 => simp
  | case8 stack n rest ih =>
    obtain ⟨happart, hrest⟩ := ih h
    refine ⟨happart.cons ?_, by simp⟩
    rintro t ht n n' - rfl
    exact hrest rfl n' ht
  | case14 => simp at h
  | _ =>
    -- the tokens that were read are no numbers
    simp_all [List.isChain_cons, Apart]

/-- The tokens of the parts between commas, when the last one is set apart. -/
theorem commaSeparated_append_singleton (parts : List (List Token)) (last : List Token) :
    commaSeparated (parts ++ [last]) = parts.flatMap (· ++ [.comma]) ++ last := by
  induction parts with
  | nil => simp [commaSeparated]
  | cons first parts ih =>
    have hne : parts ++ [last] ≠ [] := by simp
    obtain ⟨second, tail, hparts⟩ := List.exists_cons_of_ne_nil hne
    rw [List.cons_append, commaSeparated_cons, hparts, List.flatMap_cons, List.cons_append,
      ← List.singleton_append, ← commaSeparated_cons, ← hparts, ih]
    simp

theorem tokens_array_append_singleton (items : List Value) (last : Value) :
    (array (items ++ [last])).tokens =
      .openArray ::
        (items.flatMap (fun v => v.tokens ++ [.comma]) ++ (last.tokens ++ [.closeArray])) := by
  rw [tokens, List.map_append, List.map_singleton, commaSeparated_append_singleton,
    List.flatMap_map, List.cons_append, List.append_assoc]

theorem tokens_object_append_singleton (members : List (Option String × Value))
    (key : Option String) (last : Value) :
    (object (members ++ [(key, last)])).tokens =
      .openObject :: (members.flatMap (fun m => .string m.1 :: .colon :: m.2.tokens ++ [.comma]) ++
        .string key :: .colon :: (last.tokens ++ [.closeObject])) := by
  rw [tokens, List.map_append, List.map_singleton, commaSeparated_append_singleton,
    List.flatMap_map, List.cons_append, List.append_assoc]
  rfl

/-- The tokens that were read to get inside the brackets `stack`. -/
def consumed : List Opened → List Token
  | [] => []
  | .array done :: stack =>
    consumed stack ++ .openArray :: done.reverse.flatMap fun v => v.tokens ++ [.comma]
  | .object done key :: stack =>
    consumed stack ++ .openObject ::
      (done.reverse.flatMap fun m => .string m.1 :: .colon :: m.2.tokens ++ [.comma]) ++
        [.string key, .colon]

/-- The tokens of the value that has just ended, if one has. -/
def currentTokens (current : Option Value) : List Token :=
  (current.map tokens).getD []

/-- Nothing is lost: what was read and what is still to come are the tokens of the value. -/
theorem consumed_append_of_build {current : Option Value} {stack : List Opened}
    {tokens : List Token} {v : Value} (h : build current stack tokens = some v) :
    consumed stack ++ (currentTokens current ++ tokens) = v.tokens := by
  fun_induction build current stack tokens with
  | case1 v =>
    cases h
    simp [consumed, currentTokens]
  | case3 v done stack rest ih =>
    rw [← ih h]
    simp [consumed, currentTokens, tokens_array_append_singleton]
  | case5 v done key stack rest ih =>
    rw [← ih h]
    simp [consumed, currentTokens, tokens_object_append_singleton]
  | case10 stack rest ih =>
    rw [← ih h]
    simp [currentTokens, tokens, commaSeparated]
  | case12 stack rest ih =>
    rw [← ih h]
    simp [currentTokens, tokens, commaSeparated]
  | case14 => simp at h
  | _ =>
    -- a bracket opens, a comma follows a value, or a value is a single token
    simp_all [consumed, currentTokens, tokens]

theorem ofTokens?_eq_some_iff {tokens : List Token} {v : Value} :
    ofTokens? tokens = some v ↔ tokens = v.tokens := by
  constructor
  · intro h
    exact consumed_append_of_build h
  · rintro rfl
    exact ofTokens?_tokens v

/-- A payload is read as a value exactly if it spells this value. -/
theorem ofBytes?_eq_some_iff {bytes : List UInt8} {v : Value} :
    ofBytes? bytes = some v ↔ Spells bytes v.tokens := by
  constructor
  · intro h
    obtain ⟨tokens, hscan, hbuild⟩ := Option.bind_eq_some_iff.1 h
    obtain ⟨read, hread, rfl⟩ := spells_of_scanAfter hscan
    rwa [← ofTokens?_eq_some_iff.1 hbuild]
  · intro h
    have happart := (isChain_of_build (ofTokens?_tokens v)).1
    rw [ofBytes?, ofSymbols?, scan?, h.scanAfter happart, Option.bind_some, List.reverse_nil,
      List.nil_append, ofTokens?_tokens]

end Value

end ChannelHandshake.Json
