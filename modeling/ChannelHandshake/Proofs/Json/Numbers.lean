import ChannelHandshake.Proofs.Json.Grammar

/-!
# Numbers are read by the grammar

A number has no closing mark: its digits go on as long as digits follow, and behind them a point or
an exponent may follow. So what is read is always a number of the grammar
(`spellsUnsigned_of_scanNumber`), but a number is read back only in front of something that does not
continue it (`SpellsUnsigned.scanNumber`): `NoDigit` is asked for behind a row of digits, and
`NoFraction` and `NoExponent` behind each part that could have been followed by another one.
-/

namespace ChannelHandshake.Json

open Number (digitChar digits fractionSpelling signSpellings exponentSpellings)

/-! ## Rows of digits -/

theorem toNat_digitChar {d : Nat} (hd : d < 10) : (digitChar d).toNat = 48 + d :=
  Utf8.toNat_ofNat (.inl (by omega))

theorem digitChar_ne {d : Nat} (hd : d < 10) {c : Char} (hc : c.toNat < 48) : digitChar d ≠ c := by
  rintro rfl
  rw [toNat_digitChar hd] at hc
  omega

theorem digit?_eq_some_iff {s : Symbol} {d : Nat} :
    digit? s = some d ↔ d < 10 ∧ s = some (digitChar d) := by
  constructor
  · intro h
    obtain ⟨c, rfl, hc⟩ := Option.bind_eq_some_iff.1 h
    split at hc
    · rename_i hrange
      have hlow : 48 ≤ c.toNat := hrange.1
      have hhigh : c.toNat ≤ 57 := hrange.2
      cases hc
      refine ⟨by omega, ?_⟩
      rw [digitChar, Nat.add_sub_cancel' hlow, Char.ofNat_toNat]
    · simp at hc
  · rintro ⟨hd, rfl⟩
    have hvalue := toNat_digitChar hd
    have hlow : '0' ≤ digitChar d := by
      show 48 ≤ (digitChar d).toNat
      omega
    have hhigh : digitChar d ≤ '9' := by
      show (digitChar d).toNat ≤ 57
      omega
    rw [digit?, Option.bind_some, if_pos ⟨hlow, hhigh⟩, hvalue, Nat.add_sub_cancel_left]

/-- No digit follows. -/
def NoDigit (symbols : List Symbol) : Prop :=
  ∀ s ∈ symbols.head?, digit? s = none

theorem exists_of_scanDigits {symbols rest : List Symbol} {done read : List Nat}
    (h : scanDigits symbols done = (read, rest)) :
    ∃ row, IsRow row ∧ read = done.reverse ++ row ∧ symbols = (digits row).map some ++ rest := by
  fun_induction scanDigits symbols done with
  | case1 done =>
    cases h
    exact ⟨[], by simp [IsRow], by simp, rfl⟩
  | case2 done s tail d hd ih =>
    obtain ⟨row, hrow, rfl, rfl⟩ := ih h
    obtain ⟨hlt, rfl⟩ := digit?_eq_some_iff.1 hd
    exact ⟨d :: row, List.forall_mem_cons.2 ⟨hlt, hrow⟩, by simp, rfl⟩
  | case3 done s tail hd =>
    cases h
    exact ⟨[], by simp [IsRow], by simp, rfl⟩

theorem scanDigits_digits {row : List Nat} (hrow : IsRow row) {rest : List Symbol}
    (hrest : NoDigit rest) (done : List Nat) :
    scanDigits ((digits row).map some ++ rest) done = (done.reverse ++ row, rest) := by
  induction row generalizing done with
  | nil =>
    cases rest with
    | nil => simp [digits, scanDigits]
    | cons s rest => simp [digits, scanDigits, hrest s rfl]
  | cons d row ih =>
    obtain ⟨hd, hrow⟩ := List.forall_mem_cons.1 hrow
    have hdigit := digit?_eq_some_iff.2 ⟨hd, rfl⟩
    rw [digits, List.map_cons, List.map_cons, List.cons_append, scanDigits, hdigit]
    dsimp only
    rw [← digits, ih hrow, List.reverse_cons, List.append_assoc, List.singleton_append]

theorem of_scanDigits1 {symbols rest : List Symbol} {row : List Nat}
    (h : scanDigits1 symbols = some (row, rest)) :
    row ≠ [] ∧ IsRow row ∧ symbols = (digits row).map some ++ rest := by
  cases symbols with
  | nil => simp [scanDigits1] at h
  | cons s tail =>
    obtain ⟨d, hd, hread⟩ := Option.map_eq_some_iff.1 h
    obtain ⟨hlt, rfl⟩ := digit?_eq_some_iff.1 hd
    obtain ⟨row, hrow, rfl, rfl⟩ := exists_of_scanDigits hread
    exact ⟨by simp, List.forall_mem_cons.2 ⟨hlt, hrow⟩, rfl⟩

theorem scanDigits1_digits {row : List Nat} (hne : row ≠ []) (hrow : IsRow row)
    {rest : List Symbol} (hrest : NoDigit rest) :
    scanDigits1 ((digits row).map some ++ rest) = some (row, rest) := by
  cases row with
  | nil => exact absurd rfl hne
  | cons d row =>
    obtain ⟨hd, hrow⟩ := List.forall_mem_cons.1 hrow
    have hdigit := digit?_eq_some_iff.2 ⟨hd, rfl⟩
    have hread := scanDigits_digits hrow hrest [d]
    rw [digits, List.map_cons, List.map_cons, List.cons_append, scanDigits1, hdigit,
      Option.map_some, ← digits, hread]
    rfl

/-! ## Parts of a number -/

theorem of_scanWhole {symbols rest : List Symbol} {whole : List Nat}
    (h : scanWhole symbols = some (whole, rest)) :
    IsRow whole ∧ (whole = [0] ∨ ∃ first ∈ whole.head?, first ≠ 0) ∧
      symbols = (digits whole).map some ++ rest := by
  unfold scanWhole at h
  split at h
  · cases h
    exact ⟨by simp [IsRow], .inl rfl, rfl⟩
  · rename_i hzero
    obtain ⟨hne, hrow, rfl⟩ := of_scanDigits1 h
    refine ⟨hrow, .inr ?_, rfl⟩
    cases whole with
    | nil => exact absurd rfl hne
    | cons first row =>
      refine ⟨first, rfl, ?_⟩
      rintro rfl
      exact hzero _ rfl

theorem scanWhole_digits {whole : List Nat} (hrow : IsRow whole)
    (hleading : whole = [0] ∨ ∃ first ∈ whole.head?, first ≠ 0) {rest : List Symbol}
    (hrest : NoDigit rest) :
    scanWhole ((digits whole).map some ++ rest) = some (whole, rest) := by
  rcases hleading with rfl | ⟨first, hfirst, hne⟩
  · rfl
  · cases whole with
    | nil => simp at hfirst
    | cons d row =>
      cases hfirst
      rw [scanWhole]
      · exact scanDigits1_digits (by simp) hrow hrest
      · intro tail htail
        -- the leading digit would be a zero
        have hzero := Option.some.inj (List.cons.inj htail).1
        have hvalue := toNat_digitChar (hrow _ List.mem_cons_self)
        rw [hzero] at hvalue
        exact hne (Nat.add_left_cancel (n := 48) hvalue.symm)

/-- No point follows. -/
def NoFraction (symbols : List Symbol) : Prop :=
  ∀ s ∈ symbols.head?, s ≠ some '.'

theorem of_scanFraction {symbols rest : List Symbol} {fraction : List Nat}
    (h : scanFraction symbols = some (fraction, rest)) :
    IsRow fraction ∧ symbols = (fractionSpelling fraction).map some ++ rest := by
  unfold scanFraction at h
  split at h
  · obtain ⟨hne, hrow, rfl⟩ := of_scanDigits1 h
    exact ⟨hrow, by rw [fractionSpelling, if_neg hne]; rfl⟩
  · cases h
    exact ⟨by simp [IsRow], rfl⟩

theorem scanFraction_fractionSpelling {fraction : List Nat} (hrow : IsRow fraction)
    {rest : List Symbol} (hdigit : NoDigit rest) (hfraction : NoFraction rest) :
    scanFraction ((fractionSpelling fraction).map some ++ rest) = some (fraction, rest) := by
  by_cases hne : fraction = []
  · subst hne
    show scanFraction rest = some ([], rest)
    rw [scanFraction]
    rintro tail rfl
    exact hfraction _ rfl rfl
  · rw [fractionSpelling, if_neg hne]
    exact scanDigits1_digits hne hrow hdigit

/-- No exponent follows. -/
def NoExponent (symbols : List Symbol) : Prop :=
  ∀ s ∈ symbols.head?, s ≠ some 'e' ∧ s ≠ some 'E'

theorem of_scanSign {symbols rest : List Symbol} {negative : Bool}
    (h : scanSign symbols = (negative, rest)) :
    ∃ sign ∈ signSpellings negative, symbols = sign.map some ++ rest := by
  unfold scanSign at h
  split at h <;> cases h
  · exact ⟨['-'], by simp [signSpellings], rfl⟩
  · exact ⟨['+'], by simp [signSpellings], rfl⟩
  · exact ⟨[], by simp [signSpellings], rfl⟩

theorem scanSign_of_mem {negative : Bool} {sign : List Char} (hsign : sign ∈ signSpellings negative)
    {d : Nat} (hd : d < 10) (rest : List Symbol) :
    scanSign (sign.map some ++ some (digitChar d) :: rest) =
      (negative, some (digitChar d) :: rest) := by
  have hminus : digitChar d ≠ '-' := digitChar_ne hd (by decide)
  have hplus : digitChar d ≠ '+' := digitChar_ne hd (by decide)
  cases negative with
  | false =>
    simp only [signSpellings, Bool.false_eq_true, if_false, List.mem_cons, List.not_mem_nil,
      or_false] at hsign
    rcases hsign with rfl | rfl
    · simp [scanSign, hminus, hplus]
    · rfl
  | true =>
    simp only [signSpellings, if_true, List.mem_singleton] at hsign
    subst hsign
    rfl

theorem mem_exponentSpellings_some {negative : Bool} {row : List Nat} {spelling : List Char} :
    spelling ∈ exponentSpellings (some (negative, row)) ↔
      ∃ mark, (mark = 'e' ∨ mark = 'E') ∧ ∃ sign ∈ signSpellings negative,
        spelling = mark :: (sign ++ digits row) := by
  simp [exponentSpellings, eq_comm]

theorem of_scanExponent {symbols rest : List Symbol} {exponent : Option (Bool × List Nat)}
    (h : scanExponent symbols = some (exponent, rest)) :
    (∀ e ∈ exponent, e.2 ≠ [] ∧ IsRow e.2) ∧
      ∃ spelling ∈ exponentSpellings exponent, symbols = spelling.map some ++ rest := by
  unfold scanExponent at h
  split at h
  · rename_i mark tail
    split at h
    · rename_i hmark
      obtain ⟨⟨row, rest'⟩, hread, heq⟩ := Option.map_eq_some_iff.1 h
      cases heq
      obtain ⟨sign, hsign, htail⟩ := of_scanSign (Prod.eta (scanSign tail)).symm
      obtain ⟨hne, hrow, hrest⟩ := of_scanDigits1 hread
      refine ⟨by simpa using ⟨hne, hrow⟩, mark :: (sign ++ digits row), ?_, ?_⟩
      · exact mem_exponentSpellings_some.2 ⟨mark, hmark, sign, hsign, rfl⟩
      · rw [htail, hrest]
        simp only [List.map_cons, List.map_append, List.cons_append, List.append_assoc]
    · cases h
      exact ⟨by simp, [], by simp [exponentSpellings], rfl⟩
  · cases h
    exact ⟨by simp, [], by simp [exponentSpellings], rfl⟩

theorem scanExponent_of_mem {exponent : Option (Bool × List Nat)} {spelling : List Char}
    (hrow : ∀ e ∈ exponent, e.2 ≠ [] ∧ IsRow e.2)
    (hspelling : spelling ∈ exponentSpellings exponent) {rest : List Symbol}
    (hdigit : NoDigit rest) (hexponent : NoExponent rest) :
    scanExponent (spelling.map some ++ rest) = some (exponent, rest) := by
  cases exponent with
  | none =>
    obtain rfl := List.mem_singleton.1 hspelling
    rw [List.map_nil, List.nil_append]
    rcases rest with _ | ⟨_ | c, rest⟩
    · rfl
    · rfl
    · obtain ⟨hlower, hupper⟩ := hexponent _ rfl
      rw [scanExponent, if_neg]
      rintro (rfl | rfl)
      · exact hlower rfl
      · exact hupper rfl
  | some e =>
    obtain ⟨negative, row⟩ := e
    obtain ⟨hne, hrow⟩ := hrow _ rfl
    obtain ⟨mark, hmark, sign, hsign, rfl⟩ := mem_exponentSpellings_some.1 hspelling
    have hread := scanDigits1_digits hne hrow hdigit
    cases row with
    | nil => exact absurd rfl hne
    | cons d row =>
      have hscan := scanSign_of_mem hsign (hrow d List.mem_cons_self)
        ((digits row).map some ++ rest)
      rw [List.map_cons, List.cons_append, List.map_append, List.append_assoc, scanExponent,
        if_pos hmark]
      rw [digits, List.map_cons, List.map_cons, List.cons_append, ← digits] at hread ⊢
      rw [hscan]
      dsimp only
      rw [hread]
      rfl

/-! ## Whole numbers -/

/-- Nothing that follows continues a number. -/
structure EndsNumber (symbols : List Symbol) : Prop where
  noDigit : NoDigit symbols
  noFraction : NoFraction symbols
  noExponent : NoExponent symbols

theorem endsNumber_nil : EndsNumber [] := by
  constructor <;> intro s hs <;> simp at hs

theorem endsNumber_cons {s : Symbol} {rest : List Symbol}
    (h : digit? s = none ∧ s ≠ some '.' ∧ s ≠ some 'e' ∧ s ≠ some 'E') :
    EndsNumber (s :: rest) := by
  obtain ⟨hdigit, hfraction, hexponent⟩ := h
  constructor <;> intro s' hs <;> cases hs <;> assumption

theorem EndsNumber.exponent {exponent : Option (Bool × List Nat)} {spelling : List Char}
    (hspelling : spelling ∈ exponentSpellings exponent) {rest : List Symbol}
    (hrest : EndsNumber rest) :
    NoDigit (spelling.map some ++ rest) ∧ NoFraction (spelling.map some ++ rest) := by
  cases exponent with
  | none =>
    obtain rfl := List.mem_singleton.1 hspelling
    exact ⟨hrest.noDigit, hrest.noFraction⟩
  | some e =>
    obtain ⟨mark, hmark, sign, -, rfl⟩ := mem_exponentSpellings_some.1 hspelling
    constructor <;> intro s hs <;> cases hs <;> rcases hmark with rfl | rfl <;> decide

theorem NoDigit.fraction {rest : List Symbol} (hrest : NoDigit rest) (fraction : List Nat) :
    NoDigit ((fractionSpelling fraction).map some ++ rest) := by
  by_cases hne : fraction = []
  · rwa [fractionSpelling, if_pos hne]
  · rw [fractionSpelling, if_neg hne]
    intro s hs
    cases hs
    decide

/-- What is read as a number is a number of the grammar. -/
theorem spellsUnsigned_of_scanNumber {negative : Bool} {symbols rest : List Symbol} {t : Token}
    (h : scanNumber negative symbols = some (t, rest)) :
    ∃ n spelling, t = .number n ∧ n.negative = negative ∧ SpellsUnsigned spelling n ∧
      symbols = spelling.map some ++ rest := by
  simp only [scanNumber, Option.bind_eq_bind, Option.bind_eq_some_iff, Prod.exists,
    Option.pure_def, Option.some.injEq, Prod.mk.injEq] at h
  obtain ⟨whole, rest₁, hwhole, fraction, rest₂, hfraction, exponent, rest₃, hexponent, rfl, rfl⟩ :=
    h
  obtain ⟨hwholeRow, hleading, rfl⟩ := of_scanWhole hwhole
  obtain ⟨hfractionRow, rfl⟩ := of_scanFraction hfraction
  obtain ⟨hexponentRow, spelling, hspelling, rfl⟩ := of_scanExponent hexponent
  refine ⟨_, _, rfl, rfl, .intro ⟨hwholeRow, hleading, hfractionRow, hexponentRow⟩ hspelling, ?_⟩
  simp only [List.map_append, List.append_assoc]

/-- A number of the grammar is read in front of anything that does not continue it. -/
theorem SpellsUnsigned.scanNumber {spelling : List Char} {n : Number}
    (h : SpellsUnsigned spelling n) {rest : List Symbol} (hrest : EndsNumber rest) :
    scanNumber n.negative (spelling.map some ++ rest) = some (.number n, rest) := by
  obtain ⟨hn, hexponent⟩ := h
  obtain ⟨hdigit, hfraction⟩ := hrest.exponent hexponent
  have hread₁ := scanWhole_digits hn.whole hn.leading (hdigit.fraction n.fraction)
  have hread₂ := scanFraction_fractionSpelling hn.fraction hdigit hfraction
  have hread₃ := scanExponent_of_mem hn.exponent hexponent hrest.noDigit hrest.noExponent
  simp only [Json.scanNumber, List.map_append, List.append_assoc, hread₁, hread₂, hread₃,
    Option.bind_eq_bind, Option.bind_some, Option.pure_def]

end ChannelHandshake.Json
