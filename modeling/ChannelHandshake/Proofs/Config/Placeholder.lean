import Mathlib.Data.List.Infix
import ChannelHandshake.Config.Placeholder

/-!
# The grammar of placeholders

A text has one cut into its placeholders and what stands between them (`IsCutInto`): each opening is
the first one behind the placeholder before, and the first brace closes it. The reader, which goes
through the text and looks for marks, finds this cut, and replaces each body by what it stands for
and nothing else (`substituteAfter_eq`).
-/

namespace ChannelHandshake

/-! ## The first of several marks -/

/-- What stands before and after the first `mark` of a text. -/
structure Text.FirstCut (mark text before after : List Char) : Prop where
  text_eq : text = before ++ mark ++ after
  first : ∀ before' after', text = before' ++ mark ++ after' → before.length ≤ before'.length

namespace Text

variable {mark text before after : List Char}

theorem firstCut_append (mark after : List Char) : FirstCut mark (mark ++ after) [] after where
  text_eq := rfl
  first _ _ _ := Nat.zero_le _

theorem FirstCut.cons {c : Char} (h : FirstCut mark text before after)
    (hc : ¬mark <+: c :: text) : FirstCut mark (c :: text) (c :: before) after where
  text_eq := by
    rw [h.text_eq]
    rfl
  first before' after' heq := by
    -- a mark at the very beginning is excluded, and any other lies in the rest
    cases before' with
    | nil => exact absurd ⟨after', heq.symm⟩ hc
    | cons d before' =>
      simp only [List.cons_append, List.cons.injEq] at heq
      exact Nat.succ_le_succ (h.first before' after' heq.2)

theorem FirstCut.unique {before' after' : List Char} (h : FirstCut mark text before after)
    (h' : FirstCut mark text before' after') : before' = before ∧ after' = after := by
  have hlength : before'.length = before.length :=
    Nat.le_antisymm (h'.first before after h.text_eq) (h.first before' after' h'.text_eq)
  have htext : before' ++ (mark ++ after') = before ++ (mark ++ after) := by
    rw [← List.append_assoc, ← List.append_assoc, ← h'.text_eq, ← h.text_eq]
  obtain ⟨hbefore, hafter⟩ := List.append_inj htext hlength
  exact ⟨hbefore, List.append_cancel_left hafter⟩

theorem FirstCut.isInfix (h : FirstCut mark text before after) : mark <:+: text :=
  ⟨before, after, h.text_eq.symm⟩

/-- A single character cuts a text where it does not occur before. -/
theorem firstCut_singleton {separator : Char} (h : separator ∉ before) :
    FirstCut [separator] (before ++ separator :: after) before after where
  text_eq := by simp
  first before' after' heq := by
    -- an earlier separator would be one of the characters of `before`
    by_contra hlt
    have hget := congrArg (·[before'.length]?) heq
    simp only [List.append_assoc, List.cons_append, List.nil_append] at hget
    rw [List.getElem?_append_left (by omega), List.getElem?_append_right (Nat.le_refl _),
      Nat.sub_self, List.getElem?_cons_zero] at hget
    exact h (List.mem_of_getElem? hget)

end Text

namespace Placeholder

open Text

/-! ## Cuts -/

/-- What opens a placeholder. -/
def opening : List Char :=
  ['$', '\x7b']

/-- What closes a placeholder. -/
def closing : Char :=
  '\x7d'

/-- What stands between a name and its fallback. -/
def fallbackMark : List Char :=
  [':', '-']

/-- A text and its placeholders: each of them as its body with the text in front of it, and then the
text behind the last one. -/
inductive IsCutInto : List Char → List (List Char × List Char) → List Char → Prop where
  /-- Nothing opens. -/
  | plain {tail : List Char} (hopen : ¬opening <:+: tail) : IsCutInto tail [] tail
  /-- What opens is never closed. -/
  | unclosed {tail before after : List Char} (hopen : FirstCut opening tail before after)
      (hclose : closing ∉ after) : IsCutInto tail [] tail
  | placeholder {text before after body rest tail : List Char}
      {pieces : List (List Char × List Char)} (hopen : FirstCut opening text before after)
      (hclose : FirstCut [closing] after body rest) (hrest : IsCutInto rest pieces tail) :
      IsCutInto text ((before, body) :: pieces) tail

/-- The texts in front of placeholders, each with what `replace` puts in the place of the body, and
the text behind the last. -/
def assembled (replace : List Char → List Char) (pieces : List (List Char × List Char))
    (tail : List Char) : List Char :=
  pieces.flatMap (fun (before, body) => before ++ replace body) ++ tail

/-- The body of a placeholder as a name and, behind the first mark for one, a fallback. -/
inductive HasName : List Char → List Char → Option (List Char) → Prop where
  | plain {name : List Char} (h : ¬fallbackMark <:+: name) : HasName name name none
  | fallback {body name fallback : List Char} (h : FirstCut fallbackMark body name fallback) :
      HasName body name (some fallback)

/-- What a placeholder stands for where `value` knows the variables. -/
inductive StandsFor (value : String → Option String) (body : List Char) : List Char → Prop where
  | value {name : List Char} {fallback : Option (List Char)} {v : String}
      (hname : HasName body name fallback) (hne : name ≠ [])
      (hvalue : value (String.ofList name) = some v) : StandsFor value body v.toList
  | fallback {name fallback : List Char} (hname : HasName body name (some fallback))
      (hne : name ≠ []) (hvalue : value (String.ofList name) = none) :
      StandsFor value body fallback
  /-- A placeholder that has no name stands for itself. -/
  | unnamed {fallback : Option (List Char)} (hname : HasName body [] fallback) :
      StandsFor value body (written body)
  /-- So does one that has neither value nor fallback. -/
  | unset {name : List Char} (hname : HasName body name none)
      (hvalue : value (String.ofList name) = none) : StandsFor value body (written body)

/-- The placeholder has a name, and a value or a fallback. -/
def Resolvable (value : String → Option String) (body : List Char) : Prop :=
  ∃ name fallback, HasName body name fallback ∧ name ≠ [] ∧
    (value (String.ofList name) ≠ none ∨ fallback ≠ none)

/-! ## The reader of marks -/

/-- The reader finds the first opening, if there is one. -/
theorem findOpening_cases (text done : List Char) :
    (¬opening <:+: text ∧ findOpening text done = none) ∨
    ∃ before after, FirstCut opening text before after ∧
      findOpening text done = some (before.reverse ++ done, after) := by
  fun_induction findOpening text done with
  | case1 done => exact .inl ⟨by simp [opening], rfl⟩
  | case2 rest done => exact .inr ⟨[], rest, firstCut_append opening rest, rfl⟩
  | case3 c rest done hmark ih =>
    have hc : ¬opening <+: c :: rest := by
      rintro ⟨after, heq⟩
      cases heq
      exact hmark after rfl rfl
    rcases ih with ⟨hnone, hread⟩ | ⟨before, after, hcut, hread⟩
    · refine .inl ⟨fun h => ?_, hread⟩
      rcases List.infix_cons_iff.1 h with h | h
      · exact hc h
      · exact hnone h
    · refine .inr ⟨c :: before, after, hcut.cons hc, ?_⟩
      rw [hread, List.reverse_cons, List.append_assoc]
      rfl

/-- The reader of a body finds the first mark of a fallback, if there is one. -/
theorem splitFallback_cases (body done : List Char) :
    (¬fallbackMark <:+: body ∧ splitFallback body done = (done.reverse ++ body, none)) ∨
    ∃ name fallback, FirstCut fallbackMark body name fallback ∧
      splitFallback body done = (done.reverse ++ name, some fallback) := by
  fun_induction splitFallback body done with
  | case1 done => exact .inl ⟨by simp [fallbackMark], by simp⟩
  | case2 rest done => exact .inr ⟨[], rest, firstCut_append fallbackMark rest, by simp⟩
  | case3 c rest done hmark ih =>
    have hc : ¬fallbackMark <+: c :: rest := by
      rintro ⟨after, heq⟩
      cases heq
      exact hmark after rfl rfl
    rcases ih with ⟨hnone, hread⟩ | ⟨name, fallback, hcut, hread⟩
    · refine .inl ⟨fun h => ?_, by simp [hread]⟩
      rcases List.infix_cons_iff.1 h with h | h
      · exact hc h
      · exact hnone h
    · exact .inr ⟨c :: name, fallback, hcut.cons hc, by simp [hread]⟩

theorem findOpening_eq_none {text : List Char} (h : ¬opening <:+: text) (done : List Char) :
    findOpening text done = none := by
  rcases findOpening_cases text done with ⟨-, hread⟩ | ⟨before, after, hcut, -⟩
  · exact hread
  · exact absurd hcut.isInfix h

theorem findOpening_of_firstCut {text before after : List Char}
    (h : FirstCut opening text before after) (done : List Char) :
    findOpening text done = some (before.reverse ++ done, after) := by
  rcases findOpening_cases text done with ⟨hnone, -⟩ | ⟨before', after', hcut, hread⟩
  · exact absurd h.isInfix hnone
  · obtain ⟨rfl, rfl⟩ := h.unique hcut
    exact hread

theorem firstCut_of_splitAtFirst {text before after : List Char} {separator : Char}
    (h : splitAtFirst separator text = some (before, after)) :
    FirstCut [separator] text before after := by
  obtain ⟨htext, hseparator⟩ := splitAtFirst_eq_some_iff.1 h
  rw [htext]
  exact firstCut_singleton hseparator

theorem splitAtFirst_of_firstCut {text before after : List Char} {separator : Char}
    (h : FirstCut [separator] text before after) :
    splitAtFirst separator text = some (before, after) := by
  cases hsplit : splitAtFirst separator text with
  | none =>
    rw [splitAtFirst_eq_none_iff, h.text_eq] at hsplit
    simp at hsplit
  | some parts =>
    obtain ⟨before', after'⟩ := parts
    obtain ⟨rfl, rfl⟩ := h.unique (firstCut_of_splitAtFirst hsplit)
    rfl

/-! ## Bodies -/

/-- A body has one name and one fallback, or none, and these are what is read. -/
theorem hasName_iff {body name : List Char} {fallback : Option (List Char)} :
    HasName body name fallback ↔ splitFallback body [] = (name, fallback) := by
  rcases splitFallback_cases body [] with ⟨hnone, hread⟩ | ⟨name', fallback', hcut, hread⟩
  · rw [hread]
    constructor
    · intro h
      cases h with
      | plain h => rfl
      | fallback h => exact absurd h.isInfix hnone
    · intro h
      cases h
      exact .plain hnone
  · rw [hread]
    constructor
    · intro h
      cases h with
      | plain h => exact absurd hcut.isInfix h
      | fallback h =>
        obtain ⟨rfl, rfl⟩ := hcut.unique h
        rfl
    · intro h
      cases h
      exact .fallback hcut

/-- What a placeholder stands for is what is put in its place. -/
theorem standsFor_iff {value : String → Option String} {body out : List Char} :
    StandsFor value body out ↔ resolve value body = out := by
  constructor
  · intro h
    cases h with
    | value hname hne hvalue => simp [resolve, hasName_iff.1 hname, hne, hvalue]
    | fallback hname hne hvalue => simp [resolve, hasName_iff.1 hname, hne, hvalue]
    | unnamed hname => simp [resolve, hasName_iff.1 hname]
    | unset hname hvalue => simp [resolve, hasName_iff.1 hname, hvalue]
  · rintro rfl
    obtain ⟨name, fallback, hbody⟩ : ∃ name fallback, splitFallback body [] = (name, fallback) :=
      ⟨_, _, rfl⟩
    have hname := hasName_iff.2 hbody
    unfold resolve
    rw [hbody]
    dsimp only
    split
    · rename_i hempty
      obtain rfl := List.isEmpty_iff.1 hempty
      exact .unnamed hname
    · rename_i hempty
      have hne : name ≠ [] := fun h => hempty (List.isEmpty_iff.2 h)
      split
      · rename_i hvalue
        exact .value hname hne hvalue
      · rename_i hvalue
        exact .fallback hname hne hvalue
      · rename_i hvalue
        exact .unset hname hvalue

theorem resolve_of_not_resolvable {value : String → Option String} {body : List Char}
    (h : ¬Resolvable value body) : resolve value body = written body := by
  obtain ⟨name, fallback, hbody⟩ : ∃ name fallback, splitFallback body [] = (name, fallback) :=
    ⟨_, _, rfl⟩
  have hname := hasName_iff.2 hbody
  apply standsFor_iff.1
  by_cases hne : name = []
  · subst hne
    exact .unnamed hname
  · have hnone : value (String.ofList name) = none ∧ fallback = none := by
      by_contra hsome
      exact h ⟨name, fallback, hname, hne, by tauto⟩
    obtain ⟨hvalue, rfl⟩ := hnone
    exact .unset hname hvalue

/-- Of the variables only the one with the name of the placeholder counts. -/
theorem resolve_congr {value value' : String → Option String} {body : List Char}
    (h : ∀ name fallback, HasName body name fallback → name ≠ [] →
      value (String.ofList name) = value' (String.ofList name)) :
    resolve value body = resolve value' body := by
  obtain ⟨name, fallback, hbody⟩ : ∃ name fallback, splitFallback body [] = (name, fallback) :=
    ⟨_, _, rfl⟩
  unfold resolve
  rw [hbody]
  dsimp only
  split
  · rfl
  · rename_i hempty
    rw [h name fallback (hasName_iff.2 hbody) fun hnil => hempty (List.isEmpty_iff.2 hnil)]

/-! ## Texts -/

theorem assembled_congr {f g : List Char → List Char} {pieces : List (List Char × List Char)}
    (h : ∀ p ∈ pieces, f p.2 = g p.2) (tail : List Char) :
    assembled f pieces tail = assembled g pieces tail := by
  unfold assembled
  congr 1
  refine List.flatMap_congr ?_
  rintro ⟨before, body⟩ hp
  exact congrArg (before ++ ·) (h _ hp)

namespace IsCutInto

variable {text tail : List Char} {pieces : List (List Char × List Char)}

/-- A cut loses nothing of the text. -/
theorem assembled_written (h : IsCutInto text pieces tail) : text = assembled written pieces tail := by
  induction h with
  | plain hopen => rfl
  | unclosed hopen hclose => rfl
  | @placeholder text before after body rest tail pieces hopen hclose hrest ih =>
    calc text
      _ = before ++ opening ++ after := hopen.text_eq
      _ = before ++ opening ++ (body ++ [closing] ++ rest) := by rw [← hclose.text_eq]
      _ = before ++ written body ++ rest := by simp [written, opening, closing]
      _ = before ++ written body ++ assembled written pieces tail := by rw [← ih]
      _ = assembled written ((before, body) :: pieces) tail := by simp [assembled]

/-- A text has no other cut. -/
theorem unique {tail' : List Char} {pieces' : List (List Char × List Char)}
    (h : IsCutInto text pieces tail) (h' : IsCutInto text pieces' tail') :
    pieces' = pieces ∧ tail' = tail := by
  -- both cuts open at the first opening and close at the first brace behind it
  induction h generalizing pieces' tail' with
  | plain hopen =>
    cases h' with
    | plain => exact ⟨rfl, rfl⟩
    | unclosed => exact ⟨rfl, rfl⟩
    | placeholder hopen' => exact absurd hopen'.isInfix hopen
  | unclosed hopen hclose =>
    cases h' with
    | plain => exact ⟨rfl, rfl⟩
    | unclosed => exact ⟨rfl, rfl⟩
    | placeholder hopen' hclose' =>
      obtain ⟨-, rfl⟩ := hopen.unique hopen'
      exact absurd (by rw [hclose'.text_eq]; simp) hclose
  | placeholder hopen hclose hrest ih =>
    cases h' with
    | plain hopen' => exact absurd hopen.isInfix hopen'
    | unclosed hopen' hclose' =>
      obtain ⟨-, rfl⟩ := hopen.unique hopen'
      exact absurd (by rw [hclose.text_eq]; simp) hclose'
    | placeholder hopen' hclose' hrest' =>
      obtain ⟨rfl, rfl⟩ := hopen.unique hopen'
      obtain ⟨rfl, rfl⟩ := hclose.unique hclose'
      obtain ⟨rfl, rfl⟩ := ih hrest'
      exact ⟨rfl, rfl⟩

/-- The reader puts in the place of each body what it stands for, and reads on behind the brace that
has closed it. -/
theorem substituteAfter_eq (h : IsCutInto text pieces tail) (value : String → Option String)
    (done : List Char) :
    substituteAfter value text done = done.reverse ++ assembled (resolve value) pieces tail := by
  induction h generalizing done with
  | plain hopen =>
    unfold substituteAfter
    split
    · simp [assembled]
    · rename_i hread
      rw [findOpening_eq_none hopen] at hread
      cases hread
  | unclosed hopen hclose =>
    have hunclosed : splitAtFirst '\x7d' _ = none := splitAtFirst_eq_none_iff.2 hclose
    unfold substituteAfter
    split
    · simp [assembled]
    · rename_i hread
      rw [findOpening_of_firstCut hopen] at hread
      cases hread
      split
      · simp [assembled]
      · rename_i hbody
        rw [hunclosed] at hbody
        cases hbody
  | @placeholder text before after body rest tail pieces hopen hclose hrest ih =>
    have hclosed : splitAtFirst '\x7d' after = some (body, rest) := splitAtFirst_of_firstCut hclose
    unfold substituteAfter
    split
    · rename_i hread
      rw [findOpening_of_firstCut hopen] at hread
      cases hread
    · rename_i hread
      rw [findOpening_of_firstCut hopen] at hread
      cases hread
      split
      · rename_i hbody
        rw [hclosed] at hbody
        cases hbody
      · rename_i hbody
        rw [hclosed] at hbody
        cases hbody
        rw [ih]
        simp [assembled]

end IsCutInto

theorem exists_isCutInto (text : List Char) : ∃ pieces tail, IsCutInto text pieces tail := by
  rcases findOpening_cases text [] with ⟨hopen, -⟩ | ⟨before, after, hopen, -⟩
  · exact ⟨[], text, .plain hopen⟩
  · cases hclose : splitAtFirst closing after with
    | none => exact ⟨[], text, .unclosed hopen (splitAtFirst_eq_none_iff.1 hclose)⟩
    | some parts =>
      obtain ⟨body, rest⟩ := parts
      have hclose' := firstCut_of_splitAtFirst hclose
      obtain ⟨pieces, tail, hrest⟩ := exists_isCutInto rest
      exact ⟨(before, body) :: pieces, tail, .placeholder hopen hclose' hrest⟩
termination_by text.length
decreasing_by
  -- what is behind a placeholder is shorter than the text
  rw [hopen.text_eq, hclose'.text_eq]
  simp
  omega

theorem toList_substitute {text : String} {pieces : List (List Char × List Char)}
    {tail : List Char} (h : IsCutInto text.toList pieces tail) (value : String → Option String) :
    (substitute value text).toList = assembled (resolve value) pieces tail := by
  rw [substitute, String.toList_ofList, h.substituteAfter_eq]
  rfl

end Placeholder

open Placeholder

/-- The grammar of placeholders. A body stands for the value of its name, else for the fallback, and
for the placeholder as it is written if there is no name or neither of the two. A text has one cut
into placeholders and what stands between them, which is the text as it is written; with each body
replaced by what it stands for and all else as it was it is the text with its placeholders replaced.
So a text with no placeholder that can be resolved stays as it is, and two environments that agree
on the names of its placeholders make the same of it. -/
theorem substitution_of_placeholders :
    (∀ (value : String → Option String) (body out : List Char),
      StandsFor value body out ↔ resolve value body = out) ∧
    ∀ text : String, ∃ pieces tail,
      (∀ pieces' tail', IsCutInto text.toList pieces' tail' ↔ pieces' = pieces ∧ tail' = tail) ∧
      text.toList = assembled written pieces tail ∧
      (∀ value, (substitute value text).toList = assembled (resolve value) pieces tail) ∧
      (∀ value, (∀ p ∈ pieces, ¬Resolvable value p.2) → substitute value text = text) ∧
      ∀ value value' : String → Option String,
        (∀ p ∈ pieces, ∀ name fallback, HasName p.2 name fallback → name ≠ [] →
          value (String.ofList name) = value' (String.ofList name)) →
        substitute value text = substitute value' text := by
  refine ⟨fun _ _ _ => standsFor_iff, fun text => ?_⟩
  obtain ⟨pieces, tail, hcut⟩ := exists_isCutInto text.toList
  have htext := hcut.assembled_written
  refine ⟨pieces, tail, ?_, htext, toList_substitute hcut, ?_, ?_⟩
  · intro pieces' tail'
    constructor
    · exact hcut.unique
    · rintro ⟨rfl, rfl⟩
      exact hcut
  · intro value hnone
    apply String.toList_injective
    calc (substitute value text).toList
      _ = assembled (resolve value) pieces tail := toList_substitute hcut value
      _ = assembled written pieces tail :=
        assembled_congr (fun p hp => resolve_of_not_resolvable (hnone p hp)) tail
      _ = text.toList := htext.symm
  · intro value value' hagree
    apply String.toList_injective
    calc (substitute value text).toList
      _ = assembled (resolve value) pieces tail := toList_substitute hcut value
      _ = assembled (resolve value') pieces tail :=
        assembled_congr (fun p hp => resolve_congr (hagree p hp)) tail
      _ = (substitute value' text).toList := (toList_substitute hcut value').symm

/-- The first brace closes, and what is inserted is not read again. -/
example :
    let value (name : String) : Option String := if name = "A" then some "$\x7bB:-b\x7d" else none
    substitute value "$\x7bA\x7d.$\x7bB:-$\x7bA\x7d\x7d" = "$\x7bB:-b\x7d.$\x7bA\x7d" := by
  cbv

end ChannelHandshake
