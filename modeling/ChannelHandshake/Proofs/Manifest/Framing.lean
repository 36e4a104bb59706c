import ChannelHandshake.Proofs.Manifest.Grammar
import ChannelHandshake.Proofs.Manifest.RoundTrip

/-!
# Frames around a text

A frame that is put around the text of one value spells a frame with this value for its channels
(`spells_frameAround`). So both readers come to the same value, and their results differ only by
the sender, the size of the frame and the limits to which a frame holds what a list skips
(`decodeFrame_frameAround`). A list that skips nothing keeps within these limits
(`isBounded_of_ofJson?`).
-/

namespace ChannelHandshake

open Json (Spells Token Value)

/-! ## Texts put together -/

theorem Json.Spells.append {bytes bytes' : List UInt8} {tokens tokens' : List Token}
    (h : Spells bytes tokens) (h' : Spells bytes' tokens') :
    Spells (bytes ++ bytes') (tokens ++ tokens') := by
  induction h with
  | nil => exact h'
  | blank hc hrest ih =>
    rw [List.append_assoc]
    exact .blank hc ih
  | token ht hrest ih =>
    rw [List.append_assoc, List.cons_append]
    exact .token ht ih

/-- Tokens are spelled by what is written for them, number apart. -/
theorem Json.spells_encode {text : String} {tokens : List Token}
    (htext : text.toList = tokens.flatMap Token.spelling) (h : ∀ t ∈ tokens, ∀ n, t ≠ .number n) :
    Spells (Utf8.encode text) tokens := by
  have hscan := scanAfter_spelling h []
  rw [← htext, ← Utf8.symbols_encode] at hscan
  obtain ⟨read, hread, heq⟩ := spells_of_scanAfter hscan
  rw [List.reverse_nil, List.nil_append, List.nil_append] at heq
  exact heq ▸ hread

namespace Manifest

/-- The bytes of the frame of `sender` around those of its channels. -/
def frameAround (sender : Side) (channels : List UInt8) : List UInt8 :=
  Utf8.encode ("\x7b\"type\":\"" ++ frameType sender ++ "\",\"channels\":") ++
    (channels ++ Utf8.encode "\x7d")

/-- A frame with the value `v` for its channels. -/
def frameWith (sender : Side) (v : Value) : Value :=
  .object [(some "type", .string (some (frameType sender))), (some "channels", v)]

theorem spells_frameAround (sender : Side) {channels : List UInt8} {v : Value}
    (h : Spells channels v.tokens) :
    Spells (frameAround sender channels) (frameWith sender v).tokens := by
  have hopening : Spells
      (Utf8.encode ("\x7b\"type\":\"" ++ frameType sender ++ "\",\"channels\":"))
      [.openObject, .string (some "type"), .colon, .string (some (frameType sender)), .comma,
        .string (some "channels"), .colon] := by
    apply Json.spells_encode
    · cases sender <;> decide
    · simp
  have hclosing : Spells (Utf8.encode "\x7d") [.closeObject] := by
    apply Json.spells_encode
    · decide
    · simp
  have htokens : (frameWith sender v).tokens =
      [.openObject, .string (some "type"), .colon, .string (some (frameType sender)), .comma,
        .string (some "channels"), .colon] ++ (v.tokens ++ [.closeObject]) := by
    simp [frameWith, Value.tokens, Value.commaSeparated_cons]
  rw [htokens]
  exact hopening.append (h.append hclosing)

theorem length_lt_frameAround (sender : Side) (channels : List UInt8) :
    channels.length < (frameAround sender channels).length := by
  have hclosing : (Utf8.encode "\x7d").length = 1 := by
    rw [Utf8.encode_eq_flatMap]
    decide
  rw [frameAround, List.length_append, List.length_append, hclosing]
  omega

theorem ofFrameJson?_frameWith (sender : Side) (v : Value) :
    ofFrameJson? (frameWith sender v) = (ofJson? v).map (sender, ·) := by
  have hsender := senderOf?_frameType sender
  cases hlist : ofJson? v <;>
    simp [frameWith, ofFrameJson?, Value.member?, Value.text?, hsender, hlist]

theorem isBounded_frameWith (sender : Side) (v : Value) (depth : Nat) :
    (frameWith sender v).isBounded (depth + 1) = v.isBounded depth := by
  simp [frameWith, Value.isBounded]

/-! ## The two readers -/

/-- A frame around a value is read as the list of this value is, with its sender, unless it is too
large or holds something beyond the limits of a frame. -/
theorem decodeFrame_frameAround (sender : Side) {channels : List UInt8} {v : Value}
    (h : Spells channels v.tokens) :
    decodeFrame (frameAround sender channels) =
      if maxPayloadBytes < (frameAround sender channels).length then
        .error (.tooLarge (frameAround sender channels).length)
      else if (frameWith sender v).isBounded maxFrameDepth then
        (decodeList channels).map (sender, ·)
      else .error .malformed := by
  split
  · rename_i hlarge
    rw [decodeFrame, readJson, if_pos hlarge]
    rfl
  · rename_i hsize
    have hlength := length_lt_frameAround sender channels
    have hframe : readJson (frameAround sender channels) = .ok (frameWith sender v) :=
      readJson_eq_ok_iff.2 ⟨by omega, spells_frameAround sender h⟩
    have hlist : readJson channels = .ok v := readJson_eq_ok_iff.2 ⟨by omega, h⟩
    simp only [decodeFrame, decodeList, hframe, hlist, bind, Except.bind, ofFrameJson?_frameWith]
    cases ofJson? v with
    | none => simp [Except.map]
    | some m =>
      split
      · cases m.check <;> rfl
      · rfl

end Manifest

/-! ## Lists that skip nothing -/

/-- The value `w` stands somewhere in another one. -/
inductive Json.Value.Inside (w : Value) : Value → Prop where
  | self : Inside w w
  | item {items : List Value} {v : Value} (hv : v ∈ items) (h : Inside w v) :
      Inside w (.array items)
  | member {members : List (Option String × Value)} {m : Option String × Value}
      (hm : m ∈ members) (h : Inside w m.2) : Inside w (.object members)

/-- An entry without other members holds nothing but two texts. -/
theorem Entry.IsWrittenAs.isBounded {e : Entry} {v : Value} (h : e.IsWrittenAs v)
    (hkeys : ∀ members, v = .object members →
      ∀ m ∈ members, m.1 = some "name" ∨ m.1 = some "version") (depth : Nat) :
    v.isBounded (depth + 1) = true := by
  cases h with
  | array => simp [Value.isBounded]
  | @object members htexts hname honce hversion honce' =>
    rw [Value.isBounded, List.all_eq_true]
    rintro ⟨key, w⟩ hm
    have hkey : key.isSome = true := htexts _ hm
    have hw : w.isBounded depth = true := by
      -- a key that is given once has the value of the entry
      rcases hkeys members rfl _ hm with rfl | rfl
      · have hmember := Value.member?_eq_some_iff.2 ⟨hname, honce⟩
        cases (Value.member?_eq_some_iff.2 ⟨hm, honce⟩).symm.trans hmember
        simp [Value.isBounded]
      · have hmember := Value.member?_eq_some_iff.2 ⟨hversion, honce'⟩
        cases (Value.member?_eq_some_iff.2 ⟨hm, honce'⟩).symm.trans hmember
        simp [Value.isBounded]
    simp [hkey, hw]

namespace Manifest

theorem isBounded_of_ofJson? {v : Value} {m : Manifest} (h : ofJson? v = some m)
    (hkeys : ∀ members, (Value.object members).Inside v →
      ∀ x ∈ members, x.1 = some "name" ∨ x.1 = some "version") (depth : Nat) :
    v.isBounded (depth + 2) = true := by
  obtain ⟨items, rfl, hitems⟩ := ofJson?_eq_some_iff.1 h
  have hentry : ∀ item ∈ items, ∃ e : Entry, e.IsWrittenAs item := by
    clear h hkeys
    intro item hitem
    induction hitems with
    | nil => simp at hitem
    | cons he _ ih =>
      rcases List.mem_cons.1 hitem with rfl | hitem
      · exact ⟨_, he⟩
      · exact ih hitem
  rw [Value.isBounded, List.all_eq_true]
  intro item hitem
  obtain ⟨e, he⟩ := hentry item hitem
  apply he.isBounded
  rintro members rfl
  exact hkeys members (.item hitem .self)

theorem exists_of_decodeList_ne_malformed {payload : List UInt8} {v : Value}
    (hread : readJson payload = .ok v) (h : decodeList payload ≠ .error .malformed) :
    ∃ m, ofJson? v = some m := by
  rw [← Option.isSome_iff_exists, Option.isSome_iff_ne_none]
  intro hnone
  simp [decodeList, hread, bind, Except.bind, hnone] at h

/-- A frame does not weaken the checks of a list. What a frame around the text of a value is read
as, the text is read as too, and what a frame is refused for that is no matter of form, the text is
refused for too. The other way round this holds for each text that is read or so refused, if its
frame is not too large and its objects have no members that a list skips. -/
theorem framing_keeps_checks (sender : Side) (channels : List UInt8) (v : Value)
    (h : Spells channels v.tokens) :
    let frame := frameAround sender channels
    (∀ sender' m, decodeFrame frame = .ok (sender', m) →
      sender' = sender ∧ decodeList channels = .ok m) ∧
    (∀ name, decodeFrame frame = .error (.duplicateChannel name) →
      decodeList channels = .error (.duplicateChannel name)) ∧
    (∀ name, decodeFrame frame = .error (.reservedVersion name) →
      decodeList channels = .error (.reservedVersion name)) ∧
    (frame.length ≤ 262144 →
      (∀ members, (Value.object members).Inside v →
        ∀ x ∈ members, x.1 = some "name" ∨ x.1 = some "version") →
      decodeList channels ≠ .error .malformed →
      decodeFrame frame = (decodeList channels).map (sender, ·)) := by
  intro frame
  have hframe : decodeFrame frame = _ := decodeFrame_frameAround sender h
  by_cases hlarge : maxPayloadBytes < frame.length
  · have hsize : ¬frame.length ≤ 262144 := Nat.not_le.2 hlarge
    rw [hframe, if_pos hlarge]
    simp [hsize]
  rw [hframe, if_neg hlarge]
  by_cases hbounded : (frameWith sender v).isBounded maxFrameDepth = true
  · rw [if_pos hbounded]
    cases decodeList channels <;> simp [Except.map]
  · rw [if_neg hbounded]
    refine ⟨by simp, by simp, by simp, ?_⟩
    intro _ hkeys hlist
    have hlength : channels.length < frame.length := length_lt_frameAround sender channels
    have hread : readJson channels = .ok v := readJson_eq_ok_iff.2 ⟨by omega, h⟩
    obtain ⟨m, hm⟩ := exists_of_decodeList_ne_malformed hread hlist
    have hv : (frameWith sender v).isBounded maxFrameDepth = v.isBounded 126 :=
      isBounded_frameWith sender v 126
    exact absurd (hv.trans (isBounded_of_ofJson? hm hkeys 124)) hbounded

/-- A list with blanks, an escape and both forms of an entry. -/
theorem framing_keeps_checks_of_two_entries :
    let text := "[ [\"\\u0061:b\", \"1\"], \x7b\"version\": \"2\", \"name\": \"c\"\x7d ]"
    let channels := Utf8.encode text
    let v : Value := .array [.array [.string (some "a:b"), .string (some "1")],
      .object [(some "version", .string (some "2")), (some "name", .string (some "c"))]]
    Spells channels v.tokens ∧
      decodeFrame (frameAround .client channels) = .ok (.client, [⟨"a:b", "1"⟩, ⟨"c", "2"⟩]) := by
  intro text channels v
  have hscan : Json.scan? (text.toList.map some) = some v.tokens := by
    have htokens : v.tokens = [.openArray, .openArray, .string (some "a:b"), .comma,
        .string (some "1"), .closeArray, .comma, .openObject, .string (some "version"), .colon,
        .string (some "2"), .comma, .string (some "name"), .colon, .string (some "c"),
        .closeObject, .closeArray] := by
      simp [v, Value.tokens, Value.commaSeparated_cons]
    rw [htokens]
    decide +kernel
  have hchannels : Spells channels v.tokens := by
    rw [← Value.ofBytes?_eq_some_iff, Value.ofBytes?, Utf8.symbols_encode, Value.ofSymbols?, hscan,
      Option.bind_some, Value.ofTokens?_tokens]
  have hsize : channels.length ≤ maxPayloadBytes := by
    simp only [channels, Utf8.encode_eq_flatMap]
    decide +kernel
  have hframe : (frameAround .client channels).length ≤ 262144 := by
    simp only [frameAround, channels, Utf8.encode_eq_flatMap]
    decide +kernel
  have hlist : decodeList channels = .ok [⟨"a:b", "1"⟩, ⟨"c", "2"⟩] := by
    have hread := readJson_eq_ok_iff.2 ⟨hsize, hchannels⟩
    have hv : ofJson? v = some [⟨"a:b", "1"⟩, ⟨"c", "2"⟩] := rfl
    simp only [decodeList, hread, bind, Except.bind, hv]
    exact check_eq_ok_iff.2 ⟨⟨by decide, by decide⟩, rfl⟩
  obtain ⟨-, -, -, hunskipped⟩ := framing_keeps_checks .client channels v hchannels
  refine ⟨hchannels, (hunskipped hframe ?_ (by simp [hlist])).trans (by rw [hlist]; rfl)⟩
  intro members hinside x hx
  simp only [v] at hinside
  cases hinside with
  | item hv hinside =>
    simp only [List.mem_cons, List.not_mem_nil, or_false] at hv
    rcases hv with rfl | rfl
    · cases hinside with
      | item hv hinside =>
        simp only [List.mem_cons, List.not_mem_nil, or_false] at hv
        rcases hv with rfl | rfl <;> cases hinside
    · cases hinside with
      | self =>
        simp only [List.mem_cons, List.not_mem_nil, or_false] at hx
        rcases hx with rfl | rfl <;> simp
      | member hm hinside =>
        simp only [List.mem_cons, List.not_mem_nil, or_false] at hm
        rcases hm with rfl | rfl <;> cases hinside

end Manifest

end ChannelHandshake
