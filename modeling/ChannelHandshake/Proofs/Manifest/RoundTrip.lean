import ChannelHandshake.Proofs.Json.RoundTrip
import ChannelHandshake.Proofs.Manifest.Offence

/-!
# Manifests read back

A manifest is written without any check, as a list or in the frame of a side. What a receiver makes
of the bytes is decided by their number and by the first entry that offends, and by nothing else:
`decode_encoded` says so for both forms and for the readers of either form.
-/

namespace ChannelHandshake

open Json (Value)

namespace Manifest

/-! ## The JSON forms -/

theorem entry_ofJson?_toJson (e : Entry) : Entry.ofJson? e.toJson = some e := by
  simp [Entry.toJson, Entry.ofJson?, Value.member?, Value.text?]

theorem ofJson?_toJson (m : Manifest) : ofJson? m.toJson = some m := by
  rw [toJson, ofJson?]
  induction m with
  | nil => rfl
  | cons e m ih =>
    rw [List.map_cons, List.mapM_cons, entry_ofJson?_toJson, ih]
    rfl

theorem senderOf?_frameType (sender : Side) : senderOf? (frameType sender) = some sender := by
  cases sender <;> decide

theorem ofFrameJson?_toFrameJson (sender : Side) (m : Manifest) :
    ofFrameJson? (m.toFrameJson sender) = some (sender, m) := by
  have hm := ofJson?_toJson m
  simp [toFrameJson, ofFrameJson?, Value.member?, Value.text?, senderOf?_frameType, hm]

/-- A list of entries is no frame, for its first item is no text. -/
theorem ofFrameJson?_toJson (m : Manifest) : ofFrameJson? m.toJson = none := by
  rcases m with _ | ⟨e, _ | ⟨e', _ | ⟨e'', m⟩⟩⟩ <;>
    simp [toJson, ofFrameJson?, Entry.toJson, Value.text?]

theorem numberFree_toJson (m : Manifest) : m.toJson.NumberFree := by
  apply Value.numberFree_array
  intro v hv
  obtain ⟨e, -, rfl⟩ := List.mem_map.1 hv
  apply Value.numberFree_object
  intro member hmember
  simp only [List.mem_cons, List.not_mem_nil, or_false] at hmember
  rcases hmember with rfl | rfl <;> exact Value.numberFree_string _

theorem numberFree_toFrameJson (sender : Side) (m : Manifest) :
    (m.toFrameJson sender).NumberFree := by
  apply Value.numberFree_object
  intro member hmember
  simp only [List.mem_cons, List.not_mem_nil, or_false] at hmember
  rcases hmember with rfl | rfl
  · exact Value.numberFree_string _
  · exact numberFree_toJson m

theorem isBounded_toFrameJson (sender : Side) (m : Manifest) :
    (m.toFrameJson sender).isBounded maxFrameDepth = true := by
  have hentry : ∀ e : Entry, e.toJson.isBounded 125 = true := by
    intro e
    simp [Entry.toJson, Value.isBounded]
  simp [toFrameJson, toJson, maxFrameDepth, Value.isBounded, hentry]

/-! ## Reading what was written -/

/-- How a payload of `size` bytes is received that holds `m`, for a reader that gives `value` if
nothing is refused: by its size first, then by the first entry that offends. -/
inductive Received {α : Type} (size : Nat) (m : Manifest) (value : α) :
    Except DecodeError α → Prop where
  | tooLarge (h : maxPayloadBytes < size) : Received size m value (.error (.tooLarge size))
  | refused {error : DecodeError} (h : size ≤ maxPayloadBytes) (hm : Offends m error) :
    Received size m value (.error error)
  | accepted (h : size ≤ maxPayloadBytes) (hm : Clean m) : Received size m value (.ok value)

theorem received_iff {α : Type} {size : Nat} {m : Manifest} {value : α}
    {result : Except DecodeError α} :
    Received size m value result ↔
      (if maxPayloadBytes < size then .error (.tooLarge size) else m.check.map fun _ => value) =
        result := by
  by_cases hsize : maxPayloadBytes < size
  · rw [if_pos hsize]
    constructor
    · intro h
      cases h with
      | tooLarge => rfl
      | refused h => omega
      | accepted h => omega
    · rintro rfl
      exact .tooLarge hsize
  · rw [if_neg hsize]
    constructor
    · intro h
      cases h with
      | tooLarge h => omega
      | refused h hm => rw [check_eq_iff.2 (.inr ⟨_, hm, rfl⟩), Except.map]
      | accepted h hm => rw [check_eq_iff.2 (.inl ⟨hm, rfl⟩), Except.map]
    · rintro rfl
      rcases check_eq_iff.1 (rfl : m.check = m.check) with ⟨hm, h⟩ | ⟨error, hm, h⟩
      · rw [h]
        exact .accepted (by omega) hm
      · rw [h]
        exact .refused (by omega) hm

/-- There is only one way in which a payload is received. -/
theorem Received.iff_eq {α : Type} {size : Nat} {m : Manifest} {value : α}
    {result : Except DecodeError α} (h : Received size m value result)
    (result' : Except DecodeError α) : result = result' ↔ Received size m value result' := by
  rw [received_iff] at h ⊢
  rw [h]

/-- An offence is not a matter of form. -/
theorem Offends.ne_malformed {m : Manifest} {error : DecodeError} (h : Offends m error) :
    error ≠ .malformed := by
  obtain ⟨before, e, after, -, -, he⟩ := h
  rintro rfl
  unfold Entry.offence at he
  split at he
  · simp at he
  · split at he <;> simp at he

theorem Received.ne_malformed {α : Type} {size : Nat} {m : Manifest} {value : α}
    {result : Except DecodeError α} (h : Received size m value result) :
    result ≠ .error .malformed := by
  cases h with
  | tooLarge => simp
  | refused _ hm => simp [hm.ne_malformed]
  | accepted => simp

theorem readJson_encode_render {v : Value} (h : v.NumberFree) :
    readJson (Utf8.encode v.render) =
      if maxPayloadBytes < (Utf8.encode v.render).length
        then .error (.tooLarge (Utf8.encode v.render).length) else .ok v := by
  rw [readJson, Value.ofBytes?_encode_render h]

theorem check_map_const (m : Manifest) : (m.check.map fun _ => m) = m.check := by
  rcases check_eq_iff.1 (rfl : m.check = m.check) with ⟨-, h⟩ | ⟨error, -, h⟩ <;> rw [h] <;> rfl

theorem decodeList_encodeList (m : Manifest) :
    Received (Utf8.encode m.encodeList).length m m (decodeList (Utf8.encode m.encodeList)) := by
  rw [received_iff, check_map_const, decodeList, encodeList,
    readJson_encode_render (numberFree_toJson m)]
  split
  · rfl
  · simp only [bind, Except.bind, ofJson?_toJson]

theorem decodeFrame_encodeFrame (sender : Side) (m : Manifest) :
    Received (Utf8.encode (m.encodeFrame sender)).length m (sender, m)
      (decodeFrame (Utf8.encode (m.encodeFrame sender))) := by
  rw [received_iff, decodeFrame, encodeFrame,
    readJson_encode_render (numberFree_toFrameJson sender m)]
  split
  · rfl
  · simp only [bind, Except.bind, isBounded_toFrameJson, if_true, ofFrameJson?_toFrameJson]
    rcases check_eq_iff.1 (rfl : m.check = m.check) with ⟨-, h⟩ | ⟨error, -, h⟩ <;> rw [h] <;> rfl

/-- The reader of either form comes to the list, for it is no frame. -/
theorem decode_encodeList (m : Manifest) :
    decode (Utf8.encode m.encodeList) = decodeList (Utf8.encode m.encodeList) := by
  have hread := readJson_encode_render (numberFree_toJson m)
  rw [← encodeList] at hread
  by_cases hsize : maxPayloadBytes < (Utf8.encode m.encodeList).length
  · rw [if_pos hsize] at hread
    simp only [decode, decodeFrame, decodeList, hread, bind, Except.bind]
  · rw [if_neg hsize] at hread
    have hframe : decodeFrame (Utf8.encode m.encodeList) = .error .malformed := by
      simp only [decodeFrame, hread, bind, Except.bind, ofFrameJson?_toJson, ite_self]
    rw [decode, hframe]

/-- The reader of either form takes a frame as the reader of frames does, less its sender. -/
theorem decode_encodeFrame (sender : Side) (m : Manifest) :
    Received (Utf8.encode (m.encodeFrame sender)).length m m
      (decode (Utf8.encode (m.encodeFrame sender))) := by
  have hframe := decodeFrame_encodeFrame sender m
  rw [decode]
  generalize decodeFrame (Utf8.encode (m.encodeFrame sender)) = result at hframe
  cases hframe with
  | tooLarge h => exact .tooLarge h
  | refused h hm =>
    have hne := hm.ne_malformed
    split
    · simp_all
    · simp_all
    · rename_i heq
      cases heq
      exact .refused h hm
  | accepted h hm => exact .accepted h hm

/-! ## Sizes -/

/-- The characters of an entry in a text, with a comma. -/
def entryWidth (e : Entry) : Nat :=
  21 + (Json.quote e.name).length + (Json.quote e.version).length

/-- The characters of a manifest in a text; the brackets take two. -/
def textWidth : Manifest → Nat
  | [] => 2
  | e :: m => entryWidth e + textWidth m

theorem length_spelling_entry (e : Entry) :
    (e.toJson.tokens.flatMap Json.Token.spelling).length + 1 = entryWidth e := by
  have hname : (Json.quote "name").length = 6 := by decide
  have hversion : (Json.quote "version").length = 9 := by decide
  simp only [Entry.toJson, Value.tokens, List.map_cons, List.map_nil, Value.commaSeparated_cons]
  simp only [List.cons_append, List.nil_append, List.flatMap_cons, List.flatMap_nil,
    Json.Token.spelling, List.length_cons, List.length_append, List.length_nil, hname, hversion,
    entryWidth]
  omega

theorem length_spelling_toJson_le (m : Manifest) :
    (m.toJson.tokens.flatMap Json.Token.spelling).length ≤ textWidth m := by
  have hcomma : Json.Token.spelling .comma = [','] := rfl
  have hrest : ∀ m' : Manifest,
      ((((m'.map Entry.toJson).map Value.tokens).flatMap (.comma :: ·)).flatMap
        Json.Token.spelling).length + 2 = textWidth m' := by
    intro m'
    induction m' with
    | nil => rfl
    | cons e m' ih =>
      have he := length_spelling_entry e
      simp only [List.map_cons, List.flatMap_cons, List.flatMap_append, List.length_append, hcomma,
        List.length_singleton, textWidth, ← ih]
      omega
  cases m with
  | nil => simp [toJson, Value.tokens, Json.commaSeparated, Json.Token.spelling, textWidth]
  | cons e m =>
    have he := length_spelling_entry e
    have hm := hrest m
    rw [toJson, Value.tokens, List.map_cons, List.map_cons, Value.commaSeparated_cons]
    simp only [List.cons_append, List.flatMap_cons, List.flatMap_append, List.length_append,
      List.flatMap_nil, List.length_nil, textWidth]
    simp only [Json.Token.spelling, List.length_singleton]
    omega

theorem length_encodeList_le (m : Manifest) :
    (Utf8.encode m.encodeList).length ≤ 4 * textWidth m := by
  have hwidth := length_spelling_toJson_le m
  have hbytes := Value.length_encode_render_le m.toJson
  rw [encodeList]
  omega

theorem length_encodeFrame_le (sender : Side) (m : Manifest) :
    (Utf8.encode (m.encodeFrame sender)).length ≤ 4 * (41 + textWidth m) := by
  have hwidth := length_spelling_toJson_le m
  have hbytes := Value.length_encode_render_le (m.toFrameJson sender)
  have htype : (Json.quote (frameType sender)).length ≤ 20 := by cases sender <;> decide
  have hframe : ((m.toFrameJson sender).tokens.flatMap Json.Token.spelling).length =
      21 + (Json.quote (frameType sender)).length +
        (m.toJson.tokens.flatMap Json.Token.spelling).length := by
    have htype : (Json.quote "type").length = 6 := by decide
    have hchannels : (Json.quote "channels").length = 10 := by decide
    simp only [toFrameJson, Value.tokens, List.map_cons, List.map_nil, Value.commaSeparated_cons]
    simp only [List.cons_append, List.nil_append, List.append_nil, List.flatMap_cons,
      List.flatMap_append, List.flatMap_nil, Json.Token.spelling, List.length_cons,
      List.length_append, List.length_nil, htype, hchannels]
    omega
  rw [encodeFrame]
  omega

/-- Writing a manifest and reading it back: a payload that is too large is refused for its size,
any other one for the first entry that offends, and the rest is what was written. -/
theorem decode_encoded (m : Manifest) (sender : Side) :
    let list := Utf8.encode m.encodeList
    let frame := Utf8.encode (m.encodeFrame sender)
    (∀ result, decodeList list = result ↔ Received list.length m m result) ∧
    (∀ result, decode list = result ↔ Received list.length m m result) ∧
    (∀ result, decodeFrame frame = result ↔ Received frame.length m (sender, m) result) ∧
    (∀ result, decode frame = result ↔ Received frame.length m m result) ∧
    decodeList list ≠ .error .malformed ∧ decode list ≠ .error .malformed ∧
    decodeFrame frame ≠ .error .malformed ∧ decode frame ≠ .error .malformed := by
  intro list frame
  have hlist : Received list.length m m (decodeList list) := decodeList_encodeList m
  have heither : Received list.length m m (decode list) := by
    rw [decode_encodeList]
    exact hlist
  have hframe : Received frame.length m (sender, m) (decodeFrame frame) :=
    decodeFrame_encodeFrame sender m
  have hframe' : Received frame.length m m (decode frame) := decode_encodeFrame sender m
  exact ⟨hlist.iff_eq, heither.iff_eq, hframe.iff_eq, hframe'.iff_eq, hlist.ne_malformed,
    heither.ne_malformed, hframe.ne_malformed, hframe'.ne_malformed⟩

end Manifest

end ChannelHandshake
