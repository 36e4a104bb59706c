import ChannelHandshake.Proofs.Manifest.RoundTrip

/-!
# Manifests in another order

The entries of a manifest may be sent in any order. The order changes neither the size of the
payload (`length_payload_of_perm`) nor whether an entry offends (`Clean.of_perm`), and so a receiver
takes a manifest in every order or in none (`decode_payload_eq_ok_iff`).
-/

namespace ChannelHandshake

open Json (Token Value)
open scoped List

/-! ## Sizes -/

/-- Parts in another order have the same tokens between them, commas included. -/
theorem Json.Value.commaSeparated_perm {parts parts' : List (List Token)}
    (h : parts.Perm parts') : (commaSeparated parts).Perm (commaSeparated parts') := by
  induction h with
  | nil => exact .refl _
  | cons part h ih =>
    rw [commaSeparated_cons, commaSeparated_cons]
    exact (h.flatMap_right _).append_left _
  | swap part part' parts =>
    rw [commaSeparated_cons, commaSeparated_cons, List.flatMap_cons, List.flatMap_cons,
      List.cons_append, List.cons_append]
    -- the comma is taken to the front, the parts are exchanged, and it is put back
    calc part' ++ .comma :: (part ++ parts.flatMap (.comma :: ·))
      _ ~ .comma :: (part' ++ (part ++ parts.flatMap (.comma :: ·))) := List.perm_middle
      _ ~ .comma :: (part ++ (part' ++ parts.flatMap (.comma :: ·))) :=
        (List.perm_append_comm_assoc _ _ _).cons _
      _ ~ part ++ .comma :: (part' ++ parts.flatMap (.comma :: ·)) := List.perm_middle.symm
  | trans _ _ ih ih' => exact ih.trans ih'

/-- Only the number of each token counts for the size of a text. -/
theorem Json.Value.length_encode_render_of_perm {v w : Value} (h : v.tokens.Perm w.tokens) :
    (Utf8.encode v.render).length = (Utf8.encode w.render).length := by
  simp only [Utf8.encode_eq_flatMap, render, String.toList_ofList]
  exact ((h.flatMap_right _).flatMap_right _).length_eq

namespace Manifest

theorem tokens_toJson_of_perm {m m' : Manifest} (h : m.Perm m') :
    m.toJson.tokens.Perm m'.toJson.tokens := by
  rw [toJson, toJson, Value.tokens, Value.tokens]
  exact ((Value.commaSeparated_perm ((h.map _).map _)).cons _).append_right _

theorem tokens_toFrameJson_of_perm (sender : Side) {m m' : Manifest} (h : m.Perm m') :
    (m.toFrameJson sender).tokens.Perm (m'.toFrameJson sender).tokens := by
  have hchannels : (Token.string (some "channels") :: .colon :: m.toJson.tokens).Perm
      (Token.string (some "channels") :: .colon :: m'.toJson.tokens) :=
    ((tokens_toJson_of_perm h).cons _).cons _
  rw [toFrameJson, toFrameJson, Value.tokens, Value.tokens]
  simp only [List.map_cons, List.map_nil, Value.commaSeparated_cons, List.flatMap_cons,
    List.flatMap_nil, List.append_nil]
  exact (((hchannels.cons Token.comma).append_left _).cons _).append_right _

/-- The forms in which a manifest travels. -/
inductive Form where
  | list
  /-- A frame of the side `sender`. -/
  | frame (sender : Side)
deriving DecidableEq, Repr

/-- The bytes of a manifest in one of its forms. -/
def Form.payload (m : Manifest) : Form → List UInt8
  | list => Utf8.encode m.encodeList
  | frame sender => Utf8.encode (m.encodeFrame sender)

theorem length_payload_of_perm (form : Form) {m m' : Manifest} (h : m.Perm m') :
    (form.payload m).length = (form.payload m').length := by
  cases form with
  | list => exact Value.length_encode_render_of_perm (tokens_toJson_of_perm h)
  | frame sender => exact Value.length_encode_render_of_perm (tokens_toFrameJson_of_perm sender h)

/-! ## What is received -/

theorem Clean.of_perm {m m' : Manifest} (hclean : Clean m) (h : m.Perm m') : Clean m' where
  names_nodup := (h.map _).nodup hclean.names_nodup
  version_ne_absent e he := hclean.version_ne_absent e (h.mem_iff.2 he)

theorem decode_payload (form : Form) (m : Manifest) :
    Received (form.payload m).length m m (decode (form.payload m)) := by
  cases form with
  | list =>
    rw [Form.payload, decode_encodeList]
    exact decodeList_encodeList m
  | frame sender => exact decode_encodeFrame sender m

/-- In either form a manifest is taken as it is, if it is clean and not too large. -/
theorem decode_payload_eq_ok_iff {form : Form} {m received : Manifest} :
    decode (form.payload m) = .ok received ↔
      (form.payload m).length ≤ maxPayloadBytes ∧ Clean m ∧ received = m := by
  rw [(decode_payload form m).iff_eq]
  constructor
  · intro h
    cases h with
    | accepted hsize hclean => exact ⟨hsize, hclean, rfl⟩
  · rintro ⟨hsize, hclean, rfl⟩
    exact .accepted hsize hclean

theorem exists_decode_of_perm {form : Form} {m m' : Manifest} (h : m.Perm m')
    (hm : ∃ received, decode (form.payload m) = .ok received) :
    ∃ received, decode (form.payload m') = .ok received := by
  obtain ⟨received, hreceived⟩ := hm
  obtain ⟨hsize, hclean, -⟩ := decode_payload_eq_ok_iff.1 hreceived
  rw [length_payload_of_perm form h] at hsize
  exact ⟨m', decode_payload_eq_ok_iff.2 ⟨hsize, hclean.of_perm h, rfl⟩⟩

end Manifest

end ChannelHandshake
