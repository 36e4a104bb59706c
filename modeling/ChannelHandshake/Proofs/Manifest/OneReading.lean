import ChannelHandshake.Manifest

/-!
# One reading of a payload

Frames and lists may both be written as JSON arrays, a frame beginning with the text of its type
and a list with its first entry. No entry is a text, so that no value is a frame and a list
(`ofJson?_eq_none_of_ofFrameJson?`), and of the two readers of a payload at least one finds it
malformed. Which of them is asked first makes therefore no difference (`one_reading`).
-/

namespace ChannelHandshake.Manifest

open Json (Value)

/-! ## Two readers in turn -/

/-- The first result, or the second one where the first reader finds the payload malformed. -/
def orIfMalformed (first second : Except DecodeError Manifest) : Except DecodeError Manifest :=
  match first with
  | .error .malformed => second
  | _ => first

theorem malformed_orIfMalformed (second : Except DecodeError Manifest) :
    orIfMalformed (.error .malformed) second = second := rfl

theorem orIfMalformed_of_ne {first : Except DecodeError Manifest}
    (h : first ≠ .error .malformed) (second : Except DecodeError Manifest) :
    orIfMalformed first second = first := by
  unfold orIfMalformed
  split
  · exact absurd rfl h
  · rfl

theorem orIfMalformed_malformed (first : Except DecodeError Manifest) :
    orIfMalformed first (.error .malformed) = first := by
  by_cases h : first = .error .malformed
  · rw [h, malformed_orIfMalformed]
  · exact orIfMalformed_of_ne h _

theorem orIfMalformed_self (result : Except DecodeError Manifest) :
    orIfMalformed result result = result := by
  by_cases h : result = .error .malformed
  · rw [h, malformed_orIfMalformed]
  · exact orIfMalformed_of_ne h _

/-- Two readers do not contradict each other: one of them finds the payload malformed, or they
agree. -/
def Compatible (first second : Except DecodeError Manifest) : Prop :=
  first = .error .malformed ∨ second = .error .malformed ∨ first = second

variable {first second : Except DecodeError Manifest}

theorem Compatible.orIfMalformed_comm (h : Compatible first second) :
    orIfMalformed first second = orIfMalformed second first := by
  rcases h with rfl | rfl | rfl
  · rw [malformed_orIfMalformed, orIfMalformed_malformed]
  · rw [malformed_orIfMalformed, orIfMalformed_malformed]
  · rfl

/-- What is not a matter of form is the result if it is that of either reader. -/
theorem Compatible.orIfMalformed_eq_iff (h : Compatible first second)
    {result : Except DecodeError Manifest} (hresult : result ≠ .error .malformed) :
    orIfMalformed first second = result ↔ first = result ∨ second = result := by
  rcases h with rfl | rfl | rfl
  · simp [malformed_orIfMalformed, hresult.symm]
  · simp [orIfMalformed_malformed, hresult.symm]
  · simp [orIfMalformed_self]

/-! ## Frames and lists -/

/-- An entry is an object or an array. -/
theorem entry_ofJson?_eq_none_of_text? {v : Value} {text : String} (h : v.text? = some text) :
    Entry.ofJson? v = none := by
  cases v <;> simp_all [Value.text?, Entry.ofJson?]

/-- A frame is no list: it is no array, or its first item is a text. -/
theorem ofJson?_eq_none_of_ofFrameJson? {v : Value} {frame : Side × Manifest}
    (h : ofFrameJson? v = some frame) : ofJson? v = none := by
  unfold ofFrameJson? at h
  split at h
  · rfl
  · rename_i type channels
    simp only [Option.bind_eq_bind, Option.bind_eq_some_iff] at h
    obtain ⟨text, htext, -⟩ := h
    simp [ofJson?, entry_ofJson?_eq_none_of_text? htext]
  · simp at h

/-- The manifest of a frame, without its sender. -/
def decodeFramed (payload : List UInt8) : Except DecodeError Manifest :=
  (decodeFrame payload).map Prod.snd

theorem decodeFramed_eq_ok_iff {payload : List UInt8} {m : Manifest} :
    decodeFramed payload = .ok m ↔ ∃ sender, decodeFrame payload = .ok (sender, m) := by
  rw [decodeFramed]
  cases decodeFrame payload with
  | error error => simp [Except.map]
  | ok frame => simp [Except.map, Prod.ext_iff]

theorem decodeFramed_eq_error_iff {payload : List UInt8} {error : DecodeError} :
    decodeFramed payload = .error error ↔ decodeFrame payload = .error error := by
  rw [decodeFramed]
  cases decodeFrame payload <;> simp [Except.map]

theorem decode_eq_orIfMalformed (payload : List UInt8) :
    decode payload = orIfMalformed (decodeFramed payload) (decodeList payload) := by
  rw [decode, decodeFramed]
  rcases decodeFrame payload with error | ⟨sender, m⟩
  · cases error <;> rfl
  · rfl

theorem decode_of_tooLarge {payload : List UInt8} (h : maxPayloadBytes < payload.length) :
    decodeFrame payload = .error (.tooLarge payload.length) ∧
      decodeList payload = .error (.tooLarge payload.length) ∧
      decode payload = .error (.tooLarge payload.length) := by
  have hread : readJson payload = .error (.tooLarge payload.length) := if_pos h
  have hframe : decodeFrame payload = .error (.tooLarge payload.length) := by
    simp only [decodeFrame, hread, bind, Except.bind]
  have hlist : decodeList payload = .error (.tooLarge payload.length) := by
    simp only [decodeList, hread, bind, Except.bind]
  refine ⟨hframe, hlist, ?_⟩
  rw [decode, hframe]

theorem malformed_of_length_le {payload : List UInt8} (h : payload.length ≤ maxPayloadBytes) :
    decodeFrame payload = .error .malformed ∨ decodeList payload = .error .malformed := by
  have hsize : ¬maxPayloadBytes < payload.length := Nat.not_lt_of_le h
  cases hvalue : Value.ofBytes? payload with
  | none =>
    left
    have hread : readJson payload = .error .malformed := by rw [readJson, if_neg hsize, hvalue]
    simp only [decodeFrame, hread, bind, Except.bind]
  | some v =>
    have hread : readJson payload = .ok v := by rw [readJson, if_neg hsize, hvalue]
    cases hframe : ofFrameJson? v with
    | none =>
      left
      simp only [decodeFrame, hread, hframe, bind, Except.bind, ite_self]
    | some frame =>
      right
      have hlist := ofJson?_eq_none_of_ofFrameJson? hframe
      simp only [decodeList, hread, hlist, bind, Except.bind]

theorem compatible_readers (payload : List UInt8) :
    Compatible (decodeFramed payload) (decodeList payload) := by
  by_cases h : maxPayloadBytes < payload.length
  · obtain ⟨hframe, hlist, -⟩ := decode_of_tooLarge h
    exact .inr (.inr ((decodeFramed_eq_error_iff.2 hframe).trans hlist.symm))
  · rcases malformed_of_length_le (Nat.le_of_not_lt h) with hframe | hlist
    · exact .inl (decodeFramed_eq_error_iff.2 hframe)
    · exact .inr (.inl hlist)

/-- The manifest of a payload that is a bare list or, failing that, a frame. -/
def decodeListFirst (payload : List UInt8) : Except DecodeError Manifest :=
  match decodeList payload with
  | .ok m => .ok m
  | .error .malformed => decodeFramed payload
  | .error e => .error e

theorem decodeListFirst_eq_orIfMalformed (payload : List UInt8) :
    decodeListFirst payload = orIfMalformed (decodeList payload) (decodeFramed payload) := by
  rw [decodeListFirst]
  rcases decodeList payload with error | m
  · cases error <;> rfl
  · rfl

/-- A payload has one reading at most. It is refused for its size by all readers, or at least one
of the two readers finds it malformed; the reader of either form takes and refuses it as the other
one does, and it does not matter which of them is asked first. -/
theorem one_reading (payload : List UInt8) :
    (payload.length ≤ maxPayloadBytes →
      decodeFrame payload = .error .malformed ∨ decodeList payload = .error .malformed) ∧
    (maxPayloadBytes < payload.length →
      decodeFrame payload = .error (.tooLarge payload.length) ∧
      decodeList payload = .error (.tooLarge payload.length) ∧
      decode payload = .error (.tooLarge payload.length)) ∧
    (∀ m, decode payload = .ok m ↔
      (∃ sender, decodeFrame payload = .ok (sender, m)) ∨ decodeList payload = .ok m) ∧
    (∀ name, decode payload = .error (.duplicateChannel name) ↔
      decodeFrame payload = .error (.duplicateChannel name) ∨
        decodeList payload = .error (.duplicateChannel name)) ∧
    (∀ name, decode payload = .error (.reservedVersion name) ↔
      decodeFrame payload = .error (.reservedVersion name) ∨
        decodeList payload = .error (.reservedVersion name)) ∧
    decodeListFirst payload = decode payload := by
  have hcompatible := compatible_readers payload
  have hdecode := decode_eq_orIfMalformed payload
  refine ⟨malformed_of_length_le, decode_of_tooLarge, ?_, ?_, ?_, ?_⟩
  · intro m
    rw [hdecode, hcompatible.orIfMalformed_eq_iff (by simp), decodeFramed_eq_ok_iff]
  · intro name
    rw [hdecode, hcompatible.orIfMalformed_eq_iff (by simp), decodeFramed_eq_error_iff]
  · intro name
    rw [hdecode, hcompatible.orIfMalformed_eq_iff (by simp), decodeFramed_eq_error_iff]
  · rw [hdecode, decodeListFirst_eq_orIfMalformed, hcompatible.orIfMalformed_comm]

end ChannelHandshake.Manifest
