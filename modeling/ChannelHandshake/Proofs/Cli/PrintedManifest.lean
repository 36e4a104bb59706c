import ChannelHandshake.Proofs.Config.Soundness
import ChannelHandshake.Proofs.Manifest.Framing
import ChannelHandshake.Proofs.Manifest.OneReading
import ChannelHandshake.Proofs.Registry.Direction

/-!
# A printed manifest read back

The program prints a manifest as a line, and reads one as it is. The line end is a blank of the
grammar, so that it changes nothing in what is read (`Manifest.decode_append_lineEnd`); but it is a
byte, and the size is measured before anything is read. So a printed manifest is validated as the
one that is sent, unless the latter is of the largest size (`printed_manifest_read`).
-/

namespace ChannelHandshake

/-- The byte at the end of a line. -/
def lineEnd : UInt8 :=
  0x0A

theorem Utf8.encode_append (text text' : String) :
    encode (text ++ text') = encode text ++ encode text' := by
  simp only [encode_eq_flatMap, String.toList_append, List.flatMap_append]

theorem Utf8.encode_lineEnd : encode "\n" = [lineEnd] := by
  rw [encode_eq_flatMap]
  decide

/-! ## Blanks at the end -/

theorem Json.spells_lineEnd : Json.Spells [lineEnd] [] :=
  .blank (c := '\n') (by decide) .nil

namespace Manifest

/-- A line end counts as a byte and says nothing. -/
theorem readJson_append_lineEnd {payload : List UInt8} {v : Json.Value}
    (h : readJson payload = .ok v) (hsize : payload.length < maxPayloadBytes) :
    readJson (payload ++ [lineEnd]) = .ok v := by
  obtain ⟨-, hspells⟩ := readJson_eq_ok_iff.1 h
  rw [readJson_eq_ok_iff, List.length_append, List.length_singleton]
  refine ⟨hsize, ?_⟩
  -- the line end spells no token
  have happend := hspells.append Json.spells_lineEnd
  rwa [List.append_nil] at happend

/-- A payload of the largest size is refused with a line end. -/
theorem decode_append_lineEnd_of_largest {payload : List UInt8}
    (hsize : payload.length = maxPayloadBytes) :
    decode (payload ++ [lineEnd]) = .error (.tooLarge 262145) := by
  have hlength : (payload ++ [lineEnd]).length = 262145 := by
    rw [List.length_append, hsize, List.length_singleton, maxPayloadBytes]
  have hlarge : maxPayloadBytes < (payload ++ [lineEnd]).length := by
    rw [hlength]
    decide
  rw [(decode_of_tooLarge hlarge).2.2, hlength]

/-- A payload is decoded by its value alone. -/
theorem decode_congr {payload payload' : List UInt8} (h : readJson payload = readJson payload') :
    decode payload = decode payload' := by
  rw [decode, decode, decodeFrame, decodeFrame, decodeList, decodeList, h]

/-- The text of a manifest is refused for its size only. -/
theorem exists_readJson_payload {form : Form} {m : Manifest}
    (hsize : (form.payload m).length ≤ maxPayloadBytes) :
    ∃ v, readJson (form.payload m) = .ok v := by
  cases form with
  | list =>
    have hread := readJson_encode_render (numberFree_toJson m)
    exact ⟨m.toJson, hread.trans (if_neg (Nat.not_lt_of_le hsize))⟩
  | frame sender =>
    have hread := readJson_encode_render (numberFree_toFrameJson sender m)
    exact ⟨m.toFrameJson sender, hread.trans (if_neg (Nat.not_lt_of_le hsize))⟩

theorem decode_payload_append_lineEnd {form : Form} {m : Manifest}
    (hsize : (form.payload m).length < maxPayloadBytes) :
    decode (form.payload m ++ [lineEnd]) = decode (form.payload m) := by
  obtain ⟨v, hv⟩ := exists_readJson_payload (Nat.le_of_lt hsize)
  exact decode_congr ((readJson_append_lineEnd hv hsize).trans hv.symm)

end Manifest

/-! ## What is printed -/

/-- The form in which `sender` writes a manifest. -/
def ManifestFormat.form (sender : Side) : ManifestFormat → Manifest.Form
  | frame => .frame sender
  | list => .list

namespace Cli

theorem encode_manifestLine (s : State) (sender : Side) (format : ManifestFormat) :
    Utf8.encode (manifestLine s sender format) =
      (format.form sender).payload (.ofVersions s.registry.advertised) := by
  cases format with
  | frame => exact congrArg Utf8.encode (s.frame_eq sender).1
  | list => exact congrArg (fun m => Utf8.encode (Manifest.encodeList m)) s.manifest_eq.1

theorem encode_lines_singleton (text : String) :
    Utf8.encode (lines [text]) = Utf8.encode text ++ [lineEnd] := by
  have hlines : lines [text] = text ++ "\n" := by simp [lines, String.join]
  rw [hlines, Utf8.encode_append, Utf8.encode_lineEnd]

/-- Payloads that are decoded alike are validated alike. -/
theorem validate_congr {files files' : Files} {stdin stdin' bytes bytes' : List UInt8}
    {path path' : String} (h : payload files stdin path = .ok bytes)
    (h' : payload files' stdin' path' = .ok bytes')
    (hdecode : Manifest.decode bytes = Manifest.decode bytes') (s : State) (side : Side) :
    validate files stdin s side path = validate files' stdin' s side path' := by
  rw [validate, validate, h, h']
  simp only [bind, Except.bind, hdecode]

theorem validate_of_error {files : Files} {stdin bytes : List UInt8} {path : String}
    (h : payload files stdin path = .ok bytes) {e : DecodeError}
    (he : Manifest.decode bytes = .error e) (s : State) (side : Side) :
    validate files stdin s side path = .error ⟨e.message, none⟩ := by
  rw [validate, h]
  simp only [bind, Except.bind, he]
  rfl

end Cli

/-! ## Manifests of any size -/

/-- A text of `n` ones. -/
def ones (n : Nat) : String :=
  String.ofList (List.replicate n '1')

theorem length_ones (n : Nat) : (ones n).toList.length = n := by
  rw [ones, String.toList_ofList, List.length_replicate]

theorem mem_ones {n : Nat} {c : Char} (h : c ∈ (ones n).toList) : c = '1' := by
  rw [ones, String.toList_ofList] at h
  exact List.eq_of_mem_replicate h

theorem ones_ne_empty {n : Nat} (hn : 0 < n) : ones n ≠ "" := by
  intro hempty
  have hlength := length_ones n
  rw [hempty] at hlength
  exact Nat.ne_of_lt hn hlength

theorem ones_ne_absent (n : Nat) : ones n ≠ absent := by
  intro habsent
  have hmem : 'A' ∈ (ones n).toList := by
    rw [habsent]
    decide
  exact absurd (mem_ones hmem) (by decide)

/-- A configuration with one channel, whose version is of `n` ones. -/
def Config.ofOnes (n : Nat) : Config :=
  ⟨.server, .list, .default, [⟨"a:x", ones n, .default, .default, []⟩]⟩

/-- What a peer of that configuration sends. -/
def Manifest.ofOnes (n : Nat) : Manifest :=
  [⟨"a:x", ones n⟩]

theorem Config.exists_state_ofOnes {n : Nat} (hn : 0 < n) :
    ∃ s, Cli.registryState (ofOnes n) = .ok s ∧ ∀ sender,
      Utf8.encode (Cli.manifestLine s sender .list) = Manifest.Form.list.payload (.ofOnes n) := by
  let name : ChannelName := ⟨"a", "x", by decide, by decide, by decide, by decide⟩
  have hname : ChannelName.parse "a:x" = .ok name := name.parse_text
  have hdeclared : WellDeclared [] (ofOnes n).channels :=
    .cons hname (by simp) (ones_ne_empty hn) (ones_ne_absent n) (.nil _)
  obtain ⟨s, hs⟩ := State.configure_of_wellDeclared hdeclared
  refine ⟨s, ?_, ?_⟩
  · rw [Cli.registryState, hs]
    rfl
  · intro sender
    have hperm := perm_advertised hs
    rw [ofOnes, List.map_singleton, nameOf?_eq_some_iff.2 hname, List.perm_singleton] at hperm
    obtain ⟨entry, hadvertised, hentry⟩ := List.map_eq_singleton_iff.1 hperm
    cases hentry
    rw [Cli.encode_manifestLine, hadvertised]
    rfl

namespace Manifest

theorem clean_ofOnes (n : Nat) : (ofOnes n).Clean where
  names_nodup := by simp [ofOnes]
  version_ne_absent := by
    intro e he
    obtain rfl : e = ⟨"a:x", ones n⟩ := by simpa [ofOnes] using he
    exact ones_ne_absent n

theorem length_payload_ofOnes (n : Nat) : (Form.list.payload (ofOnes n)).length = 29 + n := by
  have hquote : Json.quote (ones n) = '"' :: (ones n).toList ++ ['"'] := by
    apply Json.quote_of_plain
    intro c hc
    rw [mem_ones hc]
    decide
  have hname : Json.quote "name" = "\"name\"".toList := by decide
  have hversion : Json.quote "version" = "\"version\"".toList := by decide
  have hchannel : Json.quote "a:x" = "\"a:x\"".toList := by decide
  have htext : (ofOnes n).encodeList.toList =
      "[\x7b\"name\":\"a:x\",\"version\":\"".toList ++ (ones n).toList ++ "\"\x7d]".toList := by
    simp [ofOnes, encodeList, toJson, Entry.toJson, Json.Value.render, Json.Value.tokens,
      Json.commaSeparated, Json.Token.spelling, hquote, hname, hversion, hchannel]
  have hascii : ∀ c ∈ (ofOnes n).encodeList.toList, c.toNat < 0x80 := by
    have hopening : "[\x7b\"name\":\"a:x\",\"version\":\"".toList.all (·.toNat < 0x80) = true := by
      decide
    have hclosing : "\"\x7d]".toList.all (·.toNat < 0x80) = true := by
      decide
    intro c hc
    rw [htext, List.mem_append, List.mem_append] at hc
    rcases hc with (hc | hc) | hc
    · simpa using List.all_eq_true.1 hopening c hc
    · rw [mem_ones hc]
      decide
    · simpa using List.all_eq_true.1 hclosing c hc
  -- what stands around the ones
  have hopening : "[\x7b\"name\":\"a:x\",\"version\":\"".toList.length = 26 := by decide
  have hclosing : "\"\x7d]".toList.length = 3 := by decide
  rw [Form.payload, Utf8.length_encode_of_lt hascii, htext, List.length_append, List.length_append,
    length_ones, hopening, hclosing]
  omega

theorem decode_payload_ofOnes {n : Nat} (hn : n ≤ 262115) :
    decode (Form.list.payload (ofOnes n)) = .ok (ofOnes n) := by
  rw [decode_payload_eq_ok_iff, length_payload_ofOnes, maxPayloadBytes]
  exact ⟨by omega, clean_ofOnes n, rfl⟩

end Manifest

/-! ## Reading what was printed -/

/-- A manifest that is printed can be validated, unless it is of the largest size. What is printed
of a configuration that can be registered is the manifest that is sent and a line end. Below the
largest size this is decoded like the manifest itself, so that a validation of the one ends like a
validation of the other, be it read from a file or from the standard input. Of the largest size, the
manifest is refused when it is printed, since the line end counts. -/
theorem printed_manifest_read {c : Config} {s : State} (hs : Cli.registryState c = .ok s)
    (side : Option Side) (list : Bool) :
    let format := if list then ManifestFormat.list else c.format
    let sent := Utf8.encode (Cli.manifestLine s (side.getD c.side) format)
    ∃ output printed,
      (∀ files env stdin path, Cli.configuration files env path = .ok c →
        Cli.execute files env stdin ⟨path, .manifest side list⟩ = ⟨0, output, ""⟩) ∧
      printed = Utf8.encode output ∧ printed = sent ++ [lineEnd] ∧
      (sent.length < 262144 →
        Manifest.decode printed = Manifest.decode sent ∧
        ∀ files stdin input files' stdin' input',
          Cli.payload files stdin input = .ok sent →
          Cli.payload files' stdin' input' = .ok printed →
          ∀ c' s' side', Cli.perform files' stdin' c' s' (.validate side' input') =
            Cli.perform files stdin c' s' (.validate side' input)) ∧
      (sent.length = 262144 →
        Manifest.decode printed = .error (.tooLarge 262145) ∧
        ∀ files stdin input, Cli.payload files stdin input = .ok printed →
          ∀ c' s' side', Cli.perform files stdin c' s' (.validate side' input) =
            .error ⟨"manifest of 262145 bytes exceeds limit of 262144", none⟩) := by
  intro format sent
  have hsent : sent = (format.form (side.getD c.side)).payload
      (.ofVersions s.registry.advertised) := Cli.encode_manifestLine s _ format
  have hprinted : Utf8.encode (Cli.lines [Cli.manifestLine s (side.getD c.side) format]) =
      sent ++ [lineEnd] := Cli.encode_lines_singleton _
  refine ⟨_, _, ?_, rfl, hprinted, ?_, ?_⟩
  · intro files env stdin path hc
    exact Cli.execute_of_state hc hs stdin (by simp)
  · intro hsize
    have hdecode : Manifest.decode (sent ++ [lineEnd]) = Manifest.decode sent := by
      rw [hsent] at hsize ⊢
      exact Manifest.decode_payload_append_lineEnd hsize
    rw [hprinted]
    refine ⟨hdecode, ?_⟩
    intro files stdin input files' stdin' input' hpayload hpayload' c' s' side'
    exact Cli.validate_congr hpayload' hpayload hdecode s' (side'.getD c'.side)
  · intro hsize
    have hdecode := Manifest.decode_append_lineEnd_of_largest hsize
    rw [hprinted]
    refine ⟨hdecode, ?_⟩
    intro files stdin input hpayload c' s' side'
    exact Cli.validate_of_error hpayload hdecode s' (side'.getD c'.side)

/-- The largest manifest that can be printed and read. -/
theorem printed_manifest_read_below_largest :
    ∃ s output, Cli.registryState (.ofOnes 262114) = .ok s ∧
      (∀ files env stdin path, Cli.configuration files env path = .ok (.ofOnes 262114) →
        Cli.execute files env stdin ⟨path, .manifest (some .client) true⟩ = ⟨0, output, ""⟩) ∧
      Manifest.decode (Utf8.encode output) = .ok (.ofOnes 262114) := by
  obtain ⟨s, hs, hsent⟩ := Config.exists_state_ofOnes (n := 262114) (by decide)
  have hsize : (Utf8.encode (Cli.manifestLine s .client .list)).length < 262144 := by
    rw [hsent, Manifest.length_payload_ofOnes]
    decide
  obtain ⟨output, printed, hrun, rfl, -, hread, -⟩ := printed_manifest_read hs (some .client) true
  obtain ⟨hdecode, -⟩ := hread hsize
  refine ⟨s, output, hs, hrun, hdecode.trans ?_⟩
  rw [if_pos rfl, hsent]
  exact Manifest.decode_payload_ofOnes (by decide)

/-- At the largest size a manifest is read as it is sent, but not as it is printed. -/
theorem printed_manifest_refused_at_largest :
    ¬∀ (c : Config) (s : State) (side : Option Side) (list : Bool) (m : Manifest),
      Cli.registryState c = .ok s →
      let format := if list then ManifestFormat.list else c.format
      let sent := Utf8.encode (Cli.manifestLine s (side.getD c.side) format)
      sent.length ≤ 262144 → Manifest.decode sent = .ok m →
      ∀ files stdin outcome, Cli.perform files stdin c s (.manifest side list) = .ok outcome →
        Manifest.decode (Utf8.encode outcome.output) = .ok m := by
  intro h
  obtain ⟨s, hs, hsent⟩ := Config.exists_state_ofOnes (n := 262115) (by decide)
  have hsize : (Utf8.encode (Cli.manifestLine s .client .list)).length = 262144 := by
    rw [hsent, Manifest.length_payload_ofOnes]
  have hdecode : Manifest.decode (Utf8.encode (Cli.manifestLine s .client .list)) =
      .ok (.ofOnes 262115) := by
    rw [hsent]
    exact Manifest.decode_payload_ofOnes (Nat.le_refl _)
  -- the printed line has one byte more than the manifest
  have hread := h (.ofOnes 262115) s (some .client) true _ hs (Nat.le_of_eq hsize) hdecode
    (fun _ => .error .notFound) [] _ rfl
  have hrefused := Manifest.decode_append_lineEnd_of_largest hsize
  rw [← Cli.encode_lines_singleton] at hrefused
  exact absurd (hread.symm.trans hrefused) (by simp)

end ChannelHandshake
