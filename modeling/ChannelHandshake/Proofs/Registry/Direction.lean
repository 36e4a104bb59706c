import ChannelHandshake.Cli.Run
import ChannelHandshake.Proofs.Manifest.Permutation
import ChannelHandshake.Proofs.Registry.Exchange
import ChannelHandshake.Proofs.Registry.Report

/-!
# Frames of either direction

The type of a frame tells its sender, but a manifest does not, and it is a manifest that is read
from a payload and validated. So a frame is validated as the list that it holds, whichever side it
names: the origin in a report is the side opposite to the one that validates, and a side to which
its own frame comes back takes it as the peer's, if its channels accept their own versions
(`direction_of_frame_ignored`).
-/

namespace ChannelHandshake

namespace Manifest

/-- A frame is read as the list that it holds. -/
theorem decode_of_decodeFrame {payload : List UInt8} {sender : Side} {m : Manifest}
    (h : decodeFrame payload = .ok (sender, m)) : decode payload = .ok m := by
  rw [decode, h]

/-- A clean list is read. -/
theorem Clean.decode_encodeList {m : Manifest} (hclean : m.Clean)
    (hsize : (Utf8.encode m.encodeList).length ≤ maxPayloadBytes) :
    decode (Utf8.encode m.encodeList) = .ok m := by
  rw [Manifest.decode_encodeList]
  exact ((decodeList_encodeList m).iff_eq _).2 (.accepted hsize hclean)

/-- A clean list is read from the frame of either side. -/
theorem Clean.decodeFrame_encodeFrame {m : Manifest} (hclean : m.Clean) {sender : Side}
    (hsize : (Utf8.encode (m.encodeFrame sender)).length ≤ maxPayloadBytes) :
    decodeFrame (Utf8.encode (m.encodeFrame sender)) = .ok (sender, m) :=
  ((Manifest.decodeFrame_encodeFrame sender m).iff_eq _).2 (.accepted hsize hclean)

end Manifest

/-- What the program does with a peer's payload that it can read. -/
theorem Cli.validate_of_decode {files : Files} {stdin payload : List UInt8} {path : String}
    (hpayload : Cli.payload files stdin path = .ok payload) {m : Manifest}
    (hm : Manifest.decode payload = .ok m) (s : State) (side : Side) :
    Cli.validate files stdin s side path =
      .ok (.printed (s.validate m side).1.isAccepted (Cli.reportLines (s.validate m side).1)) := by
  rw [Cli.validate, hpayload]
  simp only [bind, Except.bind, hm]
  rfl

/-- What a registry makes of its own list: a channel tests what it has just supplied itself. -/
theorem State.isAccepted_validate_frame {s : State} {sender side : Side} {m : Manifest}
    (hm : Manifest.decode (Utf8.encode (s.frame sender).1) = .ok m) (r : Registry) :
    (r.validate m side).isAccepted = true ↔
      ∀ c ∈ r.channels,
        c.testFor side ((s.registry.advertised.lookup c.name).getD absent) = true := by
  have hdecode := s.decode_frame sender
  rw [hm] at hdecode
  split at hdecode
  · simp at hdecode
  split at hdecode
  · simp at hdecode
  · cases hdecode
    exact r.isAccepted_validate_ofVersions s.registry.nodup_advertised side

/-- The direction of a frame plays no part. What is read from the frame of `sender` is its list,
which a frame of the other side could hold as well. It is validated as if the opposite side had
sent it, so that the report names the sender only if the frame has come the right way; and a side
accepts its own frame if every channel that it has by then accepts what it was advertised with. -/
theorem direction_of_frame_ignored (payload : List UInt8) (sender : Side) (m : Manifest)
    (h : Manifest.decodeFrame payload = .ok (sender, m)) :
    Manifest.decode payload = .ok m ∧
    (∀ sender', (Utf8.encode (m.encodeFrame sender')).length ≤ maxPayloadBytes →
      Manifest.decodeFrame (Utf8.encode (m.encodeFrame sender')) = .ok (sender', m) ∧
        Manifest.decode (Utf8.encode (m.encodeFrame sender')) = .ok m) ∧
    (∀ (s : State) (side : Side),
      let report := (s.validate m side).1
      report.origin = side.opposite ∧
      (report.origin = sender ↔ side ≠ sender) ∧
      ∀ files stdin path, Cli.payload files stdin path = .ok payload →
        Cli.validate files stdin s side path =
          .ok (.printed report.isAccepted (Cli.reportLines report))) ∧
    ∀ s : State, payload = Utf8.encode (s.frame sender).1 →
      let sent := (s.frame sender).2
      ((sent.validate m sender).1.isAccepted = true ↔
        ∀ c ∈ sent.registry.channels,
          c.testFor sender ((s.registry.advertised.lookup c.name).getD absent) = true) := by
  have hm := Manifest.decode_of_decodeFrame h
  have hclean := Manifest.clean_of_decodeFrame h
  refine ⟨hm, ?_, ?_, ?_⟩
  · intro sender' hsize
    have hframe := hclean.decodeFrame_encodeFrame hsize
    exact ⟨hframe, Manifest.decode_of_decodeFrame hframe⟩
  · intro s side report
    refine ⟨rfl, ?_, ?_⟩
    · have horigin : report.origin = side.opposite := rfl
      rw [horigin]
      cases side <;> cases sender <;> decide
    · intro files stdin path hpayload
      exact Cli.validate_of_decode hpayload hm s side
  · intro s hpayload sent
    rw [sent.fst_validate]
    exact State.isAccepted_validate_frame (hpayload ▸ hm) sent.registry

/-- A client to which its reply comes back. -/
theorem direction_of_frame_ignored_by_client :
    let m : Manifest := [⟨"netreg:core", "1"⟩]
    let core : ChannelName := ⟨"netreg", "core", by decide, by decide, by decide, by decide⟩
    let s := (State.initial.register (.accepting core "1")).2
    let payload := Utf8.encode (s.frame .client).1
    Manifest.decodeFrame payload = .ok (.client, m) ∧
      ((s.frame .client).2.validate m .client).1.isAccepted = true ∧
      ((s.frame .client).2.validate m .client).1.origin = .server := by
  intro m core s payload
  have hpayload : payload = Utf8.encode (m.encodeFrame .client) := by
    have hadvertised : Manifest.ofVersions s.registry.advertised = m := by decide
    rw [← hadvertised, ← (s.frame_eq .client).1]
  have hclean : m.Clean := ⟨by decide, by decide⟩
  have hsize : (Utf8.encode (m.encodeFrame .client)).length ≤ maxPayloadBytes :=
    Nat.le_trans (Manifest.length_encodeFrame_le .client m) (by decide)
  have hframe : Manifest.decodeFrame payload = .ok (.client, m) := by
    rw [hpayload]
    exact hclean.decodeFrame_encodeFrame hsize
  have htests : (s.frame .client).2.registry.channels.all (fun c =>
      c.testFor .client ((s.registry.advertised.lookup c.name).getD absent)) = true := by
    decide
  obtain ⟨-, -, hvalidate, hreflected⟩ := direction_of_frame_ignored payload .client m hframe
  obtain ⟨horigin, -⟩ := hvalidate (s.frame .client).2 .client
  exact ⟨hframe, (hreflected s rfl).2 (List.all_eq_true.1 htests), horigin⟩

/-- An accepted report does not tell which way a frame has come: a server with one channel accepts
its own `channel_list`. -/
theorem accepted_from_wrong_direction :
    ¬∀ (payload : List UInt8) (sender : Side) (m : Manifest) (s : State) (side : Side),
      Manifest.decodeFrame payload = .ok (sender, m) → Manifest.decode payload = .ok m →
        (s.validate m side).1.isAccepted = true → sender = side.opposite := by
  intro h
  let m : Manifest := [⟨"core:main", "3"⟩]
  let main : ChannelName := ⟨"core", "main", by decide, by decide, by decide, by decide⟩
  let s := (State.initial.register
    { name := main, supplier := .constant "3", client := .exactly "3", server := .exactly "3",
      gatherers := [] }).2
  have hclean : m.Clean := ⟨by decide, by decide⟩
  have hsize : (Utf8.encode (m.encodeFrame .server)).length ≤ maxPayloadBytes :=
    Nat.le_trans (Manifest.length_encodeFrame_le .server m) (by decide)
  have hframe := hclean.decodeFrame_encodeFrame hsize
  have haccepted : (s.validate m .server).1.isAccepted = true := by
    decide +kernel
  have hsender := h _ .server m s .server hframe (Manifest.decode_of_decodeFrame hframe) haccepted
  exact absurd hsender (by decide)

end ChannelHandshake
