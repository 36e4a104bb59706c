import ChannelHandshake.Proofs.ChannelName.Order
import ChannelHandshake.Proofs.Manifest.RoundTrip
import ChannelHandshake.Proofs.Registry.Advertisement
import ChannelHandshake.Proofs.Registry.Verdict
import ChannelHandshake.Session

/-!
# A handshake in one direction

The sender's names are distinct and spelled canonically, so of all that a receiver may refuse only
the size and the version of absence are left (`check_ofVersions`), and what is read lists each
channel once (`validate_ofVersions`). `exchange_outcome` puts the two sides together, also for a
registry that talks to itself.
-/

namespace ChannelHandshake

namespace Manifest

theorem readable_ofVersions (versions : List (ChannelName × String)) :
    (ofVersions versions).readable = versions := by
  induction versions with
  | nil => rfl
  | cons p versions ih =>
    have hstep : (ofVersions (p :: versions)).readable =
        p :: (ofVersions versions).readable := by
      simp [ofVersions, readable, ChannelName.parse_text, Except.toOption]
    rw [hstep, ih]

/-- Of a list of channels only a version of absence is refused. -/
theorem check_ofVersions {versions : List (ChannelName × String)}
    (h : (versions.map Prod.fst).Nodup) :
    (ofVersions versions).check =
      match versions.find? (·.2 = absent) with
      | some (name, _) => .error (.reservedVersion name.text)
      | none => .ok (ofVersions versions) := by
  have hnames := nodup_names_ofVersions h
  rw [check_eq_iff]
  cases hfind : versions.find? (·.2 = absent) with
  | none =>
    rw [List.find?_eq_none] at hfind
    refine .inl ⟨⟨hnames, ?_⟩, rfl⟩
    intro e he
    obtain ⟨p, hp, rfl⟩ := List.mem_map.1 he
    simpa using hfind p hp
  | some p =>
    obtain ⟨habsent, before, after, rfl, hbefore⟩ := List.find?_eq_some_iff_append.1 hfind
    have hsplit : ofVersions (before ++ p :: after) =
        ofVersions before ++ ⟨p.1.text, p.2⟩ :: ofVersions after := by
      simp [ofVersions]
    rw [hsplit, List.map_append, List.map_cons, List.nodup_append] at hnames
    have hname : p.1.text ∉ (ofVersions before).map Entry.name := fun hmem =>
      hnames.2.2 p.1.text hmem p.1.text List.mem_cons_self rfl
    refine .inr ⟨.reservedVersion p.1.text, ⟨ofVersions before, ⟨p.1.text, p.2⟩,
      ofVersions after, hsplit, ⟨hnames.1, ?_⟩, ?_⟩, rfl⟩
    · intro e he
      obtain ⟨q, hq, rfl⟩ := List.mem_map.1 he
      simpa using hbefore q hq
    · rw [Entry.offence, if_neg hname, if_pos (by simpa using habsent)]

theorem duplicates_ofVersions {versions : List (ChannelName × String)}
    (h : (versions.map Prod.fst).Nodup) : (ofVersions versions).duplicates = [] := by
  rw [List.eq_nil_iff_forall_not_mem]
  intro name hname
  rw [duplicates, ChannelName.mem_duplicates_iff, readable_ofVersions] at hname
  have hcount := List.nodup_iff_count.1 h name
  omega

/-- Among distinct names, the version of a name is the one that it is listed with. -/
theorem lookup_eq_some_iff {versions : List (ChannelName × String)}
    (h : (versions.map Prod.fst).Nodup) {name : ChannelName} {version : String} :
    versions.lookup name = some version ↔ (name, version) ∈ versions := by
  rw [List.lookup_eq_some_iff]
  constructor
  · rintro ⟨before, after, rfl, -⟩
    simp
  · intro hmem
    obtain ⟨before, after, rfl⟩ := List.append_of_mem hmem
    refine ⟨before, after, rfl, ?_⟩
    intro p hp
    simpa using (key_ne_of_nodup h p hp).symm

end Manifest

namespace Registry

/-- The report on a list of channels: a channel that is listed tests its version, any other tests
absence. -/
theorem validate_ofVersions (r : Registry) {versions : List (ChannelName × String)}
    (h : (versions.map Prod.fst).Nodup) (side : Side) :
    r.validate (.ofVersions versions) side =
      { side, duplicates := [],
        verdicts := r.channels.map fun c =>
          let remote := versions.lookup c.name
          ⟨c.name, remote, c.testFor side (remote.getD absent)⟩ } := by
  have hduplicates := Manifest.duplicates_ofVersions h
  rw [validate_eq, hduplicates]
  refine congrArg (Report.mk side · []) (List.map_congr_left fun c _ => ?_)
  rw [Channel.verdictOn_of_not_mem_duplicates (by simp [hduplicates]),
    Manifest.readable_ofVersions]

theorem isAccepted_validate_ofVersions (r : Registry) {versions : List (ChannelName × String)}
    (h : (versions.map Prod.fst).Nodup) (side : Side) :
    (r.validate (.ofVersions versions) side).isAccepted = true ↔
      ∀ c ∈ r.channels, c.testFor side ((versions.lookup c.name).getD absent) = true := by
  rw [r.validate_ofVersions h, Report.isAccepted]
  simp

theorem mem_rejected_validate_ofVersions (r : Registry) {versions : List (ChannelName × String)}
    (h : (versions.map Prod.fst).Nodup) (side : Side) {name : ChannelName} :
    name ∈ (r.validate (.ofVersions versions) side).rejected ↔
      ∃ c ∈ r.channels, c.name = name ∧
        ¬c.testFor side ((versions.lookup c.name).getD absent) = true := by
  rw [r.validate_ofVersions h, Report.rejected]
  simp only [List.mem_map, List.mem_filter]
  constructor
  · rintro ⟨v, ⟨⟨c, hc, rfl⟩, hrejected⟩, rfl⟩
    exact ⟨c, hc, rfl, by simpa using hrejected⟩
  · rintro ⟨c, hc, rfl, hrejected⟩
    exact ⟨_, ⟨⟨c, hc, rfl⟩, by simpa using hrejected⟩, rfl⟩

end Registry

/-- Of what a registry sends, too large a payload is refused for its size, any other one for the
first version of absence, and the rest is read as it was advertised. -/
theorem State.decode_frame (s : State) (side : Side) :
    Manifest.decode (Utf8.encode (s.frame side).1) =
      if maxPayloadBytes < (Utf8.encode (s.frame side).1).length then
        .error (.tooLarge (Utf8.encode (s.frame side).1).length)
      else match s.registry.advertised.find? (·.2 = absent) with
        | some (name, _) => .error (.reservedVersion name.text)
        | none => .ok (.ofVersions s.registry.advertised) := by
  have hreceived := Manifest.received_iff.1
    (Manifest.decode_encodeFrame side (Manifest.ofVersions s.registry.advertised))
  rw [Manifest.check_map_const, Manifest.check_ofVersions s.registry.nodup_advertised] at hreceived
  rw [(s.frame_eq side).1]
  exact hreceived.symm

namespace Session

/-- The receiver validates what it reads as it is after the sender has sent. -/
theorem fst_exchange (s : Session) (sender receiver : String) (side : Side) :
    (s.exchange sender receiver side).1 =
      (Manifest.decode (Utf8.encode (s.on sender (·.frame side)).1)).map
        (((s.on sender (·.frame side)).2.state receiver).registry.validate · side.opposite) := by
  rw [exchange]
  generalize s.on sender (·.frame side) = outcome
  obtain ⟨text, sent⟩ := outcome
  dsimp only
  cases Manifest.decode (Utf8.encode text) with
  | error error => rfl
  | ok m => exact congrArg Except.ok ((sent.state receiver).fst_validate m side.opposite)

/-- What comes of a handshake. The sender asks the supplier of each of its channels once and sends
`versions`. They are refused for their size or for a version of absence and for nothing else; and
otherwise every channel that the receiver has by then tests what is listed for it. -/
theorem exchange_outcome (s : Session) (sender receiver : String) (side : Side) :
    let versions := (s.state sender).registry.advertised
    let payload := Utf8.encode (s.on sender (·.frame side)).1
    let sent := (s.on sender (·.frame side)).2
    let registry := (sent.state receiver).registry
    versions.map Prod.fst = (s.state sender).registry.names ∧
    sent.journal.calls =
      s.journal.calls ++ versions.map (fun (name, version) => .supply name version) ∧
    Manifest.decode payload =
      (if maxPayloadBytes < payload.length then .error (.tooLarge payload.length)
      else match versions.find? (·.2 = absent) with
        | some (name, _) => .error (.reservedVersion name.text)
        | none => .ok (.ofVersions versions)) ∧
    (s.exchange sender receiver side).1 =
      (Manifest.decode payload).map (registry.validate · side.opposite) ∧
    registry.validate (.ofVersions versions) side.opposite =
      { side := side.opposite, duplicates := [],
        verdicts := registry.channels.map fun c =>
          let remote := versions.lookup c.name
          ⟨c.name, remote, c.testFor side.opposite (remote.getD absent)⟩ } ∧
    (∀ name version, versions.lookup name = some version ↔ (name, version) ∈ versions) ∧
    registry.names.Pairwise (· < ·) := by
  intro versions payload sent registry
  have hnames : versions.map Prod.fst = (s.state sender).registry.names :=
    Registry.map_fst_advertised _
  have hnodup : (versions.map Prod.fst).Nodup := Registry.nodup_advertised _
  have hcalls := ((s.state sender).frame_eq side).2
  exact ⟨hnames, hcalls, (s.state sender).decode_frame side, s.fst_exchange sender receiver side,
    registry.validate_ofVersions hnodup _, fun name version => Manifest.lookup_eq_some_iff hnodup,
    List.pairwise_map.2 registry.sorted⟩

end Session

end ChannelHandshake
