import ChannelHandshake.Proofs.Config.Setup
import ChannelHandshake.Proofs.Registry.Exchange
import ChannelHandshake.Proofs.Registry.Verdict

/-!
# A handshake between configured peers

The outcome of a handshake can be read off the two configurations: each channel of the receiver
accepts by the policy that it has for the sender's side (`ChannelConfig.Accepts`), and the receiver
accepts if all of them do (`configured_handshake`). The names that a peer lists and the names that
are configured may be spelled differently; both are compared as they are read.
-/

namespace ChannelHandshake

/-! ## What a policy accepts -/

namespace AcceptPolicy

theorem test_eq_true_iff {p : AcceptPolicy} {own version : String} :
    p.test own version = true ↔
      p.any = true ∨ (p.allowAbsent = true ∧ version = absent) ∨
        version ∈ p.acceptedVersions own := by
  rw [test]
  cases p.any with
  | true => simp [VersionTest.any]
  | false => cases p.allowAbsent <;> simp [VersionTest.oneOf, VersionTest.isAbsent]

theorem absent_not_mem_acceptedVersions {p : AcceptPolicy} {own : String} (hown : own ≠ absent)
    (h : absent ∉ p.versions) : absent ∉ p.acceptedVersions own := by
  rw [acceptedVersions]
  split
  · simpa using Ne.symm hown
  · exact h

end AcceptPolicy

namespace ChannelConfig

/-- Both channels are configured under the name `name`, in whatever spelling. -/
def SameName (c d : ChannelConfig) : Prop :=
  ∃ name, ChannelName.parse c.name = .ok name ∧ ChannelName.parse d.name = .ok name

/-- On `side`, the channel accepts a peer that is configured by `peer`. -/
inductive Accepts (c : ChannelConfig) (side : Side) (peer : Config) : Prop
  | any (h : (c.policyFor side).any = true)
  | listed {d : ChannelConfig} (hd : d ∈ peer.channels) (hname : d.SameName c)
    (h : d.version ∈ (c.policyFor side).acceptedVersions c.version)
  | missing (hd : ∀ d ∈ peer.channels, ¬d.SameName c) (h : (c.policyFor side).allowAbsent = true)

theorem Configures.testFor_eq {c : ChannelConfig} {x : Channel} (h : c.Configures x) (side : Side) :
    x.testFor side = (c.policyFor side).test c.version := by
  obtain ⟨name, -, rfl⟩ := h
  cases side <;> rfl

end ChannelConfig

/-! ## What a configured peer advertises -/

/-- A configured peer advertises one version for each channel that is configured. -/
theorem perm_advertised {a : Config} {s : State} (h : State.initial.configure a = .ok s) :
    (s.registry.advertised.map some).Perm
      (a.channels.map fun d => (Config.nameOf? d).map (·, d.version)) := by
  have hperm := (State.perm_channels_configure h).map
    (Option.map fun x : Channel => (x.name, x.nextVersion))
  have hversion : (fun d : ChannelConfig => (Config.nameOf? d).map (·, d.version)) =
      Option.map (fun x : Channel => (x.name, x.nextVersion)) ∘ ChannelConfig.channel? := by
    funext d
    rw [Function.comp, ChannelConfig.channel?, Option.map_map]
    rfl
  rw [List.map_map, List.map_map] at hperm
  rw [Registry.advertised, List.map_map, hversion]
  exact hperm

/-- A configured peer advertises the versions that are configured. -/
theorem mem_advertised_iff {a : Config} {s : State} (h : State.initial.configure a = .ok s)
    {name : ChannelName} {version : String} :
    (name, version) ∈ s.registry.advertised ↔
      ∃ d ∈ a.channels, ChannelName.parse d.name = .ok name ∧ d.version = version := by
  have hmem := (perm_advertised h).mem_iff (a := some (name, version))
  simpa [Config.nameOf?_eq_some_iff, and_left_comm (b := _ = name)] using hmem

/-- The frame of a configured peer is refused for its size or read as it was advertised. -/
theorem decode_frame_of_configure {a : Config} {s : State}
    (h : State.initial.configure a = .ok s) (ha : Config.WellDeclared [] a.channels) {side : Side}
    (hsize : (Utf8.encode (s.frame side).1).length ≤ maxPayloadBytes) :
    Manifest.decode (Utf8.encode (s.frame side).1) =
      .ok (.ofVersions s.registry.advertised) := by
  have hfind : s.registry.advertised.find? (·.2 = absent) = none := by
    rw [List.find?_eq_none]
    intro p hp
    obtain ⟨d, hd, -, hversion⟩ := (mem_advertised_iff h).1 hp
    simpa [← hversion] using ha.version_ne_absent hd
  rw [State.decode_frame, if_neg (Nat.not_lt.2 hsize), hfind]

/-- The test of a channel decides what the two configurations say. -/
theorem testFor_lookup_iff {a : Config} {s : State} (h : State.initial.configure a = .ok s)
    (ha : Config.WellDeclared [] a.channels) {c : ChannelConfig} {x : Channel}
    (hx : c.Configures x) {side : Side}
    (habsent : absent ∉ (c.policyFor side).acceptedVersions c.version) :
    x.testFor side ((s.registry.advertised.lookup x.name).getD absent) = true ↔
      c.Accepts side a := by
  have hsame : ∀ d : ChannelConfig, d.SameName c ↔ ChannelName.parse d.name = .ok x.name := by
    obtain ⟨name, hname, rfl⟩ := hx
    intro d
    rw [ChannelConfig.SameName, hname]
    constructor
    · rintro ⟨name', hd, heq⟩
      cases heq
      exact hd
    · intro hd
      exact ⟨name, hd, rfl⟩
  have hlookup : ∀ version, s.registry.advertised.lookup x.name = some version ↔
      ∃ d ∈ a.channels, d.SameName c ∧ d.version = version := by
    intro version
    rw [Manifest.lookup_eq_some_iff s.registry.nodup_advertised, mem_advertised_iff h]
    simp only [hsame]
  rw [hx.testFor_eq, AcceptPolicy.test_eq_true_iff]
  cases hremote : s.registry.advertised.lookup x.name with
  | none =>
    have hnone : ∀ d ∈ a.channels, ¬d.SameName c := by
      intro d hd hname
      have hsome := (hlookup d.version).2 ⟨d, hd, hname, rfl⟩
      simp [hremote] at hsome
    rw [Option.getD_none]
    constructor
    · rintro (hany | ⟨hallow, -⟩ | hmem)
      · exact .any hany
      · exact .missing hnone hallow
      · exact absurd hmem habsent
    · rintro (hany | ⟨hd, hname, -⟩ | ⟨-, hallow⟩)
      · exact .inl hany
      · exact absurd hname (hnone _ hd)
      · exact .inr (.inl ⟨hallow, rfl⟩)
  | some version =>
    obtain ⟨d, hd, hname, rfl⟩ := (hlookup version).1 hremote
    rw [Option.getD_some]
    constructor
    · rintro (hany | ⟨-, habsent'⟩ | hmem)
      · exact .any hany
      · exact absurd habsent' (ha.version_ne_absent hd)
      · exact .listed hd hname hmem
    · rintro (hany | ⟨hd', hname', hmem⟩ | ⟨hmissing, -⟩)
      · exact .inl hany
      · have hversion := (hlookup _).2 ⟨_, hd', hname', rfl⟩
        rw [hremote, Option.some_inj] at hversion
        exact .inr (.inr (hversion ▸ hmem))
      · exact absurd hname (hmissing d hd)

/-- The outcome of a handshake between two configured peers. Both can be registered; and what the
sender sends, unless it is too large, is accepted exactly if every channel of the receiver accepts
the sender's configuration, and refused by the channels that do not. -/
theorem configured_handshake (a b : Config) (side : Side) (ha : hasErrors a.lint = false)
    (hb : hasErrors b.lint = false)
    (hreserved : ∀ d ∈ b.lint, d.severity = .warning → d.category ≠ .reserved) :
    ∃ sender receiver,
      State.initial.configure a = .ok sender ∧ State.initial.configure b = .ok receiver ∧
      ((Utf8.encode (sender.frame side).1).length ≤ maxPayloadBytes →
        ∃ m, Manifest.decode (Utf8.encode (sender.frame side).1) = .ok m ∧
          let report := receiver.registry.validate m side.opposite
          report.duplicates = [] ∧
          (report.isAccepted = true ↔ ∀ c ∈ b.channels, c.Accepts side.opposite a) ∧
          report.rejected.Pairwise (· < ·) ∧
          ∀ name, name ∈ report.rejected ↔
            ∃ c ∈ b.channels,
              ChannelName.parse c.name = .ok name ∧ ¬c.Accepts side.opposite a) := by
  have hdeclared := Config.wellDeclared_of_lint ha
  have hdeclared' := Config.wellDeclared_of_lint hb
  obtain ⟨sender, hsender⟩ := State.configure_of_wellDeclared hdeclared
  obtain ⟨receiver, hreceiver⟩ := State.configure_of_wellDeclared hdeclared'
  refine ⟨sender, receiver, hsender, hreceiver, ?_⟩
  intro hsize
  have hnodup := sender.registry.nodup_advertised
  have htest : ∀ c ∈ b.channels, ∀ x, c.Configures x →
      (x.testFor side.opposite ((sender.registry.advertised.lookup x.name).getD absent) = true ↔
        c.Accepts side.opposite a) := by
    intro c hc x hx
    have hversions := Config.absent_not_mem_versions hreserved hc side.opposite
    exact testFor_lookup_iff hsender hdeclared hx
      (AcceptPolicy.absent_not_mem_acceptedVersions (hdeclared'.version_ne_absent hc) hversions)
  have hconfigured := fun x => State.mem_channels_configure hreceiver (x := x)
  refine ⟨.ofVersions sender.registry.advertised,
    decode_frame_of_configure hsender hdeclared hsize, Manifest.duplicates_ofVersions hnodup, ?_,
    Registry.pairwise_rejected _ _ _, ?_⟩
  · rw [Registry.isAccepted_validate_ofVersions _ hnodup]
    constructor
    · intro haccepted c hc
      obtain ⟨name, hname⟩ := hdeclared'.exists_name hc
      have hx : c.Configures (.ofRegistration (c.registration name)) := ⟨name, hname, rfl⟩
      exact (htest c hc _ hx).1 (haccepted _ ((hconfigured _).2 ⟨c, hc, hx⟩))
    · intro haccepts x hx
      obtain ⟨c, hc, hcx⟩ := (hconfigured x).1 hx
      exact (htest c hc x hcx).2 (haccepts c hc)
  · intro name
    rw [Registry.mem_rejected_validate_ofVersions _ hnodup]
    constructor
    · rintro ⟨x, hx, rfl, hrejected⟩
      obtain ⟨c, hc, hcx⟩ := (hconfigured x).1 hx
      refine ⟨c, hc, ?_, fun haccepts => hrejected ((htest c hc x hcx).2 haccepts)⟩
      obtain ⟨name, hname, rfl⟩ := hcx
      exact hname
    · rintro ⟨c, hc, hname, hrefuses⟩
      have hx : c.Configures (.ofRegistration (c.registration name)) := ⟨name, hname, rfl⟩
      exact ⟨_, (hconfigured _).2 ⟨c, hc, hx⟩, rfl,
        fun haccepted => hrefuses ((htest c hc _ hx).1 haccepted)⟩

/-- A peer with another spelling of one channel and without the other one. -/
theorem configured_handshake_under_two_spellings :
    let a : Config := { Config.default with
      channels := [⟨"netreg:core", "1", .default, .default, []⟩] }
    let b : Config := { Config.default with
      channels := [⟨"map", "3", ⟨[], true, false⟩, .default, []⟩,
        ⟨"core", "2", ⟨["1", "2"], false, false⟩, .default, []⟩] }
    hasErrors a.lint = false ∧ hasErrors b.lint = false ∧
    (∀ d ∈ b.lint, d.severity = .warning → d.category ≠ .reserved) ∧
    ∃ sender receiver m,
      State.initial.configure a = .ok sender ∧ State.initial.configure b = .ok receiver ∧
      Manifest.decode (Utf8.encode (sender.frame .server).1) = .ok m ∧
      (receiver.registry.validate m .client).isAccepted = true := by
  intro a b
  have ha : hasErrors a.lint = false := by decide
  have hb : hasErrors b.lint = false := by decide
  have hreserved : ∀ d ∈ b.lint, d.severity = .warning → d.category ≠ .reserved := by decide
  refine ⟨ha, hb, hreserved, ?_⟩
  obtain ⟨sender, receiver, hsender, hreceiver, hexchange⟩ :=
    configured_handshake a b .server ha hb hreserved
  have hadvertised : sender.registry.advertised =
      [(⟨"netreg", "core", by decide, by decide, by decide, by decide⟩, "1")] := by
    have hrun : (State.initial.configure a).toOption.map (·.registry.advertised) =
        some [(⟨"netreg", "core", by decide, by decide, by decide, by decide⟩, "1")] := by
      decide
    rw [hsender] at hrun
    exact Option.some.inj hrun
  have hsize : (Utf8.encode (sender.frame .server).1).length ≤ maxPayloadBytes := by
    rw [(sender.frame_eq .server).1, hadvertised]
    refine Nat.le_trans (Json.Value.length_encode_render_le _) ?_
    simp only [Manifest.toFrameJson, Manifest.toJson, Manifest.ofVersions, Entry.toJson,
      Json.Value.tokens, List.map_cons, List.map_nil]
    decide
  obtain ⟨m, hm, -, haccepted, -⟩ := hexchange hsize
  refine ⟨sender, receiver, m, hsender, hreceiver, hm, haccepted.2 ?_⟩
  intro c hc
  rcases List.mem_cons.1 hc with rfl | hc
  · refine .missing ?_ rfl
    intro d hd
    obtain rfl := List.mem_singleton.1 hd
    rintro ⟨name, hname, hname'⟩
    have hne : (ChannelName.parse "netreg:core").toOption ≠
        (ChannelName.parse "map").toOption := by
      decide
    exact hne (congrArg Except.toOption (hname.trans hname'.symm))
  · obtain rfl := List.mem_singleton.1 hc
    exact .listed List.mem_cons_self ⟨_, rfl, rfl⟩ (by decide)

end ChannelHandshake
