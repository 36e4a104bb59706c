import ChannelHandshake.Proofs.Config.Handshake

/-!
# Who accepts a peer without the channel

A test learns that the peer lacks its channel by the version `absent`, which is a text like any
other: a test that compares versions accepts absence where `absent` is among those that it was
given. So a policy without a flag refuses absence unless it lists `absent`, or lists nothing while
`absent` is the channel's own version; a configuration that is checked without errors and without a
warning about `absent` has no such policy (`absence_accepted_iff`).
-/

namespace ChannelHandshake

namespace VersionTest

theorem exactly_absent_iff {version : String} :
    exactly version absent = true ↔ version = absent := by
  rw [exactly, beq_iff_eq, eq_comm]

theorem oneOf_absent_iff {versions : List String} :
    oneOf versions absent = true ↔ absent ∈ versions := by
  simp [oneOf]

end VersionTest

namespace AcceptPolicy

theorem absent_mem_acceptedVersions_iff {p : AcceptPolicy} {own : String} :
    absent ∈ p.acceptedVersions own ↔ absent ∈ p.versions ∨ p.versions = [] ∧ own = absent := by
  rw [acceptedVersions]
  split
  · rename_i hempty
    have hnil : p.versions = [] := List.isEmpty_iff.1 hempty
    simp [hnil, eq_comm]
  · rename_i hempty
    have hne : p.versions ≠ [] := fun hnil => hempty (List.isEmpty_iff.2 hnil)
    simp [hne]

/-- Without a flag, a policy accepts absence only as a version. -/
theorem test_absent_iff {p : AcceptPolicy} {own : String} (hany : p.any = false)
    (hallow : p.allowAbsent = false) :
    p.test own absent = true ↔ absent ∈ p.acceptedVersions own := by
  rw [test_eq_true_iff]
  simp [hany, hallow]

end AcceptPolicy

/-- A channel that the peer does not list is rejected if its test refuses absence. -/
theorem Registry.mem_rejected_iff_of_unlisted {r : Registry} {x : Channel} (hx : x ∈ r.channels)
    {m : Manifest} (hm : m.entriesFor x.name = []) (side : Side) :
    x.name ∈ (r.validate m side).rejected ↔ x.testFor side absent ≠ true := by
  rw [Report.rejected, validate_eq]
  simp only [List.mem_map, List.mem_filter]
  constructor
  · rintro ⟨v, ⟨⟨y, hy, rfl⟩, hrejected⟩, hname⟩
    rw [Channel.name_verdictOn] at hname
    -- names are distinct, so the verdict is that of the channel itself
    have hxy : y = x := by
      have hfind := find?_of_mem hx
      rw [← hname, find?_of_mem hy] at hfind
      exact Option.some.inj hfind
    rw [hxy, hm] at hrejected
    simpa [Channel.verdictOn] using hrejected
  · intro hrefuses
    refine ⟨_, ⟨⟨x, hx, rfl⟩, ?_⟩, x.name_verdictOn side _⟩
    rw [hm]
    simpa [Channel.verdictOn] using hrefuses

/-- A policy without a flag accepts absence as the version `absent`, wherever that text stands for
a version; so do the tests for versions. A channel with this policy that is set up from a
configuration rejects a peer that does not list it unless its accepted versions hold `absent`; and
if the configuration is checked without errors and without a warning about `absent`, they never
do. -/
theorem absence_accepted_iff (p : AcceptPolicy) (own : String) (hany : p.any = false)
    (hallow : p.allowAbsent = false) :
    (p.test own absent = true ↔ absent ∈ p.versions ∨ p.versions = [] ∧ own = absent) ∧
    (∀ version, VersionTest.exactly version absent = true ↔ version = absent) ∧
    (∀ versions, VersionTest.oneOf versions absent = true ↔ absent ∈ versions) ∧
    ∀ (c : Config) (s : State), State.initial.configure c = .ok s →
      ∀ d ∈ c.channels, ∀ name, ChannelName.parse d.name = .ok name →
      ∀ side, d.policyFor side = p → d.version = own →
      ∀ m : Manifest, m.entriesFor name = [] →
        (name ∈ (s.validate m side).1.rejected ↔ absent ∉ p.acceptedVersions own) ∧
        (hasErrors c.lint = false →
          (∀ finding ∈ c.lint, finding.severity = .warning → finding.category ≠ .reserved) →
          name ∈ (s.validate m side).1.rejected) := by
  refine ⟨?_, fun _ => VersionTest.exactly_absent_iff, fun _ => VersionTest.oneOf_absent_iff, ?_⟩
  · rw [AcceptPolicy.test_absent_iff hany hallow, AcceptPolicy.absent_mem_acceptedVersions_iff]
  · rintro c s hs d hd name hname side rfl rfl m hm
    have hconfigures : d.Configures (.ofRegistration (d.registration name)) := ⟨name, hname, rfl⟩
    have hchannel := (State.mem_channels_configure hs).2 ⟨d, hd, hconfigures⟩
    have hrejected : name ∈ (s.validate m side).1.rejected ↔
        absent ∉ (d.policyFor side).acceptedVersions d.version := by
      have hunlisted := Registry.mem_rejected_iff_of_unlisted hchannel hm side
      rw [hconfigures.testFor_eq, ne_eq, AcceptPolicy.test_absent_iff hany hallow] at hunlisted
      rw [s.fst_validate]
      exact hunlisted
    refine ⟨hrejected, ?_⟩
    intro herrors hreserved
    have hversion := (Config.wellDeclared_of_lint herrors).version_ne_absent hd
    have hversions := Config.absent_not_mem_versions hreserved hd side
    exact hrejected.2 (AcceptPolicy.absent_not_mem_acceptedVersions hversion hversions)

/-- A channel that is required, by a policy that says nothing. -/
theorem absence_refused_by_default :
    let d : ChannelConfig := ⟨"core", "1", .default, .default, []⟩
    let core : ChannelName := ⟨"netreg", "core", by decide, by decide, by decide, by decide⟩
    ∃ s, State.initial.configure { Config.default with channels := [d] } = .ok s ∧
      core ∈ (s.validate [⟨"map", "1"⟩] .server).1.rejected ∧
      AcceptPolicy.default.test "1" absent = false := by
  intro d core
  obtain ⟨htest, -, -, hconfigured⟩ := absence_accepted_iff .default "1" rfl rfl
  have hlint : hasErrors ({ Config.default with channels := [d] } : Config).lint = false := by
    decide
  obtain ⟨s, hs⟩ := State.configure_of_wellDeclared (Config.wellDeclared_of_lint hlint)
  refine ⟨s, hs, ?_, ?_⟩
  · have hname : ChannelName.parse d.name = .ok core := ChannelName.parse_eq_ok_iff.2 (by decide)
    exact (hconfigured _ s hs d List.mem_cons_self core hname .server rfl rfl _ (by decide)).2 hlint
      (by decide)
  · rw [Bool.eq_false_iff, ne_eq, htest]
    decide

/-- A channel without a flag that lists `absent` as a version accepts a peer without it, as does
one whose own version is `absent`. -/
theorem absence_accepted_as_version :
    let listed : ChannelConfig := ⟨"a:listed", "1", .default, ⟨[absent], false, false⟩, []⟩
    let own : ChannelConfig := ⟨"b:own", absent, .default, .default, []⟩
    (State.initial.configure { Config.default with channels := [listed, own] }).toOption.map
        (fun s => (s.validate [] .server).1.isAccepted) = some true ∧
      VersionTest.exactly absent absent = true ∧ VersionTest.oneOf [absent] absent = true := by
  decide +kernel

end ChannelHandshake
