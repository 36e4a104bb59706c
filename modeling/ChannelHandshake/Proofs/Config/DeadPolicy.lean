import ChannelHandshake.Proofs.Config.Handshake
import ChannelHandshake.Proofs.Config.Locality

/-!
# Policies that accept no version

A peer that has a channel and is configured without errors lists it with a proper version: one that
is neither empty nor that of absence. A policy is dead if it refuses all of these. That depends on
its versions alone, or on the channel's own version where it lists none (`isDead_iff`), and the
check reports both cases: an improper version in a list by a warning, one of the channel's own by
an error (`dead_policy_reported`).
-/

namespace ChannelHandshake

/-- A version that a peer without errors can list. -/
def IsProper (version : String) : Prop :=
  version ≠ "" ∧ version ≠ absent

namespace AcceptPolicy

variable {p : AcceptPolicy} {own : String}

/-- The policy refuses every peer that has the channel, where the own version is `own`. -/
def IsDead (p : AcceptPolicy) (own : String) : Prop :=
  ∀ version, IsProper version → p.test own version = false

/-- A policy is dead if it asks for versions and none of them is proper. -/
theorem isDead_iff :
    p.IsDead own ↔ p.any = false ∧ ∀ version ∈ p.acceptedVersions own, ¬IsProper version := by
  constructor
  · intro hdead
    constructor
    · have hproper : IsProper "1" := by
        constructor <;> decide
      have hrefuses := hdead "1" hproper
      rw [Bool.eq_false_iff] at hrefuses ⊢
      intro hany
      exact hrefuses (test_eq_true_iff.2 (.inl hany))
    · intro version hmem hproper
      have haccepts : p.test own version = true := test_eq_true_iff.2 (.inr (.inr hmem))
      rw [hdead version hproper] at haccepts
      exact absurd haccepts Bool.false_ne_true
  · rintro ⟨hany, himproper⟩ version hproper
    rw [Bool.eq_false_iff]
    intro haccepts
    rcases test_eq_true_iff.1 haccepts with hany' | ⟨-, habsent⟩ | hmem
    · rw [hany] at hany'
      exact absurd hany' Bool.false_ne_true
    · exact hproper.2 habsent
    · exact himproper version hmem hproper

/-- A dead policy lists an improper version, or none while the own version is improper. -/
theorem IsDead.cases (h : p.IsDead own) :
    (p.versions = [] ∧ ¬IsProper own) ∨ ∃ version ∈ p.versions, ¬IsProper version := by
  rcases isDead_iff.1 h with ⟨-, himproper⟩
  rw [acceptedVersions] at himproper
  cases hversions : p.versions with
  | nil =>
    rw [hversions] at himproper
    exact .inl ⟨rfl, himproper own List.mem_cons_self⟩
  | cons version rest =>
    rw [hversions] at himproper
    exact .inr ⟨version, List.mem_cons_self, himproper version List.mem_cons_self⟩

end AcceptPolicy

namespace Config

theorem not_isProper_iff {version : String} :
    ¬IsProper version ↔ version = "" ∨ version = absent := by
  rw [IsProper, not_and_or, not_not, not_not]

/-- An improper version of a channel is an error. -/
theorem exists_error_lintVersion {x : ChannelConfig} (h : ¬IsProper x.version) (place : String) :
    ∃ d ∈ lintVersion x place, d.severity = .error ∧ d.path = place ++ ".version" := by
  have herror : hasErrors (lintVersion x place) ≠ false := by
    intro hclean
    exact h (hasErrors_lintVersion_iff.1 hclean)
  rw [hasErrors, ne_eq, Bool.not_eq_false, List.any_eq_true] at herror
  rcases herror with ⟨d, hd, hseverity⟩
  exact ⟨d, hd, by simpa using hseverity, path_lintVersion hd⟩

/-- An improper version in a list is worth a warning. -/
theorem exists_warning_lintPolicy {p : AcceptPolicy} {version : String}
    (hmem : version ∈ p.versions) (h : ¬IsProper version) (place : String) :
    ∃ d ∈ lintPolicy p place, d.severity = .warning ∧ d.path = place ++ ".versions" := by
  rw [lintPolicy]
  rcases not_isProper_iff.1 h with rfl | rfl
  · rw [if_pos hmem]
    exact ⟨_, List.mem_append_left _ (List.mem_append_right _ List.mem_cons_self), rfl, rfl⟩
  · rw [if_pos hmem]
    exact ⟨_, List.mem_append_left _ (List.mem_append_left _ List.mem_cons_self), rfl, rfl⟩

end Config

/-- A channel with a dead policy does not accept a peer without errors that has the channel. -/
theorem ChannelConfig.not_sameName_of_accepts {x : ChannelConfig} {side : Side} {peer : Config}
    (hdead : (x.policyFor side).IsDead x.version) (hpeer : hasErrors peer.lint = false)
    (haccepts : x.Accepts side peer) : ∀ d ∈ peer.channels, ¬d.SameName x := by
  have hdeclared := Config.wellDeclared_of_lint hpeer
  rcases AcceptPolicy.isDead_iff.1 hdead with ⟨hany, himproper⟩
  cases haccepts with
  | any hany' =>
    rw [hany] at hany'
    exact absurd hany' Bool.false_ne_true
  | listed hd hname hmem =>
    exact absurd ⟨hdeclared.version_ne_empty hd, hdeclared.version_ne_absent hd⟩
      (himproper _ hmem)
  | missing hmissing _ => exact hmissing

/-- A policy that can never accept is reported. If the test of a policy refuses every proper
version, so that no peer without errors is accepted that has the channel, the check reports an error
at the channel's version or a warning at the versions of the policy. -/
theorem dead_policy_reported {c : Config} {i : Nat} {x : ChannelConfig}
    (hx : c.channels[i]? = some x) {side : Side}
    (hdead : ∀ version, version ≠ "" → version ≠ absent →
      (x.policyFor side).test x.version version = false) :
    ((∃ d ∈ c.lint, d.severity = .error ∧ d.path = Config.channelPath i ++ ".version") ∨
      ∃ d ∈ c.lint, d.severity = .warning ∧
        d.path = Config.channelPath i ++ "." ++ side.text ++ ".versions") ∧
    ∀ peer, hasErrors peer.lint = false → x.Accepts side peer →
      ∀ d ∈ peer.channels, ¬d.SameName x := by
  have hdead' : (x.policyFor side).IsDead x.version := by
    rintro version ⟨hempty, habsent⟩
    exact hdead version hempty habsent
  refine ⟨?_, fun peer => ChannelConfig.not_sameName_of_accepts hdead'⟩
  rcases List.getElem?_eq_some_iff.1 hx with ⟨hlt, -⟩
  have hlength := Config.length_namesBefore (Nat.le_of_lt hlt)
  have hgroup : ∀ d ∈ Config.lintChannel c.side (Config.namesBefore c.channels i) x, d ∈ c.lint :=
    fun d hd => Config.mem_lint_of_mem_lintChannel hx hd
  rcases hdead'.cases with ⟨-, himproper⟩ | ⟨version, hmem, himproper⟩
  · rcases Config.exists_error_lintVersion himproper (Config.channelPath i) with ⟨d, hd, hfinding⟩
    refine .inl ⟨d, hgroup d ?_, hfinding⟩
    rw [Config.lintChannel, hlength]
    simp only [List.mem_append, hd, or_true, true_or]
  · have hsubset := Config.lintPolicy_subset_lintChannel c.side
      (Config.namesBefore c.channels i) x side
    rw [hlength] at hsubset
    rcases Config.exists_warning_lintPolicy hmem himproper
      (Config.channelPath i ++ "." ++ side.text) with ⟨d, hd, hfinding⟩
    exact .inr ⟨d, hgroup d (hsubset hd), hfinding⟩

/-- A second channel whose server asks for an empty version only, and accepts peers that lack it. -/
theorem dead_policy_reported_of_empty_version :
    let x : ChannelConfig := ⟨"core", "1", .default, ⟨[""], true, false⟩, []⟩
    let c : Config := { Config.default with
      channels := [⟨"a:b", "1", .default, .default, []⟩, x] }
    (∀ version, version ≠ "" → version ≠ absent →
      (x.policyFor .server).test x.version version = false) ∧
    ((∃ d ∈ c.lint, d.severity = .error ∧ d.path = "channels[1].version") ∨
      ∃ d ∈ c.lint, d.severity = .warning ∧ d.path = "channels[1].server.versions") := by
  intro x c
  have hdead : (x.policyFor .server).IsDead x.version := by
    refine AcceptPolicy.isDead_iff.2 ⟨rfl, ?_⟩
    intro version hmem hproper
    exact hproper.1 (List.mem_singleton.1 hmem)
  have hrefuses : ∀ version, version ≠ "" → version ≠ absent →
      (x.policyFor .server).test x.version version = false := by
    intro version hempty habsent
    exact hdead version ⟨hempty, habsent⟩
  have hx : c.channels[1]? = some x := rfl
  exact ⟨hrefuses, (dead_policy_reported hx hrefuses).1⟩

end ChannelHandshake
