import ChannelHandshake.Cli.Run
import ChannelHandshake.Proofs.Config.Setup

/-!
# The check and the setup agree about names

The check goes through all channels and remembers their names; the setup registers one channel after
the other and stops at the first that it cannot register. Both meet the same names in the same
order, so the first error that the check finds about a name is where the setup stops
(`configureFrom_outcome`), and nothing else that the check finds stops it.
-/

namespace ChannelHandshake

namespace Diagnostic

/-- The finding is an error about the name of a channel. -/
def isNameError (d : Diagnostic) : Bool :=
  d.severity == .error && (d.category == .name || d.category == .duplicate)

/-- The finding says what stops the setup at the channel `c`. -/
inductive Tells (d : Diagnostic) (c : ChannelConfig) : RegisterError → Prop
  | invalid {error : ChannelName.Invalid} (hname : ChannelName.parse c.name = .error error)
    (hcategory : d.category = .name) (hmessage : d.message = error.message) :
    Tells d c (.invalidName error)
  | repeated {name : ChannelName} (hname : ChannelName.parse c.name = .ok name)
    (hcategory : d.category = .duplicate) : Tells d c (.alreadyRegistered name)

end Diagnostic

namespace Config

/-! ## Errors about names in the check -/

theorem isNameError_lintName {before : List (Option ChannelName)} {c : ChannelConfig}
    {place : String} {d : Diagnostic} (h : d ∈ lintName before c place) :
    d.isNameError = true := by
  rw [lintName] at h
  split at h
  · rw [List.mem_singleton.1 h]
    rfl
  · split at h
    · rw [List.mem_singleton.1 h]
      rfl
    · simp at h

/-- A finding that is reported under a condition, or else one of the others. -/
theorem isNameError_of_mem_ite {b : Prop} [Decidable b] {x d : Diagnostic}
    {others : List Diagnostic} (h : d ∈ if b then [x] else others) (hx : x.isNameError = false)
    (hothers : d ∈ others → d.isNameError = false) : d.isNameError = false := by
  split at h
  · rw [List.mem_singleton.1 h, hx]
  · exact hothers h

theorem isNameError_lintVersion {c : ChannelConfig} {place : String} {d : Diagnostic}
    (h : d ∈ lintVersion c place) : d.isNameError = false := by
  rw [lintVersion] at h
  refine isNameError_of_mem_ite h rfl fun h => ?_
  exact isNameError_of_mem_ite h rfl (by simp)

theorem isNameError_lintPolicy {p : AcceptPolicy} {place : String} {d : Diagnostic}
    (h : d ∈ lintPolicy p place) : d.isNameError = false := by
  rcases List.mem_append.1 h with h | h
  · rcases List.mem_append.1 h with h | h
    · exact isNameError_of_mem_ite h rfl (by simp)
    · exact isNameError_of_mem_ite h rfl (by simp)
  · exact isNameError_of_mem_ite h rfl (by simp)

theorem isNameError_lintPayloads {side : Side} {c : ChannelConfig} {place : String}
    {d : Diagnostic} (h : d ∈ lintPayloads side c place) : d.isNameError = false := by
  rcases List.mem_append.1 h with h | h
  · exact isNameError_of_mem_ite h rfl (by simp)
  · obtain ⟨⟨p, j⟩, -, hd⟩ := List.mem_flatMap.1 h
    replace hd : d ∈ lintPayload p _ := hd
    rw [lintPayload] at hd
    split at hd
    · simp at hd
    · rw [List.mem_singleton.1 hd]
      rfl

/-- Of the findings about a channel, those about its name are the errors about a name. -/
theorem filter_isNameError_lintChannel (side : Side) (before : List (Option ChannelName))
    (c : ChannelConfig) :
    (lintChannel side before c).filter Diagnostic.isNameError =
      lintName before c (channelPath before.length) := by
  have hrest : ∀ findings : List Diagnostic, (∀ d ∈ findings, d.isNameError = false) →
      findings.filter Diagnostic.isNameError = [] := by
    intro findings h
    rw [List.filter_eq_nil_iff]
    intro d hd
    simp [h d hd]
  rw [lintChannel]
  simp only [List.filter_append]
  rw [List.filter_eq_self.2 fun _ => isNameError_lintName, hrest _ fun _ => isNameError_lintVersion,
    hrest _ fun _ => isNameError_lintPolicy, hrest _ fun _ => isNameError_lintPolicy,
    hrest _ fun _ => isNameError_lintPayloads]
  simp only [List.append_nil]

theorem find?_lintChannel (side : Side) (before : List (Option ChannelName)) (c : ChannelConfig) :
    (lintChannel side before c).find? Diagnostic.isNameError =
      (lintName before c (channelPath before.length)).head? := by
  rw [← List.head?_filter, filter_isNameError_lintChannel]

theorem find?_lint (c : Config) :
    c.lint.find? Diagnostic.isNameError =
      (lintChannels c.side [] c.channels).find? Diagnostic.isNameError := by
  rw [lint]
  split
  · rename_i hnil
    rw [List.isEmpty_iff.1 hnil]
    rfl
  · rfl

end Config

namespace State

/-- The two passes side by side. They keep the same names: those that the setup has registered are
those that the check remembers. -/
theorem configureFrom_outcome (side : Side) {before : List (Option ChannelName)}
    {channels : List ChannelConfig} {s : State}
    (hnames : ∀ name, name ∈ s.registry.names ↔ some name ∈ before) :
    ((Config.lintChannels side before channels).find? Diagnostic.isNameError = none ∧
      ∃ s', s.configureFrom before.length channels = .ok s') ∨
    ∃ d i c cause,
      (Config.lintChannels side before channels).find? Diagnostic.isNameError = some d ∧
      channels[i]? = some c ∧
      d.path = Config.channelPath (before.length + i) ++ ".name" ∧ d.Tells c cause ∧
      s.configureFrom before.length channels = .error ⟨before.length + i, c.name, cause⟩ := by
  induction channels generalizing before s with
  | nil => exact .inl ⟨rfl, s, rfl⟩
  | cons c rest ih =>
    rw [Config.lintChannels, List.find?_append, Config.find?_lintChannel, Config.lintName,
      configureFrom]
    rcases s.configureChannel_cases c with ⟨error, hname, hconfigure⟩ |
      ⟨name, hname, htaken, hconfigure⟩ | ⟨name, s', hname, hfree, hconfigure, hperm⟩
    · rw [hname, hconfigure]
      exact .inr ⟨_, 0, c, _, rfl, rfl, rfl, .invalid hname rfl rfl, rfl⟩
    · obtain ⟨first, hfirst⟩ : ∃ first, before.idxOf? (some name) = some first :=
        Option.isSome_iff_exists.1 (List.isSome_idxOf?.2 ((hnames name).1 htaken))
      rw [hname, hconfigure]
      dsimp only
      rw [hfirst]
      exact .inr ⟨_, 0, c, _, rfl, rfl, rfl, .repeated hname rfl, rfl⟩
    · -- a new name: the one pass registers it, the other remembers it, and both go on
      have hnew : before.idxOf? (some name) = none :=
        List.idxOf?_eq_none_iff.2 fun hmem => hfree ((hnames name).2 hmem)
      have hremembered : Config.nameOf? c = some name := Config.nameOf?_eq_some_iff.2 hname
      have hnames' : ∀ n, n ∈ s'.registry.names ↔ some n ∈ before ++ [Config.nameOf? c] := by
        intro n
        rw [mem_names_of_perm hperm, hnames n, hremembered]
        simp [or_comm]
      have hlength : before.length + 1 = (before ++ [Config.nameOf? c]).length := by simp
      rw [hname, hconfigure]
      dsimp only
      rw [hnew, List.head?_nil, Option.none_or, hlength]
      rcases ih hnames' with ⟨hclean, hrest⟩ | ⟨d, i, e, cause, hfirst, he, hpath, htells, hrest⟩
      · exact .inl ⟨hclean, hrest⟩
      · have hindex : (before ++ [Config.nameOf? c]).length + i = before.length + (i + 1) := by
          rw [← hlength, Nat.add_assoc, Nat.add_comm 1]
        rw [hindex] at hpath hrest
        exact .inr ⟨d, i + 1, e, cause, hfirst, he, hpath, htells, hrest⟩

/-- The setup of a configuration succeeds if the check finds no error about a name, and otherwise
stops at the channel that the first of them is about. -/
theorem configure_outcome (c : Config) :
    (c.lint.find? Diagnostic.isNameError = none ∧ ∃ s, State.initial.configure c = .ok s) ∨
    ∃ d i channel cause,
      c.lint.find? Diagnostic.isNameError = some d ∧ c.channels[i]? = some channel ∧
      d.path = Config.channelPath i ++ ".name" ∧ d.Tells channel cause ∧
      State.initial.configure c = .error ⟨i, channel.name, cause⟩ := by
  have hnames : ∀ name, name ∈ State.initial.registry.names ↔ some name ∈ [] := by
    simp [initial, Registry.empty, Registry.names]
  rw [Config.find?_lint]
  simpa only [configure, List.length_nil, Nat.zero_add] using configureFrom_outcome c.side hnames

end State

/-- The check and the setup agree on which configurations can be registered. The setup fails exactly
if the check finds an error about a name, and it names the channel of the first of these errors and
its cause. Nothing else that the check finds matters to it; and what it sets up has one channel for
each that is configured. -/
theorem setup_agrees_with_check (c : Config) :
    ((∃ t, Cli.registryState c = .error t) ↔
      ∃ d ∈ c.lint, d.severity = .error ∧ (d.category = .name ∨ d.category = .duplicate)) ∧
    (∀ t, Cli.registryState c = .error t →
      ∃ d i channel,
        c.lint.find? Diagnostic.isNameError = some d ∧
        c.channels[i]? = some channel ∧
        d.path = Config.channelPath i ++ ".name" ∧
        t.text = Config.channelPath i ++ " (" ++ channel.name ++ ")" ∧
        ((d.category = .name ∧ t.cause = some d.message) ∨
          (d.category = .duplicate ∧ ∃ name, ChannelName.parse channel.name = .ok name ∧
            t.cause = some ("network channel " ++ name.text ++ " already registered")))) ∧
    ∀ s, Cli.registryState c = .ok s →
      (s.registry.channels.map some).Perm (c.channels.map ChannelConfig.channel?) := by
  have hfinding : (∃ d ∈ c.lint, d.severity = .error ∧
      (d.category = .name ∨ d.category = .duplicate)) ↔
        c.lint.find? Diagnostic.isNameError ≠ none := by
    simp [Diagnostic.isNameError, Decidable.or_iff_not_imp_left]
  rw [hfinding]
  rcases State.configure_outcome c with ⟨hclean, s, hs⟩ |
    ⟨d, i, channel, cause, hfirst, hchannel, hpath, htells, herror⟩
  · have hstate : Cli.registryState c = .ok s := by
      rw [Cli.registryState, hs]
      rfl
    rw [hstate]
    refine ⟨by simp [hclean], by simp, ?_⟩
    rintro s' ⟨⟩
    exact State.perm_channels_configure hs
  · have hstate : Cli.registryState c =
        .error ⟨Config.channelPath i ++ " (" ++ channel.name ++ ")", some cause.message⟩ := by
      rw [Cli.registryState, herror]
      rfl
    rw [hstate]
    refine ⟨by simp [hfirst], ?_, by simp⟩
    rintro t ⟨⟩
    refine ⟨d, i, channel, hfirst, hchannel, hpath, rfl, ?_⟩
    cases htells with
    | invalid _ hcategory hmessage => exact .inl ⟨hcategory, congrArg some hmessage.symm⟩
    | repeated hname hcategory => exact .inr ⟨hcategory, _, hname, rfl⟩

end ChannelHandshake
