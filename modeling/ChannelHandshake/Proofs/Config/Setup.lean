import ChannelHandshake.Config.Setup
import ChannelHandshake.Proofs.Config.Lint
import ChannelHandshake.Proofs.Registry.Growth

/-!
# The registry of a configuration

A configured channel is registered unless its name is none or is taken, and whatever else is
configured does not matter (`configureChannel_cases`). So declared channels are all registered
(`configure_of_wellDeclared`), and the registry then holds each of them once and nothing else
(`perm_channels_configure`).
-/

namespace ChannelHandshake

namespace ChannelConfig

/-- What the configured channel is in a registry that has just been set up, if its name is one. -/
def channel? (c : ChannelConfig) : Option Channel :=
  (Config.nameOf? c).map fun name => .ofRegistration (c.registration name)

/-- What the configured channel `c` is in a registry that has just been set up. -/
def Configures (c : ChannelConfig) (x : Channel) : Prop :=
  ∃ name, ChannelName.parse c.name = .ok name ∧ x = .ofRegistration (c.registration name)

theorem channel?_of_parse {c : ChannelConfig} {name : ChannelName}
    (h : ChannelName.parse c.name = .ok name) :
    c.channel? = some (.ofRegistration (c.registration name)) := by
  rw [channel?, Config.nameOf?_eq_some_iff.2 h, Option.map_some]

theorem channel?_eq_some_iff {c : ChannelConfig} {x : Channel} :
    c.channel? = some x ↔ c.Configures x := by
  rw [channel?, Configures, Option.map_eq_some_iff]
  simp only [Config.nameOf?_eq_some_iff, eq_comm (a := x)]

end ChannelConfig

namespace State

/-- A channel is registered unless its name is none or is taken. -/
theorem configureChannel_cases (s : State) (c : ChannelConfig) :
    (∃ error, ChannelName.parse c.name = .error error ∧
      s.configureChannel c = .error (.invalidName error)) ∨
    (∃ name, ChannelName.parse c.name = .ok name ∧ name ∈ s.registry.names ∧
      s.configureChannel c = .error (.alreadyRegistered name)) ∨
    ∃ name s', ChannelName.parse c.name = .ok name ∧ name ∉ s.registry.names ∧
      s.configureChannel c = .ok s' ∧
      s'.registry.channels.Perm (.ofRegistration (c.registration name) :: s.registry.channels) := by
  rw [configureChannel]
  cases hname : ChannelName.parse c.name with
  | error error => exact .inl ⟨error, rfl, rfl⟩
  | ok name =>
    dsimp only
    rcases s.register_cases (c.registration name) with
      ⟨htaken, hresult, -⟩ | ⟨hfree, hresult, hinsert⟩
    · generalize s.register (c.registration name) = outcome at hresult
      obtain ⟨result, s'⟩ := outcome
      obtain rfl : result = .error (.alreadyRegistered name) := hresult
      exact .inr (.inl ⟨name, rfl, htaken, rfl⟩)
    · generalize s.register (c.registration name) = outcome at hresult hinsert
      obtain ⟨result, s'⟩ := outcome
      obtain rfl : result = .ok () := hresult
      exact .inr (.inr ⟨name, s', rfl, hfree, rfl, Registry.perm_insert? hinsert⟩)

/-- The names after a channel has been registered. -/
theorem mem_names_of_perm {s s' : State} {c : ChannelConfig} {name : ChannelName}
    (h : s'.registry.channels.Perm (.ofRegistration (c.registration name) :: s.registry.channels))
    {n : ChannelName} : n ∈ s'.registry.names ↔ n = name ∨ n ∈ s.registry.names := by
  rw [Registry.names, (h.map Channel.name).mem_iff, List.map_cons, List.mem_cons]
  rfl

/-- The invariant of the run: every name that is taken is one of the channels before. -/
theorem configureFrom_of_wellDeclared {before : List (Option ChannelName)}
    {channels : List ChannelConfig} (h : Config.WellDeclared before channels) {s : State}
    (hnames : ∀ name ∈ s.registry.names, some name ∈ before) (index : Nat) :
    ∃ s', s.configureFrom index channels = .ok s' := by
  induction h generalizing s index with
  | nil => exact ⟨s, rfl⟩
  | @cons before c rest name hname hnew _ _ _ ih =>
    rw [configureFrom]
    rcases s.configureChannel_cases c with ⟨error, hname', -⟩ | ⟨name', hname', htaken, -⟩ |
      ⟨name', s', hname', -, hconfigure, hperm⟩
    · simp [hname] at hname'
    · cases hname.symm.trans hname'
      exact absurd (hnames name htaken) hnew
    · cases hname.symm.trans hname'
      rw [hconfigure]
      refine ih ?_ (index + 1)
      intro n hn
      rcases (mem_names_of_perm hperm).1 hn with rfl | hn
      · exact List.mem_append_right _ List.mem_cons_self
      · exact List.mem_append_left _ (hnames n hn)

/-- A run that does not stop adds one channel for each that is configured. -/
theorem perm_channels_configureFrom {channels : List ChannelConfig} {s s' : State} {index : Nat}
    (h : s.configureFrom index channels = .ok s') :
    (s'.registry.channels.map some).Perm
      (channels.map ChannelConfig.channel? ++ s.registry.channels.map some) := by
  induction channels generalizing s index with
  | nil =>
    cases h
    exact .refl _
  | cons c rest ih =>
    rw [configureFrom] at h
    rcases s.configureChannel_cases c with ⟨error, -, hconfigure⟩ | ⟨name, -, -, hconfigure⟩ |
      ⟨name, s'', hname, -, hconfigure, hperm⟩ <;> rw [hconfigure] at h
    · simp at h
    · simp at h
    · refine (ih h).trans (((hperm.map some).append_left _).trans ?_)
      rw [List.map_cons, List.map_cons, List.cons_append, ChannelConfig.channel?_of_parse hname]
      exact List.perm_middle

/-- A configuration that is well declared can be registered. -/
theorem configure_of_wellDeclared {c : Config} (h : Config.WellDeclared [] c.channels) :
    ∃ s, State.initial.configure c = .ok s :=
  configureFrom_of_wellDeclared h (by simp [initial, Registry.empty, Registry.names]) 0

/-- The registry of a configuration holds one channel for each that is configured. -/
theorem perm_channels_configure {c : Config} {s : State}
    (h : State.initial.configure c = .ok s) :
    (s.registry.channels.map some).Perm (c.channels.map ChannelConfig.channel?) := by
  simpa [initial, Registry.empty] using perm_channels_configureFrom h

/-- The registry of a configuration holds the channels that it configures. -/
theorem mem_channels_configure {c : Config} {s : State} (h : State.initial.configure c = .ok s)
    {x : Channel} : x ∈ s.registry.channels ↔ ∃ d ∈ c.channels, d.Configures x := by
  have hmem := (perm_channels_configure h).mem_iff (a := some x)
  simpa [ChannelConfig.channel?_eq_some_iff] using hmem

end State

end ChannelHandshake
