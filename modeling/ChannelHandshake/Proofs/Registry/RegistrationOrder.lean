import Mathlib.Data.List.Nodup
import Mathlib.Data.List.Perm.Basic
import Mathlib.Data.Option.Basic
import ChannelHandshake.Proofs.Config.Setup
import ChannelHandshake.Proofs.Registry.Gather
import ChannelHandshake.Proofs.Registry.Verdict

/-!
# The order of registrations

A registry keeps its channels in the order of their names, so that registrations with names of
their own leave the same registry in whatever order they are made (`registry_attempt_of_perm`); and
a configuration can be set up with its channels in every order or in none
(`configure_of_perm`). Whatever is asked of a registry is answered from its channels alone, and so
the answers do not tell the order either (`alike_of_registry_eq`).
-/

namespace ChannelHandshake

open scoped List

/-! ## Channels in order -/

/-- Channels in the order of their names are determined by which channels they are. -/
theorem Channel.Sorted.eq_of_perm {channels channels' : List Channel} (h : Sorted channels)
    (h' : Sorted channels') (hperm : channels.Perm channels') : channels = channels' := by
  refine hperm.eq_of_pairwise ?_ h h'
  intro c d _ _ hcd hdc
  exact absurd (ChannelName.lt_trans hcd hdc) (ChannelName.lt_irrefl c.name)

theorem Registry.eq_of_perm {r r' : Registry} (h : r.channels.Perm r'.channels) : r = r' := by
  obtain ⟨channels, hsorted⟩ := r
  obtain ⟨channels', hsorted'⟩ := r'
  obtain rfl : channels = channels' := hsorted.eq_of_perm hsorted' h
  rfl

namespace State

/-! ## Registrations -/

/-- Registrations under free names of their own all succeed. -/
theorem perm_channels_attempt {s : State} {registrations : List Registration}
    (hnodup : (registrations.map Registration.name).Nodup)
    (hfree : ∀ r ∈ registrations, r.name ∉ s.registry.names) :
    (s.attempt registrations).registry.channels.Perm
      (registrations.map .ofRegistration ++ s.registry.channels) := by
  induction registrations generalizing s with
  | nil => exact .refl _
  | cons r rest ih =>
    obtain ⟨hnew, hrest⟩ := List.nodup_cons.1 hnodup
    rcases s.register_cases r with ⟨htaken, -, -⟩ | ⟨-, -, hinsert⟩
    · exact absurd htaken (hfree r List.mem_cons_self)
    have hperm := Registry.perm_insert? hinsert
    have hfree' : ∀ x ∈ rest, x.name ∉ (s.register r).2.registry.names := by
      intro x hx hmem
      rw [Registry.names, (hperm.map Channel.name).mem_iff, List.map_cons, List.mem_cons] at hmem
      rcases hmem with hname | hmem
      · exact hnew (List.mem_map.2 ⟨x, hx, hname⟩)
      · exact hfree x (List.mem_cons_of_mem r hx) hmem
    calc (s.attempt (r :: rest)).registry.channels
      _ = ((s.register r).2.attempt rest).registry.channels := rfl
      _ ~ rest.map .ofRegistration ++ (s.register r).2.registry.channels := ih hrest hfree'
      _ ~ rest.map .ofRegistration ++ .ofRegistration r :: s.registry.channels :=
        hperm.append_left _
      _ ~ (r :: rest).map .ofRegistration ++ s.registry.channels := List.perm_middle

theorem perm_channels_attempt_initial {registrations : List Registration}
    (hnodup : (registrations.map Registration.name).Nodup) :
    (initial.attempt registrations).registry.channels ~ registrations.map .ofRegistration := by
  have hempty : initial.registry.names = [] := rfl
  have hperm := perm_channels_attempt (s := initial) hnodup (by simp [hempty])
  rwa [initial, Registry.empty, List.append_nil] at hperm

/-- Registrations with names of their own leave the same registry in any order. -/
theorem registry_attempt_of_perm {registrations registrations' : List Registration}
    (h : registrations ~ registrations') (hnodup : (registrations.map Registration.name).Nodup) :
    (initial.attempt registrations').registry = (initial.attempt registrations).registry := by
  have hnodup' := (h.map Registration.name).nodup hnodup
  apply Registry.eq_of_perm
  calc (initial.attempt registrations').registry.channels
    _ ~ registrations'.map .ofRegistration := perm_channels_attempt_initial hnodup'
    _ ~ registrations.map .ofRegistration := h.symm.map _
    _ ~ (initial.attempt registrations).registry.channels :=
      (perm_channels_attempt_initial hnodup).symm

/-! ## Configurations -/

/-- Channels with valid names that differ, and that are all free, can be set up. -/
theorem configureFrom_of_nodup {channels : List ChannelConfig} {s : State}
    (hname : ∀ c ∈ channels, ∃ name, ChannelName.parse c.name = .ok name)
    (hnodup : (channels.map Config.nameOf?).Nodup)
    (hfree : ∀ name ∈ s.registry.names, some name ∉ channels.map Config.nameOf?) (index : Nat) :
    ∃ s', s.configureFrom index channels = .ok s' := by
  induction channels generalizing s index with
  | nil => exact ⟨s, rfl⟩
  | cons c rest ih =>
    obtain ⟨hnew, hrest⟩ := List.nodup_cons.1 hnodup
    obtain ⟨name, hc⟩ := hname c List.mem_cons_self
    have hfirst : Config.nameOf? c = some name := Config.nameOf?_eq_some_iff.2 hc
    rw [configureFrom]
    rcases s.configureChannel_cases c with ⟨error, hc', -⟩ | ⟨name', hc', htaken, -⟩ |
      ⟨name', s', hc', -, hconfigure, hperm⟩ <;> cases hc.symm.trans hc'
    · exact absurd (hfirst ▸ List.mem_cons_self) (hfree name htaken)
    · rw [hconfigure]
      refine ih (fun d hd => hname d (List.mem_cons_of_mem c hd)) hrest ?_ (index + 1)
      intro n hn
      rcases (mem_names_of_perm hperm).1 hn with rfl | hn
      · exact hfirst ▸ hnew
      · exact fun hmem => hfree n hn (List.mem_cons_of_mem _ hmem)

/-- The names of a configuration that can be set up are those of its registry. -/
theorem perm_names_configure {c : Config} {s : State} (h : initial.configure c = .ok s) :
    s.registry.names.map some ~ c.channels.map Config.nameOf? := by
  have hperm := (perm_channels_configure h).map (Option.map Channel.name)
  have hname : Config.nameOf? = Option.map Channel.name ∘ ChannelConfig.channel? := by
    funext d
    rw [Function.comp, ChannelConfig.channel?, Option.map_map]
    exact Option.map_id'.symm
  rw [List.map_map, List.map_map] at hperm
  rw [hname, Registry.names, List.map_map]
  exact hperm

/-- A configuration can be set up with its channels in every order or in none, and the order is not
to be seen in the registry. -/
theorem configure_of_perm {c c' : Config} {s : State} (h : c.channels ~ c'.channels)
    (hs : initial.configure c = .ok s) :
    ∃ s', initial.configure c' = .ok s' ∧ s'.registry = s.registry := by
  have hnames := perm_names_configure hs
  have hname : ∀ d ∈ c.channels, ∃ name, ChannelName.parse d.name = .ok name := by
    intro d hd
    obtain ⟨name, -, hd'⟩ := List.mem_map.1 (hnames.mem_iff.2 (List.mem_map_of_mem hd))
    exact ⟨name, Config.nameOf?_eq_some_iff.1 hd'.symm⟩
  have hnodup : (c.channels.map Config.nameOf?).Nodup :=
    hnames.nodup (s.registry.nodup_names.map (Option.some_injective _))
  obtain ⟨s', hs'⟩ : ∃ s', initial.configure c' = .ok s' :=
    configureFrom_of_nodup (fun d hd => hname d (h.mem_iff.2 hd)) ((h.map _).nodup hnodup)
      (by simp [initial, Registry.empty, Registry.names]) 0
  refine ⟨s', hs', Registry.eq_of_perm ?_⟩
  have hchannels : s'.registry.channels.map some ~ s.registry.channels.map some :=
    (perm_channels_configure hs').trans
      ((h.symm.map _).trans (perm_channels_configure hs).symm)
  exact (List.map_perm_map_iff (Option.some_injective _)).1 hchannels

/-! ## What is asked of a registry -/

/-- Two registries cannot be told apart by what they say of themselves, what they send, what they
make of a peer and what they gather. -/
structure Alike (s s' : State) : Prop where
  names_eq : s.registry.names = s'.registry.names
  manifest_eq : s.manifest.1 = s'.manifest.1
  frame_eq : ∀ sender, (s.frame sender).1 = (s'.frame sender).1
  report_eq : ∀ m side, (s.validate m side).1 = (s'.validate m side).1
  payloads_eq : ∀ direction, (s.gather direction).1 = (s'.gather direction).1

/-- The answers are taken from the channels, whatever the journal holds. -/
theorem alike_of_registry_eq {s s' : State} (h : s.registry = s'.registry) : s.Alike s' where
  names_eq := by rw [h]
  manifest_eq := by rw [s.manifest_eq.1, s'.manifest_eq.1, h]
  frame_eq sender := by rw [(s.frame_eq sender).1, (s'.frame_eq sender).1, h]
  report_eq m side := by rw [fst_validate, fst_validate, h]
  payloads_eq direction := by
    by_cases hdirection : direction = .loginToClient
    · rw [hdirection, fst_gather, fst_gather, h]
    · rw [gather_of_ne hdirection, gather_of_ne hdirection]

end State

/-- The order of registrations does not matter. Registrations with names of their own leave a
registry with one channel for each of them, and in another order they leave the same registry,
which says, sends, accepts and gathers the same. So do the channels of a configuration: if it can
be set up, it can be with its channels in any order. -/
theorem registration_order_irrelevant :
    (∀ registrations registrations' : List Registration, registrations ~ registrations' →
      (registrations.map Registration.name).Nodup →
      let s := State.initial.attempt registrations
      let s' := State.initial.attempt registrations'
      s.registry.channels ~ registrations.map .ofRegistration ∧
        s'.registry = s.registry ∧ s'.Alike s) ∧
    ∀ (c c' : Config) (s : State), c.channels ~ c'.channels → State.initial.configure c = .ok s →
      ∃ s', State.initial.configure c' = .ok s' ∧ s'.registry = s.registry ∧ s'.Alike s := by
  constructor
  · intro registrations registrations' hperm hnodup s s'
    have hregistry : s'.registry = s.registry := State.registry_attempt_of_perm hperm hnodup
    exact ⟨State.perm_channels_attempt_initial hnodup, hregistry,
      State.alike_of_registry_eq hregistry⟩
  · intro c c' s hperm hs
    obtain ⟨s', hs', hregistry⟩ := State.configure_of_perm hperm hs
    exact ⟨s', hs', hregistry, State.alike_of_registry_eq hregistry⟩

/-- Two channels, registered and configured in either order. -/
theorem registration_order_irrelevant_for_two :
    let core : ChannelName := ⟨"netreg", "core", by decide, by decide, by decide, by decide⟩
    let a : ChannelName := ⟨"a", "b", by decide, by decide, by decide, by decide⟩
    let first : Registration := .accepting core "2"
    let second : Registration := { Registration.accepting a "1" with
      gatherers := [.always [.push fun sink => ⟨sink.channel, [1], "x"⟩]] }
    let c : Config := { Config.default with
      channels := [⟨"core", "2", .default, .default, []⟩, ⟨"a:b", "1", .default, .default, []⟩] }
    let c' : Config := { c with channels := c.channels.reverse }
    (State.initial.attempt [second, first]).Alike (State.initial.attempt [first, second]) ∧
      ((State.initial.attempt [second, first]).gather .loginToClient).1 = [⟨a, [1], "x"⟩] ∧
      ∃ s s', State.initial.configure c = .ok s ∧ State.initial.configure c' = .ok s' ∧
        s'.Alike s ∧ s'.registry.names = [a, core] := by
  intro core a first second c c'
  obtain ⟨hregistrations, hconfigurations⟩ := registration_order_irrelevant
  obtain ⟨-, -, halike⟩ := hregistrations [first, second] [second, first] (.swap _ _ _) (by decide)
  refine ⟨halike, by decide +kernel, ?_⟩
  have hnames : (State.initial.configure c).toOption.map (·.registry.names) = some [a, core] := by
    decide
  cases hs : State.initial.configure c with
  | error e => simp [hs, Except.toOption] at hnames
  | ok s =>
    obtain ⟨s', hs', -, halike'⟩ :=
      hconfigurations c c' s (List.reverse_perm c.channels).symm hs
    rw [hs] at hnames
    exact ⟨s, s', rfl, hs', halike', halike'.names_eq.trans (Option.some.inj hnames)⟩

end ChannelHandshake
