import ChannelHandshake.Proofs.Registry.Snapshot

/-!
# What a gather yields

The payloads of a gather are those of the gatherers that succeed, channel by channel in the order of
the names and gatherer by gatherer in the order of their attachment. Each of them starts with an
empty sink, so what it contributes depends on its run and its channel alone (`fst_runGatherer`). A
gatherer that fails or panics contributes nothing and takes nothing from the others; but what it
has registered or attached before is there to stay.
-/

namespace ChannelHandshake

namespace Channel

/-- What counts of a channel when payloads are gathered: its name and the gatherers that succeed. -/
def sending (c : Channel) : ChannelName × List Attached :=
  (c.name, c.gatherers.filter Attached.succeeds)

theorem flatMap_contribution (channels : List Channel) :
    channels.flatMap contribution =
      (channels.map sending).flatMap fun (name, gatherers) =>
        gatherers.flatMap (·.pushed name) := by
  rw [List.flatMap_map]
  rfl

end Channel

namespace State

theorem fst_gather (s : State) :
    (s.gather .loginToClient).1 = s.registry.channels.flatMap Channel.contribution := by
  have hharvest := congrArg Harvest.payloads s.fst_gatherChannels
  rw [gather, if_pos rfl]
  exact hharvest

/-- In any other direction nothing is gathered and only the log remembers that it was asked. -/
theorem gather_of_ne {s : State} {direction : Direction} (h : direction ≠ .loginToClient) :
    s.gather direction =
      ([], { s with journal := s.journal.log [.gatherSkipped direction] }) :=
  if_neg h

theorem mem_names_gather {s : State} {c : Channel} {a : Attached} {r : Registration}
    (hc : c ∈ s.registry.channels) (ha : a ∈ c.gatherers) (hr : r ∈ a.registrations) :
    r.name ∈ (s.gather .loginToClient).2.registry.names := by
  have hattempt : r ∈ s.registry.gathererRegistrations :=
    List.mem_flatMap.2 ⟨c, hc, List.mem_flatMap.2 ⟨a, ha, hr⟩⟩
  have hfound := s.find?_gather r.name
  by_cases hfree : (s.gather .loginToClient).2.registry.find? r.name = none
  · rw [hfree] at hfound
    cases hbefore : s.registry.find? r.name with
    | some d => simp [hbefore] at hfound
    | none =>
      rw [hbefore] at hfound
      have hnone := List.find?_eq_none.1 (Option.map_eq_none_iff.1 hfound.symm) r hattempt
      simp at hnone
  · rw [Registry.find?_eq_none_iff] at hfree
    exact Decidable.not_not.1 hfree

end State

/-- What a gather yields. It is put together from what the gatherers of the start push that
succeed, in the order of the channels, of their gatherers and of the pushes; a gatherer that does
not succeed contributes nothing, and the others contribute the same without it. What any of them
has registered or attached before it ended, well or not, is found afterwards. In a direction other
than that of the login to the client nothing is gathered, no gatherer runs and the registry stays as
it is. -/
theorem payloads_of_gatherers (s : State) (direction : Direction) :
    let gathered := s.gather direction
    if direction = .loginToClient then
      gathered.1 = (s.registry.channels.flatMap fun c =>
        (c.gatherers.filter Attached.succeeds).flatMap (·.pushed c.name)) ∧
      (∀ channel index a s', (State.runGatherer channel index a s').1 =
        if a.succeeds then some (a.pushed channel) else none) ∧
      (∀ s' : State, s'.registry.channels.map Channel.sending =
        s.registry.channels.map Channel.sending → (s'.gather direction).1 = gathered.1) ∧
      (∀ c ∈ s.registry.channels, ∀ a ∈ c.gatherers, ∀ r ∈ a.registrations,
        r.name ∈ gathered.2.registry.names) ∧
      ∀ name, gathered.2.registry.find? name =
        match s.registry.find? name with
        | some c => some c.afterGather
        | none =>
          (s.registry.gathererRegistrations.find? (·.name = name)).map .ofRegistration
    else
      gathered.1 = [] ∧ gathered.2.registry = s.registry ∧
        gathered.2.journal.calls = s.journal.calls := by
  intro gathered
  by_cases hdirection : direction = .loginToClient
  · subst hdirection
    rw [if_pos rfl]
    refine ⟨s.fst_gather, State.fst_runGatherer, ?_, ?_, s.find?_gather⟩
    · intro s' hsending
      rw [State.fst_gather, Channel.flatMap_contribution, hsending,
        ← Channel.flatMap_contribution]
      exact s.fst_gather.symm
    · intro c hc a ha r hr
      exact State.mem_names_gather hc ha hr
  · rw [if_neg hdirection]
    have hskipped : gathered =
        ([], { s with journal := s.journal.log [.gatherSkipped direction] }) :=
      State.gather_of_ne hdirection
    rw [hskipped]
    exact ⟨rfl, rfl, rfl⟩

end ChannelHandshake
