import ChannelHandshake.Registry.State

/-!
# What stays in a registry

A registration leaves every channel as it is that is already there, and a call of a supplier every
channel but its own, whatever it tries to register meanwhile. So a channel that has been looked up
is found unchanged until its own turn comes.
-/

namespace ChannelHandshake

namespace Registry

theorem pairwise_names (r : Registry) : r.names.Pairwise (· < ·) :=
  List.pairwise_map.2 r.sorted

theorem find?_of_mem {r : Registry} {c : Channel} (h : c ∈ r.channels) :
    r.find? c.name = some c :=
  find?_eq_some_iff.2 ⟨h, rfl⟩

theorem find?_eq_none_iff {r : Registry} {name : ChannelName} :
    r.find? name = none ↔ name ∉ r.names := by
  simp [find?, names]

theorem find?_insert? {r r' : Registry} {c d : Channel} {name : ChannelName}
    (h : r.insert? c = some r') (hd : r.find? name = some d) : r'.find? name = some d := by
  rw [find?_eq_some_iff] at hd ⊢
  exact ⟨(mem_insert? h).2 (.inr hd.1), hd.2⟩

theorem find?_modify_of_ne {r : Registry} {name n : ChannelName} {f : Channel → Channel}
    (hf : ∀ c, (f c).name = c.name) {d : Channel} (hne : n ≠ name) (hd : r.find? n = some d) :
    (r.modify name f hf).find? n = some d := by
  rw [find?_eq_some_iff] at hd ⊢
  refine ⟨List.mem_map.2 ⟨d, hd.1, ?_⟩, hd.2⟩
  rw [if_neg fun h => hne (hd.2.symm.trans h)]

theorem find?_modify_self {r : Registry} {name : ChannelName} {f : Channel → Channel}
    (hf : ∀ c, (f c).name = c.name) {d : Channel} (hd : r.find? name = some d) :
    (r.modify name f hf).find? name = some (f d) := by
  rw [find?_eq_some_iff] at hd ⊢
  refine ⟨List.mem_map.2 ⟨d, hd.1, ?_⟩, (hf d).trans hd.2⟩
  rw [if_pos hd.2]

end Registry

namespace State

theorem find?_register {s : State} {d : Channel} {name : ChannelName}
    (hd : s.registry.find? name = some d) (r : Registration) :
    (s.register r).2.registry.find? name = some d := by
  rw [register]
  split
  · rename_i registry h
    exact Registry.find?_insert? h hd
  · exact hd

theorem find?_attempt {s : State} {d : Channel} {name : ChannelName}
    (hd : s.registry.find? name = some d) (registrations : List Registration) :
    (s.attempt registrations).registry.find? name = some d := by
  rw [attempt]
  induction registrations generalizing s with
  | nil => exact hd
  | cons r registrations ih => exact ih (find?_register hd r)

theorem calls_register (s : State) (r : Registration) :
    (s.register r).2.journal.calls = s.journal.calls := by
  rw [register]
  split <;> rfl

theorem calls_attempt (s : State) (registrations : List Registration) :
    (s.attempt registrations).journal.calls = s.journal.calls := by
  rw [attempt]
  induction registrations generalizing s with
  | nil => rfl
  | cons r registrations ih => exact (ih (s.register r).2).trans (s.calls_register r)

end State

/-- The version that a channel supplies when it is asked next. -/
def Channel.nextVersion (c : Channel) : String :=
  (c.supplier.call c.supplied).1

namespace State

/-- A supplier is called once, and returns what it returns whatever it registers. -/
theorem supply_of_find? {s : State} {c : Channel} {name : ChannelName}
    (hc : s.registry.find? name = some c) :
    (s.supply name).1 = some c.nextVersion ∧
      (s.supply name).2.journal.calls = s.journal.calls ++ [.supply name c.nextVersion] := by
  rw [supply, hc]
  exact ⟨rfl, calls_attempt _ _⟩

theorem find?_supply {s : State} {d : Channel} {name n : ChannelName} (hne : n ≠ name)
    (hd : s.registry.find? n = some d) : (s.supply name).2.registry.find? n = some d := by
  rw [supply]
  split
  · exact hd
  · have hd' : (s.registry.afterSupply name).find? n = some d :=
      Registry.find?_modify_of_ne (f := Channel.afterSupply) (fun _ => rfl) hne hd
    exact find?_attempt hd' _

end State

end ChannelHandshake
