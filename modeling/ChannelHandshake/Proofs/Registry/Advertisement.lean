import ChannelHandshake.Proofs.ChannelName.Order
import ChannelHandshake.Proofs.ChannelName.Spelling
import ChannelHandshake.Proofs.Registry.Lookup
import ChannelHandshake.Registry.Advertisement

/-!
# What a registry advertises

A registry asks the suppliers of the channels that it has when it starts, one after the other and
each of them once. What a supplier registers meanwhile changes none of the channels that are still
to be asked, so the manifest can be read off the registry before (`manifest_eq`).
-/

namespace ChannelHandshake

namespace Registry

/-- The channels in order, each with the version that it supplies next. -/
def advertised (r : Registry) : List (ChannelName × String) :=
  r.channels.map fun c => (c.name, c.nextVersion)

theorem map_fst_advertised (r : Registry) : r.advertised.map Prod.fst = r.names := by
  simp [advertised, names]

theorem nodup_names (r : Registry) : r.names.Nodup :=
  ChannelName.nodup_of_pairwise_lt r.pairwise_names

theorem nodup_advertised (r : Registry) : (r.advertised.map Prod.fst).Nodup := by
  rw [map_fst_advertised]
  exact r.nodup_names

end Registry

namespace Manifest

/-- The manifest of channels with their versions. -/
def ofVersions (versions : List (ChannelName × String)) : Manifest :=
  versions.map fun (name, version) => ⟨name.text, version⟩

theorem map_name_ofVersions (versions : List (ChannelName × String)) :
    (ofVersions versions).map Entry.name = (versions.map Prod.fst).map ChannelName.text := by
  simp [ofVersions]

theorem nodup_names_ofVersions {versions : List (ChannelName × String)}
    (h : (versions.map Prod.fst).Nodup) : ((ofVersions versions).map Entry.name).Nodup := by
  rw [map_name_ofVersions, List.Nodup, List.pairwise_map]
  refine h.imp ?_
  intro a b hne htext
  exact hne (ChannelName.text_injective htext)

end Manifest

namespace State

theorem advertise_of_find? {s : State} {c : Channel} (hc : s.registry.find? c.name = some c) :
    (s.advertise c.name).1 = ⟨c.name.text, c.nextVersion⟩ ∧
      (s.advertise c.name).2.registry = (s.supply c.name).2.registry ∧
      (s.advertise c.name).2.journal.calls =
        s.journal.calls ++ [.supply c.name c.nextVersion] := by
  obtain ⟨hversion, hcalls⟩ := supply_of_find? hc
  rw [advertise]
  generalize s.supply c.name = outcome at hversion hcalls ⊢
  obtain ⟨supplied, s'⟩ := outcome
  obtain rfl : supplied = some c.nextVersion := hversion
  refine ⟨rfl, ?_, ?_⟩
  · dsimp only
    split <;> rfl
  · dsimp only
    split <;> exact hcalls

/-- The invariant of the run: the channels that are still to be asked are found unchanged. -/
theorem advertiseAll_eq {channels : List Channel} {s : State} (hsorted : Channel.Sorted channels)
    (hfound : ∀ c ∈ channels, s.registry.find? c.name = some c) (done : List Entry) :
    (advertiseAll (channels.map Channel.name) done s).1 =
        done.reverse ++ channels.map (fun c => ⟨c.name.text, c.nextVersion⟩) ∧
      (advertiseAll (channels.map Channel.name) done s).2.journal.calls =
        s.journal.calls ++ channels.map fun c => .supply c.name c.nextVersion := by
  induction channels generalizing s done with
  | nil => simp [advertiseAll]
  | cons c channels ih =>
    obtain ⟨hlt, hrest⟩ := List.pairwise_cons.1 hsorted
    obtain ⟨hentry, hregistry, hcalls⟩ := advertise_of_find? (hfound c List.mem_cons_self)
    have hfound' : ∀ d ∈ channels, (s.advertise c.name).2.registry.find? d.name = some d := by
      intro d hd
      have hne : d.name ≠ c.name := fun heq => ChannelName.lt_irrefl c.name (heq ▸ hlt d hd)
      rw [hregistry]
      exact find?_supply hne (hfound d (List.mem_cons_of_mem c hd))
    obtain ⟨hentries, hcalls'⟩ := ih hrest hfound' ((s.advertise c.name).1 :: done)
    constructor
    · exact hentries.trans (by simp [hentry])
    · exact hcalls'.trans (by simp [hcalls])

theorem manifest_eq (s : State) :
    s.manifest.1 = Manifest.ofVersions s.registry.advertised ∧
      s.manifest.2.journal.calls =
        s.journal.calls ++ s.registry.advertised.map fun (name, version) => .supply name version := by
  obtain ⟨hentries, hcalls⟩ := advertiseAll_eq (s := s) s.registry.sorted
    (fun c hc => Registry.find?_of_mem hc) []
  constructor
  · exact hentries.trans (by simp [Manifest.ofVersions, Registry.advertised])
  · exact hcalls.trans (by simp [Registry.advertised])

/-- The frame of a registry is that of its manifest. -/
theorem frame_eq (s : State) (sender : Side) :
    (s.frame sender).1 = (Manifest.ofVersions s.registry.advertised).encodeFrame sender ∧
      (s.frame sender).2.journal.calls =
        s.journal.calls ++ s.registry.advertised.map fun (name, version) => .supply name version := by
  obtain ⟨hmanifest, hcalls⟩ := s.manifest_eq
  exact ⟨congrArg (Manifest.encodeFrame sender) hmanifest, hcalls⟩

end State

end ChannelHandshake
