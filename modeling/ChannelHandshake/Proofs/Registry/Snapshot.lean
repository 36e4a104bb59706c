import ChannelHandshake.Proofs.Registry.Advertisement
import ChannelHandshake.Proofs.Registry.Gatherer

/-!
# Behaviours see a snapshot

A manifest asks the suppliers of the channels that are registered when it starts, and a gather runs
the gatherers that these channels have by then. What a behaviour registers or attaches meanwhile is
never asked: each change is about the channel whose turn it is or adds a new one, so the channels
still to be asked are found unchanged (`find?_replay_of_owns`). Hence all the changes of a manifest
and of a gather can be read off the registry at their start (`manifestChanges_eq`,
`gatherChanges_eq`), and a gather comes to an end even if every gatherer attaches itself again.
-/

namespace ChannelHandshake

/-! ## The changes of one channel -/

namespace Channel

/-- What the supplier tries to register when it is called next. -/
def nextRegistrations (c : Channel) : List Registration :=
  (c.supplier.call c.supplied).2

/-- The changes while the channel is asked for its entry. -/
def advertiseChanges (c : Channel) : List Change :=
  .supply c.name c.nextVersion :: c.nextRegistrations.map .register ++
    if c.nextVersion = absent then [.note (·.log [.suppliedAbsent c.name])] else []

/-- How many of the gatherers do not succeed in their next run. -/
def failures (c : Channel) : Nat :=
  c.gatherers.countP fun a => !a.succeeds

/-- What the gatherers that succeed in their next run push, in the order of their attachment. -/
def contribution (c : Channel) : List LoginPayload :=
  (c.gatherers.filter Attached.succeeds).flatMap (·.pushed c.name)

/-- The changes while the channel is asked for its payloads. -/
def gatherChanges (c : Channel) : List Change :=
  (c.gatherers.zipIdx.flatMap fun (a, index) => a.changes c.name index) ++
    if c.failures = 0 then [] else [.note (·.count (.gatherFailures c.name) c.failures)]

/-- The channel when each of its gatherers has run once more. What they have attached meanwhile
has not run. -/
def afterGather (c : Channel) : Channel :=
  { c with gatherers :=
      c.gatherers.map .afterRun ++ (c.gatherers.flatMap Attached.attachments).map .fresh }

/-- What follows the call of the supplier is made to no channel that is there. -/
theorem not_touches_after_supply {c : Channel} {change : Change}
    (h : change ∈ c.nextRegistrations.map .register ++
      if c.nextVersion = absent then [.note (·.log [.suppliedAbsent c.name])] else [])
    (name : ChannelName) : ¬change.Touches name := by
  intro htouches
  rcases List.mem_append.1 h with h | h
  · obtain ⟨r, -, rfl⟩ := List.mem_map.1 h
    cases htouches
  · split at h
    · rw [List.mem_singleton.1 h] at htouches
      cases htouches
    · simp at h

theorem owns_advertiseChanges (c : Channel) : c.Owns c.advertiseChanges := by
  intro change hchange name htouches
  rw [advertiseChanges, List.cons_append] at hchange
  rcases List.mem_cons.1 hchange with rfl | hchange
  · exact (Option.some.inj htouches).symm
  · exact absurd htouches (not_touches_after_supply hchange name)

theorem owns_gatherChanges (c : Channel) : c.Owns c.gatherChanges := by
  intro change hchange name htouches
  rcases List.mem_append.1 hchange with hchange | hchange
  · obtain ⟨⟨a, index⟩, -, hmem⟩ := List.mem_flatMap.1 hchange
    exact Attached.touches_changes hmem htouches
  · split at hchange
    · simp at hchange
    · rw [List.mem_singleton.1 hchange] at htouches
      cases htouches

theorem registrations_advertiseChanges (c : Channel) :
    c.advertiseChanges.flatMap Change.registrations = c.nextRegistrations := by
  have hregister : (c.nextRegistrations.map Change.register).flatMap Change.registrations =
      c.nextRegistrations := by
    simp [List.flatMap_map, Change.registrations]
  rw [advertiseChanges, List.flatMap_append, List.flatMap_cons, hregister]
  split <;> simp [Change.registrations]

theorem afterChanges_advertiseChanges (c : Channel) :
    c.afterChanges c.advertiseChanges = c.afterSupply := by
  have hsupply : ∀ changes, c.afterChanges (.supply c.name c.nextVersion :: changes) =
      c.afterSupply.afterChanges changes := fun _ => afterChanges_cons rfl
  rw [advertiseChanges, List.cons_append, hsupply]
  exact afterChanges_of_not_touches fun _ hchange =>
    not_touches_after_supply hchange c.afterSupply.name

theorem registrations_gatherChanges (c : Channel) :
    c.gatherChanges.flatMap Change.registrations =
      c.gatherers.flatMap Attached.registrations := by
  have hgatherers : ∀ (gatherers : List Attached) (index : Nat),
      ((gatherers.zipIdx index).flatMap fun (a, i) => a.changes c.name i).flatMap
        Change.registrations = gatherers.flatMap Attached.registrations := by
    intro gatherers
    induction gatherers with
    | nil => intro index; rfl
    | cons a rest ih =>
      intro index
      rw [List.zipIdx_cons, List.flatMap_cons, List.flatMap_append, ih,
        Attached.registrations_changes, List.flatMap_cons]
  rw [gatherChanges, List.flatMap_append, hgatherers]
  split <;> simp [Change.registrations]

/-- The gatherers from the one whose turn it is: those before it, `done`, have run, and `added` are
those that have been attached meanwhile. -/
theorem afterChanges_gatherers (c : Channel) (done rest added : List Attached)
    (h : c.gatherers = done ++ rest ++ added) :
    c.afterChanges ((rest.zipIdx done.length).flatMap fun (a, index) => a.changes c.name index) =
      { c with gatherers :=
          done ++ rest.map .afterRun ++
            (added ++ (rest.flatMap Attached.attachments).map .fresh) } := by
  induction rest generalizing c done added with
  | nil =>
    rw [List.append_nil] at h
    simp [afterChanges, ← h]
  | cons a rest ih =>
    have hrun : c.gatherers.modify done.length .afterRun ++ a.attachments.map .fresh =
        done ++ [a.afterRun] ++ rest ++ (added ++ a.attachments.map .fresh) := by
      simp [h, List.modify_eq_take_cons_drop]
    have hrest := ih
      { c with
        gatherers := c.gatherers.modify done.length .afterRun ++ a.attachments.map .fresh }
      (done ++ [a.afterRun]) (added ++ a.attachments.map .fresh) hrun
    rw [List.length_append, List.length_singleton] at hrest
    rw [List.zipIdx_cons, List.flatMap_cons, afterChanges_append, a.afterChanges_changes]
    refine hrest.trans ?_
    simp

theorem afterChanges_gatherChanges (c : Channel) :
    c.afterChanges c.gatherChanges = c.afterGather := by
  have hgatherers : c.afterChanges
      (c.gatherers.zipIdx.flatMap fun (a, index) => a.changes c.name index) = c.afterGather := by
    simpa [afterGather] using c.afterChanges_gatherers [] c.gatherers [] (by simp)
  have hnote : ∀ d : Channel, d.afterChanges
      (if c.failures = 0 then []
        else [.note (·.count (.gatherFailures c.name) c.failures)]) = d := by
    intro d
    split <;> rfl
  rw [gatherChanges, afterChanges_append, hgatherers, hnote]

end Channel

namespace Registry

/-- What the suppliers try to register when each of them is called once, in order. -/
def nextRegistrations (r : Registry) : List Registration :=
  r.channels.flatMap Channel.nextRegistrations

/-- What the gatherers try to register when each of them runs once, in order. -/
def gathererRegistrations (r : Registry) : List Registration :=
  r.channels.flatMap fun c => c.gatherers.flatMap Attached.registrations

/-- The calls of the gatherers when each of them runs once, in order. -/
def gathererCalls (r : Registry) : List Call :=
  r.channels.flatMap fun c => (List.range c.gatherers.length).map (.gather c.name)

/-- What the gatherers yield when each of them runs once. -/
def harvest (r : Registry) : State.Harvest :=
  ⟨r.channels.flatMap Channel.contribution,
    (r.channels.flatMap Channel.gatherers).countP fun a => !a.succeeds⟩

end Registry

namespace State

/-! ## One channel after the other -/

section Turns

variable {c : Channel} {channels : List Channel} {s : State} {changes : List Change}

/-- The invariant of the run: the channels still to be asked are found unchanged. -/
theorem find?_replay_of_owns (hsorted : Channel.Sorted (c :: channels))
    (hfound : ∀ d ∈ c :: channels, s.registry.find? d.name = some d) (hown : c.Owns changes) :
    ∀ d ∈ channels, (s.replay changes).registry.find? d.name = some d := by
  intro d hd
  have hlt : c.name < d.name := (List.pairwise_cons.1 hsorted).1 d hd
  have hne : d.name ≠ c.name := fun heq => ChannelName.lt_irrefl c.name (heq ▸ hlt)
  have hsame : d.afterChanges changes = d :=
    Channel.afterChanges_of_not_touches fun change hchange htouches =>
      hne (hown change hchange _ htouches)
  rw [find?_replay (hfound d (List.mem_cons_of_mem c hd)), hsame]

theorem advertiseChanges_of_find? (hc : s.registry.find? c.name = some c) :
    s.advertiseChanges c.name = c.advertiseChanges := by
  have hversion := (supply_of_find? hc).1
  rw [advertiseChanges, supplyChanges, hversion, hc]
  rfl

theorem advertiseAllChanges_eq (hsorted : Channel.Sorted channels)
    (hfound : ∀ d ∈ channels, s.registry.find? d.name = some d) :
    advertiseAllChanges (channels.map Channel.name) s =
      channels.flatMap Channel.advertiseChanges := by
  induction channels generalizing s with
  | nil => rfl
  | cons c channels ih =>
    have hchanges := advertiseChanges_of_find? (hfound c List.mem_cons_self)
    have hstate : (s.advertise c.name).2 = s.replay c.advertiseChanges := by
      rw [← hchanges, replay_advertiseChanges]
    have hfound' := find?_replay_of_owns hsorted hfound c.owns_advertiseChanges
    rw [List.map_cons, advertiseAllChanges, hchanges, hstate,
      ih (List.pairwise_cons.1 hsorted).2 hfound', List.flatMap_cons]

theorem fst_gatherChannel_of_find? (hc : s.registry.find? c.name = some c) (h : Harvest) :
    (gatherChannel c.name h s).1 =
      ⟨h.payloads ++ c.contribution, h.failures + c.failures⟩ := by
  rw [gatherChannel, hc]
  exact fst_runGatherers c.name 0 c.gatherers h s

theorem gatherChannelChanges_of_find? (hc : s.registry.find? c.name = some c) (h : Harvest) :
    gatherChannelChanges c.name h s = c.gatherChanges := by
  rw [gatherChannelChanges, fst_gatherChannel_of_find? hc, hc, Nat.add_sub_cancel_left]
  exact congrArg (· ++ _) (gatherersChanges_eq c.name 0 c.gatherers s)

/-- What is gathered from channels and what happens meanwhile, both read off the channels. -/
theorem gatherChannels_eq (hsorted : Channel.Sorted channels)
    (hfound : ∀ d ∈ channels, s.registry.find? d.name = some d) (h : Harvest) :
    (gatherChannels (channels.map Channel.name) h s).1 =
        ⟨h.payloads ++ channels.flatMap Channel.contribution,
          h.failures + (channels.flatMap Channel.gatherers).countP fun a => !a.succeeds⟩ ∧
      gatherChannelsChanges (channels.map Channel.name) h s =
        channels.flatMap Channel.gatherChanges := by
  induction channels generalizing s h with
  | nil => simp [gatherChannels, gatherChannelsChanges]
  | cons c channels ih =>
    have hc := hfound c List.mem_cons_self
    have hchanges := gatherChannelChanges_of_find? hc h
    have hstate : (gatherChannel c.name h s).2 = s.replay c.gatherChanges := by
      rw [← hchanges, replay_gatherChannelChanges]
    have hfound' := find?_replay_of_owns hsorted hfound c.owns_gatherChanges
    obtain ⟨hharvest, hrest⟩ := ih (List.pairwise_cons.1 hsorted).2 hfound'
      (gatherChannel c.name h s).1
    constructor
    · have hstep : gatherChannels ((c :: channels).map Channel.name) h s =
          gatherChannels (channels.map Channel.name) (gatherChannel c.name h s).1
            (gatherChannel c.name h s).2 := rfl
      rw [hstep, hstate, hharvest, fst_gatherChannel_of_find? hc]
      simp [Channel.failures, Nat.add_assoc]
    · rw [List.map_cons, gatherChannelsChanges, hchanges, hstate, hrest, List.flatMap_cons]

end Turns

/-! ## The whole run -/

theorem manifestChanges_eq (s : State) :
    s.manifestChanges = s.registry.channels.flatMap Channel.advertiseChanges ++
      [.note (·.log [.manifestBuilt s.manifest.1.length])] := by
  have hchanges := advertiseAllChanges_eq (s := s) s.registry.sorted
    fun d hd => Registry.find?_of_mem hd
  rw [manifestChanges, Registry.names, hchanges]

theorem fst_gatherChannels (s : State) :
    (gatherChannels s.registry.names ⟨[], 0⟩ s).1 = s.registry.harvest := by
  have hharvest := (gatherChannels_eq (s := s) s.registry.sorted
    (fun d hd => Registry.find?_of_mem hd) ⟨[], 0⟩).1
  rw [Registry.names, hharvest, Registry.harvest, List.nil_append, Nat.zero_add]

theorem gatherChanges_eq (s : State) :
    s.gatherChanges .loginToClient = s.registry.channels.flatMap Channel.gatherChanges ++
      [.note fun j =>
        (j.log [.gathered s.registry.harvest.payloads.length s.registry.harvest.failures]).count
          .payloads s.registry.harvest.payloads.length] := by
  have hchanges := (gatherChannels_eq (s := s) s.registry.sorted
    (fun d hd => Registry.find?_of_mem hd) ⟨[], 0⟩).2
  rw [gatherChanges, if_pos rfl, fst_gatherChannels]
  exact congrArg (· ++ _) hchanges

/-- What is found after changes that each channel of the registry makes in its turn. -/
theorem find?_replay_channels (s : State) {changesOf : Channel → List Change}
    (hown : ∀ c : Channel, c.Owns (changesOf c)) (write : Journal → Journal) (name : ChannelName) :
    (s.replay (s.registry.channels.flatMap changesOf ++ [.note write])).registry.find? name =
      match s.registry.find? name with
      | some c => some (c.afterChanges (changesOf c))
      | none =>
        ((s.registry.channels.flatMap fun c =>
          (changesOf c).flatMap Change.registrations).find? (·.name = name)).map
            .ofRegistration := by
  have hnote : ∀ s : State, (s.replay [.note write]).registry = s.registry := fun _ => rfl
  rw [replay_append, hnote]
  cases hfind : s.registry.find? name with
  | some c =>
    have hc : c ∈ s.registry.channels := (Registry.find?_eq_some_iff.1 hfind).1
    rw [find?_replay hfind, Channel.afterChanges_flatMap s.registry.sorted hown hc]
  | none =>
    have huntouched : ∀ change ∈ s.registry.channels.flatMap changesOf,
        ¬change.Touches name := by
      intro change hchange htouches
      obtain ⟨c, hc, hmem⟩ := List.mem_flatMap.1 hchange
      have hname : name = c.name := hown c change hmem name htouches
      rw [hname, Registry.find?_of_mem hc] at hfind
      simp at hfind
    rw [find?_replay_of_free hfind huntouched, List.flatMap_assoc]

theorem find?_manifest (s : State) (name : ChannelName) :
    s.manifest.2.registry.find? name =
      match s.registry.find? name with
      | some c => some c.afterSupply
      | none => (s.registry.nextRegistrations.find? (·.name = name)).map .ofRegistration := by
  rw [← replay_manifestChanges, manifestChanges_eq,
    s.find?_replay_channels Channel.owns_advertiseChanges]
  simp only [Channel.afterChanges_advertiseChanges, Channel.registrations_advertiseChanges]
  rfl

theorem find?_gather (s : State) (name : ChannelName) :
    (s.gather .loginToClient).2.registry.find? name =
      match s.registry.find? name with
      | some c => some c.afterGather
      | none =>
        (s.registry.gathererRegistrations.find? (·.name = name)).map .ofRegistration := by
  rw [← replay_gatherChanges, gatherChanges_eq,
    s.find?_replay_channels Channel.owns_gatherChanges]
  simp only [Channel.afterChanges_gatherChanges, Channel.registrations_gatherChanges]
  rfl

/-- Gatherers that register nothing leave the channels that there are. -/
theorem channels_gather {s : State} (h : s.registry.gathererRegistrations = []) :
    (s.gather .loginToClient).2.registry.channels =
      s.registry.channels.map Channel.afterGather := by
  have hchanges : (s.registry.channels.flatMap Channel.gatherChanges).flatMap
      Change.registrations = [] := by
    rw [List.flatMap_assoc]
    simp only [Channel.registrations_gatherChanges]
    exact h
  have hnote : ∀ (s : State) (write : Journal → Journal),
      (s.replay [.note write]).registry = s.registry := fun _ _ => rfl
  rw [← replay_gatherChanges, gatherChanges_eq, replay_append, hnote, channels_replay s hchanges]
  refine List.map_congr_left fun c hc => ?_
  rw [Channel.afterChanges_flatMap s.registry.sorted Channel.owns_gatherChanges hc,
    Channel.afterChanges_gatherChanges]

/-! ## The calls of a gather -/

/-- Calls are recorded in the order in which their changes are made. -/
theorem calls_replay_flatMap {α : Type} {as : List α} (changesOf : α → List Change)
    (callsOf : α → List Call)
    (h : ∀ a ∈ as, ∀ s : State,
      (s.replay (changesOf a)).journal.calls = s.journal.calls ++ callsOf a) (s : State) :
    (s.replay (as.flatMap changesOf)).journal.calls = s.journal.calls ++ as.flatMap callsOf := by
  induction as generalizing s with
  | nil => simp [replay]
  | cons a as ih =>
    have hrest := ih (fun b hb => h b (List.mem_cons_of_mem a hb)) (s.replay (changesOf a))
    rw [List.flatMap_cons, replay_append, hrest, h a List.mem_cons_self, List.flatMap_cons,
      List.append_assoc]

theorem calls_replay_gatherChanges (c : Channel) (s : State) :
    (s.replay c.gatherChanges).journal.calls =
      s.journal.calls ++ (List.range c.gatherers.length).map (.gather c.name) := by
  have hgatherer : ∀ p ∈ c.gatherers.zipIdx, ∀ s : State,
      (s.replay (p.1.changes c.name p.2)).journal.calls =
        s.journal.calls ++ [.gather c.name p.2] :=
    fun p _ s => p.1.calls_replay_changes c.name p.2 s
  have hgatherers := calls_replay_flatMap
    (fun ((a, index) : Attached × Nat) => a.changes c.name index)
    (fun (_, index) => [.gather c.name index]) hgatherer s
  have hnote : ∀ s : State, (s.replay (if c.failures = 0 then []
      else [.note (·.count (.gatherFailures c.name) c.failures)])).journal.calls =
        s.journal.calls := by
    intro s
    split <;> rfl
  have hindices : c.gatherers.zipIdx.flatMap (fun (_, index) => [Call.gather c.name index]) =
      (List.range c.gatherers.length).map (.gather c.name) := by
    rw [List.range_eq_range', ← List.zipIdx_map_snd 0 c.gatherers, List.map_map,
      List.map_eq_flatMap]
    rfl
  rw [Channel.gatherChanges, replay_append, hnote, hgatherers, hindices]

theorem calls_gather (s : State) :
    (s.gather .loginToClient).2.journal.calls = s.journal.calls ++ s.registry.gathererCalls := by
  rw [← replay_gatherChanges, gatherChanges_eq, replay_append]
  exact calls_replay_flatMap _ _ (fun c _ => calls_replay_gatherChanges c) s

end State

namespace Registry

theorem nodup_gathererCalls (r : Registry) : r.gathererCalls.Nodup := by
  rw [gathererCalls, List.Nodup, List.pairwise_flatMap]
  constructor
  · intro c hc
    rw [List.pairwise_map]
    refine List.nodup_range.imp ?_
    intro i j hne heq
    exact hne (Call.gather.inj heq).2
  · refine r.sorted.imp ?_
    intro c d hlt call hcall call' hcall' heq
    obtain ⟨i, -, rfl⟩ := List.mem_map.1 hcall
    obtain ⟨j, -, rfl⟩ := List.mem_map.1 hcall'
    exact ChannelName.lt_irrefl d.name ((Call.gather.inj heq).1 ▸ hlt)

/-- Each gatherer of each channel is called once. -/
theorem count_gathererCalls {r : Registry} {c : Channel} (hc : c ∈ r.channels) {index : Nat}
    (hindex : index < c.gatherers.length) :
    r.gathererCalls.count (.gather c.name index) = 1 := by
  have hcall : Call.gather c.name index ∈ r.gathererCalls :=
    List.mem_flatMap.2 ⟨c, hc, List.mem_map_of_mem (List.mem_range.2 hindex)⟩
  rw [r.nodup_gathererCalls.count, if_pos hcall]

end Registry

/-- A registered channel has one entry in the manifest. -/
theorem State.count_manifest {s : State} {name : ChannelName} (h : name ∈ s.registry.names) :
    (s.manifest.1.map Entry.name).count name.text = 1 := by
  have hentry : name.text ∈ s.manifest.1.map Entry.name := by
    rw [s.manifest_eq.1, Manifest.map_name_ofVersions, Registry.map_fst_advertised]
    exact List.mem_map_of_mem h
  have hnodup : (s.manifest.1.map Entry.name).Nodup := by
    rw [s.manifest_eq.1]
    exact Manifest.nodup_names_ofVersions s.registry.nodup_advertised
  rw [hnodup.count, if_pos hentry]

/-- Behaviours that act on the registry while it asks them see it change, but the registry asks
those that were there at the start. A manifest has one entry for each channel of the start, from
one call of its supplier, and what suppliers register meanwhile is found afterwards and listed by
every later manifest. A gather runs each gatherer of the start once, so it ends whatever these
attach, itself included, and what they register and attach is found afterwards and has its turn in
every later gather. -/
theorem snapshot_of_behaviours (s : State) :
    let manifested := s.manifest.2
    let gathered := (s.gather .loginToClient).2
    (s.manifest.1 = .ofVersions s.registry.advertised ∧
      s.registry.advertised.map Prod.fst = s.registry.names ∧
      s.registry.names.Pairwise (· < ·) ∧
      manifested.journal.calls = s.journal.calls ++
        s.registry.advertised.map (fun (name, version) => .supply name version) ∧
      (∀ name, manifested.registry.find? name =
        match s.registry.find? name with
        | some c => some c.afterSupply
        | none => (s.registry.nextRegistrations.find? (·.name = name)).map .ofRegistration) ∧
      ∀ later : List Change, ∀ name ∈ manifested.registry.names,
        ((manifested.replay later).manifest.1.map Entry.name).count name.text = 1) ∧
    gathered.journal.calls = s.journal.calls ++ s.registry.gathererCalls ∧
    (∀ c ∈ s.registry.channels, ∀ index < c.gatherers.length,
      s.registry.gathererCalls.count (.gather c.name index) = 1) ∧
    (∀ name, gathered.registry.find? name =
      match s.registry.find? name with
      | some c => some c.afterGather
      | none =>
        (s.registry.gathererRegistrations.find? (·.name = name)).map .ofRegistration) ∧
    ∀ later : List Change, ∀ c ∈ gathered.registry.channels,
      let next := gathered.replay later
      ∃ c' ∈ next.registry.channels, c'.name = c.name ∧ c.attached <+: c'.attached ∧
        (next.gather .loginToClient).2.journal.calls =
          next.journal.calls ++ next.registry.gathererCalls ∧
        ∀ index < c'.gatherers.length,
          next.registry.gathererCalls.count (.gather c'.name index) = 1 := by
  intro manifested gathered
  obtain ⟨hentries, hcalls⟩ := s.manifest_eq
  refine ⟨⟨hentries, s.registry.map_fst_advertised, s.registry.pairwise_names, hcalls,
    s.find?_manifest, ?_⟩, s.calls_gather, ?_, s.find?_gather, ?_⟩
  · intro later name hname
    exact State.count_manifest ((Registry.KeptIn.replay manifested later).names_subset hname)
  · intro c hc index hindex
    exact Registry.count_gathererCalls hc hindex
  · intro later c hc next
    have hfound : next.registry.find? c.name = some (c.afterChanges later) :=
      State.find?_replay (Registry.find?_of_mem hc) later
    obtain ⟨hmem, hname⟩ := Registry.find?_eq_some_iff.1 hfound
    refine ⟨c.afterChanges later, hmem, hname, c.attached_afterChanges later,
      next.calls_gather, ?_⟩
    intro index hindex
    exact Registry.count_gathererCalls hmem hindex

end ChannelHandshake
