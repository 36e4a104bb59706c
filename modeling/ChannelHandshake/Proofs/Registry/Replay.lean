import ChannelHandshake.Proofs.Registry.Growth

/-!
# What changes leave of a channel

What is found under a name depends only on the changes that are about it. A channel that is there
counts the calls of its own supplier and keeps the gatherers that are attached to it
(`find?_replay`), and a free name gets the first channel that is registered under it
(`find?_replay_of_free`).
-/

namespace ChannelHandshake

namespace Change

/-- The change is made to the channel called `name`. -/
def Touches (name : ChannelName) (change : Change) : Prop :=
  change.target? = some name

/-- The gatherer that the change attaches to the channel `name`. -/
def attachment? (name : ChannelName) : Change → Option Gatherer
  | .attach channel g => if channel = name then some g else none
  | .register _ | .supply .. | .gather .. | .note _ => none

/-- What the change tries to register. -/
def registrations : Change → List Registration
  | .register r => [r]
  | .attach .. | .supply .. | .gather .. | .note _ => []

theorem registrations_of_target? {change : Change} {name : ChannelName}
    (h : change.target? = some name) : change.registrations = [] := by
  cases change with
  | register r => cases h
  | _ => rfl

end Change

namespace Channel

/-- The gatherers that have been attached to the channel, without their runs. -/
def attached (c : Channel) : List Gatherer :=
  c.gatherers.map Attached.gatherer

/-- The channel after a change. -/
def afterChange (c : Channel) (change : Change) : Channel :=
  if change.target? = some c.name then change.update c else c

/-- The channel after several changes. -/
def afterChanges (c : Channel) (changes : List Change) : Channel :=
  changes.foldl afterChange c

/-- The changes are about the channel `c` and no other. -/
def Owns (c : Channel) (changes : List Change) : Prop :=
  ∀ change ∈ changes, ∀ name, change.Touches name → name = c.name

theorem afterChanges_append (c : Channel) (changes changes' : List Change) :
    c.afterChanges (changes ++ changes') = (c.afterChanges changes).afterChanges changes' :=
  List.foldl_append

theorem afterChange_of_touches {c : Channel} {change : Change} (h : change.Touches c.name) :
    c.afterChange change = change.update c :=
  if_pos h

theorem afterChange_of_not_touches {c : Channel} {change : Change}
    (h : ¬change.Touches c.name) : c.afterChange change = c :=
  if_neg h

theorem name_afterChange (c : Channel) (change : Change) :
    (c.afterChange change).name = c.name := by
  rw [afterChange]
  split
  · exact change.name_update c
  · rfl

theorem name_afterChanges (c : Channel) (changes : List Change) :
    (c.afterChanges changes).name = c.name := by
  induction changes generalizing c with
  | nil => rfl
  | cons change changes ih => exact (ih (c.afterChange change)).trans (c.name_afterChange change)

/-- A channel that no change touches stays as it is. -/
theorem afterChanges_of_not_touches {c : Channel} {changes : List Change}
    (h : ∀ change ∈ changes, ¬change.Touches c.name) : c.afterChanges changes = c := by
  induction changes with
  | nil => rfl
  | cons change changes ih =>
    have hfirst : c.afterChange change = c :=
      afterChange_of_not_touches (h change List.mem_cons_self)
    have hrest : c.afterChanges changes = c :=
      ih fun x hx => h x (List.mem_cons_of_mem change hx)
    calc c.afterChanges (change :: changes)
        = (c.afterChange change).afterChanges changes := rfl
      _ = c := by rw [hfirst, hrest]

theorem continues_afterChange (c : Channel) (change : Change) :
    c.Continues (c.afterChange change) := by
  rw [afterChange]
  split
  · exact change.continues_update c
  · exact .refl c

theorem continues_afterChanges (c : Channel) (changes : List Change) :
    c.Continues (c.afterChanges changes) := by
  induction changes generalizing c with
  | nil => exact .refl c
  | cons change changes ih => exact (c.continues_afterChange change).trans (ih _)

theorem attached_afterRun (index : Nat) (c : Channel) : (c.afterRun index).attached = c.attached := by
  refine List.ext_getElem? fun i => ?_
  simp only [attached, afterRun, List.getElem?_map, List.getElem?_modify]
  cases c.gatherers[i]? with
  | none => rfl
  | some a => by_cases h : index = i <;> simp [h, Attached.afterRun]

theorem attached_afterChange (c : Channel) (change : Change) :
    (c.afterChange change).attached = c.attached ++ (change.attachment? c.name).toList := by
  by_cases h : change.Touches c.name
  · rw [afterChange_of_touches h]
    cases change with
    | register r => cases h
    | note write => cases h
    | supply channel version => exact (List.append_nil _).symm
    | gather channel index => exact (attached_afterRun index c).trans (List.append_nil _).symm
    | attach channel g =>
      have hname : channel = c.name := Option.some.inj h
      simp [attached, Change.update, Change.attachment?, attach, Attached.fresh, hname]
  · rw [afterChange_of_not_touches h]
    cases change with
    | attach channel g =>
      have hname : channel ≠ c.name := fun heq => h (congrArg some heq)
      rw [Change.attachment?, if_neg hname]
      exact (List.append_nil _).symm
    | _ => exact (List.append_nil _).symm

/-- A channel has the gatherers it had and those that have been attached to it since. -/
theorem attached_afterChanges_eq (c : Channel) (changes : List Change) :
    (c.afterChanges changes).attached =
      c.attached ++ changes.filterMap (Change.attachment? c.name) := by
  induction changes generalizing c with
  | nil => exact (List.append_nil _).symm
  | cons change changes ih =>
    have hfirst : (change :: changes).filterMap (Change.attachment? c.name) =
        (change.attachment? c.name).toList ++
          changes.filterMap (Change.attachment? c.name) := by
      rw [List.filterMap_cons]
      cases change.attachment? c.name <;> rfl
    calc (c.afterChanges (change :: changes)).attached
      _ = ((c.afterChange change).afterChanges changes).attached := rfl
      _ = c.attached ++ (change.attachment? c.name).toList ++
          changes.filterMap (Change.attachment? c.name) := by
        rw [ih, attached_afterChange, name_afterChange]
      _ = c.attached ++ (change :: changes).filterMap (Change.attachment? c.name) := by
        rw [hfirst, List.append_assoc]

/-- What has been attached to a channel stays in its place. -/
theorem attached_afterChanges (c : Channel) (changes : List Change) :
    c.attached <+: (c.afterChanges changes).attached := by
  rw [attached_afterChanges_eq]
  exact List.prefix_append _ _

/-- Of several changes the first is made to the channel before the others. -/
theorem afterChanges_cons {c : Channel} {change : Change} {changes : List Change}
    (h : change.Touches c.name) :
    c.afterChanges (change :: changes) = (change.update c).afterChanges changes := by
  rw [← afterChange_of_touches h]
  rfl

/-- Of changes that are made channel by channel a channel keeps its own. -/
theorem afterChanges_flatMap {channels : List Channel} {changesOf : Channel → List Change}
    (hsorted : Sorted channels) (hown : ∀ d : Channel, d.Owns (changesOf d)) {c : Channel}
    (hc : c ∈ channels) :
    c.afterChanges (channels.flatMap changesOf) = c.afterChanges (changesOf c) := by
  obtain ⟨before, after, rfl⟩ := List.append_of_mem hc
  have hdistinct : ∀ d, d ∈ before ∨ d ∈ after → d.name ≠ c.name := by
    rw [Sorted, List.pairwise_append, List.pairwise_cons] at hsorted
    obtain ⟨-, ⟨hafter, -⟩, hbefore⟩ := hsorted
    rintro d (hd | hd) heq
    · exact ChannelName.lt_irrefl c.name (heq ▸ hbefore d hd c List.mem_cons_self)
    · exact ChannelName.lt_irrefl c.name (heq ▸ hafter d hd)
  have huntouched : ∀ ds : List Channel, (∀ d ∈ ds, d ∈ before ∨ d ∈ after) →
      ∀ change ∈ ds.flatMap changesOf, ¬change.Touches c.name := by
    intro ds hds change hchange htouches
    obtain ⟨d, hd, hmem⟩ := List.mem_flatMap.1 hchange
    exact hdistinct d (hds d hd) (hown d change hmem _ htouches).symm
  rw [List.flatMap_append, List.flatMap_cons, afterChanges_append, afterChanges_append,
    afterChanges_of_not_touches (huntouched before fun d hd => .inl hd)]
  refine afterChanges_of_not_touches ?_
  rw [name_afterChanges]
  exact huntouched after fun d hd => .inr hd

end Channel

namespace State

theorem find?_change {s : State} {name : ChannelName} {c : Channel}
    (hc : s.registry.find? name = some c) (change : Change) :
    (s.change change).registry.find? name = some (c.afterChange change) := by
  have hname : c.name = name := (Registry.find?_eq_some_iff.1 hc).2
  cases htarget : change.target? with
  | some channel =>
    rw [s.registry_change htarget, Channel.afterChange, htarget, hname]
    by_cases heq : channel = name
    · rw [if_pos (congrArg some heq), heq]
      exact Registry.find?_modify_self change.name_update hc
    · rw [if_neg fun h => heq (Option.some.inj h)]
      exact Registry.find?_modify_of_ne change.name_update (Ne.symm heq) hc
  | none =>
    rw [Channel.afterChange, htarget, if_neg nofun]
    rcases Change.of_target?_eq_none htarget with ⟨r, rfl⟩ | ⟨write, rfl⟩
    · exact find?_register hc r
    · exact hc

theorem find?_replay {s : State} {name : ChannelName} {c : Channel}
    (hc : s.registry.find? name = some c) (changes : List Change) :
    (s.replay changes).registry.find? name = some (c.afterChanges changes) := by
  induction changes generalizing s c with
  | nil => exact hc
  | cons change changes ih => exact ih (find?_change hc change)

/-- A change that registers nothing is made to the channels that are there. -/
theorem channels_change (s : State) {change : Change} (h : change.registrations = []) :
    (s.change change).registry.channels = s.registry.channels.map (·.afterChange change) := by
  cases htarget : change.target? with
  | some name =>
    rw [s.registry_change htarget, Registry.modify]
    refine List.map_congr_left fun c _ => ?_
    simp only [Channel.afterChange, htarget, Option.some.injEq, eq_comm]
  | none =>
    have hsame : ∀ c : Channel, c.afterChange change = c :=
      fun c => Channel.afterChange_of_not_touches (by simp [Change.Touches, htarget])
    rcases Change.of_target?_eq_none htarget with ⟨r, rfl⟩ | ⟨write, rfl⟩
    · cases h
    · rw [List.map_congr_left fun c _ => hsame c, List.map_id']
      rfl

theorem channels_replay (s : State) {changes : List Change}
    (h : changes.flatMap Change.registrations = []) :
    (s.replay changes).registry.channels = s.registry.channels.map (·.afterChanges changes) := by
  induction changes generalizing s with
  | nil => exact (List.map_id' _).symm
  | cons change changes ih =>
    obtain ⟨hfirst, hrest⟩ := List.append_eq_nil_iff.1 h
    rw [replay_cons, ih _ hrest, channels_change s hfirst, List.map_map]
    rfl

theorem find?_change_of_free {s : State} {name : ChannelName}
    (hfree : s.registry.find? name = none) (change : Change) :
    (s.change change).registry.find? name =
      (change.registrations.find? (·.name = name)).map .ofRegistration := by
  rw [Registry.find?_eq_none_iff] at hfree
  cases htarget : change.target? with
  | some channel =>
    have hnames := s.registry.names_modify channel change.update change.name_update
    rw [s.registry_change htarget, Change.registrations_of_target? htarget]
    exact Registry.find?_eq_none_iff.2 (hnames ▸ hfree)
  | none =>
    rcases Change.of_target?_eq_none htarget with ⟨r, rfl⟩ | ⟨write, rfl⟩
    · rw [change, Change.registrations, List.find?_singleton]
      rcases s.register_cases r with ⟨htaken, -, hsame⟩ | ⟨-, -, hinsert⟩
      · have hne : r.name ≠ name := fun heq => hfree (heq ▸ htaken)
        rw [hsame, if_neg (by simpa using hne)]
        exact Registry.find?_eq_none_iff.2 hfree
      · by_cases heq : r.name = name
        · rw [if_pos (by simpa using heq)]
          exact Registry.find?_eq_some_iff.2 ⟨(Registry.mem_insert? hinsert).2 (.inl rfl), heq⟩
        · rw [if_neg (by simpa using heq)]
          refine Registry.find?_eq_none_iff.2 fun hmem => ?_
          obtain ⟨c, hc, hname⟩ := List.mem_map.1 hmem
          rcases (Registry.mem_insert? hinsert).1 hc with rfl | hc
          · exact heq hname
          · exact hfree (List.mem_map.2 ⟨c, hc, hname⟩)
    · exact Registry.find?_eq_none_iff.2 hfree

/-- A name that is free goes to the first channel that is registered under it. -/
theorem find?_replay_of_free {s : State} {name : ChannelName}
    (hfree : s.registry.find? name = none) {changes : List Change}
    (h : ∀ change ∈ changes, ¬change.Touches name) :
    (s.replay changes).registry.find? name =
      ((changes.flatMap Change.registrations).find? (·.name = name)).map .ofRegistration := by
  induction changes generalizing s with
  | nil => exact hfree
  | cons change changes ih =>
    have hfirst := find?_change_of_free hfree change
    have hrest : ∀ x ∈ changes, ¬x.Touches name :=
      fun x hx => h x (List.mem_cons_of_mem change hx)
    rw [replay_cons, List.flatMap_cons, List.find?_append]
    cases hr : change.registrations.find? (·.name = name) with
    | none =>
      rw [hr] at hfirst
      rw [Option.none_or]
      exact ih hfirst hrest
    | some r =>
      rw [hr] at hfirst
      have hname : r.name = name := by simpa using List.find?_some hr
      rw [find?_replay hfirst, Option.some_or, Option.map_some,
        Channel.afterChanges_of_not_touches]
      intro x hx
      rw [Channel.ofRegistration, hname]
      exact hrest x hx

end State

end ChannelHandshake
