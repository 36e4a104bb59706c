import ChannelHandshake.Registry.Operation

/-!
# The changes that operations are made of

Operations call behaviours, and behaviours act on the registry while they run. Every operation,
with all that its behaviours do, is a list of changes, one after the other, each of which nothing
interrupts: `replay_changes` for one operation, `replay_runChanges` for a run of several. So the
states after the first changes of a run are the points through which it passes, those inside its
operations included.
-/

namespace ChannelHandshake

/-- A change that nothing interrupts. -/
inductive Change where
  /-- A channel is registered, unless its name is taken. -/
  | register (registration : Registration)
  | attach (channel : ChannelName) (gatherer : Gatherer)
  /-- The supplier of a channel is called and will return `version`. -/
  | supply (channel : ChannelName) (version : String)
  /-- The gatherer number `index` of a channel is called. -/
  | gather (channel : ChannelName) (index : Nat)
  /-- Something is written to the journal. -/
  | note (write : Journal → Journal)

namespace Change

/-- The channel that the change is made to, if it is made to one. -/
def target? : Change → Option ChannelName
  | .attach channel _ | .supply channel _ | .gather channel _ => some channel
  | .register _ | .note _ => none

/-- What the change makes of the channel that it is made to. -/
def update : Change → Channel → Channel
  | .attach _ g, c => c.attach g
  | .supply .., c => c.afterSupply
  | .gather _ index, c => c.afterRun index
  | .register _, c | .note _, c => c

theorem name_update (change : Change) (c : Channel) : (change.update c).name = c.name := by
  cases change <;> rfl

/-- A change that is made to no channel adds one or writes to the journal. -/
theorem of_target?_eq_none {change : Change} (h : change.target? = none) :
    (∃ r, change = .register r) ∨ ∃ write, change = .note write := by
  cases change with
  | register r => exact .inl ⟨r, rfl⟩
  | note write => exact .inr ⟨write, rfl⟩
  | _ => cases h

end Change

namespace State

/-- The state after a change. -/
def change (s : State) : Change → State
  | .register r => (s.register r).2
  | .attach channel g => (s.attach channel g).2
  | .supply channel version =>
    ⟨s.registry.afterSupply channel, s.journal.recordCalls [.supply channel version]⟩
  | .gather channel index => s.startRun channel index
  | .note write => { s with journal := write s.journal }

/-- The state after several changes. -/
def replay (s : State) (changes : List Change) : State :=
  changes.foldl change s

/-- A change that is made to a channel changes nothing else in the registry. -/
theorem registry_change (s : State) {change : Change} {name : ChannelName}
    (h : change.target? = some name) :
    (s.change change).registry = s.registry.modify name change.update change.name_update := by
  cases change <;> cases h <;> rfl

theorem replay_cons (s : State) (change : Change) (changes : List Change) :
    s.replay (change :: changes) = (s.change change).replay changes := rfl

theorem replay_append (s : State) (changes changes' : List Change) :
    s.replay (changes ++ changes') = (s.replay changes).replay changes' :=
  List.foldl_append

theorem replay_map_register (s : State) (registrations : List Registration) :
    s.replay (registrations.map .register) = s.attempt registrations :=
  List.foldl_map

/-! ## Suppliers -/

/-- The changes of a call of a supplier: first it is counted, then it registers. -/
def supplyChanges (s : State) (name : ChannelName) : List Change :=
  match s.registry.find? name with
  | none => []
  | some c =>
    let (version, registrations) := c.supplier.call c.supplied
    .supply name version :: registrations.map .register

theorem replay_supplyChanges (s : State) (name : ChannelName) :
    s.replay (s.supplyChanges name) = (s.supply name).2 := by
  rw [supplyChanges, supply]
  cases s.registry.find? name with
  | none => rfl
  | some c => exact replay_map_register _ _

/-- The changes while a channel is asked for its entry. -/
def advertiseChanges (s : State) (name : ChannelName) : List Change :=
  s.supplyChanges name ++
    if (s.supply name).1.getD absent = absent then [.note (·.log [.suppliedAbsent name])] else []

theorem replay_advertiseChanges (s : State) (name : ChannelName) :
    s.replay (s.advertiseChanges name) = (s.advertise name).2 := by
  rw [advertiseChanges, replay_append, replay_supplyChanges, advertise]
  dsimp only
  split <;> rfl

/-- The changes while several channels are asked, each of them in the state after the one before. -/
def advertiseAllChanges : List ChannelName → State → List Change
  | [], _ => []
  | name :: rest, s => s.advertiseChanges name ++ advertiseAllChanges rest (s.advertise name).2

theorem replay_advertiseAllChanges (names : List ChannelName) (done : List Entry) (s : State) :
    s.replay (advertiseAllChanges names s) = (advertiseAll names done s).2 := by
  induction names generalizing done s with
  | nil => rfl
  | cons name names ih =>
    rw [advertiseAllChanges, replay_append, replay_advertiseChanges]
    exact ih _ _

/-- The changes while the manifest is made. -/
def manifestChanges (s : State) : List Change :=
  advertiseAllChanges s.registry.names s ++
    [.note (·.log [.manifestBuilt s.manifest.1.length])]

theorem replay_manifestChanges (s : State) : s.replay s.manifestChanges = s.manifest.2 := by
  rw [manifestChanges, replay_append, replay_advertiseAllChanges s.registry.names []]
  rfl

/-! ## Gatherers -/

/-- The changes that acts of the gatherer `self` of `channel` make. -/
def actChanges (channel : ChannelName) (self : Gatherer) : List LoginAct → List Change
  | [] => []
  | .push _ :: rest => actChanges channel self rest
  | .register r :: rest => .register r :: actChanges channel self rest
  | .attach g :: rest => .attach channel g :: actChanges channel self rest
  | .reattach :: rest => .attach channel self :: actChanges channel self rest
  | .fail _ :: _ => []
  | .panic :: _ => []

theorem replay_actChanges (self : Gatherer) (acts : List LoginAct) (sink : LoginSink) (s : State) :
    s.replay (actChanges sink.channel self acts) = (runActs self acts sink s).2.2 := by
  induction acts generalizing sink s with
  | nil => rfl
  | cons act rest ih =>
    cases act with
    | push payload => exact ih { sink with payloads := sink.payloads ++ [payload sink] } s
    | register r => exact ih sink (s.register r).2
    | attach g => exact ih sink (s.attach sink.channel g).2
    | reattach => exact ih sink (s.attach sink.channel self).2
    | fail failure => rfl
    | panic => rfl

/-- The changes of acts are registrations, and attachments to the channel of the gatherer. -/
theorem mem_actChanges {channel : ChannelName} {self : Gatherer} {acts : List LoginAct}
    {change : Change} (h : change ∈ actChanges channel self acts) :
    (∃ r, change = .register r) ∨ ∃ g, change = .attach channel g := by
  induction acts with
  | nil => simp [actChanges] at h
  | cons act rest ih =>
    cases act with
    | push payload => exact ih h
    | fail failure => simp [actChanges] at h
    | panic => simp [actChanges] at h
    | register r =>
      rcases List.mem_cons.1 h with rfl | h
      · exact .inl ⟨r, rfl⟩
      · exact ih h
    | attach g =>
      rcases List.mem_cons.1 h with rfl | h
      · exact .inr ⟨g, rfl⟩
      · exact ih h
    | reattach =>
      rcases List.mem_cons.1 h with rfl | h
      · exact .inr ⟨self, rfl⟩
      · exact ih h

/-- What is logged of how a gatherer ended. -/
def endingEvents (channel : ChannelName) : GatherEnd → List Event
  | .done => []
  | .failed failure => [.gathererFailed channel failure]
  | .panicked => [.gathererPanicked channel]

/-- The changes while the gatherer number `index` of a channel runs. -/
def gathererChanges (channel : ChannelName) (index : Nat) (a : Attached) (s : State) :
    List Change :=
  let ending := (runActs a.gatherer a.acts ⟨channel, []⟩ (s.startRun channel index)).1
  .gather channel index :: actChanges channel a.gatherer a.acts ++
    [.note (·.log (endingEvents channel ending))]

theorem replay_gathererChanges (channel : ChannelName) (index : Nat) (a : Attached) (s : State) :
    s.replay (gathererChanges channel index a s) = (runGatherer channel index a s).2 := by
  have hacts := replay_actChanges a.gatherer a.acts ⟨channel, []⟩ (s.startRun channel index)
  rw [gathererChanges, List.cons_append, replay_cons, change, replay_append, hacts, runGatherer]
  generalize runActs a.gatherer a.acts _ _ = outcome
  obtain ⟨ending, sink, s'⟩ := outcome
  cases ending <;> simp [replay, change, endingEvents, Journal.log]

/-- The changes while several gatherers of a channel run, the first of them as number `index`. -/
def gatherersChanges (channel : ChannelName) : Nat → List Attached → State → List Change
  | _, [], _ => []
  | index, a :: rest, s =>
    gathererChanges channel index a s ++
      gatherersChanges channel (index + 1) rest (runGatherer channel index a s).2

theorem replay_gatherersChanges (channel : ChannelName) (index : Nat) (gatherers : List Attached)
    (h : Harvest) (s : State) :
    s.replay (gatherersChanges channel index gatherers s) =
      (runGatherers channel index gatherers h s).2 := by
  induction gatherers generalizing index h s with
  | nil => rfl
  | cons a gatherers ih =>
    rw [gatherersChanges, replay_append, replay_gathererChanges]
    exact ih _ _ _

/-- The changes while a channel is asked for its payloads. -/
def gatherChannelChanges (channel : ChannelName) (h : Harvest) (s : State) : List Change :=
  let gatherers := ((s.registry.find? channel).map Channel.gatherers).getD []
  let failures := (gatherChannel channel h s).1.failures - h.failures
  gatherersChanges channel 0 gatherers s ++
    if failures = 0 then [] else [.note (·.count (.gatherFailures channel) failures)]

theorem replay_gatherChannelChanges (channel : ChannelName) (h : Harvest) (s : State) :
    s.replay (gatherChannelChanges channel h s) = (gatherChannel channel h s).2 := by
  rw [gatherChannelChanges, replay_append, replay_gatherersChanges channel 0 _ h, gatherChannel]
  dsimp only
  split <;> rfl

/-- The changes while several channels are asked, each of them in the state after the one before. -/
def gatherChannelsChanges : List ChannelName → Harvest → State → List Change
  | [], _, _ => []
  | channel :: rest, h, s =>
    gatherChannelChanges channel h s ++
      gatherChannelsChanges rest (gatherChannel channel h s).1 (gatherChannel channel h s).2

theorem replay_gatherChannelsChanges (channels : List ChannelName) (h : Harvest) (s : State) :
    s.replay (gatherChannelsChanges channels h s) = (gatherChannels channels h s).2 := by
  induction channels generalizing h s with
  | nil => rfl
  | cons channel channels ih =>
    rw [gatherChannelsChanges, replay_append, replay_gatherChannelChanges]
    exact ih _ _

/-- The changes while the payloads for a direction are gathered. -/
def gatherChanges (s : State) (direction : Direction) : List Change :=
  if direction = .loginToClient then
    let h := (gatherChannels s.registry.names ⟨[], 0⟩ s).1
    gatherChannelsChanges s.registry.names ⟨[], 0⟩ s ++
      [.note fun j => (j.log [.gathered h.payloads.length h.failures]).count .payloads
        h.payloads.length]
  else [.note (·.log [.gatherSkipped direction])]

theorem replay_gatherChanges (s : State) (direction : Direction) :
    s.replay (s.gatherChanges direction) = (s.gather direction).2 := by
  rw [gatherChanges, gather]
  split
  · rw [replay_append, replay_gatherChannelsChanges]
    rfl
  · rfl

/-! ## Operations and runs -/

/-- The changes that an operation makes. -/
def changes (s : State) : Operation → List Change
  | .register r => [.register r]
  | .build b =>
    match b.registration with
    | .ok r => [.register r]
    | .error _ => []
  | .attach channel g => [.attach channel g]
  | .supply channel => s.supplyChanges channel
  | .test channel side version => [.note fun _ => (s.test channel side version).2.journal]
  | .manifest => s.manifestChanges
  | .frame _ => s.manifestChanges
  | .validate m side => [.note fun _ => (s.validate m side).2.journal]
  | .gather direction => s.gatherChanges direction

theorem replay_changes (s : State) (operation : Operation) :
    s.replay (s.changes operation) = s.perform operation := by
  cases operation with
  | register r => rfl
  | build b =>
    rw [changes, perform, Builder.build]
    cases b.registration <;> rfl
  | attach channel g => rfl
  | supply channel => exact s.replay_supplyChanges channel
  | test channel side version =>
    rw [changes, perform, test]
    cases s.registry.find? channel <;> rfl
  | manifest => exact s.replay_manifestChanges
  | frame sender => exact s.replay_manifestChanges
  | validate m side => rfl
  | gather direction => exact s.replay_gatherChanges direction

/-- The changes that a run makes, each operation in the state after the one before. -/
def runChanges : State → List Operation → List Change
  | _, [] => []
  | s, operation :: rest => s.changes operation ++ (s.perform operation).runChanges rest

theorem replay_runChanges (s : State) (operations : List Operation) :
    s.replay (s.runChanges operations) = s.run operations := by
  induction operations generalizing s with
  | nil => rfl
  | cons operation operations ih =>
    rw [runChanges, replay_append, replay_changes]
    exact ih _

end State

end ChannelHandshake
