import ChannelHandshake.Proofs.Registry.Replay

/-!
# What a gatherer does

A gatherer carries out the acts of its run up to the first one that fails or panics. How the run
ends, what it pushes, registers and attaches can be read off these acts, whatever the state of the
registry is and whatever other gatherers have done (`fst_runGatherer`, `gathererChanges_eq`). What
it has pushed counts only if it succeeds; what it has registered or attached stays. The next run is
another one: a gatherer that has failed may succeed then.
-/

namespace ChannelHandshake

namespace LoginAct

/-- The act ends its gatherer, which then has not succeeded. -/
def isFatal : LoginAct → Bool
  | .fail _ | .panic => true
  | .push _ | .register _ | .attach _ | .reattach => false

/-- The payload that the act pushes, as a function of what the sink holds. -/
def payload? : LoginAct → Option (LoginSink → LoginPayload)
  | .push payload => some payload
  | .register _ | .attach _ | .reattach | .fail _ | .panic => none

/-- What the act tries to register. -/
def registration? : LoginAct → Option Registration
  | .register r => some r
  | .push _ | .attach _ | .reattach | .fail _ | .panic => none

/-- What the act attaches if the gatherer `self` carries it out. -/
def attachment? (self : Gatherer) : LoginAct → Option Gatherer
  | .attach g => some g
  | .reattach => some self
  | .push _ | .register _ | .fail _ | .panic => none

/-- The acts that are carried out. -/
def performed (acts : List LoginAct) : List LoginAct :=
  acts.takeWhile fun act => !act.isFatal

/-- How acts end. -/
def ending (acts : List LoginAct) : GatherEnd :=
  match acts.find? LoginAct.isFatal with
  | some (.fail failure) => .failed failure
  | some .panic => .panicked
  | _ => .done

/-- The payloads `done` and those that are pushed after them. -/
def pushAll (channel : ChannelName) (done : List LoginPayload)
    (payloads : List (LoginSink → LoginPayload)) : List LoginPayload :=
  payloads.foldl (fun done payload => done ++ [payload ⟨channel, done⟩]) done

theorem performed_cons (act : LoginAct) (rest : List LoginAct) :
    performed (act :: rest) = if act.isFatal then [] else act :: performed rest := by
  rw [performed, List.takeWhile_cons]
  cases act.isFatal <;> rfl

end LoginAct

open LoginAct

namespace Attached

/-- The next run comes to the end of its acts. -/
def succeeds (a : Attached) : Bool :=
  a.acts.all fun act => !act.isFatal

/-- What the next run pushes into a sink that is empty when it starts. -/
def pushed (a : Attached) (channel : ChannelName) : List LoginPayload :=
  pushAll channel [] ((performed a.acts).filterMap payload?)

/-- What the next run tries to register before it ends. -/
def registrations (a : Attached) : List Registration :=
  (performed a.acts).filterMap registration?

/-- The gatherers that the next run attaches before it ends. -/
def attachments (a : Attached) : List Gatherer :=
  (performed a.acts).filterMap (attachment? a.gatherer)

end Attached

namespace State

/-! ## One gatherer -/

/-- The run of acts in a sink: how it ends and what the sink holds then. -/
theorem fst_runActs (self : Gatherer) (acts : List LoginAct) (sink : LoginSink) (s : State) :
    (runActs self acts sink s).1 = ending acts ∧
      (runActs self acts sink s).2.1.payloads =
        pushAll sink.channel sink.payloads ((performed acts).filterMap payload?) := by
  induction acts generalizing sink s with
  | nil => exact ⟨rfl, rfl⟩
  | cons act rest ih =>
    cases act with
    | push payload =>
      exact ih { sink with payloads := sink.payloads ++ [payload sink] } s
    | register r => exact ih sink (s.register r).2
    | attach g => exact ih sink (s.attach sink.channel g).2
    | reattach => exact ih sink (s.attach sink.channel self).2
    | fail failure => exact ⟨rfl, rfl⟩
    | panic => exact ⟨rfl, rfl⟩

/-- What a gatherer contributes is a matter between its run and an empty sink. -/
theorem fst_runGatherer (channel : ChannelName) (index : Nat) (a : Attached) (s : State) :
    (runGatherer channel index a s).1 = if a.succeeds then some (a.pushed channel) else none := by
  have hrun := fst_runActs a.gatherer a.acts ⟨channel, []⟩ (s.startRun channel index)
  rw [runGatherer]
  dsimp only
  generalize runActs a.gatherer a.acts _ _ = outcome at hrun ⊢
  obtain ⟨ending, sink, s'⟩ := outcome
  obtain ⟨hending, hpushed⟩ := hrun
  dsimp only at hending hpushed ⊢
  rw [hending, LoginAct.ending]
  cases hfatal : a.acts.find? isFatal with
  | none =>
    have hsucceeds : a.succeeds = true := by
      rw [Attached.succeeds, List.all_eq_true]
      intro act hact
      simpa using List.find?_eq_none.1 hfatal act hact
    rw [if_pos hsucceeds, Attached.pushed, ← hpushed]
  | some act =>
    have hact : act.isFatal = true := List.find?_some hfatal
    have hfails : ¬a.succeeds = true := by
      rw [Attached.succeeds, List.all_eq_true]
      intro hall
      simpa [hact] using hall act (List.mem_of_find?_eq_some hfatal)
    rw [if_neg hfails]
    cases act with
    | fail failure => rfl
    | panic => rfl
    | push payload => simp [isFatal] at hact
    | register r => simp [isFatal] at hact
    | attach g => simp [isFatal] at hact
    | reattach => simp [isFatal] at hact

theorem touches_actChanges {channel n : ChannelName} {self : Gatherer} {acts : List LoginAct}
    {change : Change} (h : change ∈ actChanges channel self acts) (htouches : change.Touches n) :
    n = channel := by
  rcases mem_actChanges h with ⟨r, rfl⟩ | ⟨g, rfl⟩
  · cases htouches
  · exact (Option.some.inj htouches).symm

theorem registrations_actChanges (channel : ChannelName) (self : Gatherer)
    (acts : List LoginAct) :
    (actChanges channel self acts).flatMap Change.registrations =
      (performed acts).filterMap registration? := by
  induction acts with
  | nil => rfl
  | cons act rest ih =>
    cases act with
    | push payload => exact ih
    | fail failure => rfl
    | panic => rfl
    | register r => exact congrArg (r :: ·) ih
    | attach g => exact ih
    | reattach => exact ih

theorem afterChanges_actChanges (c : Channel) (self : Gatherer) (acts : List LoginAct) :
    c.afterChanges (actChanges c.name self acts) =
      { c with gatherers :=
          c.gatherers ++ ((performed acts).filterMap (attachment? self)).map .fresh } := by
  induction acts generalizing c with
  | nil => simp [actChanges, Channel.afterChanges, performed]
  | cons act rest ih =>
    cases act with
    | push payload => exact ih c
    | fail failure => simp [actChanges, Channel.afterChanges, performed, isFatal]
    | panic => simp [actChanges, Channel.afterChanges, performed, isFatal]
    | register r => exact ih c
    | attach g =>
      have hfirst : c.afterChanges (actChanges c.name self (.attach g :: rest)) =
          (c.attach g).afterChanges (actChanges c.name self rest) :=
        Channel.afterChanges_cons rfl
      refine hfirst.trans ((ih (c.attach g)).trans ?_)
      simp [Channel.attach, performed_cons, isFatal, attachment?]
    | reattach =>
      have hfirst : c.afterChanges (actChanges c.name self (.reattach :: rest)) =
          (c.attach self).afterChanges (actChanges c.name self rest) :=
        Channel.afterChanges_cons rfl
      refine hfirst.trans ((ih (c.attach self)).trans ?_)
      simp [Channel.attach, performed_cons, isFatal, attachment?]

theorem calls_replay_actChanges (channel : ChannelName) (self : Gatherer) (acts : List LoginAct)
    (s : State) :
    (s.replay (actChanges channel self acts)).journal.calls = s.journal.calls := by
  induction acts generalizing s with
  | nil => rfl
  | cons act rest ih =>
    cases act with
    | push payload => exact ih s
    | fail failure => rfl
    | panic => rfl
    | register r => exact (ih (s.register r).2).trans (s.calls_register r)
    | attach g => exact ih (s.attach channel g).2
    | reattach => exact ih (s.attach channel self).2

end State

open State in
/-- The changes while the gatherer runs as number `index` of a channel. -/
def Attached.changes (a : Attached) (channel : ChannelName) (index : Nat) : List Change :=
  .gather channel index :: actChanges channel a.gatherer a.acts ++
    [.note (·.log (endingEvents channel (ending a.acts)))]

namespace Attached

open State

variable (a : Attached) (channel : ChannelName) (index : Nat)

theorem gathererChanges_eq (s : State) :
    gathererChanges channel index a s = a.changes channel index := by
  have hending := (fst_runActs a.gatherer a.acts ⟨channel, []⟩ (s.startRun channel index)).1
  rw [gathererChanges, hending]
  rfl

theorem registrations_changes :
    (a.changes channel index).flatMap Change.registrations = a.registrations := by
  have hacts := registrations_actChanges channel a.gatherer a.acts
  rw [changes, List.flatMap_append, List.flatMap_cons, hacts]
  simp [Change.registrations, registrations]

variable {a channel index} in
theorem touches_changes {change : Change} {n : ChannelName}
    (h : change ∈ a.changes channel index) (htouches : change.Touches n) : n = channel := by
  rcases List.mem_append.1 h with h | h
  · rcases List.mem_cons.1 h with rfl | h
    · exact (Option.some.inj htouches).symm
    · exact touches_actChanges h htouches
  · rw [List.mem_singleton.1 h] at htouches
    cases htouches

/-- The run is counted, and what it attaches comes after the gatherers that are there. -/
theorem afterChanges_changes (c : Channel) :
    c.afterChanges (a.changes c.name index) =
      { c with gatherers :=
          c.gatherers.modify index afterRun ++ a.attachments.map fresh } := by
  have hrun : c.afterChanges (.gather c.name index :: actChanges c.name a.gatherer a.acts) =
      (c.afterRun index).afterChanges (actChanges c.name a.gatherer a.acts) :=
    Channel.afterChanges_cons rfl
  rw [changes, Channel.afterChanges_append, hrun]
  exact afterChanges_actChanges (c.afterRun index) a.gatherer a.acts

/-- A gatherer that attaches itself again is there once more, and ends. -/
example : (fresh (.always [.reattach])).attachments = [.always [.reattach]] := rfl

theorem calls_replay_changes (s : State) :
    (s.replay (a.changes channel index)).journal.calls =
      s.journal.calls ++ [.gather channel index] := by
  rw [changes, replay_append]
  exact calls_replay_actChanges channel a.gatherer a.acts _

end Attached

/-! ## The gatherers of a channel -/

namespace State

theorem gatherersChanges_eq (channel : ChannelName) (index : Nat) (gatherers : List Attached)
    (s : State) :
    gatherersChanges channel index gatherers s =
      (gatherers.zipIdx index).flatMap fun (a, i) => a.changes channel i := by
  induction gatherers generalizing index s with
  | nil => rfl
  | cons a rest ih =>
    rw [gatherersChanges, a.gathererChanges_eq, ih, List.zipIdx_cons, List.flatMap_cons]

/-- Gatherers add to a harvest what those of them push that succeed, and count the others. -/
theorem fst_runGatherers (channel : ChannelName) (index : Nat) (gatherers : List Attached)
    (h : Harvest) (s : State) :
    (runGatherers channel index gatherers h s).1 =
      { payloads :=
          h.payloads ++ (gatherers.filter Attached.succeeds).flatMap (·.pushed channel),
        failures := h.failures + gatherers.countP fun a => !a.succeeds } := by
  induction gatherers generalizing index h s with
  | nil => simp [runGatherers]
  | cons a rest ih =>
    have hstep : runGatherers channel index (a :: rest) h s =
        runGatherers channel (index + 1) rest (h.add (runGatherer channel index a s).1)
          (runGatherer channel index a s).2 := rfl
    rw [hstep, ih, fst_runGatherer]
    cases ha : a.succeeds with
    | true => simp [Harvest.add, ha]
    | false =>
      simp only [Harvest.add, List.filter_cons, List.countP_cons, ha, Bool.not_false]
      simp only [Bool.false_eq_true, if_false, if_true, Nat.add_assoc, Nat.add_comm 1]

end State

end ChannelHandshake
