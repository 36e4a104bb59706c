import ChannelHandshake.Registry.State

/-!
# Gathering login payloads

Before a connection leaves the login phase the server asks every channel for the payloads that the
client must have. Each gatherer runs on its own: what it pushed counts only if it succeeds, while
what it registered or attached stays. Only the gatherers that are attached when their channel's
turn comes run.
-/

namespace ChannelHandshake

/-- How a gatherer ended. -/
inductive GatherEnd where
  | done
  | failed (failure : Failure)
  | panicked

namespace State

/-- Runs the acts that are left to the gatherer `self`. -/
def runActs (self : Gatherer) :
    List LoginAct → LoginSink → State → GatherEnd × LoginSink × State
  | [], sink, s => (.done, sink, s)
  | .push payload :: rest, sink, s =>
    runActs self rest { sink with payloads := sink.payloads ++ [payload sink] } s
  | .register r :: rest, sink, s => runActs self rest sink (s.register r).2
  | .attach g :: rest, sink, s => runActs self rest sink (s.attach sink.channel g).2
  | .reattach :: rest, sink, s => runActs self rest sink (s.attach sink.channel self).2
  | .fail failure :: _, sink, s => (.failed failure, sink, s)
  | .panic :: _, sink, s => (.panicked, sink, s)

/-- The state when the gatherer number `index` of a channel has been called. -/
def startRun (s : State) (channel : ChannelName) (index : Nat) : State :=
  ⟨s.registry.afterRun channel index, s.journal.recordCalls [.gather channel index]⟩

/-- Runs the gatherer number `index` of a channel; none if it does not succeed. -/
def runGatherer (channel : ChannelName) (index : Nat) (a : Attached) (s : State) :
    Option (List LoginPayload) × State :=
  -- the run counts before anything that it does
  let (ending, sink, s) := runActs a.gatherer a.acts ⟨channel, []⟩ (s.startRun channel index)
  match ending with
  | .done => (some sink.payloads, s)
  | .failed failure =>
    (none, { s with journal := s.journal.log [.gathererFailed channel failure] })
  | .panicked => (none, { s with journal := s.journal.log [.gathererPanicked channel] })

/-- Payloads in the order in which they were gathered, and how many gatherers did not succeed. -/
structure Harvest where
  payloads : List LoginPayload
  failures : Nat

/-- The harvest with the outcome of one more gatherer. -/
def Harvest.add (h : Harvest) : Option (List LoginPayload) → Harvest
  | some payloads => { h with payloads := h.payloads ++ payloads }
  | none => { h with failures := h.failures + 1 }

/-- Runs gatherers of a channel one after the other, the first of them as number `index`. -/
def runGatherers (channel : ChannelName) :
    Nat → List Attached → Harvest → State → Harvest × State
  | _, [], h, s => (h, s)
  | index, a :: rest, h, s =>
    let (outcome, s) := runGatherer channel index a s
    runGatherers channel (index + 1) rest (h.add outcome) s

/-- Runs the gatherers that a channel has now. -/
def gatherChannel (channel : ChannelName) (h : Harvest) (s : State) : Harvest × State :=
  -- gatherers that are attached meanwhile wait for the next time
  let gatherers := ((s.registry.find? channel).map Channel.gatherers).getD []
  let (h', s) := runGatherers channel 0 gatherers h s
  let failures := h'.failures - h.failures
  (h', if failures = 0 then s
    else { s with journal := s.journal.count (.gatherFailures channel) failures })

/-- Runs the gatherers of several channels. -/
def gatherChannels : List ChannelName → Harvest → State → Harvest × State
  | [], h, s => (h, s)
  | channel :: rest, h, s =>
    let (h, s) := gatherChannel channel h s
    gatherChannels rest h s

/-- The login payloads of all channels for a direction; only `loginToClient` has any. -/
def gather (s : State) (direction : Direction) : List LoginPayload × State :=
  if direction = .loginToClient then
    -- channels that are registered meanwhile are not asked
    let (h, s) := gatherChannels s.registry.names ⟨[], 0⟩ s
    let journal := s.journal.log [.gathered h.payloads.length h.failures]
    (h.payloads, { s with journal := journal.count .payloads h.payloads.length })
  else ([], { s with journal := s.journal.log [.gatherSkipped direction] })

end State

end ChannelHandshake
