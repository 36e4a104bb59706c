import ChannelHandshake.Registry.Event
import ChannelHandshake.Registry.Metrics
import ChannelHandshake.Registry.Table

/-!
# Registering channels

The state of a registry in use is its table together with the journal: the calls of behaviours, the
log and the metrics. Registrations, also those attempted by a behaviour while it runs, go through
`State.register`. A builder collects the behaviours of a channel one by one and may be used more
than once.
-/

namespace ChannelHandshake

/-- A call of a channel's behaviour. -/
inductive Call where
  /-- The supplier returned `version`. -/
  | supply (channel : ChannelName) (version : String)
  /-- The test of `side` answered for `version`. -/
  | test (side : Side) (channel : ChannelName) (version : String) (accepted : Bool)
  /-- The gatherer attached as number `index`, counted from 0, ran. -/
  | gather (channel : ChannelName) (index : Nat)
deriving DecidableEq

/-- What was observed, in the order in which it happened. -/
structure Journal where
  calls : List Call
  events : List Event
  metrics : Metrics

namespace Journal

/-- Nothing observed. -/
def empty : Journal :=
  ⟨[], [], []⟩

/-- The journal after more calls. -/
def recordCalls (j : Journal) (calls : List Call) : Journal :=
  { j with calls := j.calls ++ calls }

/-- The journal after more events. -/
def log (j : Journal) (events : List Event) : Journal :=
  { j with events := j.events ++ events }

/-- The journal with `n` more in a series. -/
def count (j : Journal) (s : Series) (n : Nat) : Journal :=
  { j with metrics := j.metrics.add s n }

/-- The journal with a gauge set to `n`. -/
def gauge (j : Journal) (s : Series) (n : Nat) : Journal :=
  { j with metrics := j.metrics.set s n }

end Journal

/-- Runs the channel's test for `side`; the answer is recorded. -/
def Channel.runTest (c : Channel) (side : Side) (version : String) (j : Journal) :
    Bool × Journal :=
  let accepted := c.testFor side version
  (accepted, j.recordCalls [.test side c.name version accepted])

/-- A registry in use. -/
structure State where
  registry : Registry
  journal : Journal

/-- A part of a channel that a builder can lack. -/
inductive Part where
  | supplier
  | clientTest
  | serverTest
deriving DecidableEq, Repr

/-- The wording of a part. -/
def Part.text : Part → String
  | supplier => "protocol version supplier"
  | clientTest => "client acceptance test"
  | serverTest => "server acceptance test"

/-- Why a channel was not registered. -/
inductive RegisterError where
  | invalidName (error : ChannelName.Invalid)
  | alreadyRegistered (name : ChannelName)
  | incomplete (name : ChannelName) (missing : Part)
deriving DecidableEq

/-- What the caller is told. -/
def RegisterError.message : RegisterError → String
  | invalidName error => error.message
  | alreadyRegistered name => "network channel " ++ name.text ++ " already registered"
  | incomplete name missing => "channel " ++ name.text ++ " is missing its " ++ missing.text

namespace State

/-- An empty registry with nothing observed. -/
def initial : State :=
  ⟨.empty, .empty⟩

/-- Registers a channel, unless its name is taken. -/
def register (s : State) (r : Registration) : Except RegisterError Unit × State :=
  match s.registry.insert? (.ofRegistration r) with
  | some registry =>
    (.ok (),
      ⟨registry,
        (s.journal.log [.registered r.name registry.size]).gauge .registered registry.size⟩)
  | none =>
    -- a conflict leaves the table as it is
    (.error (.alreadyRegistered r.name),
      { s with journal := (s.journal.log [.conflict r.name]).count .conflicts 1 })

/-- Attempts registrations one after the other; those that fail leave only their trace. -/
def attempt (s : State) (registrations : List Registration) : State :=
  registrations.foldl (fun s r => (s.register r).2) s

/-- Attaches a gatherer to a channel and returns how many it has now. -/
def attach (s : State) (name : ChannelName) (g : Gatherer) : Option Nat × State :=
  let registry := s.registry.attach name g
  ((registry.find? name).map (·.gatherers.length), { s with registry })

/-- The version that a channel supplies now. -/
def supply (s : State) (name : ChannelName) : Option String × State :=
  match s.registry.find? name with
  | none => (none, s)
  | some c =>
    let (version, registrations) := c.supplier.call c.supplied
    -- the call counts before the registrations that it attempts
    let s : State :=
      ⟨s.registry.afterSupply name, s.journal.recordCalls [.supply name version]⟩
    (some version, s.attempt registrations)

/-- The answer of a channel's test for `side`. -/
def test (s : State) (name : ChannelName) (side : Side) (version : String) :
    Option Bool × State :=
  match s.registry.find? name with
  | none => (none, s)
  | some c =>
    let (accepted, journal) := c.runTest side version s.journal
    (some accepted, { s with journal })

end State

/-! ## Builders -/

/-- The behaviours set so far for a channel. -/
structure Builder where
  name : ChannelName
  supplier : Option Supplier
  client : Option VersionTest
  server : Option VersionTest
  gatherers : List Gatherer

/-- One call on a builder. -/
inductive Setting where
  | supplier (value : Supplier)
  | client (value : VersionTest)
  | server (value : VersionTest)
  | gatherer (value : Gatherer)

namespace Builder

/-- A builder for `name` with nothing set. -/
def named (name : ChannelName) : Builder :=
  ⟨name, none, none, none, []⟩

/-- A builder after one more call: a gatherer is added, any other setting replaced. -/
def set (b : Builder) : Setting → Builder
  | .supplier value => { b with supplier := some value }
  | .client value => { b with client := some value }
  | .server value => { b with server := some value }
  | .gatherer value => { b with gatherers := b.gatherers ++ [value] }

/-- What the builder registers, or the first part that is missing. -/
def registration (b : Builder) : Except RegisterError Registration :=
  match b.supplier, b.client, b.server with
  | none, _, _ => .error (.incomplete b.name .supplier)
  | _, none, _ => .error (.incomplete b.name .clientTest)
  | _, _, none => .error (.incomplete b.name .serverTest)
  | some supplier, some client, some server =>
    .ok { name := b.name, supplier, client, server, gatherers := b.gatherers }

/-- Registers the channel. The builder is unchanged and may be built again. -/
def build (b : Builder) (s : State) : Except RegisterError Unit × State :=
  match b.registration with
  | .ok r => s.register r
  | .error e => (.error e, s)

end Builder

end ChannelHandshake
