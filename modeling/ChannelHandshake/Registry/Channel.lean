import ChannelHandshake.ChannelName
import ChannelHandshake.Failure
import ChannelHandshake.VersionTest

/-!
# Channels and their behaviours

A channel is registered with three behaviours: the supplier of its own version, the tests of the
peer's version on either side, and the gatherers of its login payloads. Suppliers and gatherers may
act on the registry while they run, and another time they may act otherwise, so both are programs: a
supplier says for each of its calls what it returns and what it tries to register meanwhile, a
gatherer says for each of its runs by which acts it goes. The channel counts the calls and the runs.
-/

namespace ChannelHandshake

/-- Data for one channel of the peer, delivered during the login phase. -/
structure LoginPayload where
  channel : ChannelName
  data : List UInt8
  /-- A label for the log. -/
  context : String
deriving DecidableEq

/-- What a running gatherer sees: its channel and what it has pushed so far. -/
structure LoginSink where
  channel : ChannelName
  payloads : List LoginPayload

mutual

/-- What a channel is registered with. -/
structure Registration where
  name : ChannelName
  supplier : Supplier
  /-- The client's test of the server's version. -/
  client : VersionTest
  /-- The server's test of the client's version. -/
  server : VersionTest
  gatherers : List Gatherer

/-- The version a supplier returns on each of its calls, counted from 0, and the registrations it
attempts during that call. -/
structure Supplier where
  call : Nat → String × List Registration

/-- The acts of a gatherer on each of its runs, counted from 0. A run succeeds when its acts are used
up. -/
structure Gatherer where
  run : Nat → List LoginAct

/-- One step of a gatherer's run. -/
inductive LoginAct where
  /-- Adds a payload, which may depend on what the sink holds. -/
  | push (payload : LoginSink → LoginPayload)
  /-- Tries to register a channel. -/
  | register (registration : Registration)
  /-- Attaches another gatherer to the gatherer's own channel. -/
  | attach (gatherer : Gatherer)
  /-- Attaches the gatherer that is running to its channel once more, as one that has not run. -/
  | reattach
  /-- Ends with a failure. -/
  | fail (failure : Failure)
  /-- Ends by a panic. -/
  | panic

end

namespace Supplier

/-- Always the same version. -/
def constant (version : String) : Supplier :=
  ⟨fun _ => (version, [])⟩

/-- One version after the other; the last one is repeated. -/
def sequence (versions : List String) : Supplier :=
  ⟨fun n => ((versions[n]?.or versions.getLast?).getD "", [])⟩

/-- Always the same version, with an attempt to register `registration` on each call. -/
def registering (version : String) (registration : Registration) : Supplier :=
  ⟨fun _ => (version, [registration])⟩

end Supplier

namespace Gatherer

/-- The same acts on every run. -/
def always (acts : List LoginAct) : Gatherer :=
  ⟨fun _ => acts⟩

instance : Coe (List LoginAct) Gatherer :=
  ⟨always⟩

instance : Inhabited Gatherer :=
  ⟨always []⟩

end Gatherer

/-- A gatherer that is attached to a channel. -/
structure Attached where
  gatherer : Gatherer
  /-- How often it has run. -/
  runs : Nat

namespace Attached

/-- A gatherer that has not run. -/
def fresh (g : Gatherer) : Attached :=
  ⟨g, 0⟩

/-- The acts of the next run. -/
def acts (a : Attached) : List LoginAct :=
  a.gatherer.run a.runs

/-- The gatherer after one more run. -/
def afterRun (a : Attached) : Attached :=
  { a with runs := a.runs + 1 }

end Attached

/-- A channel with one version that accepts every peer and sends nothing. -/
def Registration.accepting (name : ChannelName) (version : String) : Registration :=
  { name, supplier := .constant version, client := .any, server := .any, gatherers := [] }

/-- A registered channel. -/
structure Channel where
  name : ChannelName
  supplier : Supplier
  /-- How often the supplier was called. -/
  supplied : Nat
  client : VersionTest
  server : VersionTest
  /-- The gatherers in the order of their attachment. -/
  gatherers : List Attached

namespace Channel

/-- The channel as it is when it has just been registered. -/
def ofRegistration (r : Registration) : Channel :=
  { name := r.name, supplier := r.supplier, supplied := 0, client := r.client,
    server := r.server, gatherers := r.gatherers.map .fresh }

/-- The test that `side` applies to the version of its peer. -/
def testFor (c : Channel) : Side → VersionTest
  | .client => c.client
  | .server => c.server

/-- The channel after one more call of its supplier. -/
def afterSupply (c : Channel) : Channel :=
  { c with supplied := c.supplied + 1 }

/-- The channel with one more gatherer. -/
def attach (g : Gatherer) (c : Channel) : Channel :=
  { c with gatherers := c.gatherers ++ [.fresh g] }

/-- The channel after one more run of its gatherer number `index`. -/
def afterRun (index : Nat) (c : Channel) : Channel :=
  { c with gatherers := c.gatherers.modify index .afterRun }

/-- The channel for a log: its name and how many gatherers it has. -/
def summary (c : Channel) : String :=
  "ChannelInstance \x7b name: " ++ Text.quoted c.name.text ++ ", login_gatherers: "
    ++ toString c.gatherers.length ++ ", .. \x7d"

end Channel

end ChannelHandshake
