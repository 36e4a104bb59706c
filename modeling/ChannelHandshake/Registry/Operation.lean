import ChannelHandshake.Registry.Advertisement
import ChannelHandshake.Registry.Handshake
import ChannelHandshake.Registry.Login

/-!
# Operations on a registry

What the holder of a registry can do with it, as data, so that a life of the registry is a list of
operations.
-/

namespace ChannelHandshake

/-- An operation on a registry, with what the caller gives it. -/
inductive Operation where
  | register (registration : Registration)
  | build (builder : Builder)
  | attach (channel : ChannelName) (gatherer : Gatherer)
  | supply (channel : ChannelName)
  | test (channel : ChannelName) (side : Side) (version : String)
  | manifest
  | frame (sender : Side)
  | validate (m : Manifest) (side : Side)
  | gather (direction : Direction)

namespace State

/-- The state after an operation. -/
def perform (s : State) : Operation → State
  | .register r => (s.register r).2
  | .build b => (b.build s).2
  | .attach channel g => (s.attach channel g).2
  | .supply channel => (s.supply channel).2
  | .test channel side version => (s.test channel side version).2
  | .manifest => s.manifest.2
  | .frame sender => (s.frame sender).2
  | .validate m side => (s.validate m side).2
  | .gather direction => (s.gather direction).2

/-- The state after several operations. -/
def run (s : State) (operations : List Operation) : State :=
  operations.foldl perform s

end State

end ChannelHandshake
