import ChannelHandshake.Registry.State

/-!
# The manifest of a registry

A registry advertises the channels it has when it starts, in the order of their names, each with
the version that its supplier returns now. Channels that suppliers register meanwhile are left to
the next manifest.
-/

namespace ChannelHandshake

namespace State

/-- The entry of one channel, from one call of its supplier. -/
def advertise (s : State) (name : ChannelName) : Entry × State :=
  let (supplied, s) := s.supply name
  let version := supplied.getD absent
  let s :=
    if version = absent then { s with journal := s.journal.log [.suppliedAbsent name] } else s
  ({ name := name.text, version }, s)

/-- The entries of the channels `names` after those in `done`, which are held last first. -/
def advertiseAll : List ChannelName → List Entry → State → Manifest × State
  | [], done, s => (done.reverse, s)
  | name :: rest, done, s =>
    let (entry, s) := s.advertise name
    advertiseAll rest (entry :: done) s

/-- The manifest of the registry. -/
def manifest (s : State) : Manifest × State :=
  let (m, s) := advertiseAll s.registry.names [] s
  (m, { s with journal := s.journal.log [.manifestBuilt m.length] })

/-- The text of the frame that the registry sends as `sender`. -/
def frame (s : State) (sender : Side) : String × State :=
  let (m, s) := s.manifest
  (m.encodeFrame sender, s)

end State

end ChannelHandshake
