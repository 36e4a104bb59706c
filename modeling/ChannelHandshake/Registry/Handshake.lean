import ChannelHandshake.Registry.State

/-!
# Validation of a peer's manifest

Every channel of a registry tests the version that the peer lists for it, or `absent` if the peer
does not list it. Names are compared after reading, so one channel may be listed under two
spellings; a channel listed more than once is not tested but refused, and the peer with it. Entries
whose names are none and channels that only the peer has do not count.
-/

namespace ChannelHandshake

/-- The outcome of one channel's test. -/
structure Verdict where
  name : ChannelName
  /-- The version that the peer lists; none if it has no such channel, or lists it repeatedly. -/
  remote : Option String
  accepted : Bool
deriving DecidableEq

/-- The outcome of a validation. -/
structure Report where
  /-- The side that validates. -/
  side : Side
  /-- One verdict for each channel of the registry, in the order of the names. -/
  verdicts : List Verdict
  /-- The channels that the peer lists more than once, in order. -/
  duplicates : List ChannelName
deriving DecidableEq

namespace Manifest

/-- The entries whose names can be read, with those names. -/
def readable (m : Manifest) : List (ChannelName × String) :=
  m.filterMap fun e => (ChannelName.parse e.name).toOption.map (·, e.version)

/-- The events of the entries whose names cannot be read. -/
def unreadableEvents (m : Manifest) : List Event :=
  m.filterMap fun e =>
    match ChannelName.parse e.name with
    | .ok _ => none
    | .error error => some (.unreadable e.name error)

/-- The channels that are listed more than once, in order. -/
def duplicates (m : Manifest) : List ChannelName :=
  ChannelName.duplicates (m.readable.map Prod.fst)

end Manifest

namespace Report

/-- Every channel accepted and no channel was listed twice. -/
def isAccepted (r : Report) : Bool :=
  r.duplicates.isEmpty && r.verdicts.all Verdict.accepted

/-- The side whose manifest was validated. -/
def origin (r : Report) : Side :=
  r.side.opposite

/-- The channels that did not accept. -/
def rejected (r : Report) : List ChannelName :=
  (r.verdicts.filter fun v => !v.accepted).map Verdict.name

/-- The events that sum up the outcome. -/
def closingEvents (r : Report) : List Event :=
  (if r.duplicates.isEmpty then [] else [.duplicated r.duplicates r.origin]) ++
    if r.isAccepted then [.accepted r.origin]
    -- the duplicates alone may have refused the peer
    else if r.rejected.isEmpty then []
    else [.rejected r.rejected r.origin]

/-- The metrics after a validation. -/
def countIn (r : Report) (j : Journal) : Journal :=
  let j := j.count (.validations r.side r.isAccepted) 1
  let j := r.rejected.foldl (fun j name => j.count (.rejections r.side name) 1) j
  j.count (.durations r.side) 1

end Report

/-! ## Validating -/

/-- The verdict of a channel on the versions that the peer lists, where `duplicates` are the
channels that it lists more than once. The test is recorded and logged when it has run. -/
def Channel.judge (listed : List (ChannelName × String)) (duplicates : List ChannelName)
    (side : Side) (c : Channel) (j : Journal) : Verdict × Journal :=
  if c.name ∈ duplicates then (⟨c.name, none, false⟩, j)
  else
    let remote := listed.lookup c.name
    let version := remote.getD absent
    let (accepted, j) := c.runTest side version j
    (⟨c.name, remote, accepted⟩, j.log [.tested c.name version side.opposite accepted])

/-- The verdicts of several channels, one channel after the other. -/
def Channel.judgeAll (listed : List (ChannelName × String)) (duplicates : List ChannelName)
    (side : Side) : List Channel → Journal → List Verdict × Journal
  | [], j => ([], j)
  | c :: rest, j =>
    let (verdict, j) := c.judge listed duplicates side j
    let (verdicts, j) := judgeAll listed duplicates side rest j
    (verdict :: verdicts, j)

/-- Validates a manifest that the opposite side of `side` has sent. -/
def State.validate (s : State) (m : Manifest) (side : Side) : Report × State :=
  let duplicates := m.duplicates
  let judged := Channel.judgeAll m.readable duplicates side s.registry.channels
    (s.journal.log m.unreadableEvents)
  let report : Report := { side, verdicts := judged.1, duplicates }
  (report, { s with journal := report.countIn (judged.2.log report.closingEvents) })

/-- What a registry reports of a manifest, which does not depend on what was observed before. -/
def Registry.validate (r : Registry) (m : Manifest) (side : Side) : Report :=
  (State.validate ⟨r, .empty⟩ m side).1

end ChannelHandshake
