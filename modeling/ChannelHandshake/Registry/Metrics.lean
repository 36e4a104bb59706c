import ChannelHandshake.Registry.Channel

/-!
# Metrics

A series is a kind of number with its labels; the metrics hold a number for every series that was
touched. A counter grows, a gauge is set, and of a histogram only the number of its samples is
kept.

Main statement: `value_add`, to add to a series changes that series by that number and no other.
-/

namespace ChannelHandshake

/-- A number that is kept about the registries of a process. -/
inductive Series where
  /-- Registrations that found their name taken. -/
  | conflicts
  /-- The size of the registry that last accepted a registration. -/
  | registered
  /-- Validations that a side has run with this outcome. -/
  | validations (side : Side) (accepted : Bool)
  /-- Validations of a side in which the channel was rejected. -/
  | rejections (side : Side) (channel : ChannelName)
  /-- The durations of a side's validations. -/
  | durations (side : Side)
  /-- Login payloads gathered. -/
  | payloads
  /-- Runs of a channel's gatherers that failed or panicked. -/
  | gatherFailures (channel : ChannelName)
deriving DecidableEq

namespace Series

/-- The kind of a series and its name. -/
def title : Series → String
  | conflicts => "counter netreg_channel_registration_conflicts_total"
  | registered => "gauge netreg_channels_registered"
  | validations .. => "counter netreg_handshake_validations_total"
  | rejections .. => "counter netreg_handshake_rejections_total"
  | durations .. => "histogram netreg_handshake_validation_duration_seconds"
  | payloads => "counter netreg_login_payloads_gathered_total"
  | gatherFailures .. => "counter netreg_login_gather_failures_total"

/-- The labels of a series, in the order of their keys. -/
def labels : Series → List (String × String)
  | conflicts | registered | payloads => []
  | validations side accepted =>
    [("outcome", if accepted then "accepted" else "rejected"), ("side", side.text)]
  | rejections side channel => [("channel", channel.text), ("side", side.text)]
  | durations side => [("side", side.text)]
  | gatherFailures channel => [("channel", channel.text)]

/-- The labels as a JSON object. -/
def labelsJson (s : Series) : Json.Value :=
  .object (s.labels.map fun (key, value) => (some key, .string (some value)))

end Series

/-- The number of every series that was touched. -/
abbrev Metrics := List (Series × Nat)

namespace Metrics

/-- The number of a series; zero for one that was not touched. -/
def value (m : Metrics) (s : Series) : Nat :=
  (m.lookup s).getD 0

/-- The metrics with another number for a series. -/
def set (m : Metrics) (s : Series) (n : Nat) : Metrics :=
  match m with
  | [] => [(s, n)]
  | (t, k) :: rest => if s = t then (t, n) :: rest else (t, k) :: set rest s n

/-- The metrics with `n` more in a series, which counts as touched even if `n` is zero. -/
def add (m : Metrics) (s : Series) (n : Nat) : Metrics :=
  m.set s (m.value s + n)

theorem value_set (m : Metrics) (s t : Series) (n : Nat) :
    (m.set s n).value t = if t = s then n else m.value t := by
  induction m with
  | nil => grind [set, value]
  | cons p rest ih => grind [set, value]

theorem value_add (m : Metrics) (s t : Series) (n : Nat) :
    (m.add s n).value t = m.value t + if t = s then n else 0 := by
  rw [add, value_set]
  split <;> simp_all

/-- The text by which the series of a report are ordered. -/
def sortKey (row : Series × Nat) : String × String :=
  (row.1.title, row.1.labelsJson.render)

/-- The touched series in the order of their titles, then of the text of their labels. -/
def report (m : Metrics) : Metrics :=
  m.mergeSort fun a b =>
    let (x, y) := (sortKey a, sortKey b)
    x.1 < y.1 || (x.1 == y.1 && x.2 ≤ y.2)

end Metrics

end ChannelHandshake
