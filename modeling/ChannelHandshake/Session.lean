import ChannelHandshake.Registry.Operation

/-!
# Several registries

Registries under names, with one journal for all of them. A name that was not used before stands
for an empty registry.
-/

namespace ChannelHandshake

/-- Registries by name and what was observed of them. -/
structure Session where
  registries : List (String × Registry)
  journal : Journal

namespace Session

/-- No registry and nothing observed. -/
def empty : Session :=
  ⟨[], .empty⟩

/-- The state of the registry called `name`. -/
def state (s : Session) (name : String) : State :=
  ⟨(s.registries.lookup name).getD .empty, s.journal⟩

/-- The session with the registry called `name` in another state. -/
def withState (s : Session) (name : String) (state : State) : Session :=
  { registries := (name, state.registry) :: s.registries.filter (·.1 ≠ name),
    journal := state.journal }

/-- Runs an operation on the registry called `name`. -/
def on {α : Type} (s : Session) (name : String) (operation : State → α × State) :
    α × Session :=
  let (a, state) := operation (s.state name)
  (a, s.withState name state)

/-- The session after an operation on the registry called `name`. -/
def perform (s : Session) (name : String) (operation : Operation) : Session :=
  s.withState name ((s.state name).perform operation)

/-- The session after several operations, each on the registry that is named with it. -/
def run (s : Session) (operations : List (String × Operation)) : Session :=
  operations.foldl (fun s (name, operation) => s.perform name operation) s

/-- A handshake in one direction: the registry `sender` sends its frame as `side`, and the registry
`receiver` reads and validates it. -/
def exchange (s : Session) (sender receiver : String) (side : Side) :
    Except DecodeError Report × Session :=
  let (text, s) := s.on sender (·.frame side)
  match Manifest.decode (Utf8.encode text) with
  | .ok m =>
    let (report, s) := s.on receiver (·.validate m side.opposite)
    (.ok report, s)
  | .error e => (.error e, s)

end Session

end ChannelHandshake
