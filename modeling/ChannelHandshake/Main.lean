import ChannelHandshake.Cli.Run

/-!
# Entry point

Collects what the program may look at, runs it and prints what it says.
-/

namespace ChannelHandshake

/-- What an attempt to read a path has found out. -/
def FileFault.ofError (e : IO.Error) : Except FileFault FileNode :=
  match e with
  -- of the two codes for a wrong type 21 stands for a directory
  | .inappropriateType _ code _ => if code = 21 then .ok .directory else .error .notDirectory
  | .invalidArgument .. => .error .nameTooLong
  | _ => .error .notFound

/-- What is at a path that must not be read. -/
def lookAtDenied (path : String) : IO (Except FileFault FileNode) := do
  try
    -- the way to it may be open all the same
    let _ ← IO.FS.realPath path
    return .ok .locked
  catch _ => return .error .denied

/-- What is at a path now. -/
def lookAt (path : String) : IO (Except FileFault FileNode) := do
  try
    return .ok (.file (← IO.FS.readBinFile path).toList)
  catch
    | .permissionDenied .. => lookAtDenied path
    | e => return FileFault.ofError e

/-- What is at some paths now, as a view that sees nothing else. -/
def snapshot (paths : List String) : IO Files := do
  let nodes ← paths.mapM fun path => do return (path, ← lookAt path)
  return fun path => (nodes.lookup path).getD (.error .notFound)

/-- The variables of this process. -/
def processEnvironment : IO Environment := do
  let text := (String.fromUTF8? (← IO.FS.readBinFile "/proc/self/environ")).getD ""
  -- every variable ends with a zero character
  return (text.splitOn "\x00").filterMap fun entry =>
    match entry.splitOn "=" with
    | name :: value :: rest => some (name, "=".intercalate (value :: rest))
    | _ => none

/-- Everything on the standard input, if the invocation reads it. -/
def standardInput (i : Cli.Invocation) : IO (List UInt8) := do
  if i.readsInput then return (← (← IO.getStdin).readBinToEnd).toList else return []

end ChannelHandshake

open ChannelHandshake

/-- Runs the program on its files, environment, arguments and standard input. -/
def main (arguments : List String) : IO UInt32 := do
  let given ← processEnvironment
  let seen ← snapshot [Cli.environmentPath]
  let invocation? := do
    let env ← Cli.environment? seen given
    return (env, ← (Cli.Invocation.parse env arguments).toOption)
  let (files, stdin) ←
    match invocation? with
    | some (env, i) => do
      pure (← snapshot (Cli.environmentPath :: i.paths env), ← standardInput i)
    | none => pure (seen, [])
  let outcome := Cli.run files given arguments stdin
  IO.print outcome.output
  IO.eprint outcome.errors
  return outcome.status.toUInt32
