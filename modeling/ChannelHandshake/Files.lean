/-!
# Files

What a program can see of the file system: for each path a file with its bytes, a directory,
something that must not be read, or the reason why there is nothing. `FileTree` is such a view for
files below the current directory; of what is elsewhere it shows the root and the devices that every
system has.
-/

namespace ChannelHandshake

/-- Why a path cannot be read. -/
inductive FileFault where
  | notFound
  | notDirectory
  | isDirectory
  | nameTooLong
  | zeroCharacter
  | denied
  | notUtf8
deriving DecidableEq, Repr

/-- The wording of a fault. -/
def FileFault.text : FileFault → String
  | notFound => "No such file or directory (os error 2)"
  | notDirectory => "Not a directory (os error 20)"
  | isDirectory => "Is a directory (os error 21)"
  | nameTooLong => "File name too long (os error 36)"
  | zeroCharacter => "file name contained an unexpected NUL byte"
  | denied => "Permission denied (os error 13)"
  | notUtf8 => "stream did not contain valid UTF-8"

/-- What a path leads to. -/
inductive FileNode where
  | file (content : List UInt8)
  /-- Something that must not be read. -/
  | locked
  | directory
deriving DecidableEq, Repr

/-- A view of the file system. -/
abbrev Files := String → Except FileFault FileNode

namespace Files

/-- A path that leads to something, whether or not that can be read. -/
def present (files : Files) (path : String) : Bool :=
  match files path with
  | .ok _ => true
  | .error _ => false

/-- The bytes of a file. -/
def read (files : Files) (path : String) : Except FileFault (List UInt8) :=
  match files path with
  | .ok (.file content) => .ok content
  | .ok .locked => .error .denied
  | .ok .directory => .error .isDirectory
  | .error fault => .error fault

end Files

/-- Files, each with the names on the way to it. -/
abbrev FileTree := List (List String × List UInt8)

namespace FileTree

/-- The way to the current directory: it lies below the root, under a name that no path spells. -/
def here : List String :=
  [""]

/-- What lies at the end of a way from the root. -/
def node? (tree : FileTree) (way : List String) : Option FileNode :=
  match tree.lookup way with
  | some content => some (.file content)
  | none =>
    if way.isEmpty || way == here || tree.any (fun (names, _) => way.isPrefixOf names) then
      some .directory
    else none

/-- Follows the remaining parts of a path from a place, whose way is held innermost first. -/
def walk (tree : FileTree) : List String → List String → Except FileFault FileNode
  | place, [] =>
    match tree.node? place.reverse with
    | some node => .ok node
    | none => .error .notFound
  | place, part :: rest =>
    match tree.node? place.reverse with
    | none => .error .notFound
    | some (.file _) | some .locked => .error .notDirectory
    | some .directory =>
      -- a directory is its own neighbour, and the root is above itself
      if part = "" ∨ part = "." then walk tree place rest
      else if part = ".." then walk tree place.tail rest
      else if 255 < part.utf8ByteSize then .error .nameTooLong
      else walk tree (part :: place) rest

/-- The files that are seen: those below the current directory, the empty device and the standard
input. -/
def seen (tree : FileTree) (stdin : List UInt8) : FileTree :=
  (["dev", "null"], []) :: (["dev", "stdin"], stdin) ::
    tree.map fun (names, content) => (here ++ names, content)

/-- The number of bytes in which a path must fit, with the zero that ends it. -/
def maxPathSize : Nat :=
  4096

/-- The view that the files below the current directory and the standard input give. -/
def view (tree : FileTree) (stdin : List UInt8) : Files := fun path =>
  if path = "" then .error .notFound
  else if path.toList.contains '\x00' then .error .zeroCharacter
  else if maxPathSize ≤ path.utf8ByteSize then .error .nameTooLong
  else
    match path.splitOn "/" with
    | "" :: parts => (tree.seen stdin).walk [] parts
    | parts => (tree.seen stdin).walk here parts

end FileTree

/-! ## Paths -/

/-- The path of `name` in a directory. -/
def pathIn (directory name : String) : String :=
  if directory.endsWith "/" then directory ++ name else directory ++ "/" ++ name

/-- The last part of a path, unless that is a way up. -/
def fileName? (path : String) : Option String :=
  match (path.splitOn "/").reverse.dropWhile (fun part => part = "" ∨ part = ".") with
  | [] => none
  | part :: _ => if part = ".." then none else some part

/-- What follows the last dot of a path's last part, unless that part begins with its only dot. -/
def extension? (path : String) : Option String := do
  let name ← fileName? path
  match (name.splitOn ".").reverse with
  | _ :: [] => none
  -- a dot in front is part of the name
  | [_, ""] => none
  | last :: _ => some last
  | [] => none

end ChannelHandshake
