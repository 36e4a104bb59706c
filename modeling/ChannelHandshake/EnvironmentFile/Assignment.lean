import ChannelHandshake.Environment
import ChannelHandshake.EnvironmentFile.Line

/-!
# Environment files: assignments

A line assigns a value to a variable. The value may be quoted in parts; outside of strong quotes it
may refer to variables, and a backslash escapes. Behind a blank nothing but a comment may follow.
What is assigned first holds: a variable that is already set keeps its value, and the reading of a
file ends at the first line that is no assignment. No variable can be given a value with a zero
character, and a file that tries has no reading at all.
-/

namespace ChannelHandshake.EnvironmentFile

/-- Weak quotes leave references and escapes in force, strong ones do not. -/
inductive Quote where
  | weak
  | strong
deriving DecidableEq, Repr

/-- A reference to a variable that is being read. -/
structure Reference where
  /-- The name is between braces. -/
  braced : Bool
  /-- The name so far, last character first. -/
  name : List Char

/-- A value that is being read. -/
structure Draft where
  /-- The value so far, last character first. -/
  done : List Char
  quote : Option Quote
  reference : Option Reference
  escaped : Bool
  /-- A blank has ended the value. -/
  ended : Bool

namespace Draft

/-- Nothing read. -/
def start : Draft :=
  ⟨[], none, none, false, false⟩

/-- With one more character. -/
def push (d : Draft) (c : Char) : Draft :=
  { d with done := c :: d.done }

/-- With the value of the variable that is referred to. -/
def resolve (d : Draft) (value : String → Option String) : Draft :=
  match d.reference with
  | some r =>
    let text := (value (String.ofList r.name.reverse)).getD ""
    { d with done := text.toList.reverse ++ d.done, reference := none }
  | none => d

/-- With the reference `r` open. -/
def refer (d : Draft) (r : Reference) : Draft :=
  { d with reference := some r }

/-- One more character of a reference. -/
def stepReference (value : String → Option String) (d : Draft) (r : Reference) (c : Char) :
    Draft :=
  if r.braced then
    if c = '\x7d' then d.resolve value else d.refer { r with name := c :: r.name }
  else if Text.isLetterOrDigit c then d.refer { r with name := c :: r.name }
  else if c = '\x7b' ∧ r.name = [] then d.refer ⟨true, []⟩
  else
    let d := d.resolve value
    if c = '$' then d.refer ⟨false, []⟩ else d.push c

/-- The character that an escape stands for. -/
def escape? (c : Char) : Option Char :=
  if c = 'n' then some '\n'
  else if ['\\', '\'', '"', '$', ' '].contains c then some c
  else none

/-- One more character outside of references, escapes and strong quotes. -/
def stepPlain (d : Draft) (c : Char) : Draft :=
  if c = '$' then d.refer ⟨false, []⟩
  else if c = '\\' then { d with escaped := true }
  else if d.quote = some .weak then
    if c = '"' then { d with quote := none } else d.push c
  else if c = '\'' then { d with quote := some .strong }
  else if c = '"' then { d with quote := some .weak }
  else if c = ' ' ∨ c = '\t' then { d with ended := true }
  else d.push c

/-- One more character, before a blank has ended the value. -/
def step? (value : String → Option String) (d : Draft) (c : Char) : Option Draft :=
  if d.escaped then (escape? c).map fun e => { d.push e with escaped := false }
  else if d.quote = some .strong then
    some (if c = '\'' then { d with quote := none } else d.push c)
  else
    match d.reference with
    | some r => some (d.stepReference value r c)
    | none => some (d.stepPlain c)

/-- Reads on to the end of a line. -/
def run? (value : String → Option String) : Draft → List Char → Option Draft
  | d, [] => some d
  | d, c :: rest =>
    if d.ended then
      -- behind the value only blanks and a comment are left
      if c = ' ' ∨ c = '\t' then run? value d rest
      else if c = '#' then some d
      else none
    else do run? value (← d.step? value c) rest

/-- The value that was read, if nothing is left open. -/
def finish? (d : Draft) (value : String → Option String) : Option String :=
  if d.quote.isSome || d.reference.any Reference.braced then none
  else some (String.ofList (d.resolve value).done.reverse)

end Draft

/-- The value that a text spells, where `value` knows the variables that it may refer to. -/
def readValue? (value : String → Option String) (text : List Char) : Option String := do
  (← Draft.run? value .start text).finish? value

/-- A name that begins with a letter or an underscore, and the text behind it. -/
def name? (text : List Char) : Option (String × List Char) :=
  let inName (c : Char) : Bool := c.isAlphanum || c == '_' || c == '.'
  if text.head?.any fun c => c.isAlpha || c == '_' then
    some (String.ofList (text.takeWhile inName), text.dropWhile inName)
  else none

/-- The text behind an equals sign. -/
def equals? : List Char → Option (List Char)
  | '=' :: rest => some rest
  | _ => none

/-- A name and the text behind its equals sign; the word `export` may stand before it. -/
def target? (text : List Char) : Option (String × List Char) := do
  let (name, rest) ← name? text
  let rest := rest.dropWhile Text.isBlank
  match equals? rest with
  | some rest => return (name, rest)
  | none =>
    -- the word may also be the name itself
    if name = "export" then
      let (name, rest) ← name? rest
      return (name, ← equals? (rest.dropWhile Text.isBlank))
    else none

/-- What a line is. -/
inductive Line where
  | blank
  | assignment (name value : String)
  | malformed
deriving DecidableEq, Repr

/-- A row of characters without the blanks at its end. -/
def trimEnd (text : List Char) : List Char :=
  (text.reverse.dropWhile Text.isBlank).reverse

/-- Nothing but a comment. -/
def isBlankOrComment : List Char → Bool
  | [] => true
  | c :: _ => c == '#'

/-- Reads a line in an environment. -/
def readLine (env : Environment) (line : List Char) : Line :=
  let text := (trimEnd line).dropWhile Text.isBlank
  if isBlankOrComment text then .blank
  else
    match target? text with
    | none => .malformed
    | some (name, rest) =>
      let rest := rest.dropWhile Text.isBlank
      if isBlankOrComment rest then .assignment name ""
      else
        match readValue? env.value rest with
        | some value => .assignment name value
        | none => .malformed

/-- The environment after an assignment, which counts only for a variable that was not set before
and then must be one that can be made. -/
def assign? (env : Environment) (name value : String) : Option Environment :=
  if (env.value name).isSome then some env
  else if value.toList.contains '\x00' then none
  else some (env.set name value)

/-- The environment after the assignments of lines, if each of them can be made. -/
def assignAll? (env : Environment) : List (Option (List Char)) → Option Environment
  | [] => some env
  | none :: _ => some env
  | some line :: rest =>
    match readLine env line with
    | .blank => assignAll? env rest
    | .assignment name value => do assignAll? (← assign? env name value) rest
    | .malformed => some env

/-- The environment after the assignments of a file, if each of them can be made. -/
def load? (env : Environment) (file : List UInt8) : Option Environment :=
  assignAll? env (lines file)

end ChannelHandshake.EnvironmentFile
