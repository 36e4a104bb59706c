/-!
# Environment variables

An environment is a list of variables in the form `NAME=VALUE`. A variable is looked up by what
stands in front of an equals sign, so a name that holds one itself may still find a value.
-/

namespace ChannelHandshake

/-- The variables of a process, first match first. -/
abbrev Environment := List (String × String)

namespace Environment

/-- What follows `name` and an equals sign, if `text` begins with them. -/
def valueAfter? (name text : List Char) : Option (List Char) :=
  let lead := name ++ ['=']
  if lead.isPrefixOf text then some (text.drop lead.length) else none

/-- The value of a variable. A name that is empty or holds a zero character has none. -/
def value (env : Environment) (name : String) : Option String :=
  if name.isEmpty || name.toList.contains '\x00' then none
  else
    env.findSome? fun (key, v) =>
      (valueAfter? name.toList (key.toList ++ '=' :: v.toList)).map String.ofList

/-- The environment with one more variable. -/
def set (env : Environment) (name value : String) : Environment :=
  env ++ [(name, value)]

end Environment

end ChannelHandshake
