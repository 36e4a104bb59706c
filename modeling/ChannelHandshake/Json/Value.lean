import ChannelHandshake.Json.Token

/-!
# JSON values

A value is a tree over the tokens of its text, and `tokens` writes them back. `ofTokens?` reads a
value with a stack of the brackets that are still open, so that neither the length nor the depth of
a text is limited; it accepts exactly the token lists that `tokens` produces.

`isBounded` holds for the values of a reader with limits: strings denote texts, numbers are finite
and at most `depth` brackets are open at once. An object keeps its keys in the order of the text,
repeated ones included; a key, like any string, may denote no text.
-/

namespace ChannelHandshake.Json

/-- A JSON value. -/
inductive Value where
  | null
  | bool (value : Bool)
  | number (value : Number)
  | string (text : Option String)
  | array (items : List Value)
  | object (members : List (Option String × Value))

namespace Value

/-- A bracket that is open while a value inside it is read. -/
inductive Opened where
  /-- An array with the items read so far, last first. -/
  | array (done : List Value)
  /-- An object with the members read so far, last first, and the key of the next one. -/
  | object (done : List (Option String × Value)) (key : Option String)

/-- Reads on inside the brackets `stack`, innermost first: with `some v` the value `v` has just
ended, with `none` a value is due. -/
def build : Option Value → List Opened → List Token → Option Value
  | some v, [], [] => some v
  | some v, .array done :: stack, .comma :: rest => build none (.array (v :: done) :: stack) rest
  | some v, .array done :: stack, .closeArray :: rest =>
    build (some (.array (v :: done).reverse)) stack rest
  | some v, .object done key :: stack, .comma :: .string key' :: .colon :: rest =>
    build none (.object ((key, v) :: done) key' :: stack) rest
  | some v, .object done key :: stack, .closeObject :: rest =>
    build (some (.object ((key, v) :: done).reverse)) stack rest
  | none, stack, .null :: rest => build (some .null) stack rest
  | none, stack, .bool b :: rest => build (some (.bool b)) stack rest
  | none, stack, .number n :: rest => build (some (.number n)) stack rest
  | none, stack, .string s :: rest => build (some (.string s)) stack rest
  | none, stack, .openArray :: .closeArray :: rest => build (some (.array [])) stack rest
  | none, stack, .openArray :: rest => build none (.array [] :: stack) rest
  | none, stack, .openObject :: .closeObject :: rest => build (some (.object [])) stack rest
  | none, stack, .openObject :: .string key :: .colon :: rest =>
    build none (.object [] key :: stack) rest
  | _, _, _ => none

/-- The value whose tokens are `tokens`. -/
def ofTokens? (tokens : List Token) : Option Value :=
  build none [] tokens

/-- The value that a text of symbols spells. -/
def ofSymbols? (symbols : List Symbol) : Option Value :=
  (scan? symbols).bind ofTokens?

/-- The value that a payload spells. -/
def ofBytes? (bytes : List UInt8) : Option Value :=
  ofSymbols? (Utf8.symbols bytes)

/-- The value that a text spells. -/
def ofString? (text : String) : Option Value :=
  ofSymbols? (text.toList.map some)

/-- A value with at most `depth` brackets open at once, whose strings, keys included, denote texts
and whose numbers are finite. -/
def isBounded : Nat → Value → Bool
  | _, .null => true
  | _, .bool _ => true
  | _, .number n => n.isFinite
  | _, .string s => s.isSome
  | 0, _ => false
  | depth + 1, .array items => items.all (isBounded depth)
  | depth + 1, .object members => members.all fun (key, v) => key.isSome && isBounded depth v

/-- The text of a string. -/
def text? : Value → Option String
  | .string text => text
  | _ => none

/-- The name of a choice without data: a string, or the only key of an object, with null. -/
def choice? : Value → Option String
  | .string text => text
  | .object [(key, .null)] => key
  | _ => none

/-- The value of the only member with this key, if there is exactly one. -/
def member? (key : String) (members : List (Option String × Value)) : Option Value :=
  match members.filter fun m => m.1 == some key with
  | [(_, v)] => some v
  | _ => none

end Value

end ChannelHandshake.Json
