import ChannelHandshake.Yaml.Node

/-!
# YAML: following aliases

A reader who follows every alias of a document goes through an aliased node again each time. How
often it may follow an alias is limited by the length of the document, so that a short text cannot
denote a huge value.
-/

namespace ChannelHandshake.Yaml

mutual

/-- How often a reader of a node follows an alias, where `inside` counts for a number how often it
does so in what the number stands for. -/
def Node.jumps (inside : Nat → Nat) : Node → Nat
  | .scalar .. => 0
  | .alias number => 1 + inside number
  | .sequence items => Node.jumpsOfItems inside items
  | .mapping pairs => Node.jumpsOfPairs inside pairs

/-- The same for items. -/
def Node.jumpsOfItems (inside : Nat → Nat) : List Node → Nat
  | [] => 0
  | item :: rest => item.jumps inside + Node.jumpsOfItems inside rest

/-- The same for pairs. -/
def Node.jumpsOfPairs (inside : Nat → Nat) : List (Node × Node) → Nat
  | [] => 0
  | (key, value) :: rest =>
    key.jumps inside + value.jumps inside + Node.jumpsOfPairs inside rest

end

namespace Tree

/-- For each number how often a reader of what it stands for follows an alias, if the reader goes
through at most `levels` aliases that lead into one another. -/
def jumpsInside (t : Tree) : Nat → Array Nat
  | 0 => t.anchored.map fun _ => 0
  | levels + 1 =>
    let below := t.jumpsInside levels
    t.anchored.map (Node.jumps fun number => below[number]?.getD 0)

/-- How often a reader of the document follows an alias. Aliases that lead into one another more
often than there are numbers lead into themselves, and no reader comes to an end with them. -/
def jumps (t : Tree) : Nat :=
  let inside := t.jumpsInside (min maxDepth t.anchored.size)
  t.root.jumps fun number => inside[number]?.getD 0

/-- A reader does not follow aliases more often than its limit allows. -/
def isModest (t : Tree) : Bool :=
  t.jumps ≤ 100 * t.size

end Tree

end ChannelHandshake.Yaml
