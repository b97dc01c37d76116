import StreamPlan.Yaml.Token

/-! Nodes of a document. A reference gives the number of the node it stands for, so that a node may
stand inside another that refers to it; what a number means is said by the tree around the node. -/
namespace StreamPlan.Yaml

inductive Node where
  | scalar (tag : Option (List UInt8)) (style : Style) (text : String)
  | sequence (tag : Option (List UInt8)) (items : List Node)
  | mapping (tag : Option (List UInt8)) (entries : List (Node × Node))
  | reference (number : Nat)
deriving Repr, Inhabited

namespace Node

/-- A node that was left out. -/
def absent : Node := .scalar none .plain ""

mutual
/-- How many parts a node is written in: a collection has a beginning and an end. -/
def parts : Node → Nat
  | .scalar .. | .reference _ => 1
  | .sequence _ items => 2 + itemParts items
  | .mapping _ entries => 2 + entryParts entries
def itemParts : List Node → Nat
  | [] => 0
  | item :: rest => parts item + itemParts rest
def entryParts : List (Node × Node) → Nat
  | [] => 0
  | (key, value) :: rest => parts key + parts value + entryParts rest
end

end Node

structure Tree where
  root : Node
  targets : List (Nat × Node)
deriving Repr

/-- What is read from a tree, given how many more references may be followed. -/
abbrev Reading := StateT Nat Option

namespace Tree

/-- A document that repeats itself more often than this for each of its parts is refused. -/
def repetitionLimit : Nat := 100

/-- Reads from the whole tree. -/
def read? (tree : Tree) (read : Node → Reading α) : Option α :=
  (read tree.root).run' (repetitionLimit * tree.root.parts)

/-- The node itself, or the one it refers to. -/
def follow (tree : Tree) : Node → Reading Node
  | .reference number => do
    match ← get, tree.targets.lookup number with
    | left + 1, some target => do
      set left
      pure target
    | _, _ => failure
  | node => pure node

end Tree
end StreamPlan.Yaml
