/-
Nodes: the tree that a YAML document describes. Anchors are gone by now,
every alias replaced by what it stands for, and every scalar has its
meaning; tags that the language does not give a meaning to are kept.

# Sameness

A mapping has no two keys that are the same, so what "the same" means
decides which documents can be read at all. Whole numbers and doubles are
never the same; doubles agree by value, and values that are no number
agree with each other. Mappings agree whatever the order of their
entries.
-/
import SchemaPress.Json.Basic

namespace SchemaPress.Yaml

/-- A YAML tree. Doubles may be infinite or no number at all. -/
inductive Node where
  | null
  | bool (value : Bool)
  | number (value : Number)
  | string (value : String)
  | sequence (items : List Node)
  | mapping (entries : List (Node × Node))
  | tagged (tag : String) (content : Node)

instance : Inhabited Node := ⟨.null⟩

namespace Node

/-- The node behind all its tags. -/
def untagged : Node → Node
  | .tagged _ content => content.untagged
  | node => node

/-- The entries of a mapping, tags looked through. -/
def entries? (node : Node) : Option (List (Node × Node)) :=
  match node.untagged with
  | .mapping entries => some entries
  | _ => none

/-- The value under an untagged text key. -/
def valueOf? (key : String) : List (Node × Node) → Option Node
  | [] => none
  | (.string name, value) :: rest =>
      if name = key then some value else valueOf? key rest
  | _ :: rest => valueOf? key rest

/-- The value under a text key, tags on the mapping looked through. -/
def get? (key : String) (node : Node) : Option Node :=
  node.entries?.bind (valueOf? key)

-- =========================================================== sameness

/-- Sameness of numbers as keys. -/
def sameNumber : Number → Number → Bool
  | .whole a, .whole b => a = b
  | .real a, .real b => a == b || (a.isNaN && b.isNaN)
  | _, _ => false

/-- A tag without the exclamation mark that it may be written with. -/
def bareTag (tag : String) : List Char :=
  match tag.toList with
  | ['!'] => ['!']
  | '!' :: rest => rest
  | chars => chars

mutual

/-- Whether two nodes are the same. -/
def same : Node → Node → Bool
  | .null, .null => true
  | .bool a, .bool b => a = b
  | .number a, .number b => sameNumber a b
  | .string a, .string b => a = b
  | .sequence xs, .sequence ys => sameItems xs ys
  | .mapping xs, .mapping ys =>
      xs.length = ys.length && sameEntries xs ys
  | .tagged s x, .tagged t y => bareTag s = bareTag t && x.same y
  | _, _ => false

/-- Whether two lists are the same item by item. -/
def sameItems : List Node → List Node → Bool
  | [], [] => true
  | x :: xs, y :: ys => x.same y && sameItems xs ys
  | _, _ => false

/-- Whether every entry on the left is there on the right. -/
def sameEntries : List (Node × Node) → List (Node × Node) → Bool
  | [], _ => true
  | (key, x) :: xs, ys =>
      (ys.any fun entry => key.same entry.1 && x.same entry.2)
        && sameEntries xs ys

end

/-- Whether no two keys are the same. -/
def distinctKeys : List (Node × Node) → Bool
  | [] => true
  | (key, _) :: rest =>
      !(rest.any fun entry => key.same entry.1) && distinctKeys rest

end Node

end SchemaPress.Yaml
