namespace ComponentCompiler
namespace Yaml

/-!
# Nodes

The tree of a document: scalars, lists and maps.  Each has a tag, which says
what kind of value it is, and may have a name, by which an alias refers to it.
-/

/-- The kind of value that a node is. -/
inductive Tag where
  | null
  | bool
  | int
  | real
  | text
  | moment
  | bytes
  | list
  | map
  | set
  /-- A list of pairs without two equal keys. -/
  | orderedMap
  /-- A list of pairs. -/
  | pairs
  /-- A key that takes over the entries of other maps. -/
  | merge
  /-- The key of the value that a map has as a whole. -/
  | whole
  /-- A kind that has no values. -/
  | unknown (name : String)
deriving DecidableEq, Repr

/-- Whether the values of a kind are collections. -/
def Tag.isCollection : Tag → Bool
  | .list | .map | .set | .orderedMap | .pairs => true
  | _ => false

/-- A node of a document. -/
inductive Node where
  | scalar (anchor : Option String) (tag : Tag) (content : String)
  | sequence (anchor : Option String) (tag : Tag) (items : List Node)
  | mapping (anchor : Option String) (tag : Tag) (entries : List (Node × Node))
  | alias (name : String)
deriving Repr

namespace Node

/-- The node that stands where nothing is written. -/
def empty : Node :=
  .scalar none .null ""

/-- The tag of a node. -/
def tag : Node → Tag
  | .scalar _ tag _ => tag
  | .sequence _ tag _ => tag
  | .mapping _ tag _ => tag
  | .alias name => .unknown name

mutual

/-- The nodes that have a name. -/
def named : Node → List (String × Node)
  | .scalar anchor tag content =>
    (anchor.map fun name => (name, Node.scalar anchor tag content)).toList
  | .sequence anchor tag items =>
    (anchor.map fun name => (name, Node.sequence anchor tag items)).toList ++ namedItems items
  | .mapping anchor tag entries =>
    (anchor.map fun name => (name, Node.mapping anchor tag entries)).toList ++ namedEntries entries
  | .alias _ => []

/-- The items that have a name, and those below them. -/
def namedItems : List Node → List (String × Node)
  | [] => []
  | item :: rest => named item ++ namedItems rest

/-- The keys and values that have a name, and those below them. -/
def namedEntries : List (Node × Node) → List (String × Node)
  | [] => []
  | (key, value) :: rest => named key ++ named value ++ namedEntries rest

end
end Node
end Yaml
end ComponentCompiler
