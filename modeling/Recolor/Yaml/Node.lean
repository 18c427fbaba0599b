import Recolor.Yaml.Lexing

/-!
# Nodes

The tokens of a document form nodes: scalars, sequences and mappings. Every node has a
kind, which is the one its tag names, or else the one that its form and, for plain
scalars, its text imply. An anchor names a node, and an alias stands for the node named
so before, which may be one that the alias is inside of. So nodes are numbered, and those
of collections are given by their numbers.
-/

set_option autoImplicit false

namespace Recolor.Yaml

/-- What a node stands for. -/
inductive Kind where
  | null
  | bool
  | int
  | float
  | binary
  | timestamp
  | pairs
  | set
  | str
  | seq
  | map
  | merge
  | default
  | unknown
  deriving DecidableEq, Repr, Inhabited

namespace Kind

/-- The start of the tags of known kinds. -/
def authority : String := "tag:yaml.org,2002:"

/-- The kind that a tag names. Ordered mappings are kept as pairs. -/
def ofTag (tag : String) : Kind :=
  ([("null", Kind.null), ("bool", .bool), ("int", .int), ("float", .float), ("binary", .binary),
    ("timestamp", .timestamp), ("omap", .pairs), ("pairs", .pairs), ("set", .set), ("str", .str),
    ("seq", .seq), ("map", .map), ("merge", .merge), ("value", .default)].find? fun (name, _) => tag == authority ++ name).elim .unknown
    (·.2)

end Kind

/-- The number of a node. -/
abbrev NodeId : Type := Nat

/-- What a node is made of. -/
inductive Content where
  | scalar (text : String)
  | sequence (items : List NodeId)
  | mapping (entries : List (NodeId × NodeId))
  deriving Repr, Inhabited

/-- A node of a document. -/
structure Node where
  kind : Kind
  content : Content
  deriving Repr, Inhabited

namespace Node

/-- The empty plain scalar. -/
def empty : Node :=
  { kind := .null, content := .scalar "" }

end Node

/-- The nodes of a document by their numbers. -/
structure Graph where
  nodes : Array Node := #[]
  deriving Repr, Inhabited

namespace Graph

/-- The node with a number. -/
def node (g : Graph) (id : NodeId) : Node :=
  g.nodes.getD id .empty

/-- Adds a node. -/
def add (g : Graph) (n : Node) : NodeId × Graph :=
  (g.nodes.size, { nodes := g.nodes.push n })

/-- Puts a node in the place of another. -/
def set (g : Graph) (id : NodeId) (n : Node) : Graph :=
  { nodes := g.nodes.setIfInBounds id n }

/-- Gives a node other content. -/
def setContent (g : Graph) (id : NodeId) (c : Content) : Graph :=
  g.set id { g.node id with content := c }

/-- The kind of a node. -/
def kind (g : Graph) (id : NodeId) : Kind :=
  (g.node id).kind

/-- The entries of a node, if it is a mapping. -/
def entries? (g : Graph) (id : NodeId) : Option (List (NodeId × NodeId)) :=
  match (g.node id).content with
  | .mapping entries => some entries
  | _ => none

/-- The items of a node, if it is a sequence. -/
def items? (g : Graph) (id : NodeId) : Option (List NodeId) :=
  match (g.node id).content with
  | .sequence items => some items
  | _ => none

end Graph

end Recolor.Yaml
