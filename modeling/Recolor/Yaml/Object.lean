import Recolor.Yaml.Binary
import Recolor.Yaml.Merge
import Recolor.Yaml.Number
import Recolor.Yaml.Tree

/-!
# What nodes stand for

A node stands for one object, however often it is named: a value, or a collection of the
objects of other nodes. Scalars are made at once, collections empty at first; they are
filled in the order in which they were met. So a collection may hold itself, and of
several faults the one nearest to the outermost node is met first.

Mappings keep the order of their keys; a key that is given again takes the later value.
Keys must not be collections.
-/

set_option autoImplicit false

namespace Recolor.Yaml

/-- What a node stands for. -/
inductive Object where
  | leaf (v : Value)
  | list (items : List NodeId)
  /-- A list of pairs. -/
  | pairs (items : Entries)
  | set (keys : List NodeId)
  | map (entries : Entries)
  deriving Repr, Inhabited

/-- The nodes of a document and the objects that were made so far. -/
structure Making where
  graph : Graph
  objects : Array (Option Object)
  /-- The collections that are to be filled, the last one first. -/
  waiting : List NodeId := []
  /-- How deep merges can lead. -/
  mergeRoom : Nat
  deriving Inhabited

namespace Making

/-- The value of a text of a kind. -/
def textValue (kind : Kind) (text : String) : Except Fault Value :=
  match kind with
  | .null => .ok .null
  | .bool => (Number.readBool text).map .bool
  | .int => (Number.readInt text).map .int
  | .float => (Number.readFloat text).map .float
  | .binary => (Binary.read text).map .bytes
  | .timestamp => Number.readStamp text
  | .str => .ok (.text text)
  | _ => .error (malformed "a scalar is of another kind")

/-- The text of a node: that of a scalar, or that under the equals sign of a mapping. -/
def text (g : Graph) : (room : Nat) → NodeId → Except Fault String
  | 0, _ => .error .tooDeep
  | room + 1, id =>
    match (g.node id).content with
    | .scalar s => .ok s
    | .sequence _ => .error (malformed "a scalar is a sequence")
    | .mapping entries =>
      match entries.find? fun (k, _) => g.kind k = .default with
      | some (_, v) => text g room v
      | none => .error (malformed "a scalar is a mapping")

/-- The value of a node that is to be no collection. -/
def leafValue (g : Graph) (id : NodeId) : Except Fault Value := do
  let kind := g.kind id
  let s ← text g 1000 id
  match kind, (g.node id).content with
  | .timestamp, .mapping _ => .error (.raised .type "a date is written as a mapping")
  | _, _ => textValue kind s

/-- The object that a collection of a kind is made as. -/
def emptyOf? : Kind → Option Object
  | .seq => some (.list [])
  | .map => some (.map [])
  | .set => some (.set [])
  | .pairs => some (.pairs [])
  | _ => none

/-- The object that was made of a node. -/
def object? (m : Making) (id : NodeId) : Option Object :=
  (m.objects[id]?).join

/-- Keeps the object of a node. -/
def keep (m : Making) (id : NodeId) (o : Object) : Making :=
  { m with objects := m.objects.setIfInBounds id (some o) }

/-- Makes the object of a node, if there is none yet. -/
def make (m : Making) (id : NodeId) : Except Fault Making :=
  match m.object? id with
  | some _ => .ok m
  | none =>
    match m.graph.kind id with
    | .merge | .default | .unknown => .error (malformed "a node is of no known kind")
    | kind =>
      match emptyOf? kind with
      | some o => .ok { m.keep id o with waiting := id :: m.waiting }
      | none => (leafValue m.graph id).map fun v => m.keep id (.leaf v)

/-- The value of a node that is no collection. -/
def leaf? (m : Making) (id : NodeId) : Option Value :=
  match m.object? id with
  | some (.leaf v) => some v
  | _ => none

/-- Whether a node is written as the value that is not a number. -/
def isNoNumber (m : Making) (id : NodeId) : Bool :=
  match text m.graph 1000 id with
  | .ok s => Number.isNoNumber s
  | .error _ => false

/-- Whether two nodes are the same key. What is not a number equals itself only if both times
it is the same node or written by its own sign. -/
def isSameKey (m : Making) (a b : NodeId) : Bool :=
  a == b
    || match m.leaf? a, m.leaf? b with
      | some (.float x), some (.float y) =>
        x == y || (x.isNaN && y.isNaN && m.isNoNumber a && m.isNoNumber b)
      | some v, some w => v.same w
      | _, _ => false

/-- Puts a value under a key: in place if the key is there, else at the end. -/
def insert (m : Making) (k v : NodeId) : Entries → Entries
  | [] => [(k, v)]
  | (k', v') :: rest =>
    if m.isSameKey k' k then (k', v) :: rest else (k', v') :: m.insert k v rest

/-- Makes the objects of several nodes. -/
def makeAll (m : Making) : List NodeId → Except Fault Making
  | [] => .ok m
  | id :: rest =>
    match m.make id with
    | .error f => .error f
    | .ok m => m.makeAll rest

/-- Makes the keys and values of entries, and the mapping of them after some others. -/
def makeEntries (m : Making) (found : Entries) : Entries → Except Fault (Entries × Making)
  | [] => .ok (found, m)
  | (k, v) :: rest =>
    match m.make k with
    | .error f => .error f
    | .ok m =>
      match m.leaf? k with
      | none => .error (malformed "a key is a collection")
      | some _ =>
        match m.make v with
        | .error f => .error f
        | .ok m => m.makeEntries (m.insert k v found) rest

/-- The mapping that a node is, what it merges included. -/
def makeMapping (m : Making) (id : NodeId) : Except Fault (Entries × Making) :=
  match m.graph.entries? id with
  | none => .error (malformed "a mapping is written as something else")
  | some _ =>
    match m.graph.settle m.mergeRoom id with
    | .error f => .error f
    | .ok graph =>
      { m with graph }.makeEntries [] ((graph.entries? id).getD [])

/-- The pairs in a sequence of mappings with one entry each. -/
def makePairs (m : Making) : List NodeId → Except Fault (Entries × Making)
  | [] => .ok ([], m)
  | id :: rest =>
    match m.graph.entries? id with
    | some [(k, v)] =>
      match m.makeAll [k, v] with
      | .error f => .error f
      | .ok m => (m.makePairs rest).map fun (others, m) => ((k, v) :: others, m)
    | _ => .error (malformed "a list of pairs holds something else")

/-- Fills a collection. -/
def fill (m : Making) (id : NodeId) : Except Fault Making :=
  match m.graph.kind id, m.graph.items? id with
  | .seq, some items => (m.makeAll items).map fun m => m.keep id (.list items)
  | .pairs, some items => (m.makePairs items).map fun (found, m) => m.keep id (.pairs found)
  | .seq, none => .error (malformed "a sequence is written as something else")
  | .pairs, none => .error (malformed "a list of pairs is written as something else")
  | .set, _ => (m.makeMapping id).map fun (found, m) => m.keep id (.set (found.map (·.1)))
  | _, _ => (m.makeMapping id).map fun (found, m) => m.keep id (.map found)

/-- Fills several collections. -/
def fillAll (m : Making) : List NodeId → Except Fault Making
  | [] => .ok m
  | id :: rest =>
    match m.fill id with
    | .error f => .error f
    | .ok m => m.fillAll rest

/-- Fills the waiting collections, and those that are met on the way after them. -/
def finish : (room : Nat) → Making → Except Fault Making
  | 0, m => .ok m
  | room + 1, m =>
    match m.waiting with
    | [] => .ok m
    | waiting =>
      match { m with waiting := [] }.fillAll waiting.reverse with
      | .error f => .error f
      | .ok m => finish room m

/-- Makes the objects of a document. -/
def ofDocument (d : Document) : Except Fault Making := do
  let m : Making := {
    graph := d.graph
    objects := Array.replicate d.graph.nodes.size none
    mergeRoom := 2 * d.graph.mergeCount + 2 }
  finish (d.graph.nodes.size + 1) (← m.make d.root)

end Making

end Recolor.Yaml
