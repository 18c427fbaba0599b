import Recolor.Yaml.Node

/-!
# Merged mappings

A mapping may merge others into itself: under merge keys it names a mapping or a sequence
of mappings, whose entries come in front of its own. Of a sequence the last mapping comes
first. Merging settles a mapping for good: its merge keys are gone afterwards, and an
equals sign among its keys is plain text from then on, also where the key stands in
another place.

Every merge key is taken away before what it names is settled, so a mapping may be merged
into itself, and their number bounds how deep merges can lead.
-/

set_option autoImplicit false

namespace Recolor.Yaml

/-- The entries of mappings. -/
abbrev Entries : Type := List (NodeId × NodeId)

namespace Graph

/-- How many merge keys there are. -/
def mergeCount (g : Graph) : Nat :=
  g.nodes.foldl (fun count n =>
    match n.content with
    | .mapping entries => count + entries.countP fun (k, _) => g.kind k = .merge
    | _ => count) 0

mutual

/-- Merges into a mapping what its merge keys name. -/
def settle (room : Nat) (g : Graph) (id : NodeId) : Except Fault Graph :=
  match room, g.entries? id with
  | 0, _ => .error .tooDeep
  | _ + 1, none => .ok g
  | room + 1, some entries => settleFrom room g id [] [] entries
termination_by (room, 1, 0)

/-- Settles the rest of a mapping's entries, given the entries that were merged and, in reverse,
the entries before. -/
def settleFrom (room : Nat) (g : Graph) (id : NodeId) (merged before : Entries) :
    Entries → Except Fault Graph
  | [] =>
    .ok (if merged.isEmpty then g else g.setContent id (.mapping (merged ++ before.reverse)))
  | (k, v) :: rest =>
    if g.kind k = .merge then
      match room with
      | 0 => .error .tooDeep
      | room + 1 =>
        match mergedBy room (g.setContent id (.mapping (before.reverse ++ rest))) v with
        | .error f => .error f
        | .ok (more, g) =>
          settleFrom room g id (merged ++ more) before (((g.entries? id).getD []).drop before.length)
    else
      let g := if g.kind k = .default then g.set k { g.node k with kind := .str } else g
      settleFrom room g id merged ((k, v) :: before) rest
termination_by entries => (room, 0, entries.length)

/-- The entries that a node merges into a mapping. -/
def mergedBy (room : Nat) (g : Graph) (id : NodeId) : Except Fault (Entries × Graph) :=
  match (g.node id).content with
  | .mapping _ =>
    match settle room g id with
    | .error f => .error f
    | .ok g => .ok ((g.entries? id).getD [], g)
  | .sequence items => mergedByAll room g items
  | .scalar _ => .error (malformed "a scalar cannot be merged")
termination_by (room, 3, 0)

/-- The entries that several mappings merge into another. -/
def mergedByAll (room : Nat) (g : Graph) : List NodeId → Except Fault (Entries × Graph)
  | [] => .ok ([], g)
  | id :: rest =>
    match g.entries? id with
    | none => .error (malformed "only mappings can be merged")
    | some _ =>
      match settle room g id with
      | .error f => .error f
      | .ok g =>
        let own := (g.entries? id).getD []
        match mergedByAll room g rest with
        | .error f => .error f
        | .ok (others, g) => .ok (others ++ own, g)
termination_by items => (room, 2, items.length)

end

end Graph

end Recolor.Yaml
