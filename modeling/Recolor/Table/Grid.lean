import Recolor.Numeric.Scalar
import Recolor.Rows.Layout
import Recolor.Rows.RowOp

/-!
# Lookup tables

A table has the same number of nodes along each input axis, spread evenly over the
16-bit domain, and holds a row of 16-bit entries for every node of the cube. The
first axis is the slowest. Between nodes the table is read by multilinear
interpolation: every corner of the cell around a point contributes its entries, with
a weight that is the product of one factor per axis.

A table of one node per axis has no cell; there the lower corner is counted from the
end of the axis and is the only node again.
-/

set_option autoImplicit false

namespace Recolor

/-- A lookup table of 16-bit entries. -/
structure Grid where
  /-- Nodes along each axis. -/
  points : Nat
  /-- Input axes. -/
  inputs : Nat
  /-- Entries of a node. -/
  outputs : Nat
  /-- The entries, the first axis slowest. -/
  entries : Array UInt16
  /-- Every node has its entries. -/
  size_eq : entries.size = points.pow inputs * outputs

namespace Grid

/-- The lengths of a table's axes, the entries of a node last. -/
def shapeOf (points inputs outputs : Int) : List Int :=
  List.replicate inputs.toNat points ++ [outputs]

/-- The lengths of a table's axes. -/
def shape (g : Grid) : List Int :=
  shapeOf g.points g.inputs g.outputs

/-- A table made of entries that are laid out in a given shape. -/
def ofEntries (shape : List Int) (entries : Array UInt16) (points inputs outputs : Int) :
    Except Failure Grid :=
  if shape ≠ shapeOf points inputs outputs then
    .error (TableError.shape shape (shapeOf points inputs outputs))
  else if h : entries.size = points.toNat.pow inputs.toNat * outputs.toNat then
    .ok { points := points.toNat, inputs := inputs.toNat, outputs := outputs.toNat
          entries, size_eq := h }
  else .error (Fault.notReshapable entries.size shape)

/-- A table made of entries that are to be laid out in a shape first. -/
def ofArray (shape : List Int) (entries : Array UInt16) (points inputs outputs : Int) :
    Except Failure Grid :=
  match Rows.layOut entries.size shape with
  | .error e => .error e
  | .ok shape => ofEntries shape entries points inputs outputs

/-- The 16-bit value at a node: its share of the domain to the nearest integer, halves
upwards. -/
def nodeValue (points i : Nat) : UInt16 :=
  UInt16.ofNat ((2 * (i * 65535) + (points - 1)) / (2 * (points - 1)))

/-- The 16-bit values at the nodes of an axis. -/
def nodeValues (points : Nat) : List UInt16 :=
  (List.range points).map (nodeValue points)

/-- Every way to take one value per axis, the first axis slowest. -/
def tuples {β : Type} (axis : List β) : Nat → List (List β)
  | 0 => [[]]
  | n + 1 => axis.flatMap fun v => (tuples axis n).map (v :: ·)

/-- The input values at every node of a table. -/
def nodes (points inputs : Nat) : List (List UInt16) :=
  tuples (nodeValues points) inputs

section Reading

variable {α : Type} [Scalar α]

/-- Where a point lies along one axis: the lower node of its cell and how far it is
towards the upper one. -/
structure Place (α : Type) where
  base : Int
  offset : α
  deriving Repr, Inhabited

/-- The place of a value along an axis. -/
@[specialize] def place (points : Nat) (x : α) : Place α :=
  let span : Int := Int.ofNat points - 1
  let position := Scalar.clip x 0.0 65535.0 * (Scalar.ofInt span / 65535.0)
  let base := (Scalar.floor position).clamp 0 (span - 1)
  { base, offset := position - Scalar.ofInt base }

/-- The corners of the cell around a point, each with its weight: the lower node first
on every axis, the last axis fastest. The weights are `weight` times one factor per
axis, in the order of the axes. -/
@[specialize] def corners (weight : α) : List (Place α) → List (α × List Int)
  | [] => [(weight, [])]
  | p :: rest =>
    (corners (weight * (1.0 - p.offset)) rest).map (fun c => (c.1, p.base :: c.2))
      ++ (corners (weight * p.offset) rest).map (fun c => (c.1, (p.base + 1) :: c.2))

/-- The node a corner's index along an axis stands for; negative ones count from the end. -/
@[inline] def node (points : Nat) (i : Int) : Nat :=
  (if i < 0 then i + Int.ofNat points else i).toNat

/-- The number of a node among all nodes. -/
def nodeNumber (points : Nat) (index : List Int) : Nat :=
  index.foldl (fun n i => n * points + node points i) 0

/-- An entry of a node. -/
@[inline] def entry (g : Grid) (number output : Nat) : UInt16 :=
  g.entries.getD (number * g.outputs + output) 0

/-- The corners around the first coordinates of a row, by node number. -/
@[specialize] def cell (g : Grid) (row : List α) : List (α × Nat) :=
  (corners (1.0 : α) ((row.take g.inputs).map (place g.points))).map
    fun c => (c.1, nodeNumber g.points c.2)

/-- One output at a point: the weighted entries of the corners, added up in order. -/
@[specialize] def blend (g : Grid) (cell : List (α × Nat)) (output : Nat) : α :=
  cell.foldl (fun sum c => sum + c.1 * Scalar.ofCode16 (g.entry c.2 output)) 0.0

/-- The outputs at a point, by multilinear interpolation. -/
@[specialize] def evaluate (g : Grid) (row : List α) : List α :=
  let cell := g.cell row
  (List.range g.outputs).map (g.blend cell)

/-- Reads the table at the first columns of rows. -/
def evaluateRows (g : Grid) : RowOp α α where
  width n :=
    if g.points = 0 ∧ g.inputs ≠ 0 then .error .tooFewColumns
    else RowOp.atLeast g.inputs g.outputs n
  run := g.evaluate

end Reading

end Grid

end Recolor
