import Mathlib.Data.List.Nodup
import Recolor.Proofs.Table.Interpolation
import Recolor.Proofs.Table.Nodes

/-!
# All nodes of a table, each once

A node has one index for each axis. The list of the nodes of a table has a row for each such
choice of indices, in the place that the node's number tells, and no other rows. The value at a
node of an axis is its share of the 16-bit domain to the nearest integer, halves upwards.
-/

set_option autoImplicit false

namespace Recolor.Grid

/-- One index for each axis, counting its nodes from zero. -/
def IsNodeIndex (points inputs : ℕ) (index : List ℕ) : Prop :=
  index.length = inputs ∧ ∀ i ∈ index, i < points

/-- The number of the node with given indices. -/
def numberOf (points : ℕ) (index : List ℕ) : ℕ :=
  nodeNumber points (index.map Int.ofNat)

/-- The rows of the nodes are those of all choices of indices, each in the place of its number,
with the values of the indices in its columns. -/
structure AreEnumerated (points inputs : ℕ) : Prop where
  length_eq : (nodes points inputs).length = points ^ inputs
  row_eq : ∀ index, IsNodeIndex points inputs index →
    (nodes points inputs)[numberOf points index]? = some (index.map (nodeValue points))
  existsUnique : ∀ row < points ^ inputs,
    ∃! index, IsNodeIndex points inputs index ∧ numberOf points index = row
  value_eq : ∀ i < points,
    ((nodeValue points i).toNat : ℤ) = ⌊(65535 * i / (points - 1) + 1 / 2 : ℚ)⌋

/-- No choice is listed twice if nothing stands twice on the axis. -/
theorem nodup_tuples {β : Type} {axis : List β} (haxis : axis.Nodup) (n : ℕ) :
    (tuples axis n).Nodup := by
  induction n with
  | zero => exact List.nodup_singleton []
  | succ n ih =>
    rw [tuples, List.nodup_flatMap]
    refine ⟨fun v _ => ih.map (List.cons_injective (a := v)), ?_⟩
    -- tuples with different first values are different
    refine haxis.imp fun {v w} hne tuple hv hw => ?_
    obtain ⟨front, -, rfl⟩ := List.mem_map.mp hv
    obtain ⟨rest, -, hsame⟩ := List.mem_map.mp hw
    exact hne (List.cons.inj hsame).1.symm

variable {points inputs : ℕ}

/-- The indices of nodes are the choices of one index for each axis. -/
theorem isNodeIndex_iff_mem {index : List ℕ} :
    IsNodeIndex points inputs index ↔ index ∈ tuples (List.range points) inputs := by
  simp only [IsNodeIndex, mem_tuples_iff, List.mem_range]

/-- Every row below the number of nodes is that of exactly one node. -/
theorem existsUnique_index {row : ℕ} (hrow : row < points ^ inputs) :
    ∃! index, IsNodeIndex points inputs index ∧ numberOf points index = row := by
  have hbound : row < (tuples (List.range points) inputs).length := by
    rwa [length_tuples, List.length_range]
  have hindex : IsNodeIndex points inputs (tuples (List.range points) inputs)[row] :=
    isNodeIndex_iff_mem.mpr (List.getElem_mem hbound)
  refine ⟨(tuples (List.range points) inputs)[row], ⟨hindex, ?_⟩, ?_⟩
  · obtain ⟨hplace, hnumber⟩ := getElem?_tuples hindex.1 hindex.2
    have hlast : numberOf points (tuples (List.range points) inputs)[row]
        < (tuples (List.range points) inputs).length := by
      rwa [length_tuples, List.length_range]
    -- the row and the number are places of the same tuple, of which there is one
    exact (nodup_tuples List.nodup_range inputs).getElem_inj_iff.mp
      (List.getElem_of_getElem? hplace).2
  · rintro index ⟨⟨hlength, hnodes⟩, rfl⟩
    exact (List.getElem_of_getElem? (getElem?_tuples hlength hnodes).1).2.symm

/-- The node with given indices stands in the row of its number. -/
theorem getElem?_nodes {index : List ℕ} (h : IsNodeIndex points inputs index) :
    (nodes points inputs)[numberOf points index]? = some (index.map (nodeValue points)) := by
  rw [nodes, nodeValues, tuples_map, List.getElem?_map, numberOf, (getElem?_tuples h.1 h.2).1]
  rfl

/-- There is a node for each choice of one index on every axis. -/
theorem length_nodes (points inputs : ℕ) : (nodes points inputs).length = points ^ inputs := by
  rw [nodes, length_tuples, nodeValues, List.length_map, List.length_range]
  rfl

/-- The nodes of two or more along each axis are all choices of indices, each in its place. -/
theorem areEnumerated (hpoints : 2 ≤ points) (inputs : ℕ) : AreEnumerated points inputs where
  length_eq := length_nodes points inputs
  row_eq _ h := getElem?_nodes h
  existsUnique _ hrow := existsUnique_index hrow
  value_eq _ hi := toNat_nodeValue hpoints hi

/-- Entries that are listed node by node make a table, and stand in it at the indices of their
node. -/
theorem exists_ofEntries {piece : List ℕ → List UInt16} {outputs : ℕ}
    (hpiece : ∀ index, IsNodeIndex points inputs index → (piece index).length = outputs) :
    ∃ g, ofEntries (shapeOf points inputs outputs)
        ((tuples (List.range points) inputs).flatMap piece).toArray points inputs outputs = .ok g
      ∧ g.points = points ∧ g.inputs = inputs ∧ g.outputs = outputs
      ∧ ∀ index, IsNodeIndex points inputs index → ∀ output < outputs,
        g.entry (numberOf points index) output = (piece index).getD output 0 := by
  have hnode : ∀ index ∈ tuples (List.range points) inputs, (piece index).length = outputs :=
    fun index hindex => hpiece index (isNodeIndex_iff_mem.mpr hindex)
  have hsize : ((tuples (List.range points) inputs).flatMap piece).toArray.size
      = points.pow inputs * outputs := by
    rw [List.size_toArray, Rows.length_flatMap_of_length hnode, length_tuples, List.length_range]
  refine ⟨{ points, inputs, outputs, entries := _, size_eq := hsize }, ofEntries_of_size hsize,
    rfl, rfl, rfl, fun index hindex output houtput => ?_⟩
  obtain ⟨hplace, hnumber⟩ := getElem?_tuples hindex.1 hindex.2
  have hbound : numberOf points index < (tuples (List.range points) inputs).length := by
    rwa [length_tuples, List.length_range]
  have hitem := (List.getElem_of_getElem? hplace).2
  rw [entry, Array.getD_eq_getD_getElem?, List.getElem?_toArray,
    Rows.getElem?_flatMap_of_length hnode hbound houtput, List.getD_eq_getElem?_getD]
  simp only [numberOf, hitem]

end Recolor.Grid
