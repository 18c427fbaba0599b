import Recolor.Proofs.Rows.Widths
import Recolor.Proofs.Table.Filling

/-!
# Tables sampled from an operation on rows

A table that is filled by treating every node by itself holds at each node what the operation
gives there, in the node's own place. So the table interpolates what the operation gives at the
corners of a cell.
-/

set_option autoImplicit false

namespace Recolor.Grid

variable {α : Type} [Scalar α]

/-- What an operation gives at a node. -/
def atNode (f : RowOp α UInt16) (points : ℕ) (index : List ℕ) : List UInt16 :=
  f.run (index.map fun i => Scalar.ofCode16 (nodeValue points i))

/-- The table holds at every node what the operation gives there. -/
structure IsSampled (g : Grid) (f : RowOp α UInt16) (points inputs outputs : ℕ) : Prop where
  points_eq : g.points = points
  inputs_eq : g.inputs = inputs
  outputs_eq : g.outputs = outputs
  entry_eq : ∀ index : List ℕ, index.length = inputs → (∀ i ∈ index, i < points) →
    ∀ output < outputs,
      g.entry (nodeNumber points (index.map Int.ofNat)) output
        = (atNode f points index).getD output 0

variable {f : RowOp α UInt16} {points inputs outputs : ℕ}

omit [Scalar α] in
/-- The sampler of an operation fills a table with the operation's codes. -/
theorem sampler_ofCodes (hwidth : f.width inputs = .ok outputs) (number : UInt16 → α) :
    Sampler.ofCodes inputs f number
      = (NodeFunction.ofCodes fun node => f.run (node.map number)).sampler outputs := by
  funext nodes
  simp only [Sampler.ofCodes, hwidth]
  rfl

/-- An operation that accepts the node's coordinates can be sampled at any number of nodes. -/
theorem exists_isSampled (hf : f.IsLawful) (hpoints : 2 ≤ points) (hinputs : 1 ≤ inputs)
    (hwidth : f.width inputs = .ok outputs) :
    ∃ g : Grid, sample (Sampler.ofCodes inputs f Scalar.ofCode16) points inputs outputs = .ok g
      ∧ g.IsSampled f points inputs outputs := by
  have hnode : ∀ node ∈ nodes points inputs,
      ((NodeFunction.ofCodes fun node => f.run (node.map Scalar.ofCode16) :
        NodeFunction α).wholes node).length = outputs := by
    intro node hmem
    rw [NodeFunction.length_wholes_ofCodes]
    refine hf _ _ ?_
    rw [List.length_map, (mem_tuples_iff.mp hmem).1, hwidth]
  rw [sampler_ofCodes hwidth]
  obtain ⟨g, hsample, hg⟩ := exists_sample_sampler hpoints hinputs hnode fun _ _ => trivial
  obtain rfl : g.points = points := by exact_mod_cast hg.points_eq
  obtain rfl : g.inputs = inputs := by exact_mod_cast hg.inputs_eq
  obtain rfl : g.outputs = outputs := by exact_mod_cast hg.outputs_eq
  refine ⟨g, hsample, rfl, rfl, rfl, fun index hlength hindex output houtput => ?_⟩
  have hentry := hg.entry_ofCodes ⟨hlength, hindex⟩ houtput
  rw [List.map_map] at hentry
  rw [List.getD_eq_getElem?_getD, atNode]
  exact (congrArg (Option.getD · 0) hentry).symm

section Exact

variable {f : RowOp ℚ UInt16} {g : Grid}

/-- The corners of a cell are nodes of the table. -/
theorem isCorner_place (hpoints : 2 ≤ points) {row : List ℚ} {index : List ℤ}
    (h : IsCorner (row.map (place points)) index) :
    index.length = row.length ∧ ∀ i ∈ index, 0 ≤ i ∧ i < points := by
  induction row generalizing index with
  | nil =>
    cases h
    exact ⟨rfl, by simp⟩
  | cons x row ih =>
    obtain _ | @⟨_, i, _, index, hi, hrest⟩ := h
    obtain ⟨hlength, hindex⟩ := ih hrest
    refine ⟨by rw [List.length_cons, List.length_cons, hlength], fun j hj => ?_⟩
    rcases List.mem_cons.mp hj with rfl | hj
    · exact mem_nodes_place hpoints hi
    · exact hindex j hj

/-- The corners of a cell are named by natural numbers that count nodes. -/
theorem exists_node_of_isCorner (hpoints : 2 ≤ points) {row : List ℚ} {index : List ℤ}
    (h : IsCorner (row.map (place points)) index) :
    ∃ node : List ℕ, index = node.map Int.ofNat ∧ node.length = row.length
      ∧ ∀ i ∈ node, i < points := by
  obtain ⟨hlength, hnodes⟩ := isCorner_place hpoints h
  refine ⟨index.map Int.toNat, ?_, by rw [List.length_map, hlength], fun i hi => ?_⟩
  · rw [List.map_map]
    refine ((List.map_congr_left fun i hi => ?_).trans (List.map_id index)).symm
    exact Int.toNat_of_nonneg (hnodes i hi).1
  · obtain ⟨j, hj, rfl⟩ := List.mem_map.mp hi
    have hnode := hnodes j hj
    omega

/-- A sampled table interpolates what the operation gives at the nodes. -/
theorem IsSampled.evaluate_eq (hg : g.IsSampled f points inputs outputs) (hpoints : 2 ≤ points)
    {row : List ℚ} (hrow : row.length = inputs) :
    g.evaluate row = (List.range outputs).map fun output =>
      alongAxes (row.map (place points)) fun index =>
        Scalar.ofCode16 ((atNode f points (index.map Int.toNat)).getD output 0) := by
  obtain ⟨rfl, rfl, rfl, hentry⟩ := hg
  rw [Grid.evaluate_eq, List.take_of_length_le (Nat.le_of_eq hrow)]
  refine List.map_congr_left fun output houtput => alongAxes_congr fun index hindex => ?_
  -- the table is read at the corners by their indices as they are, sampled at natural numbers
  obtain ⟨node, rfl, hlength, hnode⟩ := exists_node_of_isCorner hpoints hindex
  have hnatural : (node.map Int.ofNat).map Int.toNat = node := by
    rw [List.map_map]
    exact List.map_id node
  rw [hnatural, hentry node (hlength.trans hrow) hnode output (List.mem_range.mp houtput)]

end Exact

end Recolor.Grid
