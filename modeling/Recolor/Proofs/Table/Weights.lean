import Mathlib.Data.List.Induction
import Recolor.Proofs.Table.Multilinear

/-!
# The corners a table is read at

A table is read at the corners of a cell, each with a weight. A table of two nodes or more along
each axis has a cell around every point. A table of a single node has none: there the lower corner
is counted from the end of the axis, where it is the only node again, and carries no weight. In
both cases every corner has its entries in the table, the weights share out one whole, and so an
output never leaves the range of the entries at the corners.
-/

set_option autoImplicit false

namespace Recolor.Grid

/-- The corners that a table is read at for a row, each with its weight. -/
def cornersAt (g : Grid) (row : List ℚ) : List (ℚ × List ℤ) :=
  corners (1.0 : ℚ) ((row.take g.inputs).map (place g.points))

/-- The entries at the corners for an output. -/
def cornerCodes (g : Grid) (row : List ℚ) (c : ℕ) : List ℕ :=
  (g.cornersAt row).map fun corner => (g.entry (nodeNumber g.points corner.2) c).toNat

/-- An index along an axis names a node of it, the only one also by its number from the end. -/
def IsIndex (points : ℕ) (i : ℤ) : Prop :=
  0 ≤ i ∧ i < points ∨ points = 1 ∧ i = -1

variable {points : ℕ}

/-! ## Along one axis -/

/-- With a single node every point lies on it, as the upper end of a cell that begins before it. -/
theorem place_one (x : ℚ) : place 1 x = { base := -1, offset := 1 } := by
  have hposition : position 1 x = 0 := by simp [position]
  rw [place_eq, hposition]
  norm_num

/-- The nodes around a value have indices that name nodes of the axis. -/
theorem isIndex_of_mem_nodes (hpoints : 1 ≤ points) {x : ℚ} {i : ℤ}
    (hi : i ∈ (place points x).nodes) : IsIndex points i := by
  rcases eq_or_lt_of_le hpoints with rfl | htwo
  · rw [place_one, Place.mem_nodes_iff] at hi
    dsimp only at hi
    unfold IsIndex
    omega
  · exact .inl (mem_nodes_place htwo hi)

/-- An index that names a node leads to one of the nodes. -/
theorem IsIndex.node_lt {i : ℤ} (hi : IsIndex points i) : node points i < points := by
  unfold IsIndex at hi
  unfold node
  split
  · rw [Int.ofNat_eq_natCast]
    omega
  · omega

/-! ## Along all axes -/

section Corners

variable {places : List (Place ℚ)} {weight : ℚ} {corner : ℚ × List ℤ}

/-- The corners that are listed are corners of the cell. -/
theorem isCorner_of_mem_corners (h : corner ∈ corners weight places) :
    IsCorner places corner.2 := by
  induction places generalizing weight corner with
  | nil =>
    rw [corners, List.mem_singleton] at h
    rw [h]
    exact .nil
  | cons p rest ih =>
    rw [corners, List.mem_append, List.mem_map, List.mem_map] at h
    rcases h with ⟨c, hc, rfl⟩ | ⟨c, hc, rfl⟩
    · exact .cons p.base_mem (ih hc)
    · exact .cons p.base_succ_mem (ih hc)

/-- No corner has a negative weight. -/
theorem weight_nonneg (hplaces : ∀ p ∈ places, 0 ≤ p.offset ∧ p.offset ≤ 1) (hweight : 0 ≤ weight)
    (h : corner ∈ corners weight places) : 0 ≤ corner.1 := by
  have hone : (1.0 : ℚ) = 1 := by norm_num
  induction places generalizing weight corner with
  | nil =>
    rw [corners, List.mem_singleton] at h
    rwa [h]
  | cons p rest ih =>
    obtain ⟨hoffset, hoffset'⟩ := hplaces p List.mem_cons_self
    have hrest : ∀ q ∈ rest, 0 ≤ q.offset ∧ q.offset ≤ 1 :=
      fun q hq => hplaces q (List.mem_cons_of_mem _ hq)
    rw [corners, List.mem_append, List.mem_map, List.mem_map] at h
    rcases h with ⟨c, hc, rfl⟩ | ⟨c, hc, rfl⟩
    · show 0 ≤ c.1
      have hfactor : 0 ≤ 1.0 - p.offset := by
        rw [hone]
        linarith
      exact ih hrest (mul_nonneg hweight hfactor) hc
    · show 0 ≤ c.1
      exact ih hrest (mul_nonneg hweight hoffset) hc

/-- The corners share out the weight they are given. -/
theorem sum_weights (weight : ℚ) (places : List (Place ℚ)) :
    ((corners weight places).map Prod.fst).sum = weight := by
  have hsum := sum_corners weight places fun _ => 1
  rw [alongAxes_const, mul_one] at hsum
  simpa using hsum

/-- Every corner of the cell is listed. -/
theorem exists_mem_corners (weight : ℚ) {index : List ℤ} (h : IsCorner places index) :
    ∃ corner ∈ corners weight places, corner.2 = index := by
  induction h generalizing weight with
  | nil => exact ⟨(weight, []), List.mem_singleton.mpr rfl, rfl⟩
  | @cons p i rest index hi _ ih =>
    rw [corners]
    rcases Place.mem_nodes_iff.mp hi with rfl | rfl
    · obtain ⟨c, hc, rfl⟩ := ih (weight * (1.0 - p.offset))
      exact ⟨_, List.mem_append_left _ (List.mem_map_of_mem hc), rfl⟩
    · obtain ⟨c, hc, rfl⟩ := ih (weight * p.offset)
      exact ⟨_, List.mem_append_right _ (List.mem_map_of_mem hc), rfl⟩

/-- The number of a node is below the number of all nodes. -/
theorem nodeNumber_lt {index : List ℤ} (h : ∀ i ∈ index, node points i < points) :
    nodeNumber points index < points.pow index.length := by
  induction index using List.reverseRecOn with
  | nil => simp [nodeNumber]
  | append_singleton index i ih =>
    have hfront := ih fun j hj => h j (List.mem_append_left _ hj)
    have hlast := h i (List.mem_append_right _ (List.mem_singleton.mpr rfl))
    have hnumber : nodeNumber points (index ++ [i])
        = nodeNumber points index * points + node points i := by
      rw [nodeNumber, List.foldl_append]
      rfl
    rw [hnumber, List.length_append, List.length_singleton, pow_axes_succ]
    calc nodeNumber points index * points + node points i
        < nodeNumber points index * points + points := Nat.add_lt_add_left hlast _
      _ = points * (nodeNumber points index + 1) := by rw [Nat.mul_comm, Nat.mul_succ]
      _ ≤ points * points.pow index.length := Nat.mul_le_mul_left _ hfront

end Corners

section Evaluation

variable {g : Grid} {row : List ℚ}

/-- Every corner has one index for each axis, which names a node of it. -/
theorem isIndex_of_mem_cornersAt (hpoints : 1 ≤ g.points) (hrow : g.inputs ≤ row.length)
    {corner : ℚ × List ℤ} (h : corner ∈ g.cornersAt row) :
    corner.2.length = g.inputs ∧ ∀ i ∈ corner.2, IsIndex g.points i := by
  have hcorner : List.Forall₂ (fun (_ : ℚ) i => IsIndex g.points i) (row.take g.inputs) corner.2 :=
    (List.forall₂_map_left_iff.mp (isCorner_of_mem_corners h)).imp
      fun _ _ hi => isIndex_of_mem_nodes hpoints hi
  constructor
  · exact hcorner.length_eq.symm.trans (List.length_take_of_le hrow)
  · intro i hi
    obtain ⟨d, hd, rfl⟩ := List.mem_iff_getElem.mp hi
    exact (List.forall₂_iff_get.mp hcorner).2 d (hcorner.length_eq ▸ hd) hd

/-- The entry at a node for an output is one of the table. -/
theorem entry_lt_size {index : List ℤ} (hlength : index.length = g.inputs)
    (hindex : ∀ i ∈ index, IsIndex g.points i) {c : ℕ} (hc : c < g.outputs) :
    nodeNumber g.points index * g.outputs + c < g.entries.size := by
  have hnumber := nodeNumber_lt fun i hi => (hindex i hi).node_lt
  rw [hlength] at hnumber
  calc nodeNumber g.points index * g.outputs + c
      < nodeNumber g.points index * g.outputs + g.outputs := Nat.add_lt_add_left hc _
    _ = (nodeNumber g.points index + 1) * g.outputs := by rw [Nat.succ_mul]
    _ ≤ g.points.pow g.inputs * g.outputs := Nat.mul_le_mul_right _ hnumber
    _ = g.entries.size := g.size_eq.symm

/-- The weights of the corners of a point add up to one. -/
theorem sum_cornersAt (g : Grid) (row : List ℚ) : ((g.cornersAt row).map Prod.fst).sum = 1 := by
  have hone : (1.0 : ℚ) = 1 := by norm_num
  exact (sum_weights _ _).trans hone

/-- An output is the sum of the weighted entries at the corners. -/
theorem alongAxes_eq_sum (g : Grid) (row : List ℚ) (c : ℕ) :
    alongAxes ((row.take g.inputs).map (place g.points)) (g.codeAt c)
      = ((g.cornersAt row).map fun corner => corner.1 * g.codeAt c corner.2).sum := by
  have hone : (1.0 : ℚ) = 1 := by norm_num
  rw [cornersAt, sum_corners, hone, one_mul]

/-- An output lies between any two bounds of the entries at the corners. -/
theorem alongAxes_mem (hpoints : 1 ≤ g.points) {c : ℕ} {lo hi : ℚ}
    (h : ∀ corner ∈ g.cornersAt row, lo ≤ g.codeAt c corner.2 ∧ g.codeAt c corner.2 ≤ hi) :
    lo ≤ alongAxes ((row.take g.inputs).map (place g.points)) (g.codeAt c)
      ∧ alongAxes ((row.take g.inputs).map (place g.points)) (g.codeAt c) ≤ hi := by
  have hplaces : ∀ p ∈ (row.take g.inputs).map (place g.points), 0 ≤ p.offset ∧ p.offset ≤ 1 :=
    fun p => offset_of_mem_map_place hpoints
  have hbounds : ∀ index, IsCorner ((row.take g.inputs).map (place g.points)) index →
      lo ≤ g.codeAt c index ∧ g.codeAt c index ≤ hi := by
    intro index hindex
    obtain ⟨corner, hcorner, rfl⟩ := exists_mem_corners (1.0 : ℚ) hindex
    exact h corner hcorner
  constructor
  · have hlow := alongAxes_le_alongAxes (f := fun _ => lo) hplaces
      fun index hindex => (hbounds index hindex).1
    rwa [alongAxes_const] at hlow
  · have hhigh := alongAxes_le_alongAxes (g := fun _ => hi) hplaces
      fun index hindex => (hbounds index hindex).2
    rwa [alongAxes_const] at hhigh

/-- There are corners, since their weights add up to one, so one of them has the least entry and
one the greatest. -/
theorem exists_range_cornerCodes (g : Grid) (row : List ℚ) (c : ℕ) :
    ∃ lo hi, (g.cornerCodes row c).min? = some lo ∧ (g.cornerCodes row c).max? = some hi := by
  have hcodes : g.cornerCodes row c ≠ [] := by
    intro hnone
    have hsum := sum_cornersAt g row
    rw [List.map_eq_nil_iff.mp hnone] at hsum
    exact absurd hsum (by simp)
  obtain ⟨lo, hlo⟩ := Option.ne_none_iff_exists'.mp (mt List.min?_eq_none_iff.mp hcodes)
  obtain ⟨hi, hhi⟩ := Option.ne_none_iff_exists'.mp (mt List.max?_eq_none_iff.mp hcodes)
  exact ⟨lo, hi, hlo, hhi⟩

/-- The entry at a corner lies between the least and the greatest of them. -/
theorem codeAt_mem_range {c lo hi : ℕ} (hlo : (g.cornerCodes row c).min? = some lo)
    (hhi : (g.cornerCodes row c).max? = some hi) {corner : ℚ × List ℤ}
    (h : corner ∈ g.cornersAt row) :
    lo ≤ g.codeAt c corner.2 ∧ g.codeAt c corner.2 ≤ hi := by
  have hcode : (g.entry (nodeNumber g.points corner.2) c).toNat ∈ g.cornerCodes row c :=
    List.mem_map_of_mem h
  rw [codeAt, Scalar.ofCode16_rat]
  constructor
  · exact_mod_cast (List.min?_eq_some_iff.mp hlo).2 _ hcode
  · exact_mod_cast (List.max?_eq_some_iff.mp hhi).2 _ hcode

/-- For every row that has a column for each axis the corners that a table is read at have their
entries in the table, their weights are shares of one whole, and every output is the sum of the
weighted entries. So it lies between the least and the greatest of them, and in the 16-bit
domain. -/
theorem weighs_corners (g : Grid) (hpoints : 1 ≤ g.points) (row : List ℚ)
    (hrow : g.inputs ≤ row.length) :
    (∀ corner ∈ g.cornersAt row, 0 ≤ corner.1
        ∧ corner.2.length = g.inputs
        ∧ (∀ i ∈ corner.2, IsIndex g.points i ∧ node g.points i < g.points)
        ∧ ∀ c < g.outputs, nodeNumber g.points corner.2 * g.outputs + c < g.entries.size)
      ∧ ((g.cornersAt row).map Prod.fst).sum = 1
      ∧ ∃ result : List ℚ,
        (g.evaluateRows : RowOp ℚ ℚ).onNested (Nested.ofRow row) = .ok (Nested.ofRow result)
        ∧ result.length = g.outputs
        ∧ ∀ c (hc : c < result.length),
          result[c] = ((g.cornersAt row).map fun corner => corner.1 * g.codeAt c corner.2).sum
          ∧ (∃ lo hi, (g.cornerCodes row c).min? = some lo ∧ (g.cornerCodes row c).max? = some hi
            ∧ lo ≤ result[c] ∧ result[c] ≤ hi)
          ∧ 0 ≤ result[c] ∧ result[c] ≤ 65535 := by
  refine ⟨fun corner hcorner => ?_, sum_cornersAt g row, g.evaluate row,
    onNested_evaluateRows hpoints hrow, by simp [evaluate], fun c hc => ?_⟩
  · obtain ⟨hlength, hindex⟩ := isIndex_of_mem_cornersAt hpoints hrow hcorner
    have hweight : (0 : ℚ) ≤ 1.0 := by norm_num
    exact ⟨weight_nonneg (fun p => offset_of_mem_map_place hpoints) hweight hcorner, hlength,
      fun i hi => ⟨hindex i hi, (hindex i hi).node_lt⟩, fun c hc => entry_lt_size hlength hindex hc⟩
  · obtain ⟨lo, hi, hlo, hhi⟩ := exists_range_cornerCodes g row c
    have hrange : ∀ corner ∈ g.cornersAt row, lo ≤ g.codeAt c corner.2 ∧ g.codeAt c corner.2 ≤ hi :=
      fun corner hcorner => codeAt_mem_range hlo hhi hcorner
    have hdomain : ∀ corner ∈ g.cornersAt row,
        0 ≤ g.codeAt c corner.2 ∧ g.codeAt c corner.2 ≤ 65535 :=
      fun corner _ => ⟨Scalar.ofCode16_nonneg _, Scalar.ofCode16_le _⟩
    rw [getElem_evaluate]
    exact ⟨alongAxes_eq_sum g row c, ⟨lo, hi, hlo, hhi, alongAxes_mem hpoints hrange⟩,
      alongAxes_mem hpoints hdomain⟩

/-- A table over two axes of a single node each. -/
def singleNode : Grid where
  points := 1
  inputs := 2
  outputs := 1
  entries := #[9]
  size_eq := rfl

/-- A single node is all there is to read, at points on both sides of the domain. -/
theorem weighs_corners_singleNode :
    (1 ≤ singleNode.points ∧ singleNode.inputs ≤ 2)
      ∧ (singleNode.cornersAt [-5, 80000]).map Prod.snd = [[-1, -1], [-1, 0], [0, -1], [0, 0]]
      ∧ ((singleNode.cornersAt [-5, 80000]).map Prod.fst).sum = 1
      ∧ (singleNode.evaluateRows : RowOp ℚ ℚ).onNested (Nested.ofRow [-5, 80000])
        = .ok (Nested.ofRow [9]) := by
  obtain ⟨-, hsum, result, hread, hlength, hvalue⟩ :=
    weighs_corners singleNode (by decide) [-5, 80000] (by decide)
  have hcorners : (singleNode.cornersAt [-5, 80000]).map Prod.snd
      = [[-1, -1], [-1, 0], [0, -1], [0, 0]] := by
    simp [cornersAt, singleNode, place_one, corners]
  have hcodes : singleNode.cornerCodes [-5, 80000] 0 = [9, 9, 9, 9] := by
    have hentries : singleNode.cornerCodes [-5, 80000] 0
        = ((singleNode.cornersAt [-5, 80000]).map Prod.snd).map fun index =>
          (singleNode.entry (nodeNumber 1 index) 0).toNat := by
      rw [List.map_map]
      rfl
    rw [hentries, hcorners]
    decide
  obtain ⟨x, rfl⟩ := List.length_eq_one_iff.mp hlength
  obtain ⟨-, ⟨lo, hi, hlo, hhi, hlow, hhigh⟩, -⟩ := hvalue 0 Nat.zero_lt_one
  rw [hcodes] at hlo hhi
  obtain rfl : 9 = lo := Option.some.inj hlo
  obtain rfl : 9 = hi := Option.some.inj hhi
  obtain rfl : x = 9 := le_antisymm hhigh hlow
  exact ⟨by decide, hcorners, hsum, hread⟩

end Evaluation

end Recolor.Grid
