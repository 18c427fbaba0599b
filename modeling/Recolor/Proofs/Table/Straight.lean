import Recolor.Proofs.Table.Curves
import Recolor.Proofs.Table.Sampling

/-!
# Tables that hold a line in each channel

A table with as many outputs as inputs may hold in each output a line over the input of the same
number, rounded to codes. Interpolation adds nothing to the rounding, and what a point was off
before it is not off by more behind a line that is no steeper than the diagonal.
-/

set_option autoImplicit false

namespace Recolor.Grid

/-- The table holds in each channel of a node, within half a code, what a function gives for the
node's share of the domain along the axis of that number. -/
def IsNear (g : Grid) (line : ℚ → ℚ) : Prop :=
  ∀ node : List ℕ, node.length = g.inputs → (∀ i ∈ node, i < g.points) →
    ∀ channel < g.outputs,
      |(Scalar.ofCode16 (g.entry (nodeNumber g.points (node.map Int.ofNat)) channel) : ℚ)
        - line (node.getD channel 0 * 65535 / (g.points - 1))| ≤ 1 / 2

variable {g : Grid} {slope shift : ℚ}

/-- At any point a channel is within half a code of the line at the coordinate, confined to the
domain. -/
theorem IsNear.abs_alongAxes_sub_le (hg : g.IsNear fun x => slope * x + shift)
    (hpoints : 2 ≤ g.points) {row : List ℚ} (hrow : row.length = g.inputs) {channel : ℕ}
    (hchannel : channel < row.length) (houtputs : row.length = g.outputs) :
    |alongAxes (row.map (place g.points)) (fun index =>
        Scalar.ofCode16 (g.entry (nodeNumber g.points index) channel))
      - (slope * min (max row[channel] 0) 65535 + shift)| ≤ 1 / 2 := by
  rw [← between_line hpoints]
  refine abs_alongAxes_sub_between_le hpoints hchannel fun index hindex => ?_
  obtain ⟨node, rfl, hlength, hnode⟩ := exists_node_of_isCorner hpoints hindex
  have hentry := hg node (hlength.trans hrow) hnode channel (houtputs ▸ hchannel)
  have hcoordinate : (node.map Int.ofNat).getD channel 0 = (node.getD channel 0 : ℤ) := by
    rw [List.getD_eq_getElem?_getD, List.getElem?_map, List.getD_eq_getElem?_getD]
    cases node[channel]? <;> rfl
  rw [hcoordinate]
  rwa [mul_div_assoc] at hentry

/-- Reading the table adds half a code to the error of each column, if the line is no steeper than
the diagonal and what is meant lies in the domain. -/
theorem IsNear.areNear_evaluate (hg : g.IsNear fun x => slope * x + shift) (hslope : |slope| ≤ 1)
    (hpoints : 2 ≤ g.points) (houtputs : g.outputs = g.inputs) {ε : ℚ} {row exact : List ℚ}
    (hlength : row.length = g.inputs) (hrow : AreNear ε row exact)
    (hexact : ∀ v ∈ exact, 0 ≤ v ∧ v ≤ 65535) :
    AreNear (ε + 1 / 2) (g.evaluate row) (exact.map fun v => slope * v + shift) := by
  obtain ⟨hsame, hcolumn⟩ := List.forall₂_iff_get.mp hrow
  rw [evaluate_eq, List.take_of_length_le hlength.le]
  refine List.forall₂_iff_get.mpr ⟨by simp [houtputs, ← hlength, hsame], fun d hd hd' => ?_⟩
  have hchannel : d < row.length := by simpa [houtputs, ← hlength] using hd
  have hmeant : d < exact.length := by rwa [List.length_map] at hd'
  have hnear := hcolumn d hchannel hmeant
  obtain ⟨hlow, hhigh⟩ := hexact _ (List.getElem_mem hmeant)
  have hconfined := abs_confine_sub_le (x := row[d]) hlow hhigh
  have hread := hg.abs_alongAxes_sub_le hpoints hlength hchannel (hlength.trans houtputs.symm)
  simp only [List.get_eq_getElem, List.getElem_map, List.getElem_range] at hnear ⊢
  -- the line takes over the error of the coordinate, scaled by its slope
  have hline : |slope * min (max row[d] 0) 65535 + shift - (slope * exact[d] + shift)| ≤ ε := by
    have hscaled : slope * min (max row[d] 0) 65535 + shift - (slope * exact[d] + shift)
        = slope * (min (max row[d] 0) 65535 - exact[d]) := by ring
    rw [hscaled, abs_mul]
    calc |slope| * |min (max row[d] 0) 65535 - exact[d]|
        ≤ 1 * |min (max row[d] 0) 65535 - exact[d]| :=
          mul_le_mul_of_nonneg_right hslope (abs_nonneg _)
      _ ≤ ε := by rw [one_mul]; exact hconfined.trans hnear
  have htotal := abs_sub_le (alongAxes (row.map (place g.points)) fun index =>
      Scalar.ofCode16 (g.entry (nodeNumber g.points index) d))
    (slope * min (max row[d] 0) 65535 + shift) (slope * exact[d] + shift)
  linarith

end Recolor.Grid
