import Mathlib.Algebra.Order.Round
import Mathlib.Tactic.FieldSimp
import Mathlib.Tactic.Ring
import Recolor.Proofs.Numeric.Rational
import Recolor.Table.Grid

/-!
# Interpolation axis by axis

The weighted sum over the corners of a cell is linear interpolation along one axis after another.
Along an axis a point lies between two neighbouring nodes, and what is linear in the number of the
node comes out exactly at the point. The values at the nodes are rounded, so what is sampled at
them is displaced by half a code at most.
-/

set_option autoImplicit false

namespace Recolor.Grid

/-- The mean of the values at the two nodes around a place, by how near they are. -/
def Place.between (p : Place ℚ) (f : ℤ → ℚ) : ℚ :=
  (1 - p.offset) * f p.base + p.offset * f (p.base + 1)

/-- Interpolation along the first axis of values that are interpolated along the others. -/
def alongAxes : List (Place ℚ) → (List ℤ → ℚ) → ℚ
  | [], f => f []
  | p :: rest, f => p.between fun i => alongAxes rest fun index => f (i :: index)

/-- The two nodes around a place. -/
def Place.nodes (p : Place ℚ) : List ℤ :=
  [p.base, p.base + 1]

/-- The nodes at the corners of the cell of a point. -/
def IsCorner (places : List (Place ℚ)) (index : List ℤ) : Prop :=
  List.Forall₂ (fun p i => i ∈ p.nodes) places index

namespace Place

variable {p : Place ℚ}

/-- The lower node of a place is one of its two nodes. -/
theorem base_mem (p : Place ℚ) : p.base ∈ p.nodes := by
  simp [nodes]

/-- The upper node of a place is one of its two nodes. -/
theorem base_succ_mem (p : Place ℚ) : p.base + 1 ∈ p.nodes := by
  simp [nodes]

/-- The nodes of a place are the lower one and the one after it. -/
theorem mem_nodes_iff {i : ℤ} : i ∈ p.nodes ↔ i = p.base ∨ i = p.base + 1 := by
  simp [nodes]

/-- Between nodes of one value there is only that value. -/
theorem between_const (p : Place ℚ) (c : ℚ) : p.between (fun _ => c) = c := by
  rw [between]
  ring

/-- A mean that is scaled and shifted is the mean of what is scaled and shifted. -/
theorem between_affine (p : Place ℚ) (slope shift : ℚ) (f : ℤ → ℚ) :
    p.between (fun i => slope * f i + shift) = slope * p.between f + shift := by
  simp only [between]
  ring

/-- Interpolation only reads the two nodes. -/
theorem between_congr {f g : ℤ → ℚ} (h : ∀ i ∈ p.nodes, f i = g i) :
    p.between f = p.between g := by
  rw [between, between, h p.base p.base_mem, h (p.base + 1) p.base_succ_mem]

/-- Between two nodes values are as near to each other as they are at the nodes. -/
theorem abs_between_sub_le {f g : ℤ → ℚ} {ε : ℚ} (h0 : 0 ≤ p.offset) (h1 : p.offset ≤ 1)
    (h : ∀ i ∈ p.nodes, |f i - g i| ≤ ε) : |p.between f - p.between g| ≤ ε := by
  have hlower := abs_le.mp (h p.base p.base_mem)
  have hupper := abs_le.mp (h (p.base + 1) p.base_succ_mem)
  have hrest : 0 ≤ 1 - p.offset := by linarith
  have hsum : p.between f - p.between g
      = (1 - p.offset) * (f p.base - g p.base)
        + p.offset * (f (p.base + 1) - g (p.base + 1)) := by
    rw [between, between]
    ring
  rw [hsum, abs_le]
  constructor
  · have hl := mul_le_mul_of_nonneg_left hlower.1 hrest
    have hu := mul_le_mul_of_nonneg_left hupper.1 h0
    linarith
  · have hl := mul_le_mul_of_nonneg_left hlower.2 hrest
    have hu := mul_le_mul_of_nonneg_left hupper.2 h0
    linarith

/-- Between two nodes values are as near to a number as they are at the nodes. -/
theorem abs_between_sub_const_le {f : ℤ → ℚ} {c ε : ℚ} (h0 : 0 ≤ p.offset) (h1 : p.offset ≤ 1)
    (h : ∀ i ∈ p.nodes, |f i - c| ≤ ε) : |p.between f - c| ≤ ε := by
  have hconst := abs_between_sub_le (g := fun _ => c) h0 h1 h
  rwa [between_const] at hconst

/-- Between two nodes a value that is no greater at the nodes is no greater. -/
theorem between_le_between {f g : ℤ → ℚ} (h0 : 0 ≤ p.offset) (h1 : p.offset ≤ 1)
    (h : ∀ i ∈ p.nodes, f i ≤ g i) : p.between f ≤ p.between g := by
  have hrest : 0 ≤ 1 - p.offset := by linarith
  rw [between, between]
  exact add_le_add (mul_le_mul_of_nonneg_left (h p.base p.base_mem) hrest)
    (mul_le_mul_of_nonneg_left (h (p.base + 1) p.base_succ_mem) h0)

end Place

/-- In a cell whose corners have one value there is only that value. -/
theorem alongAxes_const (places : List (Place ℚ)) (c : ℚ) : alongAxes places (fun _ => c) = c := by
  induction places with
  | nil => rfl
  | cons p rest ih =>
    simp only [alongAxes, ih]
    exact p.between_const c

/-- Interpolation only reads the corners. -/
theorem alongAxes_congr {places : List (Place ℚ)} {f g : List ℤ → ℚ}
    (h : ∀ index, IsCorner places index → f index = g index) :
    alongAxes places f = alongAxes places g := by
  induction places generalizing f g with
  | nil => exact h [] .nil
  | cons p rest ih =>
    refine Place.between_congr fun i hi => ?_
    exact ih fun index hindex => h (i :: index) (.cons hi hindex)

section Within

variable {places : List (Place ℚ)} {f g : List ℤ → ℚ}

/-- Within a cell a value that is no greater at the corners is no greater. -/
theorem alongAxes_le_alongAxes (hplaces : ∀ p ∈ places, 0 ≤ p.offset ∧ p.offset ≤ 1)
    (h : ∀ index, IsCorner places index → f index ≤ g index) :
    alongAxes places f ≤ alongAxes places g := by
  induction places generalizing f g with
  | nil => exact h [] .nil
  | cons p rest ih =>
    obtain ⟨hoffset, hoffset'⟩ := hplaces p List.mem_cons_self
    refine Place.between_le_between hoffset hoffset' fun i hi => ?_
    exact ih (fun q hq => hplaces q (List.mem_cons_of_mem _ hq))
      fun index hindex => h (i :: index) (.cons hi hindex)

/-- Within a cell values are as near to each other as they are at the corners. -/
theorem abs_alongAxes_sub_le {ε : ℚ} (hplaces : ∀ p ∈ places, 0 ≤ p.offset ∧ p.offset ≤ 1)
    (h : ∀ index, IsCorner places index → |f index - g index| ≤ ε) :
    |alongAxes places f - alongAxes places g| ≤ ε := by
  induction places generalizing f g with
  | nil => exact h [] .nil
  | cons p rest ih =>
    obtain ⟨hoffset, hoffset'⟩ := hplaces p List.mem_cons_self
    refine Place.abs_between_sub_le hoffset hoffset' fun i hi => ?_
    exact ih (fun q hq => hplaces q (List.mem_cons_of_mem _ hq))
      fun index hindex => h (i :: index) (.cons hi hindex)

end Within

/-- The weights of the corners are those of interpolation along one axis after another. -/
theorem sum_corners (weight : ℚ) (places : List (Place ℚ)) (f : List ℤ → ℚ) :
    ((corners weight places).map fun c => c.1 * f c.2).sum = weight * alongAxes places f := by
  have hone : (1.0 : ℚ) = 1 := by norm_num
  induction places generalizing weight f with
  | nil => simp [corners, alongAxes]
  | cons p rest ih =>
    rw [corners, List.map_append, List.sum_append, List.map_map, List.map_map]
    have hlower := ih (weight * (1.0 - p.offset)) fun index => f (p.base :: index)
    have hupper := ih (weight * p.offset) fun index => f ((p.base + 1) :: index)
    calc _ = weight * (1.0 - p.offset) * alongAxes rest (fun index => f (p.base :: index))
          + weight * p.offset * alongAxes rest (fun index => f ((p.base + 1) :: index)) := by
          rw [← hlower, ← hupper]
          rfl
      _ = weight * alongAxes (p :: rest) f := by
          rw [alongAxes, Place.between, hone]
          ring

/-- An output of a table at a point is interpolated from the entries of the corners. -/
theorem blend_cell (g : Grid) (row : List ℚ) (output : ℕ) :
    g.blend (g.cell row) output
      = alongAxes ((row.take g.inputs).map (place g.points)) fun index =>
          Scalar.ofCode16 (g.entry (nodeNumber g.points index) output) := by
  have hfold (cell : List (ℚ × ℕ)) (start : ℚ) (f : ℚ × ℕ → ℚ) :
      cell.foldl (fun sum c => sum + f c) start = start + (cell.map f).sum := by
    induction cell generalizing start with
    | nil => simp
    | cons c cell ih => rw [List.foldl_cons, ih, List.map_cons, List.sum_cons, add_assoc]
  have hzero : (0.0 : ℚ) = 0 := by norm_num
  have hone : (1.0 : ℚ) = 1 := by norm_num
  have hsum := sum_corners 1 ((row.take g.inputs).map (place g.points)) fun index =>
    Scalar.ofCode16 (g.entry (nodeNumber g.points index) output)
  rw [one_mul] at hsum
  rw [blend, hfold, hzero, zero_add, cell, hone, List.map_map, ← hsum]
  rfl

/-- A table is read by interpolation along one axis after another. -/
theorem evaluate_eq (g : Grid) (row : List ℚ) :
    g.evaluate row = (List.range g.outputs).map fun output =>
      alongAxes ((row.take g.inputs).map (place g.points)) fun index =>
        Scalar.ofCode16 (g.entry (nodeNumber g.points index) output) := by
  rw [evaluate]
  exact List.map_congr_left fun output _ => blend_cell g row output

section Axis

variable {points : ℕ}

/-- Where a value of the 16-bit domain lies along an axis, counted in nodes. -/
def position (points : ℕ) (x : ℚ) : ℚ :=
  min (max x 0) 65535 * ((points - 1) / 65535)

/-- A value lies in the cell that begins at the whole part of its position, or in the cell nearest
to it. -/
theorem place_eq (points : ℕ) (x : ℚ) :
    place points x
      = let base := min (max ⌊position points x⌋ 0) ((points : ℤ) - 2)
        { base, offset := position points x - base } := by
  have hzero : (0.0 : ℚ) = 0 := by norm_num
  have hdomain : (65535.0 : ℚ) = 65535 := by norm_num
  have hspan : ((Int.ofNat points - 1 : ℤ) : ℚ) = points - 1 := by push_cast; rfl
  have hlast : (Int.ofNat points - 1 - 1 : ℤ) = (points : ℤ) - 2 := by
    show (points : ℤ) - 1 - 1 = _
    omega
  simp only [place, Scalar.clip_rat, Scalar.ofInt_rat, Scalar.floor_rat, Whole.clamp_int, hzero,
    hdomain, hspan, hlast]
  rfl

/-- The lower node and the share of the cell make up the position. -/
theorem base_add_offset (points : ℕ) (x : ℚ) :
    (place points x).base + (place points x).offset = position points x := by
  rw [place_eq]
  exact add_sub_cancel _ _

/-- The cell around a point is one of the axis. -/
theorem place_base (hpoints : 2 ≤ points) (x : ℚ) :
    0 ≤ (place points x).base ∧ (place points x).base + 1 < points := by
  rw [place_eq]
  constructor <;> dsimp only <;> omega

/-- With two or more nodes along the axis those around a value are nodes of it. -/
theorem mem_nodes_place (hpoints : 2 ≤ points) {x : ℚ} {i : ℤ} (hi : i ∈ (place points x).nodes) :
    0 ≤ i ∧ i < points := by
  obtain ⟨hbase, hlast⟩ := place_base hpoints x
  rw [Place.mem_nodes_iff] at hi
  omega

/-- The nodes around a point whose cell is known. -/
theorem nodes_place {x : ℚ} {k : ℤ} (h0 : 0 ≤ k) (h1 : k + 2 ≤ points)
    (hx : k ≤ position points x ∧ position points x < k + 1) :
    (place points x).nodes = [k, k + 1] := by
  have hfloor : ⌊position points x⌋ = k := Int.floor_eq_iff.mpr hx
  have hcell : k ≤ (points : ℤ) - 2 := by omega
  rw [Place.nodes, place_eq, hfloor, max_eq_left h0, min_eq_left hcell]

/-- An axis has no negative number of cells for each code. -/
theorem nodes_per_code_nonneg (hpoints : 1 ≤ points) : (0 : ℚ) ≤ (points - 1) / 65535 := by
  have hone : (1 : ℚ) ≤ points := by exact_mod_cast hpoints
  exact div_nonneg (by linarith) (by norm_num)

/-- A position lies between the first node and the last. -/
theorem position_mem (hpoints : 1 ≤ points) (x : ℚ) :
    0 ≤ position points x ∧ position points x ≤ points - 1 := by
  have hlow : (0 : ℚ) ≤ min (max x 0) 65535 := le_min (le_max_right _ _) (by norm_num)
  have hhigh : min (max x 0) 65535 ≤ 65535 := min_le_right _ _
  have hstep := nodes_per_code_nonneg hpoints
  rw [position]
  constructor
  · exact mul_nonneg hlow hstep
  · calc min (max x 0) 65535 * ((points - 1) / 65535)
        ≤ 65535 * ((points - 1) / 65535) := mul_le_mul_of_nonneg_right hhigh hstep
      _ = points - 1 := by ring

/-- A point lies between the two nodes of its cell, also if the axis has a single node, which is
then the upper one. -/
theorem place_offset (hpoints : 1 ≤ points) (x : ℚ) :
    0 ≤ (place points x).offset ∧ (place points x).offset ≤ 1 := by
  obtain ⟨hnonneg, hle⟩ := position_mem hpoints x
  have hfloor : 0 ≤ ⌊position points x⌋ := Int.floor_nonneg.mpr hnonneg
  have hbelow : (⌊position points x⌋ : ℚ) ≤ position points x := Int.floor_le _
  have habove : position points x < ⌊position points x⌋ + 1 := Int.lt_floor_add_one _
  rw [place_eq, max_eq_left hfloor]
  dsimp only
  rcases le_total ⌊position points x⌋ ((points : ℤ) - 2) with hcell | hend
  · rw [min_eq_left hcell]
    constructor <;> linarith
  · -- only at the upper end of the axis is the cell not the one that begins at the point
    have hend' : ((points : ℚ) - 2) ≤ ⌊position points x⌋ := by exact_mod_cast hend
    rw [min_eq_right hend]
    push_cast
    constructor <;> linarith

/-- In every cell of a row the share of the cell is one between zero and one. -/
theorem offset_of_mem_map_place (hpoints : 1 ≤ points) {row : List ℚ} {p : Place ℚ}
    (hp : p ∈ row.map (place points)) : 0 ≤ p.offset ∧ p.offset ≤ 1 := by
  obtain ⟨x, -, rfl⟩ := List.mem_map.mp hp
  exact place_offset hpoints x

/-- The value at a node is the node's share of the domain to the nearest integer. -/
theorem toNat_nodeValue (hpoints : 2 ≤ points) {i : ℕ} (hi : i < points) :
    ((nodeValue points i).toNat : ℤ) = ⌊(65535 * i / (points - 1) + 1 / 2 : ℚ)⌋ := by
  obtain ⟨d, rfl⟩ : ∃ d, points = d + 1 := ⟨points - 1, by omega⟩
  have hd : 0 < d := by omega
  have hcode : (2 * (i * 65535) + d) / (2 * d) < 65536 := by
    rw [Nat.div_lt_iff_lt_mul (by omega)]
    omega
  have hshare : (65535 * i / ((d + 1 : ℕ) - 1) + 1 / 2 : ℚ)
      = ((2 * (i * 65535) + d : ℕ) : ℚ) / ((2 * d : ℕ) : ℚ) := by
    have hpositive : (d : ℚ) ≠ 0 := by exact_mod_cast hd.ne'
    push_cast
    rw [add_sub_cancel_right]
    field_simp
  rw [nodeValue, Nat.add_sub_cancel, UInt16.toNat_ofNat_of_lt' hcode, hshare,
    Rat.floor_natCast_div_natCast]
  exact Int.natCast_div _ _

/-- The value at a node is within half a code of the node's share of the domain. -/
theorem abs_nodeValue_sub_le (hpoints : 2 ≤ points) {i : ℕ} (hi : i < points) :
    |(Scalar.ofCode16 (nodeValue points i) : ℚ) - i * (65535 / (points - 1))| ≤ 1 / 2 := by
  have hvalue : (Scalar.ofCode16 (nodeValue points i) : ℚ)
      = round (65535 * i / (points - 1) : ℚ) := by
    rw [Scalar.ofCode16_rat, round_eq, ← toNat_nodeValue hpoints hi, Int.cast_natCast]
  have hshare : (i : ℚ) * (65535 / (points - 1)) = 65535 * i / (points - 1) := by ring
  rw [hvalue, hshare, abs_sub_comm]
  exact abs_sub_round _

/-- The value at a node of an axis, which a corner's index names. -/
def nodeCode (points : ℕ) (i : ℤ) : ℚ :=
  Scalar.ofCode16 (nodeValue points i.toNat)

/-- What is linear in the exact place of a node is interpolated exactly, for the value confined to
the domain. -/
theorem between_line (hpoints : 2 ≤ points) (x slope shift : ℚ) :
    (place points x).between (fun i => slope * (i * (65535 / (points - 1))) + shift)
      = slope * min (max x 0) 65535 + shift := by
  have hspan : (0 : ℚ) < points - 1 := by
    have htwo : (2 : ℚ) ≤ points := by exact_mod_cast hpoints
    linarith
  have hposition : (place points x).between (fun i => (i : ℚ)) = position points x := by
    rw [Place.between, ← base_add_offset]
    push_cast
    ring
  calc (place points x).between (fun i => slope * (i * (65535 / (points - 1))) + shift)
      = (place points x).between
          (fun i => slope * (65535 / (points - 1)) * (i : ℚ) + shift) := by
        congr 1
        funext i
        ring
    _ = slope * min (max x 0) 65535 + shift := by
        rw [Place.between_affine, hposition, position]
        field_simp

/-- A rising line through the values of the nodes misses the line at a value by what the nodes are
displaced. -/
theorem abs_between_nodeCode_sub_le (hpoints : 2 ≤ points) {x : ℚ} (hx : 0 ≤ x ∧ x ≤ 65535)
    {slope : ℚ} (hslope : 0 ≤ slope) (shift : ℚ) :
    |(place points x).between (fun i => slope * nodeCode points i + shift) - (slope * x + shift)|
      ≤ slope / 2 := by
  obtain ⟨hoffset, hoffset'⟩ := place_offset (one_le_two.trans hpoints) x
  have hline := between_line hpoints x slope shift
  rw [max_eq_left hx.1, min_eq_left hx.2] at hline
  rw [← hline]
  refine Place.abs_between_sub_le hoffset hoffset' fun i hi => ?_
  have hrange := mem_nodes_place hpoints hi
  have hcast : (i : ℚ) = (i.toNat : ℕ) := by
    have hindex : (i.toNat : ℤ) = i := Int.toNat_of_nonneg hrange.1
    exact_mod_cast hindex.symm
  have hnode : |nodeCode points i - i.toNat * (65535 / (points - 1))| ≤ 1 / 2 :=
    abs_nodeValue_sub_le hpoints (by omega)
  have hscaled := mul_le_mul_of_nonneg_left hnode hslope
  rw [← abs_of_nonneg hslope, ← abs_mul, abs_of_nonneg hslope] at hscaled
  have hdisplaced := abs_le.mp hscaled
  rw [hcast, abs_le]
  constructor <;> linarith

end Axis

section Axes

variable {points : ℕ}

/-- What only depends on one coordinate of the node is interpolated along its axis alone. -/
theorem alongAxes_coordinate {row : List ℚ} {d : ℕ} (hd : d < row.length) (f : ℤ → ℚ) :
    alongAxes (row.map (place points)) (fun index => f (index.getD d 0))
      = (place points row[d]).between f := by
  induction row generalizing d with
  | nil => exact absurd hd (Nat.not_lt_zero d)
  | cons x row ih =>
    cases d with
    | zero =>
      simp only [List.map_cons, alongAxes, List.getD_cons_zero, alongAxes_const]
      rfl
    | succ d =>
      simp only [List.map_cons, alongAxes, List.getD_cons_succ, List.getElem_cons_succ,
        ih (Nat.lt_of_succ_lt_succ hd)]
      exact Place.between_const _ _

/-- Within a cell values are as near to a number as they are at the corners. -/
theorem abs_alongAxes_sub_const_le (hpoints : 2 ≤ points) {row : List ℚ} {f : List ℤ → ℚ}
    {c ε : ℚ} (hf : ∀ index, IsCorner (row.map (place points)) index → |f index - c| ≤ ε) :
    |alongAxes (row.map (place points)) f - c| ≤ ε := by
  have hnear := abs_alongAxes_sub_le (g := fun _ => c)
    (fun p => offset_of_mem_map_place (one_le_two.trans hpoints)) hf
  rwa [alongAxes_const] at hnear

/-- What is near at the corners of a cell to values that only depend on one coordinate is near
within the cell to what those are interpolated to along their axis. -/
theorem abs_alongAxes_sub_between_le (hpoints : 2 ≤ points) {row : List ℚ} {d : ℕ}
    (hd : d < row.length) {f : List ℤ → ℚ} {g : ℤ → ℚ} {ε : ℚ}
    (hf : ∀ index, IsCorner (row.map (place points)) index →
      |f index - g (index.getD d 0)| ≤ ε) :
    |alongAxes (row.map (place points)) f - (place points row[d]).between g| ≤ ε := by
  induction row generalizing d f with
  | nil => exact absurd hd (Nat.not_lt_zero d)
  | cons x row ih =>
    obtain ⟨hoffset, hoffset'⟩ := place_offset (one_le_two.trans hpoints) x
    cases d with
    | zero =>
      refine Place.abs_between_sub_le hoffset hoffset' fun i hi => ?_
      exact abs_alongAxes_sub_const_le hpoints fun index hindex => hf (i :: index) (.cons hi hindex)
    | succ d =>
      refine Place.abs_between_sub_const_le hoffset hoffset' fun i hi => ?_
      exact ih (Nat.lt_of_succ_lt_succ hd) fun index hindex => hf (i :: index) (.cons hi hindex)

/-- What is near to a rising line in one coordinate at the corners of a cell is near to the line
within the cell, but for the displacement of the nodes along that axis. -/
theorem abs_alongAxes_sub_line_le (hpoints : 2 ≤ points) {row : List ℚ} {d : ℕ}
    (hd : d < row.length) (hx : 0 ≤ row[d] ∧ row[d] ≤ 65535) {f : List ℤ → ℚ}
    {slope shift ε : ℚ} (hslope : 0 ≤ slope)
    (hf : ∀ index, IsCorner (row.map (place points)) index →
      |f index - (slope * nodeCode points (index.getD d 0) + shift)| ≤ ε) :
    |alongAxes (row.map (place points)) f - (slope * row[d] + shift)| ≤ ε + slope / 2 := by
  have hnear := abs_alongAxes_sub_between_le hpoints hd
    (g := fun i => slope * nodeCode points i + shift) hf
  have hdisplaced := abs_between_nodeCode_sub_le hpoints hx hslope shift
  exact (abs_sub_le _ _ _).trans (add_le_add hnear hdisplaced)

end Axes

end Recolor.Grid
