import Mathlib.Algebra.Order.SuccPred
import Mathlib.Data.Int.SuccPred
import Recolor.Proofs.Table.Multilinear

/-!
# From neighbouring entries to any two points

What holds of the entries of any two neighbouring nodes carries over to all that is read between
the nodes. If no step from a node to the next goes down, then no move of a coordinate upwards
does. If every step is small, then what is read at two points differs no more than the steps
between their positions allow, however many cells lie between them and however far outside the
domain they are.
-/

set_option autoImplicit false

namespace Recolor.Grid

/-- What holds of the values of any two nodes that are neighbours along an axis. -/
def EachStep (points axes : ℕ) (related : ℚ → ℚ → Prop) (f : List ℤ → ℚ) : Prop :=
  ∀ (front rest : List ℤ) (i : ℤ), IsNode points axes (front ++ i :: rest) →
    IsNode points axes (front ++ (i + 1) :: rest) →
    related (f (front ++ i :: rest)) (f (front ++ (i + 1) :: rest))

section Step

variable {points axes : ℕ} {related : ℚ → ℚ → Prop} {f : List ℤ → ℚ} {i : ℤ}

/-- One more index of an axis names a node over one more axis. -/
theorem IsNode.cons {index : List ℤ} (hi : 0 ≤ i ∧ i < points) (h : IsNode points axes index) :
    IsNode points (axes + 1) (i :: index) := by
  refine ⟨by rw [List.length_cons, h.1], fun j hj => ?_⟩
  rcases List.mem_cons.mp hj with rfl | hj
  · exact hi
  · exact h.2 j hj

/-- Two indices of an axis name a node over two axes. -/
theorem isNode_two {j : ℤ} (hi : 0 ≤ i ∧ i < points) (hj : 0 ≤ j ∧ j < points) :
    IsNode points 2 [i, j] := by
  have hnone : IsNode points 0 [] := ⟨rfl, by simp⟩
  exact (hnone.cons hj).cons hi

/-- What holds of any two neighbours holds of those along the first axis. -/
theorem EachStep.first (hf : EachStep points (axes + 1) related f) (h0 : 0 ≤ i)
    (h1 : i + 1 < points) {rest : List ℤ} (hrest : IsNode points axes rest) :
    related (f (i :: rest)) (f ((i + 1) :: rest)) :=
  hf [] rest i (hrest.cons ⟨h0, by omega⟩) (hrest.cons ⟨by omega, h1⟩)

/-- What holds of any two neighbours holds of those with one first index. -/
theorem EachStep.tail (hf : EachStep points (axes + 1) related f) (hi : 0 ≤ i ∧ i < points) :
    EachStep points axes related fun index => f (i :: index) :=
  fun front rest j hj hj' => hf (i :: front) rest j (hj.cons hi) (hj'.cons hi)

/-- Over two axes the neighbours along each of them are all there are. -/
theorem eachStep_two
    (hfirst : ∀ i j : ℤ, 0 ≤ i → i + 1 < points → 0 ≤ j → j < points →
      related (f [i, j]) (f [i + 1, j]))
    (hsecond : ∀ i j : ℤ, 0 ≤ i → i < points → 0 ≤ j → j + 1 < points →
      related (f [i, j]) (f [i, j + 1])) : EachStep points 2 related f := by
  intro front rest i hnode hnext
  have hlength := hnode.1
  rw [List.length_append, List.length_cons] at hlength
  have hi := (hnode.2 i (by simp)).1
  have hi' := (hnext.2 (i + 1) (by simp)).2
  cases front with
  | nil =>
    rw [List.length_nil] at hlength
    obtain ⟨j, rfl⟩ : ∃ j, rest = [j] := List.length_eq_one_iff.mp (by omega)
    obtain ⟨hj, hj'⟩ := hnode.2 j (by simp)
    exact hfirst i j hi hi' hj hj'
  | cons j front =>
    rw [List.length_cons] at hlength
    obtain rfl : front = [] := List.eq_nil_of_length_eq_zero (by omega)
    obtain rfl : rest = [] := List.eq_nil_of_length_eq_zero (by omega)
    obtain ⟨hj, hj'⟩ := hnode.2 j (by simp)
    exact hsecond j i hj hj' hi hi'

end Step

/-! ## Along one axis -/

section Axis

variable {points : ℕ} {p q : Place ℚ} {s t : ℚ} {f : ℤ → ℚ}

/-- Between two nodes that do not go down a value is at most the upper one. -/
theorem Place.between_le_upper (hoffset : p.offset ≤ 1) (hstep : f p.base ≤ f (p.base + 1)) :
    p.between f ≤ f (p.base + 1) := by
  have hrest : 0 ≤ 1 - p.offset := sub_nonneg.mpr hoffset
  have hgap := mul_le_mul_of_nonneg_left hstep hrest
  rw [Place.between]
  linarith

/-- Between two nodes that do not go down a value is at least the lower one. -/
theorem Place.lower_le_between (hoffset : 0 ≤ p.offset) (hstep : f p.base ≤ f (p.base + 1)) :
    f p.base ≤ p.between f := by
  have hgap := mul_le_mul_of_nonneg_left hstep hoffset
  rw [Place.between]
  linarith

/-- What does not go down from a node to the next does not go down between two positions. -/
theorem Place.Marks.between_le (hp : p.Marks s) (hq : q.Marks t) (hst : s ≤ t)
    (hf : ∀ i, p.base ≤ i → i ≤ q.base → f i ≤ f (i + 1)) : p.between f ≤ q.between f := by
  have hs := hp.base_add_offset
  have ht := hq.base_add_offset
  rcases lt_trichotomy p.base q.base with hlt | heq | hgt
  · -- the upper node of the one cell lies before the lower node of the other
    have hrise : MonotoneOn f (Set.Icc (p.base + 1) q.base) :=
      monotoneOn_of_le_add_one Set.ordConnected_Icc fun i _ hi _ => hf i (by grind) hi.2
    calc p.between f ≤ f (p.base + 1) :=
          Place.between_le_upper hp.offset_le_one (hf p.base le_rfl hlt.le)
      _ ≤ f q.base := hrise ⟨le_rfl, hlt⟩ ⟨hlt, le_rfl⟩ hlt
      _ ≤ q.between f := Place.lower_le_between hq.offset_nonneg (hf q.base hlt.le le_rfl)
  · have hstep : 0 ≤ f (q.base + 1) - f q.base := sub_nonneg.mpr (hf q.base heq.le le_rfl)
    have hoffset : p.offset ≤ q.offset := by
      rw [heq] at hs
      linarith
    have hgain := mul_le_mul_of_nonneg_right hoffset hstep
    rw [Place.between, Place.between, heq]
    linarith
  · -- the cells are in the wrong order only for one position on the node between them
    have hcells : (q.base : ℚ) + 1 ≤ p.base := by exact_mod_cast hgt
    have hp0 := hp.offset_nonneg
    have hq1 := hq.offset_le_one
    obtain rfl : s = t := le_antisymm hst (by linarith)
    exact (hp.between_eq hq f).le

/-- What changes by a bounded amount from a node to the next changes between two positions by no
more than that for each node that they are apart. -/
theorem Place.Marks.abs_between_sub_le (hp : p.Marks s) (hq : q.Marks t) {D : ℚ}
    (hf : ∀ i, min p.base q.base ≤ i → i ≤ max p.base q.base → |f i - f (i + 1)| ≤ D) :
    |p.between f - q.between f| ≤ D * |s - t| := by
  wlog hst : s ≤ t generalizing p q s t
  · rw [abs_sub_comm, abs_sub_comm s t]
    refine this hq hp (fun i hi hi' => hf i ?_ ?_) (le_of_not_ge hst)
    · rwa [min_comm]
    · rwa [max_comm]
  -- what is tilted by the bound rises, upright and upside down
  have htilt (p : Place ℚ) {t : ℚ} (hp : p.Marks t) (sign : ℚ) :
      p.between (fun i => D * i + sign * f i) = D * t + sign * p.between f := by
    rw [Place.between, Place.between, ← hp.base_add_offset]
    push_cast
    ring
  have hrise {sign : ℚ} (hsign : sign = 1 ∨ sign = -1) :
      D * s + sign * p.between f ≤ D * t + sign * q.between f := by
    rw [← htilt p hp, ← htilt q hq]
    refine hp.between_le hq hst fun i hi hi' => ?_
    have hstep := abs_le.mp (hf i (min_le_of_left_le hi) (le_max_of_le_right hi'))
    push_cast
    rcases hsign with rfl | rfl <;> linarith
  have hup := hrise (.inl rfl)
  have hdown := hrise (.inr rfl)
  rw [abs_of_nonpos (sub_nonpos.mpr hst), abs_le]
  constructor <;> linarith

/-- A greater value has no lesser position. -/
theorem position_le_position (hpoints : 1 ≤ points) {x y : ℚ} (hxy : x ≤ y) :
    position points x ≤ position points y :=
  mul_le_mul_of_nonneg_right (min_le_min_right _ (max_le_max_right _ hxy))
    (nodes_per_code_nonneg hpoints)

/-- Two positions are no further apart than their values are, scaled to the nodes of the axis. -/
theorem abs_position_sub_le (hpoints : 1 ≤ points) (x y : ℚ) :
    |position points x - position points y| ≤ (points - 1) / 65535 * |x - y| := by
  have hscale := nodes_per_code_nonneg hpoints
  rw [position, position, ← sub_mul, abs_mul, abs_of_nonneg hscale, mul_comm]
  exact mul_le_mul_of_nonneg_left (abs_confine_sub_confine_le x y 0 65535) hscale

/-- What does not go down from a node to the next does not go down between two values. -/
theorem between_place_le (hpoints : 2 ≤ points)
    (hf : ∀ i : ℤ, 0 ≤ i → i + 1 < points → f i ≤ f (i + 1)) {x y : ℚ} (hxy : x ≤ y) :
    (place points x).between f ≤ (place points y).between f := by
  obtain ⟨hx, -⟩ := place_base hpoints x
  obtain ⟨-, hy⟩ := place_base hpoints y
  exact (Place.Marks.place hpoints x).between_le (.place hpoints y)
    (position_le_position (one_le_two.trans hpoints) hxy) fun i hi hi' => hf i (by omega) (by omega)

/-- What changes by a bounded amount from a node to the next changes between two values by no more
than that amount for each cell between them. -/
theorem abs_between_place_sub_le (hpoints : 2 ≤ points) {D : ℚ}
    (hf : ∀ i : ℤ, 0 ≤ i → i + 1 < points → |f i - f (i + 1)| ≤ D) (x y : ℚ) :
    |(place points x).between f - (place points y).between f|
      ≤ D * ((points - 1) / 65535 * |x - y|) := by
  have hx := place_base hpoints x
  have hy := place_base hpoints y
  have hbound : 0 ≤ D := (abs_nonneg _).trans (hf 0 le_rfl (by omega))
  have hpositions := (Place.Marks.place hpoints x).abs_between_sub_le (.place hpoints y)
    fun i hi hi' => hf i (by omega) (by omega)
  have hapart := abs_position_sub_le (one_le_two.trans hpoints) x y
  exact hpositions.trans (mul_le_mul_of_nonneg_left hapart hbound)

end Axis

/-! ## Along all axes -/

/-- What is interpolated along all axes but the first, for each index along the first. -/
def column (places : List (Place ℚ)) (f : List ℤ → ℚ) (i : ℤ) : ℚ :=
  alongAxes places fun index => f (i :: index)

section Axes

variable {points : ℕ} {xs ys : List ℚ} {f : List ℤ → ℚ}

/-- Interpolation along the axes is that along the first one of the columns. -/
theorem alongAxes_cons (p : Place ℚ) (rest : List (Place ℚ)) (f : List ℤ → ℚ) :
    alongAxes (p :: rest) f = p.between (column rest f) := rfl

/-- If no step goes down then neither does one from a column to the next. -/
theorem column_le_column (hpoints : 2 ≤ points) (xs : List ℚ)
    (hf : EachStep points (xs.length + 1) (· ≤ ·) f) {i : ℤ} (h0 : 0 ≤ i) (h1 : i + 1 < points) :
    column (xs.map (place points)) f i ≤ column (xs.map (place points)) f (i + 1) := by
  apply alongAxes_le_alongAxes
  · intro p hp
    exact offset_of_mem_map_place (one_le_two.trans hpoints) hp
  · intro index hindex
    exact hf.first h0 h1 (isCorner_place hpoints hindex)

/-- If every step is small then so is one from a column to the next. -/
theorem abs_column_sub_column_le (hpoints : 2 ≤ points) {D : ℚ} (xs : List ℚ)
    (hf : EachStep points (xs.length + 1) (fun a b => |a - b| ≤ D) f) {i : ℤ} (h0 : 0 ≤ i)
    (h1 : i + 1 < points) :
    |column (xs.map (place points)) f i - column (xs.map (place points)) f (i + 1)| ≤ D := by
  apply abs_alongAxes_sub_le
  · intro p hp
    exact offset_of_mem_map_place (one_le_two.trans hpoints) hp
  · intro index hindex
    exact hf.first h0 h1 (isCorner_place hpoints hindex)

/-- What does not go down from a node to the next does not go down when coordinates go up. -/
theorem alongAxes_mono (hpoints : 2 ≤ points) (h : List.Forall₂ (· ≤ ·) xs ys)
    (hf : EachStep points xs.length (· ≤ ·) f) :
    alongAxes (xs.map (place points)) f ≤ alongAxes (ys.map (place points)) f := by
  induction h generalizing f with
  | nil => exact le_rfl
  | @cons x y xs ys hxy _ ih =>
    obtain ⟨hoffset, hoffset'⟩ := place_offset (one_le_two.trans hpoints) y
    rw [List.map_cons, List.map_cons, alongAxes_cons, alongAxes_cons]
    -- the first coordinate goes up while the others stay, then the others do
    calc (place points x).between (column (xs.map (place points)) f)
        ≤ (place points y).between (column (xs.map (place points)) f) :=
          between_place_le hpoints (fun i h0 h1 => column_le_column hpoints xs hf h0 h1) hxy
      _ ≤ (place points y).between (column (ys.map (place points)) f) :=
          Place.between_le_between hoffset hoffset' fun i hi =>
            ih (hf.tail (mem_nodes_place hpoints hi))

/-- What changes by a bounded amount from a node to the next changes between two points by no more
than that for each node that their coordinates are apart. -/
theorem abs_alongAxes_sub_alongAxes_le (hpoints : 2 ≤ points) {D : ℚ}
    (hlength : xs.length = ys.length) (hf : EachStep points xs.length (fun a b => |a - b| ≤ D) f) :
    |alongAxes (xs.map (place points)) f - alongAxes (ys.map (place points)) f|
      ≤ D * (points - 1) / 65535 * (List.zipWith (fun x y => |x - y|) xs ys).sum := by
  induction xs generalizing ys f with
  | nil =>
    obtain rfl := List.eq_nil_of_length_eq_zero hlength.symm
    simp [alongAxes]
  | cons x xs ih =>
    cases ys with
    | nil => exact absurd hlength (by simp)
    | cons y ys =>
      obtain ⟨hoffset, hoffset'⟩ := place_offset (one_le_two.trans hpoints) y
      -- from point to point by way of the one that has its first coordinate in common with the
      -- second point and the others with the first
      have hstep (i : ℤ) (h0 : 0 ≤ i) (h1 : i + 1 < points) :
          |column (xs.map (place points)) f i - column (xs.map (place points)) f (i + 1)| ≤ D :=
        abs_column_sub_column_le (f := f) hpoints xs hf h0 h1
      have hfirst : |(place points x).between (column (xs.map (place points)) f)
            - (place points y).between (column (xs.map (place points)) f)|
          ≤ D * ((points - 1) / 65535 * |x - y|) :=
        abs_between_place_sub_le hpoints hstep x y
      have hothers : |(place points y).between (column (xs.map (place points)) f)
            - (place points y).between (column (ys.map (place points)) f)|
          ≤ D * (points - 1) / 65535 * (List.zipWith (fun x y => |x - y|) xs ys).sum :=
        Place.abs_between_sub_le hoffset hoffset' fun i hi =>
          ih (Nat.succ.inj hlength) (hf.tail (mem_nodes_place hpoints hi))
      rw [List.map_cons, List.map_cons, alongAxes_cons, alongAxes_cons, List.zipWith_cons_cons,
        List.sum_cons]
      refine (abs_sub_le _ ((place points y).between (column (xs.map (place points)) f)) _).trans ?_
      refine (add_le_add hfirst hothers).trans_eq ?_
      ring

end Axes

section Evaluation

variable {g : Grid}

/-- What a table gives for a row is interpolated along the axes. -/
theorem gives_evaluateRows (hpoints : 1 ≤ g.points) {row : List ℚ} (hrow : g.inputs ≤ row.length)
    {c : ℕ} (hc : c < g.outputs) :
    (g.evaluateRows : RowOp ℚ ℚ).Gives row c
      (alongAxes ((row.take g.inputs).map (place g.points)) (g.codeAt c)) := by
  have hlength : c < (g.evaluate row).length := by simpa [evaluate] using hc
  refine ⟨g.evaluate row, onNested_evaluateRows hpoints hrow, ?_⟩
  rw [List.getElem?_eq_getElem hlength, getElem_evaluate]

/-- If the entries of neighbouring nodes differ by a bounded amount in an output, then what is read
at any two points differs by no more than that for each node that their coordinates are apart. -/
theorem bounds_change_of_steps (g : Grid) (hpoints : 2 ≤ g.points) {c : ℕ} (hc : c < g.outputs)
    {D : ℚ} (hsteps : EachStep g.points g.inputs (fun a b => |a - b| ≤ D) (g.codeAt c))
    (u v : List ℚ) (hu : g.inputs ≤ u.length) (hv : g.inputs ≤ v.length) :
    ∃ x y, (g.evaluateRows : RowOp ℚ ℚ).Gives u c x ∧ (g.evaluateRows : RowOp ℚ ℚ).Gives v c y
      ∧ |x - y| ≤ D * (g.points - 1) / 65535
        * (List.zipWith (fun a b => |a - b|) (u.take g.inputs) (v.take g.inputs)).sum := by
  have hlength : (u.take g.inputs).length = g.inputs := List.length_take_of_le hu
  have hpoints' : 1 ≤ g.points := by omega
  refine ⟨_, _, gives_evaluateRows hpoints' hu hc, gives_evaluateRows hpoints' hv hc, ?_⟩
  apply abs_alongAxes_sub_alongAxes_le hpoints
  · rw [hlength, List.length_take_of_le hv]
  · rwa [hlength]

/-- No step of the saddle changes its first output by more than eleven. -/
theorem eachStep_saddle : EachStep 3 2 (fun a b => |a - b| ≤ 11) (saddle.codeAt 0) := by
  have hnode {i : ℤ} (hi : 0 ≤ i) (hi' : i < (3 : ℕ)) : (0 : ℚ) ≤ i ∧ (i : ℚ) ≤ 2 := by
    have hlast : i ≤ 2 := by omega
    exact ⟨by exact_mod_cast hi, by exact_mod_cast hlast⟩
  apply eachStep_two
  · intro i j hi hi' hj hj'
    have hsecond := hnode hj hj'
    rw [codeAt_saddle (isNode_two ⟨hi, by omega⟩ ⟨hj, hj'⟩),
      codeAt_saddle (isNode_two ⟨by omega, hi'⟩ ⟨hj, hj'⟩), abs_le]
    simp only [saddleSurface, List.map_cons, List.getD_cons_zero, List.getD_cons_succ]
    push_cast
    constructor <;> linarith
  · intro i j hi hi' hj hj'
    have hfirst := hnode hi hi'
    rw [codeAt_saddle (isNode_two ⟨hi, hi'⟩ ⟨hj, by omega⟩),
      codeAt_saddle (isNode_two ⟨hi, hi'⟩ ⟨by omega, hj'⟩), abs_le]
    simp only [saddleSurface, List.map_cons, List.getD_cons_zero, List.getD_cons_succ]
    push_cast
    constructor <;> linarith

/-- Two points in opposite cells of the saddle, one of them beyond the domain. -/
theorem bounds_change_of_steps_saddle :
    (2 ≤ saddle.points ∧ 0 < saddle.outputs ∧ saddle.inputs ≤ 2
      ∧ EachStep saddle.points saddle.inputs (fun a b => |a - b| ≤ 11) (saddle.codeAt 0))
      ∧ ∃ x y, (saddle.evaluateRows : RowOp ℚ ℚ).Gives [65535 / 4, -9] 0 x
        ∧ (saddle.evaluateRows : RowOp ℚ ℚ).Gives [3 * 65535 / 4, 65535 / 4] 0 y
        ∧ |x - y| ≤ 17 := by
  refine ⟨⟨by decide, by decide, by decide, eachStep_saddle⟩, ?_⟩
  obtain ⟨x, y, hx, hy, hdifference⟩ := bounds_change_of_steps saddle (by decide) (by decide)
    eachStep_saddle [65535 / 4, -9] [3 * 65535 / 4, 65535 / 4] (by decide) (by decide)
  refine ⟨x, y, hx, hy, hdifference.trans ?_⟩
  norm_num [saddle, abs_of_nonpos]

end Evaluation

end Recolor.Grid
