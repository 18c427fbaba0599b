import Recolor.Proofs.Rows.Widths
import Recolor.Proofs.Table.Sampling

/-!
# Reading a table by its positions

What a table gives at a point depends on the positions of its coordinates alone, and not on the
cell in which they are looked up. A position on a node lies at the end of one cell and at the
beginning of the next, and both give the entry of the node. So the table can be read at the
integer part and the fraction of each position, which knows nothing of where the axis ends, and
what is affine in each index comes out as it is.
-/

set_option autoImplicit false

namespace Recolor.Grid

/-- A position lies as far beyond the lower node of a place as the place says, and not beyond the
upper one. -/
structure Place.Marks (p : Place ℚ) (t : ℚ) : Prop where
  base_add_offset : p.base + p.offset = t
  offset_nonneg : 0 ≤ p.offset
  offset_le_one : p.offset ≤ 1

/-- A position by its integer part and its fraction. -/
def Place.ofPosition (t : ℚ) : Place ℚ where
  base := ⌊t⌋
  offset := t - ⌊t⌋

/-- A function of so many numbers that is affine in each of them while the others stay. -/
def IsMultiAffine (axes : ℕ) (F : List ℚ → ℚ) : Prop :=
  ∀ front rest : List ℚ, front.length + 1 + rest.length = axes →
    ∃ slope shift : ℚ, ∀ x, F (front ++ x :: rest) = slope * x + shift

/-- One index for each axis, of a node of it. -/
def IsNode (points axes : ℕ) (index : List ℤ) : Prop :=
  index.length = axes ∧ ∀ i ∈ index, 0 ≤ i ∧ i < points

/-- The entry of a node for an output, as a number. -/
def codeAt (g : Grid) (output : ℕ) (index : List ℤ) : ℚ :=
  Scalar.ofCode16 (g.entry (nodeNumber g.points index) output)

/-- The positions of the coordinates that a table reads: each coordinate is confined to the domain
and scaled to the nodes of its axis. -/
def positions (g : Grid) (row : List ℚ) : List ℚ :=
  (row.take g.inputs).map (position g.points)

namespace Place.Marks

variable {p q : Place ℚ} {t : ℚ}

/-- Of two places of one position the values between the nodes are the same. -/
theorem between_eq (hp : p.Marks t) (hq : q.Marks t) (f : ℤ → ℚ) :
    p.between f = q.between f := by
  wlog hbase : p.base ≤ q.base generalizing p q
  · exact (this hq hp (le_of_not_ge hbase)).symm
  have hsame : (p.base : ℚ) + p.offset = q.base + q.offset :=
    hp.base_add_offset.trans hq.base_add_offset.symm
  rcases eq_or_lt_of_le hbase with heq | hlt
  · have hoffset : p.offset = q.offset := by
      rw [heq] at hsame
      linarith
    rw [Place.between, Place.between, heq, hoffset]
  · -- the position is the node that ends the one cell and begins the other
    have hstep : (p.base : ℚ) + 1 ≤ q.base := by exact_mod_cast hlt
    have hp1 := hp.offset_le_one
    have hq0 := hq.offset_nonneg
    have hfull : p.offset = 1 := by linarith
    have hempty : q.offset = 0 := by linarith
    have hnext : q.base = p.base + 1 := by
      have hcast : (q.base : ℚ) = p.base + 1 := by linarith
      exact_mod_cast hcast
    rw [Place.between, Place.between, hfull, hempty, hnext]
    ring

/-- At a node only the value of that node counts. -/
theorem between_node {i : ℤ} (hp : p.Marks i) (f : ℤ → ℚ) : p.between f = f i := by
  have hnode : Place.Marks { base := i, offset := 0 } (i : ℚ) := ⟨add_zero _, le_rfl, zero_le_one⟩
  rw [hp.between_eq hnode, Place.between]
  ring

/-- What is linear in the index is read off the line itself. -/
theorem between_affine_index (hp : p.Marks t) (slope shift : ℚ) :
    p.between (fun i => slope * i + shift) = slope * t + shift := by
  rw [Place.between, ← hp.base_add_offset]
  push_cast
  ring

/-- A position lies where its integer part and its fraction say. -/
theorem ofPosition (t : ℚ) : (Place.ofPosition t).Marks t where
  base_add_offset := add_sub_cancel _ _
  offset_nonneg := sub_nonneg.mpr (Int.floor_le t)
  offset_le_one := by
    have hlt := Int.lt_floor_add_one t
    simp only [Place.ofPosition]
    linarith

/-- The cell of a value marks its position. -/
theorem place {points : ℕ} (hpoints : 2 ≤ points) (x : ℚ) :
    (Grid.place points x).Marks (position points x) where
  base_add_offset := Grid.base_add_offset points x
  offset_nonneg := (place_offset (one_le_two.trans hpoints) x).1
  offset_le_one := (place_offset (one_le_two.trans hpoints) x).2

end Place.Marks

section Axes

variable {places cells : List (Place ℚ)} {ts : List ℚ}

/-- Interpolation along the axes only depends on the positions. -/
theorem alongAxes_eq_of_marks (hplaces : List.Forall₂ Place.Marks places ts)
    (hcells : List.Forall₂ Place.Marks cells ts) (f : List ℤ → ℚ) :
    alongAxes places f = alongAxes cells f := by
  induction hplaces generalizing cells f with
  | nil =>
    cases hcells
    rfl
  | @cons p t places ts hp _ ih =>
    obtain _ | @⟨q, _, cells, _, hq, hcells⟩ := hcells
    rw [alongAxes, alongAxes, hp.between_eq hq]
    exact Place.between_congr fun i _ => ih hcells fun index => f (i :: index)

/-- At a node interpolation along the axes gives the value of that node. -/
theorem alongAxes_node {index : List ℤ}
    (hplaces : List.Forall₂ Place.Marks places (index.map (↑))) (f : List ℤ → ℚ) :
    alongAxes places f = f index := by
  induction index generalizing places f with
  | nil =>
    cases hplaces
    rfl
  | cons i index ih =>
    obtain _ | @⟨p, _, places, _, hp, hplaces⟩ := hplaces
    rw [alongAxes, hp.between_node]
    exact ih hplaces fun index => f (i :: index)

/-- With its first number fixed such a function is one of the others. -/
theorem IsMultiAffine.tail {axes : ℕ} {F : List ℚ → ℚ} (hF : IsMultiAffine (axes + 1) F) (x : ℚ) :
    IsMultiAffine axes fun xs => F (x :: xs) := by
  intro front rest hlength
  have hmore : (x :: front).length + 1 + rest.length = axes + 1 := by
    rw [List.length_cons]
    omega
  exact hF (x :: front) rest hmore

/-- Interpolation gives back every function that is affine in each position. -/
theorem alongAxes_of_isMultiAffine (hplaces : List.Forall₂ Place.Marks places ts)
    {F : List ℚ → ℚ} (hF : IsMultiAffine ts.length F) :
    alongAxes places (fun index => F (index.map (↑))) = F ts := by
  induction hplaces generalizing F with
  | nil => rfl
  | @cons p t places ts hp _ ih =>
    obtain ⟨slope, shift, hline⟩ := hF [] ts (by simp; omega)
    have hrest (i : ℤ) :
        alongAxes places (fun index => F ((i :: index).map (↑))) = slope * i + shift :=
      (ih (hF.tail i)).trans (hline i)
    have hfirst : F (t :: ts) = slope * t + shift := hline t
    simp only [alongAxes, hrest, hfirst]
    exact hp.between_affine_index slope shift

end Axes

section Evaluation

variable {g : Grid} {row : List ℚ}

/-- The cells of a row mark its positions. -/
theorem marks_positions (hpoints : 2 ≤ g.points) (row : List ℚ) :
    List.Forall₂ Place.Marks ((row.take g.inputs).map (place g.points)) (g.positions row) := by
  rw [positions, List.forall₂_map_left_iff, List.forall₂_map_right_iff, List.forall₂_same]
  exact fun x _ => .place hpoints x

/-- There is a position for each axis. -/
theorem length_positions (hrow : g.inputs ≤ row.length) : (g.positions row).length = g.inputs := by
  rw [positions, List.length_map, List.length_take_of_le hrow]

/-- An output of a row is interpolated along the axes from the entries for that output. -/
theorem getElem_evaluate {c : ℕ} (hc : c < (g.evaluate row).length) :
    (g.evaluate row)[c]
      = alongAxes ((row.take g.inputs).map (place g.points)) (g.codeAt c) := by
  simp only [evaluate_eq, List.getElem_map, List.getElem_range]
  rfl

/-- A single row is read as the block of one row. -/
theorem onNested_evaluateRows (hpoints : 1 ≤ g.points) (hrow : g.inputs ≤ row.length) :
    (g.evaluateRows : RowOp ℚ ℚ).onNested (Nested.ofRow row)
      = .ok (Nested.ofRow (g.evaluate row)) := by
  have hnodes : ¬(g.points = 0 ∧ g.inputs ≠ 0) := fun h => absurd h.1 (by omega)
  have hwidth : (g.evaluateRows : RowOp ℚ ℚ).width row.length = .ok g.outputs := by
    simp only [evaluateRows, if_neg hnodes, RowOp.atLeast, if_neg (not_lt.mpr hrow)]
  exact RowOp.onNested_ofRow hwidth

/-- A table of two nodes or more along each axis reads every row that has a column for each axis,
and each output is interpolated linearly along one axis after another, at the positions of the
coordinates. The cells in which the positions are looked up do not matter, on nodes the output is
the entry of the node, and entries that are affine in each index are continued as they are. -/
theorem interpolates_of_positions (g : Grid) (hpoints : 2 ≤ g.points) (row : List ℚ)
    (hrow : g.inputs ≤ row.length) :
    ∃ result : List ℚ,
      (g.evaluateRows : RowOp ℚ ℚ).onNested (Nested.ofRow row) = .ok (Nested.ofRow result)
      ∧ result.length = g.outputs
      ∧ ∀ c (hc : c < result.length),
        result[c] = alongAxes ((g.positions row).map Place.ofPosition) (g.codeAt c)
        ∧ (∀ cells, List.Forall₂ Place.Marks cells (g.positions row) →
            result[c] = alongAxes cells (g.codeAt c))
        ∧ (∀ node : List ℤ, g.positions row = node.map (↑) → result[c] = g.codeAt c node)
        ∧ ∀ F : List ℚ → ℚ, IsMultiAffine g.inputs F →
            (∀ node, IsNode g.points g.inputs node → g.codeAt c node = F (node.map (↑))) →
            result[c] = F (g.positions row) := by
  have hlength : (row.take g.inputs).length = g.inputs := List.length_take_of_le hrow
  have hmarks := marks_positions hpoints row
  refine ⟨g.evaluate row, onNested_evaluateRows (by omega) hrow, by simp [evaluate], fun c hc => ?_⟩
  rw [getElem_evaluate]
  refine ⟨?_, fun cells hcells => ?_, fun node hnode => ?_, fun F hF hentries => ?_⟩
  · refine alongAxes_eq_of_marks hmarks ?_ _
    rw [List.forall₂_map_left_iff, List.forall₂_same]
    exact fun t _ => .ofPosition t
  · exact alongAxes_eq_of_marks hmarks hcells _
  · rw [hnode] at hmarks
    exact alongAxes_node hmarks _
  · have hcorners : alongAxes ((row.take g.inputs).map (place g.points)) (g.codeAt c)
        = alongAxes ((row.take g.inputs).map (place g.points)) fun index => F (index.map (↑)) := by
      refine alongAxes_congr fun index hindex => ?_
      obtain ⟨haxes, hrange⟩ := isCorner_place hpoints hindex
      exact hentries index ⟨haxes.trans hlength, hrange⟩
    rw [hcorners]
    exact alongAxes_of_isMultiAffine hmarks (by rwa [length_positions hrow])

/-- A table over two axes of three nodes each, with a saddle in its first output and a ridge in its
second. -/
def saddle : Grid where
  points := 3
  inputs := 2
  outputs := 2
  entries := #[20, 0, 13, 100, 6, 0, 25, 40, 21, 100, 17, 40, 30, 0, 29, 65535, 28, 0]
  size_eq := rfl

/-- The surface that the first output of the saddle lies on, over the positions of its axes. -/
def saddleSurface (xs : List ℚ) : ℚ :=
  20 + 5 * xs.getD 0 0 - 7 * xs.getD 1 0 + 3 * xs.getD 0 0 * xs.getD 1 0

/-- The surface through the saddle is affine in each of its two positions. -/
theorem isMultiAffine_saddleSurface : IsMultiAffine 2 saddleSurface := by
  intro front rest hlength
  cases front with
  | nil =>
    rw [List.length_nil] at hlength
    obtain ⟨y, rfl⟩ : ∃ y, rest = [y] := List.length_eq_one_iff.mp (by omega)
    refine ⟨5 + 3 * y, 20 - 7 * y, fun x => ?_⟩
    simp [saddleSurface]
    ring
  | cons y front =>
    rw [List.length_cons] at hlength
    obtain rfl : front = [] := List.eq_nil_of_length_eq_zero (by omega)
    obtain rfl : rest = [] := List.eq_nil_of_length_eq_zero (by omega)
    refine ⟨3 * y - 7, 20 + 5 * y, fun x => ?_⟩
    simp [saddleSurface]
    ring

/-- At its nodes the saddle has the codes of the surface. -/
theorem codeAt_saddle {node : List ℤ} (hnode : IsNode 3 2 node) :
    saddle.codeAt 0 node = saddleSurface (node.map (↑)) := by
  have hentries : ∀ i j : Fin 3, ((saddle.entry (nodeNumber 3 [(i : ℤ), (j : ℤ)]) 0).toNat : ℤ)
      = 20 + 5 * i - 7 * j + 3 * i * j := by decide
  obtain ⟨hlength, hrange⟩ := hnode
  obtain ⟨i, j, rfl⟩ := List.length_eq_two.mp hlength
  obtain ⟨hi, hi'⟩ := hrange i (by simp)
  obtain ⟨hj, hj'⟩ := hrange j (by simp)
  lift i to ℕ using hi
  lift j to ℕ using hj
  have hentry := hentries ⟨i, by exact_mod_cast hi'⟩ ⟨j, by exact_mod_cast hj'⟩
  simp only [codeAt, Scalar.ofCode16_rat, saddleSurface, List.map_cons, List.getD_cons_zero,
    List.getD_cons_succ]
  exact_mod_cast hentry

/-- The saddle on a node that is approached from beyond the domain, and halfway between nodes. -/
theorem interpolates_saddle :
    (2 ≤ saddle.points ∧ saddle.inputs ≤ 3)
    ∧ (saddle.evaluateRows : RowOp ℚ ℚ).onNested (Nested.ofRow [65535 / 2, 70000, -3])
        = .ok (Nested.ofRow [17, 40])
    ∧ ∃ ridge : ℚ, (saddle.evaluateRows : RowOp ℚ ℚ).onNested
        (Nested.ofRow [65535 / 4, 3 * 65535 / 4]) = .ok (Nested.ofRow [57 / 4, ridge]) := by
  have hnode : saddle.positions [65535 / 2, 70000, -3] = [((1 : ℤ) : ℚ), ((2 : ℤ) : ℚ)] := by
    norm_num [positions, position, saddle]
  have hhalf : saddle.positions [65535 / 4, 3 * 65535 / 4] = [1 / 2, 3 / 2] := by
    norm_num [positions, position, saddle]
  refine ⟨by decide, ?_, ?_⟩
  · obtain ⟨result, hread, hlength, hvalue⟩ :=
      interpolates_of_positions saddle (by decide) [65535 / 2, 70000, -3] (by decide)
    obtain ⟨x, y, rfl⟩ := List.length_eq_two.mp hlength
    have hx : x = saddle.codeAt 0 [1, 2] := (hvalue 0 Nat.zero_lt_two).2.2.1 _ hnode
    have hy : y = saddle.codeAt 1 [1, 2] := (hvalue 1 Nat.one_lt_two).2.2.1 _ hnode
    rw [hread, hx, hy]
    rfl
  · obtain ⟨result, hread, hlength, hvalue⟩ :=
      interpolates_of_positions saddle (by decide) [65535 / 4, 3 * 65535 / 4] (by decide)
    obtain ⟨x, y, rfl⟩ := List.length_eq_two.mp hlength
    have hx : x = saddleSurface (saddle.positions [65535 / 4, 3 * 65535 / 4]) :=
      (hvalue 0 Nat.zero_lt_two).2.2.2 _ isMultiAffine_saddleSurface fun node => codeAt_saddle
    have hmiddle : saddleSurface [1 / 2, 3 / 2] = 57 / 4 := by
      norm_num [saddleSurface]
    exact ⟨y, by rw [hread, hx, hhalf, hmiddle]⟩

end Evaluation

end Recolor.Grid
