import Recolor.Proofs.Table.Depth
import Recolor.Proofs.Table.RisingCurves
import Recolor.Proofs.Table.Steps

/-!
# Profiles that rise in a channel

A profile rises in a channel if nothing on the way to it goes down: none of the curves on its
inputs, no step from a node of its table to the next, nor the curve behind that channel. The other
channels may do as they like, and curves may be missing. Then the channel never goes down when
inputs go up, neither between 16-bit values nor between samples.
-/

set_option autoImplicit false

namespace Recolor.SampledProfile

/-- A profile on whose way to a channel nothing goes down. -/
structure IsRising (p : SampledProfile) (c : ℕ) : Prop where
  cells : 2 ≤ p.table.points
  channel : c < p.table.outputs
  inputCurves : Curve.AreFor p.inputCurves p.table.inputs
  outputCurves : Curve.AreFor p.outputCurves p.table.outputs
  inputCurves_rise : ∀ curve ∈ p.inputCurves.getD [], curve.Pairwise (· ≤ ·)
  table_rises : Grid.EachStep p.table.points p.table.inputs (· ≤ ·) (p.table.codeAt c)
  outputCurve_rises : ∀ curve, (p.outputCurves.getD [])[c]? = some curve →
    curve.Pairwise (· ≤ ·)

/-- A row behind the input curves of a profile. -/
def bent (p : SampledProfile) (row : List ℚ) : List ℚ :=
  (Curve.applyRows? p.inputCurves : RowOp ℚ ℚ).run row

/-- What a profile makes of a row of 16-bit values in a channel. -/
def inChannel (p : SampledProfile) (c : ℕ) (row : List ℚ) : ℚ :=
  Curve.inColumn (p.outputCurves.getD []) c
    (Grid.alongAxes (((p.bent row).take p.table.inputs).map (Grid.place p.table.points))
      (p.table.codeAt c))

variable {p : SampledProfile} {c : ℕ}

/-- In each channel the result of a row is what the profile makes of it there. -/
theorem getElem?_run_evaluate16 (hc : c < p.table.outputs) (row : List ℚ) :
    ((p.evaluate16 : RowOp ℚ ℚ).run row)[c]? = some (p.inChannel c row) := by
  have hlength : c < (p.table.evaluate (p.bent row)).length := by
    simpa [Grid.evaluate] using hc
  have hcurves := Curve.getElem?_applyKnots (p.outputCurves.getD [])
    (p.table.evaluate (p.bent row)) c
  rw [List.getElem?_eq_getElem hlength, Grid.getElem_evaluate] at hcurves
  exact hcurves

namespace IsRising

/-- A rising profile accepts every row with a column for each input. -/
theorem width_deviceToDevice (hp : p.IsRising c) {n : ℕ} (hn : p.table.inputs ≤ n) :
    (p.deviceToDevice ℚ).width n = .ok p.table.outputs := by
  have hcells := hp.cells
  exact width_deviceToDevice_eq (by omega) hp.inputCurves hp.outputCurves hn

/-- In a channel in which a profile rises greater rows do not give less. -/
theorem inChannel_le_inChannel (hp : p.IsRising c) {u v : List ℚ} (hu : p.table.inputs ≤ u.length)
    (huv : List.Forall₂ (· ≤ ·) u v) : p.inChannel c u ≤ p.inChannel c v := by
  have hbent : List.Forall₂ (· ≤ ·) (p.bent u) (p.bent v) :=
    Curve.forall₂_applyKnots hp.inputCurves_rise huv
  have hwide : p.table.inputs ≤ (p.bent u).length :=
    hu.trans_eq (Curve.length_applyKnots _ u).symm
  -- from the outside in: the curve behind the table, the table, the curves in front of it
  apply Curve.inColumn_le_inColumn hp.outputCurve_rises
  apply Grid.alongAxes_mono hp.cells (List.forall₂_take p.table.inputs hbent)
  rw [List.length_take_of_le hwide]
  exact hp.table_rises

/-- A rising profile gives a value in the channel for every row of 16-bit values. -/
theorem gives_evaluate16 (hp : p.IsRising c) {row : List ℚ} (hrow : p.table.inputs ≤ row.length) :
    (p.evaluate16 : RowOp ℚ ℚ).Gives row c (p.inChannel c row) := by
  have hwidth : (p.evaluate16 : RowOp ℚ ℚ).width row.length = .ok p.table.outputs := by
    rw [width_evaluate16_eq, hp.width_deviceToDevice hrow]
  exact ⟨_, RowOp.onNested_ofRow hwidth, getElem?_run_evaluate16 hp.channel row⟩

/-- A rising profile gives the narrowed value in the channel for every row of samples. -/
theorem gives_deviceToDevice (hp : p.IsRising c) {row : List UInt8}
    (hrow : p.table.inputs ≤ row.length) :
    (p.deviceToDevice ℚ).Gives row c (Depth.narrow (p.inChannel c (row.map Depth.widen))) := by
  refine ⟨_, RowOp.onNested_ofRow (hp.width_deviceToDevice hrow), ?_⟩
  have hvalue := getElem?_run_evaluate16 hp.channel (row.map Depth.widen)
  show (((p.evaluate16 : RowOp ℚ ℚ).run (row.map Depth.widen)).map Depth.narrow)[c]? = _
  rw [List.getElem?_map, hvalue, Option.map_some]

end IsRising

/-- In a channel in which it rises a profile accepts every row that has a column for each input,
and the channel does not go down when columns go up, whether the profile is evaluated over 16-bit
values or as a device link over samples. -/
theorem IsRising.channel_mono (hp : p.IsRising c) :
    (∀ u v : List ℚ, p.table.inputs ≤ u.length → List.Forall₂ (· ≤ ·) u v →
        ∃ x y, (p.evaluate16 : RowOp ℚ ℚ).Gives u c x ∧ (p.evaluate16 : RowOp ℚ ℚ).Gives v c y
          ∧ x ≤ y)
      ∧ ∀ u v : List UInt8, p.table.inputs ≤ u.length → List.Forall₂ (· ≤ ·) u v →
        ∃ x y, (p.deviceToDevice ℚ).Gives u c x ∧ (p.deviceToDevice ℚ).Gives v c y ∧ x ≤ y := by
  constructor
  · intro u v hu huv
    have hv : p.table.inputs ≤ v.length := huv.length_eq ▸ hu
    exact ⟨_, _, hp.gives_evaluate16 hu, hp.gives_evaluate16 hv, hp.inChannel_le_inChannel hu huv⟩
  · intro u v hu huv
    have hv : p.table.inputs ≤ v.length := huv.length_eq ▸ hu
    have hwide : List.Forall₂ (· ≤ ·) (u.map (Depth.widen : UInt8 → ℚ)) (v.map Depth.widen) := by
      rw [List.forall₂_map_left_iff, List.forall₂_map_right_iff]
      exact huv.imp fun _ _ h => Depth.widen_le_widen h
    have hrise := hp.inChannel_le_inChannel (by rwa [List.length_map]) hwide
    exact ⟨_, _, hp.gives_deviceToDevice hu, hp.gives_deviceToDevice hv,
      Depth.narrow_le_narrow hrise⟩

/-- A table over two axes of three nodes each, in whose first output no step goes down, and in
whose second every step does. -/
def hill : Grid where
  points := 3
  inputs := 2
  outputs := 2
  entries := #[0, 9, 100, 8, 5000, 7, 100, 6, 100, 5, 60000, 4, 300, 3, 20000, 2, 65535, 1]
  size_eq := rfl

/-- A device link through the hill, with a curve of a single entry in front of it and a falling one
behind it. -/
def hillLink : SampledProfile where
  name := "hill"
  table := hill
  direction := .deviceLink
  space := none
  pcs := none
  deviceClass := .link
  inputCurves := some [[0, 9000, 9000, 65535], [40000]]
  outputCurves := some [[7, 30000, 65535], [65535, 0]]

/-- In the first output of the hill no step goes down. -/
theorem eachStep_hill : Grid.EachStep 3 2 (· ≤ ·) (hill.codeAt 0) := by
  have hcode {a b : List ℤ} (h : (hill.entry (Grid.nodeNumber 3 a) 0).toNat
      ≤ (hill.entry (Grid.nodeNumber 3 b) 0).toNat) : hill.codeAt 0 a ≤ hill.codeAt 0 b := by
    rw [Grid.codeAt, Grid.codeAt, Scalar.ofCode16_rat, Scalar.ofCode16_rat]
    exact_mod_cast h
  have hfirst : ∀ (i : Fin 2) (j : Fin 3), (hill.entry (Grid.nodeNumber 3 [(i : ℤ), j]) 0).toNat
      ≤ (hill.entry (Grid.nodeNumber 3 [(i : ℤ) + 1, j]) 0).toNat := by decide
  have hsecond : ∀ (i : Fin 3) (j : Fin 2), (hill.entry (Grid.nodeNumber 3 [(i : ℤ), j]) 0).toNat
      ≤ (hill.entry (Grid.nodeNumber 3 [(i : ℤ), (j : ℤ) + 1]) 0).toNat := by decide
  apply Grid.eachStep_two
  · intro i j hi hi' hj hj'
    lift i to ℕ using hi
    lift j to ℕ using hj
    exact hcode (hfirst ⟨i, by omega⟩ ⟨j, by omega⟩)
  · intro i j hi hi' hj hj'
    lift i to ℕ using hi
    lift j to ℕ using hj
    exact hcode (hsecond ⟨i, by omega⟩ ⟨j, by omega⟩)

/-- The device link through the hill rises in its first channel. -/
theorem isRising_hillLink : hillLink.IsRising 0 where
  cells := by decide
  channel := by decide
  inputCurves := .inr ⟨rfl, by decide⟩
  outputCurves := .inr ⟨rfl, by decide⟩
  inputCurves_rise := by decide
  table_rises := eachStep_hill
  outputCurve_rises := by
    intro curve hcurve
    obtain rfl : [7, 30000, 65535] = curve := Option.some.inj hcurve
    decide

/-- The first channel of the link at points that lie between different entries of its curve and in
different cells of its table, one of them beyond the domain. -/
theorem channel_mono_hillLink :
    hillLink.IsRising 0
      ∧ (∃ x y, (hillLink.evaluate16 : RowOp ℚ ℚ).Gives [20000, -5] 0 x
        ∧ (hillLink.evaluate16 : RowOp ℚ ℚ).Gives [60000, 70000] 0 y ∧ x ≤ y)
      ∧ ∃ x y, (hillLink.deviceToDevice ℚ).Gives [70, 17] 0 x
        ∧ (hillLink.deviceToDevice ℚ).Gives [240, 17] 0 y ∧ x ≤ y := by
  obtain ⟨hcodes, hsamples⟩ := isRising_hillLink.channel_mono
  refine ⟨isRising_hillLink, hcodes _ _ (by decide) ?_, hsamples _ _ (by decide) ?_⟩
  · exact .cons (by norm_num) (.cons (by norm_num) .nil)
  · exact .cons (by decide) (.cons (by decide) .nil)

end Recolor.SampledProfile
