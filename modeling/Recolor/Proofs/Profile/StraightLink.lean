import Recolor.Proofs.Profile.LinkLayout
import Recolor.Proofs.Rows.Widths
import Recolor.Proofs.Table.Depth
import Recolor.Proofs.Table.Straight

/-!
# Device links that change nothing, and device links that invert

A link whose curves and table are straight lines is still made of codes: the entries of its curves
and of its table are rounded, so a sample meets a rounding on the way in, one in the table and one
on the way out. All three together are far less than half a step between samples. So the link
gives back every sample, or its complement if the table falls, whatever the number of channels, of
nodes and of entries.
-/

set_option autoImplicit false

namespace Recolor.SampledProfile

/-- A profile from so many channels to as many, through a table with cells and through curves that
are even, where there are any. -/
structure IsStraight (p : SampledProfile) (channels : ℕ) : Prop where
  cells : 2 ≤ p.table.points
  inputs_eq : p.table.inputs = channels
  outputs_eq : p.table.outputs = channels
  inputCurves : Curve.AreEven p.inputCurves channels
  outputCurves : Curve.AreEven p.outputCurves channels

variable {p : SampledProfile} {channels : ℕ}

/-- A straight profile accepts rows of its channels and gives as many. -/
theorem IsStraight.width_deviceToDevice (hp : p.IsStraight channels) :
    (p.deviceToDevice ℚ).width channels = .ok channels := by
  have hpoints : p.table.points ≠ 0 := by
    have hcells := hp.cells
    omega
  have hwidth : (p.deviceToDevice ℚ).width channels = .ok p.table.outputs :=
    width_deviceToDevice_eq hpoints (hp.inputs_eq ▸ hp.inputCurves.areFor)
      (hp.outputs_eq ▸ hp.outputCurves.areFor) hp.inputs_eq.le
  rw [hwidth, hp.outputs_eq]

/-- Three roundings take a row of samples no more than three halves of a code from where the line
of the table has it. -/
theorem IsStraight.areNear_evaluate16 (hp : p.IsStraight channels) {slope shift : ℚ}
    (hslope : |slope| ≤ 1) (hline : p.table.IsNear fun x => slope * x + shift) {exact : List ℚ}
    (hlength : exact.length = channels) (hexact : ∀ v ∈ exact, 0 ≤ v ∧ v ≤ 65535)
    (himage : ∀ v ∈ exact, 0 ≤ slope * v + shift ∧ slope * v + shift ≤ 65535) :
    AreNear (3 / 2) ((p.evaluate16 : RowOp ℚ ℚ).run exact)
      (exact.map fun v => slope * v + shift) := by
  have hstart : AreNear 0 exact exact := List.forall₂_same.mpr fun v _ => by simp
  have hfront := hp.inputCurves.areNear_applyRows? hstart hexact
  have hwide : ((Curve.applyRows? p.inputCurves : RowOp ℚ ℚ).run exact).length
      = p.table.inputs := by
    have hlawful := Curve.isLawful_applyRows? (α := ℚ) p.inputCurves exact channels
    rw [hlength] at hlawful
    rw [hlawful hp.inputCurves.width_applyRows?, hp.inputs_eq]
  have htable := hline.areNear_evaluate hslope hp.cells (hp.outputs_eq.trans hp.inputs_eq.symm)
    hwide hfront hexact
  have hdomain : ∀ v ∈ exact.map fun v => slope * v + shift, 0 ≤ v ∧ v ≤ 65535 := by
    intro v hv
    obtain ⟨u, hu, rfl⟩ := List.mem_map.mp hv
    exact himage u hu
  have hbehind := hp.outputCurves.areNear_applyRows? htable hdomain
  have htotal : (0 : ℚ) + 1 / 2 + 1 / 2 + 1 / 2 = 3 / 2 := by norm_num
  rwa [htotal] at hbehind

/-- A row near to what samples stand for is narrowed to the samples. -/
theorem narrowRows_of_areNear {row : List ℚ} {samples : List UInt8}
    (h : AreNear (3 / 2) row (samples.map Depth.widen)) : Depth.narrowRows.run row = samples := by
  induction samples generalizing row with
  | nil =>
    cases h
    rfl
  | cons sample samples ih =>
    obtain _ | @⟨x, _, row, _, hx, hrow⟩ := h
    have hfirst : Depth.narrow x = sample :=
      Depth.narrow_of_near (hx.trans_lt (by norm_num))
    have hrest : row.map Depth.narrow = samples := ih hrow
    show Depth.narrow x :: row.map Depth.narrow = sample :: samples
    rw [hfirst, hrest]

/-- A straight link does to each sample what its line does to what the sample stands for. -/
theorem IsStraight.run_deviceToDevice (hp : p.IsStraight channels) {slope shift : ℚ}
    (hslope : |slope| ≤ 1) (hline : p.table.IsNear fun x => slope * x + shift)
    {f : UInt8 → UInt8} (hf : ∀ v, slope * Depth.widen v + shift = Depth.widen (f v))
    (row : List UInt8) (hrow : row.length = channels) :
    (p.deviceToDevice ℚ).run row = row.map f := by
  have hwidened : ∀ v ∈ row.map (Depth.widen : UInt8 → ℚ), 0 ≤ v ∧ v ≤ 65535 := by
    intro v hv
    obtain ⟨sample, -, rfl⟩ := List.mem_map.mp hv
    exact Depth.widen_mem sample
  have himage : ∀ v ∈ row.map (Depth.widen : UInt8 → ℚ),
      0 ≤ slope * v + shift ∧ slope * v + shift ≤ 65535 := by
    intro v hv
    obtain ⟨sample, -, rfl⟩ := List.mem_map.mp hv
    rw [hf]
    exact Depth.widen_mem _
  have hnear := hp.areNear_evaluate16 hslope hline (by rw [List.length_map, hrow]) hwidened himage
  have hmeant : (row.map (Depth.widen : UInt8 → ℚ)).map (fun v => slope * v + shift)
      = (row.map f).map Depth.widen := by
    simp only [List.map_map]
    exact List.map_congr_left fun v _ => hf v
  rw [hmeant] at hnear
  exact narrowRows_of_areNear hnear

/-- Complemented samples lie where the falling line leads. -/
theorem widen_complement (v : UInt8) : (-1 : ℚ) * Depth.widen v + 65535 = Depth.widen (255 - v) := by
  have hlt : v.toNat < 256 := v.toNat_lt
  have hnat : (255 - v).toNat = 255 - v.toNat := by
    rw [UInt8.toNat_sub_of_le _ _ (by rw [UInt8.le_iff_toNat_le]; exact Nat.le_of_lt_succ hlt)]
    rfl
  have hcast : ((255 - v.toNat : ℕ) : ℚ) = 255 - v.toNat :=
    Nat.cast_sub (Nat.le_of_lt_succ hlt)
  rw [Depth.widen_rat, Depth.widen_rat, hnat, hcast]
  ring

/-! ## Straight links of any size -/

section Sizes

open Grid (nodeValue nodeValues)

/-- What a straight link holds: curves that are the rounded values themselves, and in the table a
code made of each rounded coordinate. -/
def straightContent (points channels entries : ℕ) (code : UInt16 → UInt16) : Link.Content UInt16 where
  points := points
  inputEntries := entries
  outputEntries := entries
  inputCurves := List.replicate channels (nodeValues entries)
  table node channel := code (nodeValue points (node.getD channel 0))
  outputCurves := List.replicate channels (nodeValues entries)

/-- The straight link of so many nodes, channels and entries of a curve. -/
def straightLink (points channels entries : ℕ) (code : UInt16 → UInt16) : SampledProfile :=
  let content := straightContent points channels entries code
  Link.profile "straight" .rgb .rgb ⟨content.inputCurves, content.grid, content.outputCurves⟩

variable {points entries : ℕ} {code : UInt16 → UInt16}

/-- A curve of the rounded values is even. -/
theorem isEven_nodeValues (hentries : 2 ≤ entries) : Curve.IsEven (nodeValues entries) := by
  have hlength : (nodeValues entries).length = entries := by simp [nodeValues]
  constructor
  · rw [hlength]
    exact hentries
  · intro j hj
    have hnode := Grid.abs_nodeValue_sub_le hentries (hlength ▸ hj)
    have hvalue : (nodeValues entries)[j] = nodeValue entries j := by simp [nodeValues]
    rwa [hvalue, hlength, mul_div_assoc]

/-- The straight link is straight. -/
theorem isStraight_straightLink (hpoints : 2 ≤ points) (hentries : 2 ≤ entries) (channels : ℕ) :
    (straightLink points channels entries code).IsStraight channels := by
  have heven : Curve.AreEven (some (List.replicate channels (nodeValues entries))) channels := by
    refine .inr ⟨List.length_replicate .., fun c hc => ?_⟩
    rw [List.eq_of_mem_replicate hc]
    exact isEven_nodeValues hentries
  exact ⟨hpoints, List.length_replicate .., List.length_replicate .., heven, heven⟩

/-- The table of a straight link is near to a line if its codes are near at all nodes. -/
theorem isNear_straightLink (hpoints : 2 ≤ points) (channels : ℕ) {line : ℚ → ℚ}
    (hcode : ∀ i < points, |(Scalar.ofCode16 (code (nodeValue points i)) : ℚ)
      - line (i * 65535 / (points - 1))| ≤ 1 / 2) :
    (straightLink points channels entries code).table.IsNear line := by
  intro node hlength hnode channel hchannel
  have hentry := (straightContent points channels entries code).entry_grid hlength hnode hchannel
  have hcoordinate : node.getD channel 0 < points := by
    rw [List.getD_eq_getElem?_getD]
    cases hat : node[channel]? with
    | none => exact Nat.lt_of_lt_of_le (by decide) hpoints
    | some i => exact hnode i (List.mem_of_getElem? hat)
  have hnear := hcode _ hcoordinate
  exact hentry ▸ hnear

/-- With the codes themselves the table is near to the diagonal. -/
theorem isNear_diagonal (hpoints : 2 ≤ points) (channels : ℕ) :
    (straightLink points channels entries id).table.IsNear fun x => x := by
  refine isNear_straightLink hpoints channels fun i hi => ?_
  rw [mul_div_assoc]
  exact Grid.abs_nodeValue_sub_le hpoints hi

/-- With the complemented codes the table is near to the falling line. -/
theorem isNear_falling (hpoints : 2 ≤ points) (channels : ℕ) :
    (straightLink points channels entries (65535 - ·)).table.IsNear fun x => 65535 - x := by
  refine isNear_straightLink hpoints channels fun i hi => ?_
  have hcode (c : UInt16) : (Scalar.ofCode16 (65535 - c) : ℚ) = 65535 - Scalar.ofCode16 c := by
    have hle : c.toNat ≤ 65535 := Nat.le_of_lt_succ c.toNat_lt
    have hnat : (65535 - c).toNat = 65535 - c.toNat := by
      rw [UInt16.toNat_sub_of_le _ _ (UInt16.le_iff_toNat_le.mpr hle)]
      rfl
    rw [Scalar.ofCode16_rat, Scalar.ofCode16_rat, hnat, Nat.cast_sub hle]
    norm_num
  have hnode := Grid.abs_nodeValue_sub_le hpoints hi
  rw [abs_sub_comm] at hnode
  rw [hcode, mul_div_assoc]
  have hsame (u v : ℚ) : 65535 - u - (65535 - v) = v - u := by ring
  rwa [hsame]

end Sizes

/-- A link with even curves, or none, gives back all pixels as they are if its table holds the
diagonal in each channel, and their complements if it holds the falling diagonal: for blocks of
pixels and for arrays of any number of axes. -/
theorem IsStraight.deviceToDevice_eq (hp : p.IsStraight channels) (hchannels : 1 ≤ channels) :
    (p.table.IsNear (fun x => x) →
        (∀ b : Block UInt8, b.width = channels → (∀ row ∈ b.rows, row.length = channels) →
          (p.deviceToDevice ℚ).onBlock b = .ok b)
        ∧ ∀ (a : Nested UInt8) (shape : List ℕ), a.axes = .ok shape →
          Nested.lastAxis shape = channels → (p.deviceToDevice ℚ).onNested a = .ok a)
      ∧ (p.table.IsNear (fun x => 65535 - x) →
        (∀ b : Block UInt8, b.width = channels → (∀ row ∈ b.rows, row.length = channels) →
          (p.deviceToDevice ℚ).onBlock b
            = .ok { b with rows := b.rows.map fun row => row.map (255 - ·) })
        ∧ ∀ (a : Nested UInt8) (shape : List ℕ), a.axes = .ok shape →
          Nested.lastAxis shape = channels →
            (p.deviceToDevice ℚ).onNested a = .ok (a.map (255 - ·))) := by
  have hwidth := hp.width_deviceToDevice
  constructor
  · intro hline
    have hdiagonal : p.table.IsNear fun x => 1 * x + 0 := by simpa using hline
    have hrun := hp.run_deviceToDevice (f := id) (by norm_num) hdiagonal fun v => by simp
    constructor
    · intro b hb hrows
      have hsame : b.rows.map (List.map id) = b.rows := by simp
      rw [RowOp.onBlock_eq_map hwidth hrun hb hrows, hsame]
    · intro a shape ha hlast
      rw [RowOp.onNested_eq_map hwidth hrun hchannels ha hlast, Nested.map_id]
  · intro hline
    have hfalling : p.table.IsNear fun x => -1 * x + 65535 := by
      have hsame : (fun x : ℚ => 65535 - x) = fun x => -1 * x + 65535 := by
        funext x
        ring
      rwa [hsame] at hline
    have hrun := hp.run_deviceToDevice (by norm_num) hfalling widen_complement
    constructor
    · intro b hb hrows
      exact RowOp.onBlock_eq_map hwidth hrun hb hrows
    · intro a shape ha hlast
      exact RowOp.onNested_eq_map hwidth hrun hchannels ha hlast

/-- Links of three channels with a rounded node in the middle of each axis and three rounded
entries in each curve. -/
theorem deviceToDevice_straightLink :
    ((straightLink 3 3 5 id).deviceToDevice ℚ).onNested
        (.node [Nested.ofRow [0, 200, 255], Nested.ofRow [17, 128, 1]])
      = .ok (.node [Nested.ofRow [0, 200, 255], Nested.ofRow [17, 128, 1]])
    ∧ ((straightLink 3 3 5 (65535 - ·)).deviceToDevice ℚ).onBlock
        { width := 3, rows := [[0, 200, 255], [17, 128, 1]] }
      = .ok { width := 3, rows := [[255, 55, 0], [238, 127, 254]] } := by
  have hstraight (code : UInt16 → UInt16) : (straightLink 3 3 5 code).IsStraight 3 :=
    isStraight_straightLink (by decide) (by decide) 3
  constructor
  · have hsame := ((hstraight id).deviceToDevice_eq (by decide)).1
      (isNear_diagonal (by decide) 3)
    exact hsame.2 _ [2, 3] rfl rfl
  · have hinverted := ((hstraight (65535 - ·)).deviceToDevice_eq (by decide)).2
      (isNear_falling (by decide) 3)
    exact hinverted.1 _ rfl (by decide)

end Recolor.SampledProfile
