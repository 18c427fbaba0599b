import Recolor.Profile.Sampled
import Recolor.Proofs.Rows.Nested
import Recolor.Rows.RowOp

/-!
# Operations that keep to their widths

An operation on rows announces the width of its result. All operations that profiles are made of
keep to what they announce: a row of a width they accept becomes a row of the width announced.
What a sampled profile makes of a row is thus as wide as its table is.
-/

set_option autoImplicit false

namespace Recolor

namespace RowOp

variable {α β γ : Type}

/-- Every row of a width that the operation accepts becomes a row of the width it announces. -/
def IsLawful (f : RowOp α β) : Prop :=
  ∀ row m, f.width row.length = .ok m → (f.run row).length = m

/-- Lawful operations one after the other are lawful. -/
theorem IsLawful.andThen {f : RowOp α β} {g : RowOp β γ} (hf : f.IsLawful) (hg : g.IsLawful) :
    (f.andThen g).IsLawful := by
  intro row m h
  simp only [RowOp.andThen] at h
  cases hwidth : f.width row.length with
  | error e => simp [hwidth] at h
  | ok n =>
    simp only [hwidth] at h
    exact hg (f.run row) m (by rw [hf row n hwidth]; exact h)

/-- An operation on single samples is lawful. -/
theorem isLawful_samples (f : α → β) : (samples f).IsLawful := by
  intro row m h
  simp only [samples, Except.ok.injEq] at h
  simp [samples, h]

/-- An operation that needs so many columns accepts only rows that have them, and announces its own
width. -/
theorem atLeast_ok {needed result n m : Nat} (h : atLeast needed result n = .ok m) :
    needed ≤ n ∧ m = result := by
  unfold atLeast at h
  split at h
  · simp at h
  · simp only [Except.ok.injEq] at h
    exact ⟨by omega, h.symm⟩

/-- The rows of a block of which all rows have the block's width come out with that of the
result. -/
theorem length_of_onBlock {f : RowOp α β} (hf : f.IsLawful) {b : Block α} {result : Block β}
    (hb : ∀ row ∈ b.rows, row.length = b.width) (h : f.onBlock b = .ok result) :
    ∀ row ∈ result.rows, row.length = result.width := by
  unfold onBlock at h
  cases hwidth : f.width b.width with
  | error e => simp [hwidth] at h
  | ok m =>
    simp only [hwidth, Except.ok.injEq] at h
    subst h
    intro row hrow
    obtain ⟨r, hr, rfl⟩ := List.mem_map.mp hrow
    exact hf r m (by rw [hb r hr]; exact hwidth)

/-- An operation on a block maps each of its rows. -/
theorem rows_of_onBlock {f : RowOp α β} {b : Block α} {result : Block β}
    (h : f.onBlock b = .ok result) : result.rows = b.rows.map f.run := by
  unfold onBlock at h
  cases hwidth : f.width b.width with
  | error e => simp [hwidth] at h
  | ok m =>
    simp only [hwidth, Except.ok.injEq] at h
    rw [← h]

/-- An operation on a block gives the width that it announces. -/
theorem width_of_onBlock {f : RowOp α β} {b : Block α} {result : Block β}
    (h : f.onBlock b = .ok result) : f.width b.width = .ok result.width := by
  unfold onBlock at h
  cases hwidth : f.width b.width with
  | error e => simp [hwidth] at h
  | ok m =>
    simp only [hwidth, Except.ok.injEq] at h
    rw [← h]

/-- A single row is an array of one axis. -/
theorem onNested_ofRow {f : RowOp α β} {row : List α} {m : Nat}
    (h : f.width row.length = .ok m) :
    f.onNested (Nested.ofRow row) = .ok (Nested.ofRow (f.run row)) := by
  have haxes : (Nested.ofRow row).axes = .ok [row.length] := by
    simp [Nested.axes, Nested.ofRow, Nested.shape?, Nested.shapeAll?_leaf, Nested.mostAxes]
  have hlast : f.width (Nested.lastAxis [row.length]) = .ok m := h
  have hrows : (Nested.ofRow row).mapRows f.run = Nested.ofRow (f.run row) := by
    rw [Nested.ofRow, Nested.mapRows, Nested.leaves?_leaf]
  simp only [onNested, haxes, hlast, hrows]

/-- The operation accepts a row and gives a value in a column of the result. -/
def Gives (f : RowOp α β) (row : List α) (column : Nat) (value : β) : Prop :=
  ∃ result, f.onNested (Nested.ofRow row) = .ok (Nested.ofRow result)
    ∧ result[column]? = some value

end RowOp

/-- Reading colours off rows gives three columns if the colours are written as three. -/
theorem Lab.isLawful_readRow {α β : Type} {f : Lab α → List β} (hf : ∀ c, (f c).length = 3) :
    (Lab.readRow f).IsLawful := by
  intro row m h
  obtain ⟨hwidth, rfl⟩ := RowOp.atLeast_ok h
  match row, hwidth with
  | l :: a :: b :: _, _ => exact hf ⟨l, a, b⟩

section Operations

variable {α : Type} [Scalar α]

/-- Curves leave the number of columns. -/
theorem Curve.length_applyKnots (knots : List (List (α × α))) (row : List α) :
    (Curve.applyKnots knots row).length = row.length := by
  induction knots generalizing row with
  | nil => rfl
  | cons k rest ih =>
    cases row with
    | nil => rfl
    | cons x row => simp [Curve.applyKnots, ih]

/-- Applying curves is lawful. -/
theorem Curve.isLawful_applyRows? (curves : Option (List Curve)) :
    (Curve.applyRows? curves : RowOp α α).IsLawful := by
  intro row m h
  simp only [Curve.applyRows?, Curve.applyRows] at h ⊢
  split at h
  · simp at h
  · simp only [Except.ok.injEq] at h
    rw [Curve.length_applyKnots, h]

/-- Curves can be applied exactly if there is a column for each and none is empty. -/
theorem Curve.check_eq_ok_iff (curves : List Curve) (n : Nat) :
    check curves n = .ok () ↔ curves.length ≤ n ∧ ∀ c ∈ curves, c ≠ [] := by
  induction curves generalizing n with
  | nil => simp [check]
  | cons c rest ih =>
    cases n with
    | zero => simp [check]
    | succ n =>
      cases c with
      | nil => simp [check]
      | cons entry entries => simp [check, ih]

/-- No curves, or one with entries for each of so many columns. -/
def Curve.AreFor (curves : Option (List Curve)) (columns : Nat) : Prop :=
  curves.getD [] = []
    ∨ (curves.getD []).length = columns ∧ ∀ c ∈ curves.getD [], c ≠ []

/-- Curves can be applied to rows that have the columns they are for. -/
theorem Curve.AreFor.check_eq {curves : Option (List Curve)} {columns n : Nat}
    (h : Curve.AreFor curves columns) (hn : columns ≤ n) : check (curves.getD []) n = .ok () := by
  rw [check_eq_ok_iff]
  rcases h with hnone | ⟨hlength, hentries⟩
  · simp [hnone]
  · exact ⟨Nat.le_trans (Nat.le_of_eq hlength) hn, hentries⟩

/-- Curves leave the number of columns. -/
theorem Curve.width_applyRows? {curves : Option (List Curve)} {n m : Nat}
    (h : (Curve.applyRows? curves : RowOp α α).width n = .ok m) : m = n := by
  simp only [Curve.applyRows?, Curve.applyRows] at h
  split at h
  · simp at h
  · simp only [Except.ok.injEq] at h
    exact h.symm

/-- Reading a table announces its outputs. -/
theorem Grid.width_evaluateRows {g : Grid} {n m : Nat}
    (h : (g.evaluateRows : RowOp α α).width n = .ok m) : m = g.outputs := by
  simp only [Grid.evaluateRows] at h
  split at h
  · simp at h
  · exact (RowOp.atLeast_ok h).2

/-- Reading a table is lawful. -/
theorem Grid.isLawful_evaluateRows (g : Grid) : (g.evaluateRows : RowOp α α).IsLawful := by
  intro row m h
  rw [Grid.width_evaluateRows h]
  simp [Grid.evaluateRows, Grid.evaluate]

namespace SampledProfile

/-- What lies between the depths and the encodings is as wide as the table. -/
theorem width_evaluate16 {p : SampledProfile} {n m : Nat}
    (h : (p.evaluate16 : RowOp α α).width n = .ok m) : m = p.table.outputs := by
  simp only [evaluate16, RowOp.andThen] at h
  split at h
  · simp at h
  · rename_i m₁ h₁
    split at h₁
    · simp at h₁
    · rw [Curve.width_applyRows? h, Grid.width_evaluateRows h₁]

/-- Evaluating a profile over 16-bit values is lawful. -/
theorem isLawful_evaluate16 (p : SampledProfile) : (p.evaluate16 : RowOp α α).IsLawful :=
  ((Curve.isLawful_applyRows? _).andThen (Grid.isLawful_evaluateRows _)).andThen
    (Curve.isLawful_applyRows? _)

/-- Evaluating a profile over samples is lawful. -/
theorem isLawful_deviceToDevice (p : SampledProfile) : (p.deviceToDevice α).IsLawful :=
  ((RowOp.isLawful_samples _).andThen p.isLawful_evaluate16).andThen (RowOp.isLawful_samples _)

/-- A device link gives pixels as wide as its table. -/
theorem width_deviceToDevice {p : SampledProfile} {n m : Nat}
    (h : (p.deviceToDevice α).width n = .ok m) : m = p.table.outputs := by
  simp only [deviceToDevice, RowOp.andThen, Depth.widenRows, Depth.narrowRows, RowOp.samples] at h
  split at h
  · simp at h
  · rename_i m₁ h₁
    simp only [Except.ok.injEq] at h
    rw [← h, width_evaluate16 h₁]

/-- A profile maps rows of a width exactly if its curves can be applied in front of its table and
behind it, and the table has nodes and no more axes than the rows have columns. -/
theorem exists_width_deviceToDevice_iff (p : SampledProfile) (n : Nat) :
    (∃ m, (p.deviceToDevice α).width n = .ok m)
      ↔ Curve.check (p.inputCurves.getD []) n = .ok ()
        ∧ (p.table.points = 0 → p.table.inputs = 0) ∧ p.table.inputs ≤ n
        ∧ Curve.check (p.outputCurves.getD []) p.table.outputs = .ok () := by
  simp only [deviceToDevice, evaluate16, RowOp.andThen, Depth.widenRows, Depth.narrowRows,
    RowOp.samples, Curve.applyRows?, Curve.applyRows, Grid.evaluateRows, RowOp.atLeast]
  cases Curve.check (p.inputCurves.getD []) n with
  | error e => simp
  | ok _ =>
    by_cases hnodes : p.table.points = 0 ∧ p.table.inputs ≠ 0
    · simp [hnodes]
    · have hnodes' : p.table.points = 0 → p.table.inputs = 0 := by simpa using hnodes
      by_cases haxes : n < p.table.inputs
      · have haxes' : ¬p.table.inputs ≤ n := Nat.not_le.mpr haxes
        simp [hnodes, haxes, haxes']
      · have haxes' : p.table.inputs ≤ n := Nat.not_lt.mp haxes
        cases hcheck : Curve.check (p.outputCurves.getD []) p.table.outputs with
        | error e => simp [hnodes, haxes, hcheck]
        | ok _ => simpa [hnodes, haxes, haxes', hcheck] using hnodes'

/-- A profile with curves for its table, or without, maps the rows that its table can read. -/
theorem width_deviceToDevice_eq {p : SampledProfile} (hpoints : p.table.points ≠ 0)
    (hinput : Curve.AreFor p.inputCurves p.table.inputs)
    (houtput : Curve.AreFor p.outputCurves p.table.outputs) {n : Nat} (hn : p.table.inputs ≤ n) :
    (p.deviceToDevice α).width n = .ok p.table.outputs := by
  obtain ⟨m, hm⟩ := (exists_width_deviceToDevice_iff (α := α) p n).mpr
    ⟨hinput.check_eq hn, fun h => absurd h hpoints, hn, houtput.check_eq (Nat.le_refl _)⟩
  rw [hm, width_deviceToDevice hm]

/-- The depths at both ends of a device link leave it to what lies between them which rows are
accepted. -/
theorem width_evaluate16_eq (p : SampledProfile) (n : Nat) :
    (p.evaluate16 : RowOp α α).width n = (p.deviceToDevice α).width n := by
  simp only [deviceToDevice, RowOp.andThen, Depth.widenRows, Depth.narrowRows, RowOp.samples]
  split
  · assumption
  · assumption

/-- Reading samples as colours through a profile is lawful. -/
theorem isLawful_deviceToLab (p : SampledProfile) : (p.deviceToLab : RowOp UInt8 α).IsLawful :=
  ((RowOp.isLawful_samples _).andThen p.isLawful_evaluate16).andThen
    (Lab.isLawful_readRow fun _ => rfl)

/-- Writing colours as samples through a profile is lawful. -/
theorem isLawful_labToDevice (p : SampledProfile) : (p.labToDevice : RowOp α UInt8).IsLawful :=
  (((Lab.isLawful_readRow fun _ => rfl).andThen (RowOp.isLawful_samples _)).andThen
    p.isLawful_evaluate16).andThen (RowOp.isLawful_samples _)

/-- A profile that leads from Lab colours gives pixels as wide as its table. -/
theorem width_labToDevice {p : SampledProfile} {n m : Nat}
    (h : (p.labToDevice : RowOp α UInt8).width n = .ok m) : m = p.table.outputs := by
  simp only [labToDevice, RowOp.andThen, Depth.narrowRows, RowOp.samples] at h
  split at h
  · simp at h
  · rename_i m₁ h₁
    split at h₁
    · simp at h₁
    · simp only [Except.ok.injEq] at h
      rw [← h, width_evaluate16 h₁]

end SampledProfile

end Operations

end Recolor
