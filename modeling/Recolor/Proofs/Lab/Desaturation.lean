import Mathlib.Order.Bounds.Basic
import Recolor.Proofs.Lab.Arrays
import Recolor.Proofs.Lab.Envelope

/-!
# How far a colour is moved

A colour outside the rectangle of an envelope is moved towards the neutral axis no further than it
has to be. Of the factors between 0 and 1 each face of the rectangle admits those up to a bound of
its own, so the factor that the faces leave is the greatest that brings the colour into the
rectangle. What is in the envelope stays, and so does what was moved into it.
-/

set_option autoImplicit false

namespace Recolor.Envelope

/-- Black lies in the envelope, be it on an edge. -/
structure HoldsBlack (e : Envelope ℚ) : Prop where
  lMax_nonneg : 0 ≤ e.lMax
  aMin_nonpos : e.aMin ≤ 0
  aMax_nonneg : 0 ≤ e.aMax
  bMin_nonpos : e.bMin ≤ 0
  bMax_nonneg : 0 ≤ e.bMax

/-- The factors between 0 and 1 that bring the opponent axes of a colour into the rectangle. -/
def fittingFactors (e : Envelope ℚ) (c : Lab ℚ) : Set ℚ :=
  {t | 0 ≤ t ∧ t ≤ 1 ∧ e.Contains ⟨c.l, t * c.a, t * c.b⟩}

/-- A colour becomes black if it is darker than that, else it is moved by the greatest factor that
brings it into the rectangle. -/
structure IsMoved (e : Envelope ℚ) (c d : Lab ℚ) : Prop where
  eq_black : c.l < 0 → d = ⟨0, 0, 0⟩
  eq_scaled : 0 ≤ c.l →
    ∃ t, IsGreatest (e.fittingFactors c) t ∧ d = ⟨min c.l e.lMax, t * c.a, t * c.b⟩
  contains : e.Contains d
  on_ray : ∃ t, 0 ≤ t ∧ t ≤ 1 ∧ d.a = t * c.a ∧ d.b = t * c.b
  eq_self : 0 ≤ c.l → e.Contains c → d = ⟨min c.l e.lMax, c.a, c.b⟩

variable {e : Envelope ℚ} {t value bound factor : ℚ}

/-- Shrinking to an upper bound never makes the factor greater. -/
theorem shrinkAbove_le (value bound factor : ℚ) : shrinkAbove value bound factor ≤ factor := by
  rw [shrinkAbove, Scalar.lesser_rat]
  split
  · exact min_le_left _ _
  · exact le_refl _

/-- Shrinking to a lower bound never makes the factor greater. -/
theorem shrinkBelow_le (value bound factor : ℚ) : shrinkBelow value bound factor ≤ factor := by
  rw [shrinkBelow, Scalar.lesser_rat]
  split
  · exact min_le_left _ _
  · exact le_refl _

/-- An upper face admits the factors that take the value down to it. -/
theorem le_shrinkAbove_iff (h0 : 0 ≤ t) (h1 : t ≤ 1) (hbound : 0 ≤ bound) :
    t ≤ shrinkAbove value bound factor ↔ t ≤ factor ∧ t * value ≤ bound := by
  rcases le_or_gt value bound with hinside | houtside
  · -- nothing is asked of the factor, and no factor up to 1 takes the value past the face
    have hscaled : t * value ≤ bound := by
      rcases le_total value 0 with hsign | hsign
      · exact (mul_nonpos_of_nonneg_of_nonpos h0 hsign).trans hbound
      · exact (mul_le_of_le_one_left hsign h1).trans hinside
    rw [shrinkAbove_of_le hinside]
    exact (and_iff_left hscaled).symm
  · have hpositive : 0 < value := hbound.trans_lt houtside
    rw [shrinkAbove, Scalar.lt_rat, if_pos (decide_eq_true houtside), Scalar.lesser_rat, le_min_iff,
      le_div_iff₀ hpositive]

/-- A lower face admits the factors that take the value up to it. -/
theorem le_shrinkBelow_iff (h0 : 0 ≤ t) (h1 : t ≤ 1) (hbound : bound ≤ 0) :
    t ≤ shrinkBelow value bound factor ↔ t ≤ factor ∧ bound ≤ t * value := by
  rcases le_or_gt bound value with hinside | houtside
  · have hscaled : bound ≤ t * value := by
      rcases le_total value 0 with hsign | hsign
      · have hshrunk : t * -value ≤ -value := mul_le_of_le_one_left (neg_nonneg.mpr hsign) h1
        linarith
      · exact hbound.trans (mul_nonneg h0 hsign)
    rw [shrinkBelow_of_le hinside]
    exact (and_iff_left hscaled).symm
  · have hnegative : value < 0 := houtside.trans_le hbound
    rw [shrinkBelow, Scalar.lt_rat, if_pos (decide_eq_true houtside), Scalar.lesser_rat, le_min_iff,
      le_div_iff_of_neg hnegative]

/-- Colours are never moved outwards. -/
theorem factor_le_one (e : Envelope ℚ) (c : Lab ℚ) : e.factor c ≤ 1 := by
  have hone : (1.0 : ℚ) = 1 := by norm_num
  rw [Envelope.factor, hone]
  exact (shrinkBelow_le _ _ _).trans ((shrinkAbove_le _ _ _).trans
    ((shrinkBelow_le _ _ _).trans (shrinkAbove_le _ _ _)))

/-- The four faces together admit the factors that bring the colour into the rectangle. -/
theorem le_factor_iff (he : e.HoldsBlack) (c : Lab ℚ) (h0 : 0 ≤ t) (h1 : t ≤ 1) :
    t ≤ e.factor c ↔ t ∈ e.fittingFactors c := by
  have hone : (1.0 : ℚ) = 1 := by norm_num
  rw [Envelope.factor, hone, le_shrinkBelow_iff h0 h1 he.bMin_nonpos,
    le_shrinkAbove_iff h0 h1 he.bMax_nonneg, le_shrinkBelow_iff h0 h1 he.aMin_nonpos,
    le_shrinkAbove_iff h0 h1 he.aMax_nonneg]
  constructor
  · rintro ⟨⟨⟨⟨-, haMax⟩, haMin⟩, hbMax⟩, hbMin⟩
    exact ⟨h0, h1, haMin, haMax, hbMin, hbMax⟩
  · rintro ⟨-, -, haMin, haMax, hbMin, hbMax⟩
    exact ⟨⟨⟨⟨h1, haMax⟩, haMin⟩, hbMax⟩, hbMin⟩

/-- In an envelope that holds black the factor of a colour is not negative. -/
theorem factor_nonneg (he : e.HoldsBlack) (c : Lab ℚ) : 0 ≤ e.factor c := by
  rw [le_factor_iff he c le_rfl zero_le_one]
  refine ⟨le_rfl, zero_le_one, ?_⟩
  constructor
  · simpa using he.aMin_nonpos
  · simpa using he.aMax_nonneg
  · simpa using he.bMin_nonpos
  · simpa using he.bMax_nonneg

/-- The factor of a colour is the greatest that brings it into the rectangle. -/
theorem isGreatest_factor (he : e.HoldsBlack) (c : Lab ℚ) :
    IsGreatest (e.fittingFactors c) (e.factor c) := by
  constructor
  · exact (le_factor_iff he c (factor_nonneg he c) (factor_le_one e c)).mp le_rfl
  · rintro t ⟨h0, h1, hcontains⟩
    exact (le_factor_iff he c h0 h1).mpr ⟨h0, h1, hcontains⟩

/-- Scaling with the factor leaves nothing to confine. -/
theorem confine_eq (he : e.HoldsBlack) (c : Lab ℚ) :
    e.confine c = ⟨min c.l e.lMax, e.factor c * c.a, e.factor c * c.b⟩ := by
  obtain ⟨-, hle, haMin, haMax, hbMin, hbMax⟩ := (isGreatest_factor he c).1
  have hone : (1.0 : ℚ) = 1 := by norm_num
  simp only [confine, Scalar.lt_rat, hone, decide_eq_true_eq, Scalar.lesser_rat,
    mul_comm _ (e.factor c), Scalar.clip_of_mem haMin haMax, Scalar.clip_of_mem hbMin hbMax]
  split
  · rfl
  · rename_i hinside
    have hfactor : e.factor c = 1 := le_antisymm hle (not_lt.mp hinside)
    rw [hfactor, one_mul, one_mul]

/-- In an envelope that holds black a colour is scaled by its factor, unless it is darker than
black. -/
theorem desaturate_eq (he : e.HoldsBlack) (c : Lab ℚ) :
    e.desaturate c = if c.l < 0 then ⟨0, 0, 0⟩
      else ⟨min c.l e.lMax, e.factor c * c.a, e.factor c * c.b⟩ := by
  have hzero : (0.0 : ℚ) = 0 := by norm_num
  have hblack : isBlack (e.confine c) = decide (c.l < 0) := by
    rw [confine_eq he, isBlack, Scalar.lt_rat, hzero, decide_eq_decide, min_lt_iff]
    exact or_iff_left (not_lt.mpr he.lMax_nonneg)
  simp only [desaturate, hblack, decide_eq_true_eq]
  rw [confine_eq he, hzero]

/-- Desaturation moves a colour by the greatest factor that brings it into the rectangle. -/
theorem isMoved_desaturate (he : e.HoldsBlack) (c : Lab ℚ) : e.IsMoved c (e.desaturate c) := by
  have hgreatest := isGreatest_factor he c
  obtain ⟨hnonneg, hle, haMin, haMax, hbMin, hbMax⟩ := hgreatest.1
  rw [desaturate_eq he]
  split
  · rename_i hdark
    refine ⟨fun _ => rfl, fun hlight => absurd hdark (not_lt.mpr hlight), ?_,
      ⟨0, le_rfl, zero_le_one, ?_⟩, fun hlight => absurd hdark (not_lt.mpr hlight)⟩
    · exact ⟨he.aMin_nonpos, he.aMax_nonneg, he.bMin_nonpos, he.bMax_nonneg⟩
    · simp
  · rename_i hlight
    refine ⟨fun hdark => absurd hdark hlight, fun _ => ⟨_, hgreatest, rfl⟩,
      ⟨haMin, haMax, hbMin, hbMax⟩, ⟨_, hnonneg, hle, rfl, rfl⟩, ?_⟩
    intro _ hinside
    rw [factor_of_contains hinside, one_mul, one_mul]

/-- A colour that was moved into the envelope is not moved again. -/
theorem desaturate_desaturate (he : e.HoldsBlack) (c : Lab ℚ) :
    e.desaturate (e.desaturate c) = e.desaturate c := by
  have hrange : 0 ≤ (e.desaturate c).l ∧ (e.desaturate c).l ≤ e.lMax := by
    rw [desaturate_eq he]
    split
    · exact ⟨le_rfl, he.lMax_nonneg⟩
    · rename_i hlight
      exact ⟨le_min (not_lt.mp hlight) he.lMax_nonneg, min_le_right _ _⟩
  exact desaturate_of_contains hrange.1 hrange.2 (isMoved_desaturate he c).contains

/-- The colours of an array are moved each by itself. -/
theorem desaturateRows_onNested (e : Envelope ℚ) {colors : Nested (Lab ℚ)}
    (hcolors : colors.CanHoldRows) :
    e.desaturateRows.onNested (colors.expand Lab.toRow)
      = .ok (colors.expand fun c => (e.desaturate c).toRow) := by
  have hrun (c : Lab ℚ) : e.desaturateRows.run c.toRow = (e.desaturate c).toRow := by
    show (if isBlack (e.confine c) then _ else _) = _
    rw [desaturate]
    split
    · rfl
    · rfl
  rw [RowOp.onNested_expand e.desaturateRows (k := 3) rfl (fun _ => rfl) hcolors]
  simp only [hrun]

/-- Every colour is moved along its ray as little as the envelope lets it, once and for all,
whether it comes alone or in an array. -/
theorem moves_least_of_holdsBlack (he : e.HoldsBlack) :
    (∀ c : Lab ℚ, e.IsMoved c (e.desaturate c)
      ∧ e.desaturate (e.desaturate c) = e.desaturate c)
    ∧ ∀ colors : Nested (Lab ℚ), colors.CanHoldRows →
      e.desaturateRows.onNested (colors.expand Lab.toRow)
        = .ok (colors.expand fun c => (e.desaturate c).toRow) :=
  ⟨fun c => ⟨isMoved_desaturate he c, desaturate_desaturate he c⟩,
    fun _ hcolors => desaturateRows_onNested e hcolors⟩

/-- The fax envelope holds black. -/
theorem holdsBlack_fax : (fax : Envelope ℚ).HoldsBlack := by
  constructor <;> norm_num [fax, Scalar.ofInt_rat]

/-- A colour twice as vivid as both faces let it be, and too light. -/
theorem moves_least_vivid : (fax : Envelope ℚ).HoldsBlack
    ∧ (fax : Envelope ℚ).IsMoved ⟨120, 170, 250⟩ ((fax : Envelope ℚ).desaturate ⟨120, 170, 250⟩)
    ∧ (fax : Envelope ℚ).desaturate ⟨120, 170, 250⟩ = ⟨100, 85, 125⟩ := by
  have hmoved := ((moves_least_of_holdsBlack holdsBlack_fax).1 ⟨120, 170, 250⟩).1
  obtain ⟨t, hgreatest, hscaled⟩ := hmoved.eq_scaled (by norm_num)
  have hhalf : IsGreatest ((fax : Envelope ℚ).fittingFactors ⟨120, 170, 250⟩) (1 / 2) := by
    constructor
    · refine ⟨by norm_num, by norm_num, ?_⟩
      constructor <;> norm_num [fax, Scalar.ofInt_rat]
    · rintro u ⟨-, -, hcontains⟩
      have hface : u * 170 ≤ (fax : Envelope ℚ).aMax := hcontains.le_aMax
      norm_num [fax] at hface
      linarith
  refine ⟨holdsBlack_fax, hmoved, ?_⟩
  rw [hscaled, hgreatest.unique hhalf]
  norm_num [fax]

end Recolor.Envelope
