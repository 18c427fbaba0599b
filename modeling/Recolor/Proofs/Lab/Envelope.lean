import Recolor.Lab.Envelope
import Recolor.Proofs.Numeric.Rational

/-!
# Colours inside an envelope

Inside the rectangle of an envelope a colour keeps its opponent axes, and a lightness between
black and the bound stays whatever becomes of the axes.
-/

set_option autoImplicit false

namespace Recolor.Envelope

variable {e : Envelope ℚ} {c : Lab ℚ}

/-- The opponent axes of a colour lie in the rectangle of an envelope. -/
structure Contains (e : Envelope ℚ) (c : Lab ℚ) : Prop where
  aMin_le : e.aMin ≤ c.a
  le_aMax : c.a ≤ e.aMax
  bMin_le : e.bMin ≤ c.b
  le_bMax : c.b ≤ e.bMax

/-- A value below the upper bound leaves the factor. -/
theorem shrinkAbove_of_le {value bound : ℚ} (h : value ≤ bound) (factor : ℚ) :
    shrinkAbove value bound factor = factor := by
  rw [shrinkAbove, Scalar.lt_rat, decide_eq_false (not_lt.mpr h)]
  rfl

/-- A value above the lower bound leaves the factor. -/
theorem shrinkBelow_of_le {value bound : ℚ} (h : bound ≤ value) (factor : ℚ) :
    shrinkBelow value bound factor = factor := by
  rw [shrinkBelow, Scalar.lt_rat, decide_eq_false (not_lt.mpr h)]
  rfl

/-- The factor of a colour in the rectangle is one. -/
theorem factor_of_contains (h : e.Contains c) : e.factor c = 1 := by
  rw [factor, shrinkAbove_of_le h.le_aMax, shrinkBelow_of_le h.aMin_le,
    shrinkAbove_of_le h.le_bMax, shrinkBelow_of_le h.bMin_le]
  norm_num

/-- A colour within the envelope is not changed by confining it. -/
theorem confine_of_contains (h : e.Contains c) (hl : c.l ≤ e.lMax) : e.confine c = c := by
  have hinside : Scalar.lt (e.factor c) 1.0 = false := by
    rw [factor_of_contains h, Scalar.lt_rat]
    norm_num
  simp only [confine, hinside, Bool.false_eq_true, if_false, Scalar.lesser_rat, min_eq_left hl]

/-- Confining keeps a lightness that is not too great. -/
theorem l_confine (hl : c.l ≤ e.lMax) : (e.confine c).l = c.l := by
  simp only [confine, Scalar.lesser_rat, min_eq_left hl]

/-- What is no darker than black and no lighter than the bound is confined and no more. -/
theorem desaturate_eq_confine (h0 : 0 ≤ c.l) (hl : c.l ≤ e.lMax) :
    e.desaturate c = e.confine c := by
  have hblack : isBlack (e.confine c) = false := by
    have hzero : (0.0 : ℚ) = 0 := by norm_num
    rw [isBlack, l_confine hl, Scalar.lt_rat, hzero, decide_eq_false (not_lt.mpr h0)]
  simp only [desaturate, hblack, Bool.false_eq_true, if_false]

/-- Desaturation keeps a lightness in range. -/
theorem l_desaturate (h0 : 0 ≤ c.l) (hl : c.l ≤ e.lMax) : (e.desaturate c).l = c.l := by
  rw [desaturate_eq_confine h0 hl, l_confine hl]

/-- A colour inside the envelope stays as it is. -/
theorem desaturate_of_contains (h0 : 0 ≤ c.l) (hl : c.l ≤ e.lMax) (h : e.Contains c) :
    e.desaturate c = c := by
  rw [desaturate_eq_confine h0 hl, confine_of_contains h hl]

end Recolor.Envelope
