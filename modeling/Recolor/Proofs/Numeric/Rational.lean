import Mathlib.Algebra.Order.Group.Abs
import Mathlib.Algebra.Order.Group.MinMax
import Mathlib.Data.Rat.Floor
import Mathlib.Tactic.Linarith
import Mathlib.Tactic.NormNum
import Recolor.Numeric.Scalar

/-!
# The exact reading of the colour arithmetic

Over the rational numbers every formula of the colour layer means what it says: the selections
are minima and maxima, and the two ways to a 16-bit code miss their number by at most half a
code when they round and by less than one when they cut off.
-/

set_option autoImplicit false

namespace Recolor

/-- Confining two values to an interval brings them no further apart. -/
theorem abs_confine_sub_confine_le (x y lo hi : ℚ) :
    |min (max x lo) hi - min (max y lo) hi| ≤ |x - y| :=
  calc |min (max x lo) hi - min (max y lo) hi|
      ≤ max |max x lo - max y lo| |hi - hi| := abs_min_sub_min_le_max _ _ _ _
    _ = |max x lo - max y lo| := by rw [sub_self, abs_zero, max_eq_left (abs_nonneg _)]
    _ ≤ |x - y| := abs_max_sub_max_le_abs x y lo

/-- Confining a value to an interval brings it no further away from a point of the interval. -/
theorem abs_confine_sub_le {x v lo hi : ℚ} (hlo : lo ≤ v) (hhi : v ≤ hi) :
    |min (max x lo) hi - v| ≤ |x - v| := by
  have hsame := abs_confine_sub_confine_le x v lo hi
  rwa [max_eq_left hlo, min_eq_left hhi] at hsame

/-- The floor of a fraction is the quotient of integers. -/
theorem floor_eq_ediv {x : ℚ} {n : ℤ} {d : ℕ} (h : x = n / d) : ⌊x⌋ = n / d := by
  rw [h, Rat.floor_intCast_div_natCast]

/-- A natural number of the 16-bit domain is its own code. -/
theorem Whole.toCode16_natCast {k : ℕ} (hk : k < 65536) :
    (Whole.int k).toCode16 = UInt16.ofNat k := by
  have hclamp : ((Whole.int k).clamp 0 65535).toNat = k := by
    rw [Whole.clamp_int]
    omega
  rw [Whole.toCode16, hclamp]

/-- A code is the code of its own number. -/
theorem Whole.toCode16_toNat (c : UInt16) : (Whole.int c.toNat).toCode16 = c := by
  rw [Whole.toCode16_natCast c.toNat_lt, UInt16.ofNat_toNat]

/-- A code is the integer it was made of, confined to the domain. -/
theorem Whole.toNat_toCode16 (w : Whole) : (w.toCode16.toNat : ℤ) = w.clamp 0 65535 := by
  have hlow := Whole.clamp_nonneg 65535 (by decide) w
  have hhigh := Whole.clamp_le 0 65535 w
  rw [Whole.toCode16, UInt16.toNat_ofNat_of_lt' (by omega : _ < 65536), Int.toNat_of_nonneg hlow]

/-- A sample is the integer it was made of, confined to the domain. -/
theorem Whole.toNat_toSample8 (w : Whole) : (w.toSample8.toNat : ℤ) = w.clamp 0 255 := by
  have hlow := Whole.clamp_nonneg 255 (by decide) w
  have hhigh := Whole.clamp_le 0 255 w
  rw [Whole.toSample8, UInt8.toNat_ofNat_of_lt' (by omega : _ < 256), Int.toNat_of_nonneg hlow]

/-- A sample is the sample of its own number. -/
theorem Whole.toSample8_toNat (c : UInt8) : (Whole.int c.toNat).toSample8 = c := by
  have hrange := c.toNat_lt
  have hvalue := Whole.toNat_toSample8 (.int c.toNat)
  rw [Whole.clamp_int] at hvalue
  exact UInt8.toNat.inj (by omega)

/-- Of the positive codes those up to an integer are those up to its code. -/
theorem Whole.le_toCode16_iff {code : UInt16} (hcode : 1 ≤ code) (n : ℤ) :
    code ≤ (Whole.int n).toCode16 ↔ (code.toNat : ℤ) ≤ n := by
  have hvalue := Whole.toNat_toCode16 (.int n)
  have hpositive : 1 ≤ code.toNat := by simpa [UInt16.le_iff_toNat_le] using hcode
  have hrange := code.toNat_lt
  rw [Whole.clamp_int] at hvalue
  rw [UInt16.le_iff_toNat_le]
  omega

namespace Scalar

/-- A fraction is cut off to its floor. -/
theorem floor_rat (x : ℚ) : floor x = .int ⌊x⌋ := rfl

/-- Fractions are compared by their order. -/
theorem lt_rat (x y : ℚ) : lt x y = decide (x < y) := rfl

/-- An integer is the fraction of that value. -/
theorem ofInt_rat (n : ℤ) : (ofInt n : ℚ) = n := rfl

/-- A fraction is rounded to the nearest integer, halves upwards. -/
theorem round_rat (x : ℚ) : round x = .int ⌊x + 1 / 2⌋ := by
  have hhalf : ((0.5 : ℚ)) = 1 / 2 := by norm_num
  rw [round, hhalf, floor_rat]

/-- The lesser of two fractions is their minimum. -/
theorem lesser_rat (x y : ℚ) : lesser x y = min x y := by
  have hnan : isNaN x = false := rfl
  simp only [lesser, hnan, lt_rat, Bool.false_or, decide_eq_true_eq]
  split
  · rename_i h
    rw [min_eq_left h.le]
  · rename_i h
    rw [min_eq_right (not_lt.mp h)]

/-- A fraction is clipped to bounds by its order. -/
theorem clip_rat (x lo hi : ℚ) : clip x lo hi = min (max x lo) hi := by
  have hnan (y : ℚ) : isNaN y = false := rfl
  have hlow : atLeast x lo = max x lo := by
    simp only [atLeast, hnan, lt_rat, Bool.false_or, decide_eq_true_eq]
    split
    · rename_i h
      rw [max_eq_right h.le]
    · rename_i h
      rw [max_eq_left (not_lt.mp h)]
  rw [clip, hlow]
  simp only [atMost, hnan, lt_rat, Bool.false_or, decide_eq_true_eq]
  split
  · rename_i h
    rw [min_eq_right h.le]
  · rename_i h
    rw [min_eq_left (not_lt.mp h)]

/-- Clipping leaves what lies between the bounds. -/
theorem clip_of_mem {x lo hi : ℚ} (hlo : lo ≤ x) (hhi : x ≤ hi) : clip x lo hi = x := by
  rw [clip_rat, max_eq_left hlo, min_eq_left hhi]

/-- A value that is confined, moved and stretched is confined to the places of the ends. -/
theorem mul_clip_add {k : ℚ} (hk : 0 ≤ k) (x lo hi shift : ℚ) :
    k * (clip x lo hi + shift)
      = min (max (k * (x + shift)) (k * (lo + shift))) (k * (hi + shift)) := by
  rw [clip_rat, ← min_add_add_right, ← max_add_add_right, mul_min_of_nonneg _ _ hk,
    mul_max_of_nonneg _ _ hk]

/-- Confining a value before it is rounded does nothing that saturating does not, as long as the
upper end lies beyond the greatest code. -/
theorem clamp_round_confine (x : ℚ) {hi : ℚ} {top : ℤ} (htop : 0 ≤ top) (hhi : top ≤ hi) :
    (round (min (max x 0) hi)).clamp 0 top = (round x).clamp 0 top := by
  have hhi0 : 0 ≤ hi := le_trans (by exact_mod_cast htop) hhi
  rw [round_rat, round_rat, Whole.clamp_int, Whole.clamp_int]
  rcases lt_or_ge x 0 with hbelow | hnonneg
  · have hzero : ⌊(0 : ℚ) + 1 / 2⌋ = 0 := by norm_num
    have hvalue : ⌊x + 1 / 2⌋ < 1 := Int.floor_lt.mpr (by norm_num; linarith)
    rw [max_eq_right hbelow.le, min_eq_left hhi0, hzero]
    omega
  · rw [max_eq_left hnonneg]
    rcases le_total x hi with hinside | hbeyond
    · rw [min_eq_left hinside]
    · -- both the value and the end are rounded to the greatest code or past it
      have hend : top ≤ ⌊hi + 1 / 2⌋ := Int.le_floor.mpr (by linarith)
      have hvalue : top ≤ ⌊x + 1 / 2⌋ := Int.le_floor.mpr (by linarith)
      rw [min_eq_right hbeyond]
      omega

/-- The fraction of a code is its number. -/
theorem ofCode16_rat (c : UInt16) : (ofCode16 c : ℚ) = c.toNat := by
  rw [ofCode16, ofInt_rat]
  exact Int.cast_natCast _

/-- The fraction of a code is not negative. -/
theorem ofCode16_nonneg (c : UInt16) : (0 : ℚ) ≤ ofCode16 c := by
  rw [ofCode16_rat]
  exact Nat.cast_nonneg _

/-- The fraction of a code is at most the greatest code. -/
theorem ofCode16_le (c : UInt16) : (ofCode16 c : ℚ) ≤ 65535 := by
  have hlt : c.toNat < 65536 := c.toNat_lt
  rw [ofCode16_rat]
  exact_mod_cast Nat.le_of_lt_succ hlt

/-- An integer of the 16-bit domain is its own code. -/
theorem ofCode16_toCode16 {n : ℤ} (h0 : 0 ≤ n) (h1 : n ≤ 65535) :
    (ofCode16 (Whole.int n).toCode16 : ℚ) = n := by
  obtain ⟨k, rfl⟩ := Int.eq_ofNat_of_zero_le h0
  have hk : k < 65536 := by omega
  rw [Whole.toCode16_natCast hk, ofCode16_rat, UInt16.toNat_ofNat_of_lt' hk]
  exact (Int.cast_natCast k).symm

/-- The code that a number is rounded to misses it by half a code at most. -/
theorem abs_ofCode16_round_sub_le {x : ℚ} (h0 : 0 ≤ x) (h1 : x ≤ 65535) :
    |(ofCode16 (round x).toCode16 : ℚ) - x| ≤ 1 / 2 := by
  have hlow : (⌊x + 1 / 2⌋ : ℚ) ≤ x + 1 / 2 := Int.floor_le _
  have hhigh : x + 1 / 2 < ⌊x + 1 / 2⌋ + 1 := Int.lt_floor_add_one _
  have hnonneg : 0 ≤ ⌊x + 1 / 2⌋ := Int.floor_nonneg.mpr (by linarith)
  have hle : ⌊x + 1 / 2⌋ ≤ 65535 := by
    have hlt : ⌊x + 1 / 2⌋ < 65536 := Int.floor_lt.mpr (by norm_num; linarith)
    omega
  rw [round_rat, ofCode16_toCode16 hnonneg hle, abs_le]
  constructor <;> linarith

/-- An integer is rounded to itself. -/
theorem round_ofInt (n : ℤ) : round (ofInt n : ℚ) = .int n := by
  have hfloor : ⌊(n : ℚ) + 1 / 2⌋ = n := by
    rw [Int.floor_eq_iff]
    constructor <;> linarith
  rw [ofInt_rat, round_rat, hfloor]

/-- Rounding a code gives the code. -/
theorem toCode16_round_ofCode16 (c : UInt16) : (round (ofCode16 c : ℚ)).toCode16 = c := by
  rw [ofCode16, round_ofInt]
  exact Whole.toCode16_toNat c

/-- Rounding a sample gives the sample. -/
theorem toSample8_round_ofSample8 (c : UInt8) : (round (ofSample8 c : ℚ)).toSample8 = c := by
  rw [ofSample8, round_ofInt]
  exact Whole.toSample8_toNat c

/-- Cutting off a code gives the code. -/
theorem toCode16_floor_ofCode16 (c : UInt16) : (floor (ofCode16 c : ℚ)).toCode16 = c := by
  rw [ofCode16, ofInt_rat, floor_rat]
  show (Whole.int ⌊((c.toNat : ℤ) : ℚ)⌋).toCode16 = c
  rw [Int.floor_intCast, Whole.toCode16_toNat]

/-- A number of the 16-bit domain is cut off to the integer below it. -/
theorem toNat_toCode16_floor {x : ℚ} (h0 : 0 ≤ x) (h1 : x < 65536) :
    ((floor x).toCode16.toNat : ℤ) = ⌊x⌋ := by
  have hnonneg : 0 ≤ ⌊x⌋ := Int.floor_nonneg.mpr h0
  have hlt : ⌊x⌋ < 65536 := Int.floor_lt.mpr (by exact_mod_cast h1)
  rw [Whole.toNat_toCode16, floor_rat, Whole.clamp_int]
  omega

/-- The code that a number is cut off to lies less than one below it, so within half a code of
what is half a code below the number. -/
theorem abs_ofCode16_floor_sub_le {x : ℚ} (h0 : 0 ≤ x) (h1 : x < 65536) :
    |(ofCode16 (floor x).toCode16 : ℚ) - (x - 1 / 2)| ≤ 1 / 2 := by
  have hlow : (⌊x⌋ : ℚ) ≤ x := Int.floor_le _
  have hhigh : x < ⌊x⌋ + 1 := Int.lt_floor_add_one _
  rw [ofCode16_rat, ← Int.cast_natCast, toNat_toCode16_floor h0 h1, abs_le]
  constructor <;> linarith

end Scalar

end Recolor
