import Recolor.Proofs.Numeric.Rational
import Recolor.Table.Depth

/-!
# The sample nearest to a 16-bit value

The sample that stands nearest to a 16-bit value is found by a product and a shift of words. They
stand in for a division by 257, which they only come near to: 65281 times 257 is one more than 2^24.
The product never leaves its word, and what the division is missed by never reaches the next sample.
So a value that misses 257 times a sample by less than half of that step leads back to the sample,
and a greater value never leads to a smaller sample.
-/

set_option autoImplicit false

namespace Recolor.Depth

/-- A sample of eight bits is widened to 257 times itself. -/
theorem widen_rat (sample : UInt8) : (widen sample : ℚ) = 257 * sample.toNat := by
  rw [widen, Scalar.ofInt_rat]
  push_cast
  rfl

/-- A widened sample lies in the 16-bit domain. -/
theorem widen_mem (sample : UInt8) : (0 : ℚ) ≤ widen sample ∧ (widen sample : ℚ) ≤ 65535 := by
  have hlt : sample.toNat < 256 := sample.toNat_lt
  have hle : (sample.toNat : ℚ) ≤ 255 := by exact_mod_cast Nat.le_of_lt_succ hlt
  have hnonneg : (0 : ℚ) ≤ sample.toNat := Nat.cast_nonneg _
  rw [widen_rat]
  constructor <;> linarith

/-- Widening keeps the order of samples. -/
theorem widen_le_widen {sample sample' : UInt8} (h : sample ≤ sample') :
    (widen sample : ℚ) ≤ widen sample' := by
  have hcast : (sample.toNat : ℚ) ≤ sample'.toNat := by exact_mod_cast UInt8.le_iff_toNat_le.mp h
  rw [widen_rat, widen_rat]
  linarith

/-- The widened samples fit into their words. -/
theorem widenWord_toNat (sample : UInt8) : widenWord sample.toNat = 257 * sample.toNat := by
  have hlt : sample.toNat < 256 := sample.toNat_lt
  rw [widenWord]
  omega

/-- The product of a code fits into its word. -/
theorem toNat_scaledCode (code : UInt16) :
    (scaledCode code).toNat = code.toNat * 65281 + 8388608 := by
  have hlt : code.toNat < 65536 := code.toNat_lt
  rw [scaledCode, UInt64.toNat_add, UInt64.toNat_mul, UInt16.toNat_toUInt64]
  show (code.toNat * 65281 % 2 ^ 64 + 8388608) % 2 ^ 64 = code.toNat * 65281 + 8388608
  omega

/-- What the shift leaves fits into a sample. -/
theorem toNat_narrowCode (code : UInt16) :
    (narrowCode code).toNat = (code.toNat * 65281 + 8388608) / 16777216 := by
  have hlt : code.toNat < 65536 := code.toNat_lt
  rw [narrowCode, UInt64.toNat_toUInt8, UInt64.toNat_shiftRight, toNat_scaledCode,
    Nat.shiftRight_eq_div_pow]
  show (code.toNat * 65281 + 8388608) / 16777216 % 256 = _
  omega

/-- A code within half a step of the code of a sample is narrowed to the sample. -/
theorem narrowCode_of_near {code : UInt16} {sample : UInt8}
    (hlow : 257 * sample.toNat ≤ code.toNat + 128)
    (hhigh : code.toNat ≤ 257 * sample.toNat + 128) : narrowCode code = sample := by
  have hlt : sample.toNat < 256 := sample.toNat_lt
  obtain ⟨miss, hmiss⟩ : ∃ miss, code.toNat + 128 = 257 * sample.toNat + miss :=
    Nat.exists_eq_add_of_le hlow
  -- each step of 257 makes the product one more than 2^24 greater
  have hscaled : code.toNat * 65281 + 8388608
      = 16777216 * sample.toNat + (sample.toNat + 65281 * miss + 32640) := by omega
  have herror : sample.toNat + 65281 * miss + 32640 < 16777216 := by omega
  refine UInt8.toNat.inj ?_
  rw [toNat_narrowCode, hscaled]
  omega

/-- Every code lies within half a step of the code of its sample. -/
theorem narrowCode_near (code : UInt16) :
    257 * (narrowCode code).toNat ≤ code.toNat + 128
      ∧ code.toNat ≤ 257 * (narrowCode code).toNat + 128 := by
  have hlt : code.toNat < 65536 := code.toNat_lt
  have hsample : (UInt8.ofNat ((code.toNat + 128) / 257)).toNat = (code.toNat + 128) / 257 :=
    UInt8.toNat_ofNat_of_lt' (by omega : _ < 256)
  have hnarrow : narrowCode code = UInt8.ofNat ((code.toNat + 128) / 257) := by
    refine narrowCode_of_near ?_ ?_ <;> rw [hsample] <;> omega
  rw [hnarrow, hsample]
  constructor <;> omega

example : narrowCode 25828 = 100 ∧ narrowCode 25829 = 101 := by decide

/-- Narrowing keeps the order of codes. -/
theorem narrowCode_le_narrowCode {code code' : UInt16} (h : code ≤ code') :
    narrowCode code ≤ narrowCode code' := by
  have hle : code.toNat ≤ code'.toNat := UInt16.le_iff_toNat_le.mp h
  rw [UInt8.le_iff_toNat_le, toNat_narrowCode, toNat_narrowCode]
  omega

/-- The integer that a value is rounded to, confined to the 16-bit domain. -/
def saturated (x : ℚ) : ℤ :=
  min (max ⌊x + 1 / 2⌋ 0) 65535

/-- A rounded number becomes the code that is nearest to it. -/
theorem toNat_roundedCode (x : ℚ) : ((Scalar.round x).toCode16.toNat : ℤ) = saturated x := by
  rw [Whole.toNat_toCode16, Scalar.round_rat, Whole.clamp_int, saturated]

/-- A value within half a step of what a sample stands for is narrowed to the sample. -/
theorem narrow_of_near {x : ℚ} {sample : UInt8} (h : |x - widen sample| < 257 / 2) :
    narrow x = sample := by
  have hlt : sample.toNat < 256 := sample.toNat_lt
  rw [widen_rat, abs_lt] at h
  have hlow : 257 * (sample.toNat : ℤ) - 128 ≤ ⌊x + 1 / 2⌋ := by
    rw [Int.le_floor]
    push_cast
    linarith
  have hhigh : ⌊x + 1 / 2⌋ < 257 * (sample.toNat : ℤ) + 129 := by
    rw [Int.floor_lt]
    push_cast
    linarith
  have hcode := toNat_roundedCode x
  rw [saturated] at hcode
  -- saturation does not take the code away from that of the sample
  refine narrowCode_of_near ?_ ?_ <;> omega

/-- Narrowing keeps the order of numbers. -/
theorem narrow_le_narrow {x x' : ℚ} (h : x ≤ x') : narrow x ≤ narrow x' := by
  have hfloor : ⌊x + 1 / 2⌋ ≤ ⌊x' + 1 / 2⌋ := Int.floor_mono (by linarith)
  have hcode := toNat_roundedCode x
  have hcode' := toNat_roundedCode x'
  rw [saturated] at hcode hcode'
  refine narrowCode_le_narrowCode ?_
  rw [UInt16.le_iff_toNat_le]
  omega

/-- A sample that is widened is narrowed to itself. -/
theorem narrow_widen (sample : UInt8) : narrow (widen sample : ℚ) = sample := by
  refine narrow_of_near ?_
  rw [sub_self, abs_zero]
  norm_num

/-- The samples that no other sample stands nearer to an integer of the 16-bit domain than. -/
def nearestSamples (n : ℤ) : Set UInt8 :=
  {sample | ∀ other : UInt8, |257 * (sample.toNat : ℤ) - n| ≤ |257 * (other.toNat : ℤ) - n|}

/-- A sample within half a step is the nearest one, as two steps never meet half way. -/
theorem nearestSamples_eq {n : ℤ} {sample : UInt8} (h : |257 * (sample.toNat : ℤ) - n| ≤ 128) :
    nearestSamples n = {sample} := by
  have hfar (other : UInt8) (hother : other ≠ sample) : 128 < |257 * (other.toNat : ℤ) - n| := by
    have hne : other.toNat ≠ sample.toNat := fun heq => hother (UInt8.toNat.inj heq)
    rw [abs_le] at h
    rw [lt_abs]
    omega
  ext other
  constructor
  · intro hother
    by_contra hne
    exact absurd (hother sample) (not_le.mpr (h.trans_lt (hfar other hne)))
  · rintro rfl another
    by_cases hanother : another = other
    · rw [hanother]
    · exact h.trans (hfar another hanother).le

/-- A value is narrowed to the sample nearest to its code. -/
theorem nearestSamples_saturated (x : ℚ) : nearestSamples (saturated x) = {narrow x} := by
  obtain ⟨hlow, hhigh⟩ := narrowCode_near (Scalar.round x).toCode16
  have hcode := toNat_roundedCode x
  refine nearestSamples_eq ?_
  rw [narrow, ← hcode, abs_le]
  omega

/-- Blocks of samples that are widened and narrowed are as they were. -/
theorem onBlock_widen_narrow (b : Block UInt8) :
    ((widenRows : RowOp UInt8 ℚ).andThen narrowRows).onBlock b = .ok b := by
  have hrow (row : List UInt8) : (row.map (widen : UInt8 → ℚ)).map narrow = row := by
    rw [List.map_map]
    exact (List.map_congr_left fun sample _ => narrow_widen sample).trans (List.map_id row)
  have hrun : ((widenRows : RowOp UInt8 ℚ).andThen narrowRows).run = id := funext hrow
  show (Except.ok { width := b.width, rows := b.rows.map _ } : Except Fault (Block UInt8)) = .ok b
  rw [hrun, List.map_id]

/-- Narrowing gives the one sample that stands nearest to the code of a value, and does so in words
that hold the product in full; greater values have no smaller samples, and samples that were
widened come back, one by one and in blocks of pixels. -/
theorem narrows_to_nearest :
    (∀ x : ℚ, nearestSamples (saturated x) = {narrow x})
      ∧ (∀ x : ℚ, ∃ code : UInt16, (code.toNat : ℤ) = saturated x
        ∧ narrow x = (scaledCode code >>> 24).toUInt8
        ∧ (scaledCode code).toNat = code.toNat * 65281 + 8388608
        ∧ code.toNat * 65281 + 8388608 < 2 ^ 64)
      ∧ Monotone (fun x : ℚ => (narrow x).toNat)
      ∧ (∀ sample : UInt8, widenWord sample.toNat = 257 * sample.toNat
        ∧ (widen sample : ℚ) = widenWord sample.toNat ∧ narrow (widen sample : ℚ) = sample)
      ∧ ∀ b : Block UInt8, ((widenRows : RowOp UInt8 ℚ).andThen narrowRows).onBlock b = .ok b := by
  refine ⟨nearestSamples_saturated, fun x => ?_, fun _ _ h =>
    UInt8.le_iff_toNat_le.mp (narrow_le_narrow h), fun sample => ?_,
    onBlock_widen_narrow⟩
  · have hproduct := toNat_scaledCode (Scalar.round x).toCode16
    exact ⟨_, toNat_roundedCode x, rfl, hproduct, hproduct ▸ UInt64.toNat_lt _⟩
  · refine ⟨widenWord_toNat sample, ?_, narrow_widen sample⟩
    rw [widenWord_toNat, widen_rat]
    push_cast
    rfl

end Recolor.Depth
