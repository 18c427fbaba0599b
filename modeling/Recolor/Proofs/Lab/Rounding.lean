import Mathlib.Order.Bounds.Basic
import Recolor.Proofs.Lab.Arrays
import Recolor.Proofs.Lab.FaxScale

/-!
# Codes of the connection space as nearest integers

Colours are encoded twice over, with 16 bits and with 8. In both encodings each channel has a scale
of its own, a line that decoding reads backwards, and the code of a colour is the integer nearest to
its place on the scale, of two that are equally near the greater one, among the integers that are
codes. From that follows what encoding and decoding are to each other.
-/

set_option autoImplicit false

namespace Recolor

/-- The integers from 0 to a greatest code that no other such integer is nearer to a value than. -/
def nearestCodes (top : ℤ) (x : ℚ) : Set ℤ :=
  {n | (0 ≤ n ∧ n ≤ top) ∧ ∀ m : ℤ, 0 ≤ m → m ≤ top → |(n : ℚ) - x| ≤ |(m : ℚ) - x|}

/-- A value is rounded to the nearest code, of two that are equally near to the greater one. -/
theorem isGreatest_clamp_round (x : ℚ) {top : ℤ} (htop : 0 ≤ top) :
    IsGreatest (nearestCodes top x) ((Scalar.round x).clamp 0 top) := by
  rw [Scalar.round_rat, Whole.clamp_int]
  have hlow : (⌊x + 1 / 2⌋ : ℚ) ≤ x + 1 / 2 := Int.floor_le _
  have hhigh : x + 1 / 2 < ⌊x + 1 / 2⌋ + 1 := Int.lt_floor_add_one _
  generalize ⌊x + 1 / 2⌋ = whole at hlow hhigh
  obtain ⟨n, hn⟩ : ∃ n, n = min (max whole 0) top := ⟨_, rfl⟩
  rw [← hn]
  -- a smaller code lies below the place by half a step at least, and a greater one above it by more
  have hbelow (m : ℤ) (hm0 : 0 ≤ m) (hm : m < n) : |(n : ℚ) - x| ≤ |(m : ℚ) - x| := by
    have hcut : (n : ℚ) ≤ whole := by exact_mod_cast (by omega : n ≤ whole)
    have hstep : (m : ℚ) + 1 ≤ n := by exact_mod_cast hm
    rw [abs_of_neg (by linarith : (m : ℚ) - x < 0), abs_le]
    constructor <;> linarith
  have habove (m : ℤ) (hm1 : m ≤ top) (hm : n < m) : |(n : ℚ) - x| < |(m : ℚ) - x| := by
    have hcut : (whole : ℚ) ≤ n := by exact_mod_cast (by omega : whole ≤ n)
    have hstep : (n : ℚ) + 1 ≤ m := by exact_mod_cast hm
    rw [abs_of_pos (by linarith : 0 < (m : ℚ) - x), abs_lt]
    constructor <;> linarith
  constructor
  · refine ⟨by omega, fun m hm0 hm1 => ?_⟩
    rcases lt_trichotomy m n with hm | rfl | hm
    · exact hbelow m hm0 hm
    · exact le_rfl
    · exact (habove m hm1 hm).le
  · rintro m ⟨⟨-, hm1⟩, hnearest⟩
    by_contra hm
    exact absurd (hnearest n (by omega) (by omega)) (not_le.mpr (habove m hm1 (by omega)))

namespace Connection

/-- The places of a colour on the scales of the 8-bit samples, before they are rounded. -/
def exact8 (c : Lab ℚ) : Lab ℚ where
  l := 2.55 * c.l
  a := c.a + 128
  b := c.b + 128

/-- The colour that 16-bit codes stand for. -/
def colorOf16 (codes : Lab UInt16) : Lab ℚ :=
  decode16 (codes.map Scalar.ofCode16)

/-- The colour that 8-bit samples stand for. -/
def colorOf8 (samples : Lab UInt8) : Lab ℚ :=
  decode8 (samples.map Scalar.ofSample8)

/-- A colour is encoded in 8 bits by rounding its places on the scales. -/
theorem encode8_eq (c : Lab ℚ) :
    encode8 c = (exact8 c).map fun x => (Scalar.round x).toSample8 := by
  have hlightness : c.l * 255.0 / 100.0 = 2.55 * c.l := by norm_num; ring
  have hshift : (128.0 : ℚ) = 128 := by norm_num
  simp only [encode8, exact8, Lab.map, hlightness, hshift]

/-- What 16-bit codes are decoded to lies on the scales where the codes are. -/
theorem exact16_decode16 (v : Lab ℚ) : exact16 (decode16 v) = v := by
  cases v
  simp only [exact16, decode16, Lab.mk.injEq]
  refine ⟨?_, ?_, ?_⟩ <;> norm_num <;> ring

/-- What 8-bit samples are decoded to lies on the scales where the samples are. -/
theorem exact8_decode8 (v : Lab ℚ) : exact8 (decode8 v) = v := by
  cases v
  simp only [exact8, decode8, Lab.mk.injEq]
  refine ⟨?_, ?_, ?_⟩
  · norm_num
    ring
  · norm_num
  · norm_num

/-- The colour that 16-bit codes stand for is encoded as these codes. -/
theorem encode16_colorOf16 (v : Lab UInt16) : encode16 (colorOf16 v) = v := by
  rw [encode16_eq, colorOf16, exact16_decode16]
  simp only [Lab.map, Scalar.toCode16_round_ofCode16]

/-- The colour that 8-bit samples stand for is encoded as these samples. -/
theorem encode8_colorOf8 (v : Lab UInt8) : encode8 (colorOf8 v) = v := by
  rw [encode8_eq, colorOf8, exact8_decode8]
  simp only [Lab.map, Scalar.toSample8_round_ofSample8]

/-- What encoding and decoding with the codes up to a greatest one are to each other. -/
structure IsRounding {κ : Type} (top : ℤ) (number : κ → ℕ) (scale : Lab ℚ → Lab ℚ)
    (encode : Lab ℚ → Lab κ) (colorOf : Lab κ → Lab ℚ) : Prop where
  nearest : ∀ c i, IsGreatest (nearestCodes top ((scale c).get i)) (number ((encode c).get i))
  encode_colorOf : ∀ v, encode (colorOf v) = v
  idempotent : ∀ c, colorOf (encode (colorOf (encode c))) = colorOf (encode c)

/-- Encoding in 16 bits rounds to the nearest codes. -/
theorem isRounding16 : IsRounding 65535 UInt16.toNat exact16 encode16 colorOf16 where
  nearest c i := by
    rw [encode16_eq, Lab.get_map, Whole.toNat_toCode16]
    exact isGreatest_clamp_round _ (by decide)
  encode_colorOf := encode16_colorOf16
  idempotent c := by rw [encode16_colorOf16]

/-- Encoding in 8 bits rounds to the nearest samples. -/
theorem isRounding8 : IsRounding 255 UInt8.toNat exact8 encode8 colorOf8 where
  nearest c i := by
    rw [encode8_eq, Lab.get_map, Whole.toNat_toSample8]
    exact isGreatest_clamp_round _ (by decide)
  encode_colorOf := encode8_colorOf8
  idempotent c := by rw [encode8_colorOf8]

/-- Both encodings round to the nearest codes and are undone by decoding, whether colours come
alone or in an array. -/
theorem isRounding_alone_and_in_arrays :
    IsRounding 65535 UInt16.toNat exact16 encode16 colorOf16
      ∧ IsRounding 255 UInt8.toNat exact8 encode8 colorOf8
      ∧ (∀ colors : Nested (Lab ℚ), colors.CanHoldRows →
        encodeRows16.onNested (colors.expand Lab.toRow)
            = .ok (colors.expand fun c => (encode16 c).toRow)
          ∧ encodeRows8.onNested (colors.expand Lab.toRow)
            = .ok (colors.expand fun c => (encode8 c).toRow))
      ∧ (∀ codes : Nested (Lab UInt16), codes.CanHoldRows →
        decodeRows16.onNested (codes.expand fun v => (v.map Scalar.ofCode16).toRow)
          = .ok (codes.expand fun v => (colorOf16 v).toRow))
      ∧ ∀ samples : Nested (Lab UInt8), samples.CanHoldRows →
        decodeRows8.onNested (samples.expand fun v => (v.map Scalar.ofSample8).toRow)
          = .ok (samples.expand fun v => (colorOf8 v).toRow) := by
  refine ⟨isRounding16, isRounding8, fun _ hcolors => ⟨?_, ?_⟩, fun _ hcodes => ?_,
    fun _ hsamples => ?_⟩
  · exact Lab.readRow_onNested encode16 hcolors
  · exact Lab.readRow_onNested encode8 hcolors
  · exact RowOp.onNested_expand decodeRows16 (k := 3) rfl (fun _ => rfl) hcodes
  · exact RowOp.onNested_expand decodeRows8 (k := 3) rfl (fun _ => rfl) hsamples

/-- A colour too light, past the last code of the first axis but not past the range of the encoding,
and below the second axis: all three codes are at their ends. -/
theorem isRounding_saturated : (Nested.leaf (⟨120, 127.5, -300⟩ : Lab ℚ)).CanHoldRows
    ∧ encodeRows16.onNested (Nested.ofRow [(120 : ℚ), 127.5, -300])
      = .ok (Nested.ofRow [65535, 65535, 0]) := by
  have hcolors : (Nested.leaf (⟨120, 127.5, -300⟩ : Lab ℚ)).CanHoldRows :=
    ⟨[], rfl, by simp, by decide⟩
  have hcodes : encode16 (⟨120, 127.5, -300⟩ : Lab ℚ) = ⟨65535, 65535, 0⟩ := by decide +kernel
  refine ⟨hcolors, ?_⟩
  have harray := (isRounding_alone_and_in_arrays.2.2.1 _ hcolors).1
  rw [Nested.expand, Nested.expand, hcodes] at harray
  exact harray

end Connection

end Recolor
