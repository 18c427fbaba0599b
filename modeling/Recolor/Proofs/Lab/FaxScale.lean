import Mathlib.Tactic.FieldSimp
import Mathlib.Tactic.Ring
import Recolor.Proofs.Lab.Arrays
import Recolor.Proofs.Lab.FaxCodes

/-!
# Fax codes as the integers below a scale

In each channel a colour has a place on the fax scale, a line that decoding reads backwards. Its
code is the integer below that place, saturated. So a code is at most that of a colour exactly if
what it stands for is at most the colour, and from that alone the order, the two ends and the way
back follow. Within the envelope nothing saturates, and a colour lies less than one step above what
its code stands for.
-/

set_option autoImplicit false

namespace Recolor

/-- The three places of a colour. -/
inductive Lab.Channel where
  | l
  | a
  | b
  deriving DecidableEq, Repr

/-- The value of a colour in a channel. -/
def Lab.get {α : Type} (c : Lab α) : Lab.Channel → α
  | .l => c.l
  | .a => c.a
  | .b => c.b

/-- A map over a colour maps the value in each channel. -/
theorem Lab.get_map {α β : Type} (f : α → β) (c : Lab α) (i : Lab.Channel) :
    (c.map f).get i = f (c.get i) := by
  cases i <;> rfl

/-- Colours with the same values in all channels are the same. -/
theorem Lab.ext_get {α : Type} {c d : Lab α} (h : ∀ i, c.get i = d.get i) : c = d := by
  cases c
  cases d
  exact Lab.mk.injEq .. ▸ ⟨h .l, h .a, h .b⟩

namespace Fax

/-- The values of a channel in the envelope. -/
def range : Lab.Channel → ℚ × ℚ
  | .l => (0, 100)
  | .a => (-85, 85)
  | .b => (-75, 125)

/-- The distance of the colours that two successive codes stand for. -/
def step : Lab.Channel → ℚ
  | .l => 100 / 65535
  | .a => 170 / 65535
  | .b => 200 / 65535

/-- The code of the neutral axis, and of black. -/
def zero : Lab.Channel → ℚ
  | .l => 0
  | .a => 32768
  | .b => 24576

/-- Successive codes stand for different colours. -/
theorem step_pos (i : Lab.Channel) : 0 < step i := by
  cases i <;> norm_num [step]

/-- On the scale of a channel one code is one step of the colour. -/
theorem get_scale (c : Lab ℚ) (i : Lab.Channel) :
    (scale c).get i = c.get i / step i + zero i := by
  cases i <;> norm_num [scale, Lab.get, step, zero] <;> ring

/-- In each channel decoding counts the steps from the neutral code. -/
theorem get_decode (v : Lab ℚ) (i : Lab.Channel) :
    (decode v).get i = (v.get i - zero i) * step i := by
  cases i <;> norm_num [decode, Lab.get, step, zero] <;> ring

/-- What is decoded lies on the scale where it was. -/
theorem scale_decode (v : Lab ℚ) : scale (decode v) = v := by
  refine Lab.ext_get fun i => ?_
  rw [get_scale, get_decode, mul_div_cancel_right₀ _ (step_pos i).ne', sub_add_cancel]

/-- In each channel encoding cuts the place on the scale off to a code. -/
theorem get_encode (c : Lab ℚ) (i : Lab.Channel) :
    (encode c).get i = (Whole.int ⌊(scale c).get i⌋).toCode16 := by
  rw [encode, Lab.get_map, Scalar.floor_rat]

/-- The colour that codes stand for. -/
def colorOf (codes : Lab UInt16) : Lab ℚ :=
  decode (codes.map Scalar.ofCode16)

/-- In each channel the colour of codes counts the steps from the neutral code. -/
theorem get_colorOf (v : Lab UInt16) (i : Lab.Channel) :
    (colorOf v).get i = (((v.get i).toNat : ℚ) - zero i) * step i := by
  rw [colorOf, get_decode, Lab.get_map, Scalar.ofCode16_rat]

/-- What codes stand for is at most a colour exactly if they are at most the colour's places on the
scale. -/
theorem get_colorOf_le_iff (v : Lab UInt16) (c : Lab ℚ) (i : Lab.Channel) :
    (colorOf v).get i ≤ c.get i ↔ ((v.get i).toNat : ℚ) ≤ (scale c).get i := by
  rw [get_colorOf, get_scale, ← le_div_iff₀ (step_pos i), sub_le_iff_le_add]

/-- The code of a colour is the greatest of the codes that stand for no more than the colour. -/
theorem le_get_encode_iff (c : Lab ℚ) {v : Lab UInt16} {i : Lab.Channel} (hv : 1 ≤ v.get i) :
    v.get i ≤ (encode c).get i ↔ (colorOf v).get i ≤ c.get i := by
  rw [get_encode, Whole.le_toCode16_iff hv, Int.le_floor, get_colorOf_le_iff, Int.cast_natCast]

/-- In each channel greater values do not get smaller codes. -/
theorem get_encode_mono {c d : Lab ℚ} {i : Lab.Channel} (h : c.get i ≤ d.get i) :
    (encode c).get i ≤ (encode d).get i := by
  have hcases : (encode c).get i = 0 ∨ 1 ≤ (encode c).get i := by grind
  rcases hcases with hzero | hone
  · rw [hzero]
    exact UInt16.zero_le
  · have hbelow := (le_get_encode_iff c hone).mp UInt16.le_rfl
    exact (le_get_encode_iff d hone).mpr (hbelow.trans h)

/-- The colour that codes stand for is encoded as these codes. -/
theorem encode_colorOf (v : Lab UInt16) : encode (colorOf v) = v := by
  refine Lab.ext_get fun i => ?_
  rw [colorOf, encode, scale_decode, Lab.get_map, Lab.get_map, Scalar.toCode16_floor_ofCode16]

/-- The scale of what lies in the envelope needs no saturation. -/
theorem get_scale_mem {c : Lab ℚ} {i : Lab.Channel}
    (hc : (range i).1 ≤ c.get i ∧ c.get i ≤ (range i).2) :
    0 ≤ (scale c).get i ∧ (scale c).get i < 65536 := by
  obtain ⟨hlow, hhigh⟩ := hc
  rw [get_scale]
  cases i <;> norm_num [range, Lab.get, step, zero] at hlow hhigh ⊢ <;> constructor <;> linarith

/-- Within the envelope a value lies less than one step above what its code stands for. -/
theorem sub_colorOf_encode_mem {c : Lab ℚ} {i : Lab.Channel}
    (hc : (range i).1 ≤ c.get i ∧ c.get i ≤ (range i).2) :
    0 ≤ c.get i - (colorOf (encode c)).get i ∧ c.get i - (colorOf (encode c)).get i < step i := by
  obtain ⟨hlow, hhigh⟩ := get_scale_mem hc
  have hcode : (((encode c).get i).toNat : ℚ) = ⌊(scale c).get i⌋ := by
    rw [get_encode]
    exact_mod_cast Scalar.toNat_toCode16_floor hlow hhigh
  -- the value is its place on the scale read backwards, so it is off by what was cut off
  have hdistance : c.get i - (colorOf (encode c)).get i
      = Int.fract ((scale c).get i) * step i := by
    have hstep := (step_pos i).ne'
    rw [get_colorOf, hcode, Int.fract, get_scale]
    field_simp
    ring
  rw [hdistance]
  constructor
  · exact mul_nonneg (Int.fract_nonneg _) (step_pos i).le
  · exact mul_lt_of_lt_one_left (step_pos i) (Int.fract_lt_one _)

/-- What encoding and decoding are to each other in a channel. -/
structure IsAdjoint (i : Lab.Channel) : Prop where
  le_iff : ∀ (c : Lab ℚ) (v : Lab UInt16), 1 ≤ v.get i →
    (v.get i ≤ (encode c).get i ↔ (colorOf v).get i ≤ c.get i)
  confined : ∀ c : Lab ℚ, (((encode c).get i).toNat : ℤ) = min (max ⌊(scale c).get i⌋ 0) 65535
  mono : ∀ c d : Lab ℚ, c.get i ≤ d.get i → (encode c).get i ≤ (encode d).get i
  lowest : ∀ (c : Lab ℚ) (v : Lab UInt16), v.get i = 1 → c.get i < (colorOf v).get i →
    (encode c).get i = 0
  highest : ∀ (c : Lab ℚ) (v : Lab UInt16), v.get i = 65535 → (colorOf v).get i ≤ c.get i →
    (encode c).get i = 65535
  encode_colorOf : ∀ v : Lab UInt16, (encode (colorOf v)).get i = v.get i
  near : ∀ c : Lab ℚ, (range i).1 ≤ c.get i ∧ c.get i ≤ (range i).2 →
    0 ≤ c.get i - (colorOf (encode c)).get i ∧ c.get i - (colorOf (encode c)).get i < step i

/-- In each channel encoding is adjoint to decoding. -/
theorem isAdjoint (i : Lab.Channel) : IsAdjoint i where
  le_iff c _ hv := le_get_encode_iff c hv
  confined c := by rw [get_encode, Whole.toNat_toCode16, Whole.clamp_int]
  mono _ _ h := get_encode_mono h
  lowest c v hv h := by
    have hnot : ¬1 ≤ (encode c).get i := by
      rw [← hv, le_get_encode_iff c (by rw [hv]; decide)]
      exact not_le.mpr h
    grind
  highest c v hv h := by
    have hle : 65535 ≤ (encode c).get i := by
      rw [← hv, le_get_encode_iff c (by rw [hv]; decide)]
      exact h
    grind
  encode_colorOf v := by rw [Fax.encode_colorOf]
  near _ hc := sub_colorOf_encode_mem hc

/-- Encoding and decoding are adjoint in every channel, and are the same whether colours come alone
or in an array. -/
theorem isAdjoint_alone_and_in_arrays :
    (∀ i, IsAdjoint i)
      ∧ (∀ c : Lab ℚ, encodeColor c = .ok (encode c))
      ∧ (∀ colors : Nested (Lab ℚ), colors.CanHoldRows →
        encodeRows.onNested (colors.expand Lab.toRow)
          = .ok (colors.expand fun c => (encode c).toRow))
      ∧ ∀ codes : Nested (Lab UInt16), codes.CanHoldRows →
        decodeRows.onNested (codes.expand fun v => (v.map Scalar.ofCode16).toRow)
          = .ok (codes.expand fun v => (colorOf v).toRow) := by
  refine ⟨isAdjoint, fun _ => rfl, fun _ hcolors => Lab.readRow_onNested encode hcolors,
    fun _ hcodes => ?_⟩
  exact RowOp.onNested_expand decodeRows (k := 3) rfl (fun _ => rfl) hcodes

end Fax

end Recolor
