import Mathlib.Tactic.Ring
import Recolor.Lab.Fax
import Recolor.Proofs.Lab.Envelope

/-!
# Fax codes and connection space codes

Between the two encodings each channel is a line with a slope of its own: lightness has the same
codes in both, the axes are stretched by 3/2 and by 51/40 on the way to fax codes. Towards the
connection space the place on the line is rounded to a code, towards fax codes it is cut off, and
in neither direction does a code of the domain saturate as long as its colour lies in the envelope.
-/

set_option autoImplicit false

namespace Recolor

/-- The three values lie in the domain of 16-bit codes. -/
structure Lab.InDomain (v : Lab ℚ) : Prop where
  l : 0 ≤ v.l ∧ v.l ≤ 65535
  a : 0 ≤ v.a ∧ v.a ≤ 65535
  b : 0 ≤ v.b ∧ v.b ≤ 65535

/-- The places of a colour on the scales of the 16-bit codes, before they are rounded. -/
def Connection.exact16 (c : Lab ℚ) : Lab ℚ where
  l := 655.35 * c.l
  a := 257 * (c.a + 128)
  b := 257 * (c.b + 128)

/-- A colour is rounded to the nearest codes. Confining it to the range of the encoding before
leaves nothing out that saturating would keep: the lower ends have the code 0, and the upper ends
lie at the last code or past it. -/
theorem Connection.encode16_eq (c : Lab ℚ) :
    encode16 c = (exact16 c).map fun x => (Scalar.round x).toCode16 := by
  have hlowest : (Scalar.ofInt (-128) : ℚ) = -128 := by rw [Scalar.ofInt_rat]; norm_num
  have hlightness : Scalar.clip c.l 0.0 100.0 * 655.35 = min (max (655.35 * c.l) 0) 65535 := by
    have hline := Scalar.mul_clip_add (by norm_num : (0 : ℚ) ≤ 655.35) c.l 0.0 100.0 0
    norm_num at hline ⊢
    linarith
  have haxis (x : ℚ) : (Scalar.clip x (Scalar.ofInt (-128)) 127.9961 + 128.0) * 257.0
      = min (max (257 * (x + 128)) 0) 65790.9977 := by
    have hline := Scalar.mul_clip_add (by norm_num : (0 : ℚ) ≤ 257) x (-128) 127.9961 128
    rw [hlowest]
    norm_num at hline ⊢
    linarith
  have hcode (x : ℚ) {hi : ℚ} (hhi : 65535 ≤ hi) :
      (Scalar.round (min (max x 0) hi)).toCode16 = (Scalar.round x).toCode16 := by
    rw [Whole.toCode16, Whole.toCode16,
      Scalar.clamp_round_confine x (by decide) (by exact_mod_cast hhi)]
  simp only [encode16, exact16, hlightness, haxis, Lab.map, Lab.mk.injEq]
  exact ⟨hcode _ le_rfl, hcode _ (by norm_num), hcode _ (by norm_num)⟩

namespace Fax

/-- On the scales of the connection space decoded fax codes lie on three lines. -/
theorem exact16_decode (v : Lab ℚ) :
    Connection.exact16 (decode v)
      = ⟨v.l, 2 / 3 * v.a + 33152 / 3, 40 / 51 * v.b + 231552 / 17⟩ := by
  simp only [Connection.exact16, decode, Lab.mk.injEq]
  refine ⟨?_, ?_, ?_⟩ <;> norm_num <;> ring

/-- On the scales of the fax codes decoded connection space codes lie on three lines. -/
theorem scale_decode16 (c : Lab ℚ) :
    scale (Connection.decode16 c)
      = ⟨c.l, 3 / 2 * c.a + -16576, 51 / 40 * c.b + -86832 / 5⟩ := by
  simp only [scale, Connection.decode16, Lab.mk.injEq]
  refine ⟨?_, ?_, ?_⟩ <;> norm_num <;> ring

/-- Each connection space code depends on the fax code of the same channel alone. -/
theorem toConnection_congr {v w : Lab ℚ} :
    (v.l = w.l → (toConnection v).l = (toConnection w).l)
      ∧ (v.a = w.a → (toConnection v).a = (toConnection w).a)
      ∧ (v.b = w.b → (toConnection v).b = (toConnection w).b) := by
  refine ⟨fun h => ?_, fun h => ?_, fun h => ?_⟩ <;>
    simp only [toConnection, Connection.encode16, decode, h]

/-- Fax codes go to the nearest connection space codes. -/
theorem toConnection_eq (v : Lab ℚ) :
    toConnection v
      = (Connection.exact16 (decode v)).map fun x => (Scalar.round x).toCode16 := by
  rw [toConnection, Connection.encode16_eq]

/-- A code of lightness is the same in both encodings. -/
theorem l_toConnection {v : Lab ℚ} {code : UInt16} (hcode : v.l = Scalar.ofCode16 code) :
    (toConnection v).l = code := by
  rw [toConnection_eq, exact16_decode]
  simp only [Lab.map, hcode, Scalar.toCode16_round_ofCode16]

/-- The codes of the axes are half a code at most from their lines. -/
theorem abs_toConnection_sub_le {v : Lab ℚ} (hv : v.InDomain) :
    |Scalar.ofCode16 (toConnection v).a - (2 / 3 * v.a + 33152 / 3)| ≤ 1 / 2
      ∧ |Scalar.ofCode16 (toConnection v).b - (40 / 51 * v.b + 231552 / 17)| ≤ 1 / 2 := by
  obtain ⟨ha0, ha1⟩ := hv.a
  obtain ⟨hb0, hb1⟩ := hv.b
  rw [toConnection_eq, exact16_decode]
  constructor
  · exact Scalar.abs_ofCode16_round_sub_le (by linarith) (by linarith)
  · exact Scalar.abs_ofCode16_round_sub_le (by linarith) (by linarith)

/-- The scales of both axes within the envelope fit the fax codes. -/
theorem scale_mem {c : Lab ℚ} (h : Envelope.fax.Contains c) :
    (0 ≤ (scale c).a ∧ (scale c).a < 65536) ∧ (0 ≤ (scale c).b ∧ (scale c).b < 65536) := by
  obtain ⟨haMin, haMax, hbMin, hbMax⟩ := h
  simp only [Envelope.fax, Scalar.ofInt_rat] at haMin haMax hbMin hbMax
  norm_num at haMin haMax hbMin hbMax
  -- the faces of the rectangle lie at 0.5 and 65535.5 on the first scale, at 0.375 and 65535.375
  -- on the second
  have ha : (scale c).a = 771 / 2 * c.a + 32768 := by norm_num [scale]; ring
  have hb : (scale c).b = 13107 / 40 * c.b + 24576 := by norm_num [scale]; ring
  rw [ha, hb]
  refine ⟨⟨?_, ?_⟩, ?_, ?_⟩ <;> linarith

/-- Codes of the domain have a lightness that the envelope allows. -/
theorem l_decode16_mem {c : Lab ℚ} (hc : c.InDomain) :
    0 ≤ (Connection.decode16 c).l ∧ (Connection.decode16 c).l ≤ Envelope.fax.lMax := by
  obtain ⟨h0, h1⟩ := hc.l
  have hl : (Connection.decode16 c).l = 20 / 13107 * c.l := by
    norm_num [Connection.decode16]
    ring
  rw [hl]
  norm_num [Envelope.fax]
  constructor <;> linarith

/-- A code of lightness is the same in both encodings, whatever becomes of the axes. -/
theorem l_ofConnection {c : Lab ℚ} (hc : c.InDomain) {code : UInt16}
    (hcode : c.l = Scalar.ofCode16 code) : (ofConnection c).l = code := by
  obtain ⟨h0, h1⟩ := l_decode16_mem hc
  have hscale : (scale (Connection.decode16 c)).l = Scalar.ofCode16 code := by
    rw [scale_decode16, hcode]
  -- the scale of lightness reads nothing else of the colour
  have hlightness : (scale (Envelope.fax.desaturate (Connection.decode16 c))).l
      = (scale (Connection.decode16 c)).l := by
    simp only [scale, Envelope.l_desaturate h0 h1]
  simp only [ofConnection, encode, Lab.map, hlightness, hscale, Scalar.toCode16_floor_ofCode16]

/-- In the envelope the codes of the axes are cut off, so they are half a code at most from what
is half a code below their lines. -/
theorem abs_ofConnection_sub_le {c : Lab ℚ} (hc : c.InDomain)
    (h : Envelope.fax.Contains (Connection.decode16 c)) :
    |Scalar.ofCode16 (ofConnection c).a - (3 / 2 * c.a + (-16576 - 1 / 2))| ≤ 1 / 2
      ∧ |Scalar.ofCode16 (ofConnection c).b - (51 / 40 * c.b + (-86832 / 5 - 1 / 2))|
        ≤ 1 / 2 := by
  obtain ⟨h0, h1⟩ := l_decode16_mem hc
  obtain ⟨⟨ha0, ha1⟩, hb0, hb1⟩ := scale_mem h
  rw [scale_decode16] at ha0 ha1 hb0 hb1
  rw [ofConnection, Envelope.desaturate_of_contains h0 h1 h, encode, scale_decode16,
    ← add_sub_assoc, ← add_sub_assoc]
  constructor
  · exact Scalar.abs_ofCode16_floor_sub_le ha0 ha1
  · exact Scalar.abs_ofCode16_floor_sub_le hb0 hb1

end Fax

end Recolor
