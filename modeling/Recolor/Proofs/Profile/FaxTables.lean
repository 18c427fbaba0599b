import Recolor.Profile.Virtual
import Recolor.Proofs.Lab.FaxCodes
import Recolor.Proofs.Table.Sampling

/-!
# How exact the virtual fax profiles are

Both fax tables are sampled from maps that are lines in each channel, up to the last code. With a
table of any size the way from fax codes to the connection space misses the exact codes by less
than one. The way to fax codes and back misses a colour by little more than two codes, provided
that the colours at the nodes around it lie in the envelope.
-/

set_option autoImplicit false

namespace Recolor.Virtual

open Grid (place nodeValue nodeCode alongAxes IsCorner)

variable {points : ℕ} {f : Lab ℚ → Lab UInt16}

/-- The colour that the indices of a node stand for. -/
def nodeColor (points : ℕ) (index : List ℤ) : Lab ℚ where
  l := nodeCode points (index.getD 0 0)
  a := nodeCode points (index.getD 1 0)
  b := nodeCode points (index.getD 2 0)

/-- A code of a colour, interpolated between the nodes around it. -/
def blendedCode (points : ℕ) (f : Lab ℚ → UInt16) (v : Lab ℚ) : ℚ :=
  alongAxes (v.toRow.map (place points)) fun index => Scalar.ofCode16 (f (nodeColor points index))

/-- All codes of a colour, interpolated between the nodes around it. -/
def blended (points : ℕ) (f : Lab ℚ → Lab UInt16) (v : Lab ℚ) : Lab ℚ where
  l := blendedCode points (fun c => (f c).l) v
  a := blendedCode points (fun c => (f c).a) v
  b := blendedCode points (fun c => (f c).b) v

/-- The colour of one value in all three places. -/
def uniform (x : ℚ) : Lab ℚ :=
  ⟨x, x, x⟩

/-- A code of the colours of one value, interpolated between the nodes around that value. -/
def channel (points : ℕ) (f : Lab ℚ → UInt16) (x : ℚ) : ℚ :=
  (place points x).between fun i => Scalar.ofCode16 (f (uniform (nodeCode points i)))

/-- The codes at nodes lie in the domain. -/
theorem nodeCode_mem (points : ℕ) (i : ℤ) : 0 ≤ nodeCode points i ∧ nodeCode points i ≤ 65535 :=
  ⟨Scalar.ofCode16_nonneg _, Scalar.ofCode16_le _⟩

/-- The colours at nodes lie in the domain. -/
theorem inDomain_nodeColor (points : ℕ) (index : List ℤ) : (nodeColor points index).InDomain :=
  ⟨nodeCode_mem _ _, nodeCode_mem _ _, nodeCode_mem _ _⟩

/-- The profile takes one colour of 16-bit values to another. -/
def Maps (p : SampledProfile) (v w : Lab ℚ) : Prop :=
  (p.evaluate16 : RowOp ℚ ℚ).onNested (Nested.ofRow v.toRow) = .ok (Nested.ofRow w.toRow)

/-- A profile without curves whose table is sampled from a map of colours blends its codes. -/
theorem maps_blended {p : SampledProfile} (hin : p.inputCurves = none)
    (hout : p.outputCurves = none)
    (hp : p.table.IsSampled (Lab.readRow fun c => (f c).toRow) points 3 3) (hpoints : 2 ≤ points)
    (v : Lab ℚ) : Maps p v (blended points f v) := by
  have hlength : v.toRow.length = 3 := rfl
  have hcurves (row : List ℚ) : (Curve.applyRows? none : RowOp ℚ ℚ).run row = row := by
    cases row <;> rfl
  have hkept (n : ℕ) : (Curve.applyRows? none : RowOp ℚ ℚ).width n = .ok n := rfl
  have haxes : p.table.points ≠ 0 := by
    rw [hp.points_eq]
    omega
  have htable : (p.table.evaluateRows : RowOp ℚ ℚ).width 3 = .ok 3 := by
    simp [Grid.evaluateRows, RowOp.atLeast, haxes, hp.inputs_eq, hp.outputs_eq]
  have hwidth : (p.evaluate16 : RowOp ℚ ℚ).width v.toRow.length = .ok 3 := by
    simp only [SampledProfile.evaluate16, RowOp.andThen, hin, hout, hkept, hlength, htable]
  have hrun : (p.evaluate16 : RowOp ℚ ℚ).run v.toRow = (blended points f v).toRow := by
    simp only [SampledProfile.evaluate16, RowOp.andThen, hin, hout, hcurves]
    exact (hp.evaluate_eq hpoints hlength).trans rfl
  rw [Maps, RowOp.onNested_ofRow hwidth, hrun]

/-- What is interpolated between codes lies in the domain. -/
theorem blendedCode_mem (hpoints : 2 ≤ points) (f : Lab ℚ → UInt16) (v : Lab ℚ) :
    0 ≤ blendedCode points f v ∧ blendedCode points f v ≤ 65535 := by
  have hmiddle : |blendedCode points f v - 65535 / 2| ≤ 65535 / 2 := by
    refine Grid.abs_alongAxes_sub_const_le hpoints fun index _ => ?_
    have h0 := Scalar.ofCode16_nonneg (f (nodeColor points index))
    have h1 := Scalar.ofCode16_le (f (nodeColor points index))
    rw [abs_le]
    constructor <;> linarith
  obtain ⟨hlow, hhigh⟩ := abs_le.mp hmiddle
  constructor <;> linarith

/-- A colour of interpolated codes lies in the domain. -/
theorem inDomain_blended (hpoints : 2 ≤ points) (f : Lab ℚ → Lab UInt16) (v : Lab ℚ) :
    (blended points f v).InDomain :=
  ⟨blendedCode_mem hpoints (fun c => (f c).l) v, blendedCode_mem hpoints (fun c => (f c).a) v,
    blendedCode_mem hpoints (fun c => (f c).b) v⟩

/-- An output that is near to a rising line in one channel at all nodes around a colour is near to
the line at the colour. -/
theorem abs_blendedCode_sub_line_le (hpoints : 2 ≤ points) {f : Lab ℚ → UInt16} {v : Lab ℚ}
    (hv : v.InDomain) {d : ℕ} (hd : d < v.toRow.length) {slope shift ε : ℚ} (hslope : 0 ≤ slope)
    (hf : ∀ index, IsCorner (v.toRow.map (place points)) index →
      |Scalar.ofCode16 (f (nodeColor points index))
        - (slope * nodeCode points (index.getD d 0) + shift)| ≤ ε) :
    |blendedCode points f v - (slope * v.toRow[d] + shift)| ≤ ε + slope / 2 := by
  have hx : 0 ≤ v.toRow[d] ∧ v.toRow[d] ≤ 65535 := by
    obtain rfl | rfl | rfl : d = 0 ∨ d = 1 ∨ d = 2 := by
      have hlength : v.toRow.length = 3 := rfl
      omega
    · exact hv.l
    · exact hv.a
    · exact hv.b
  exact Grid.abs_alongAxes_sub_line_le hpoints hd hx hslope hf

/-- Lightness that keeps its code at every node only misses by the displacement of the nodes. -/
theorem abs_blendedCode_sub_l_le (hpoints : 2 ≤ points) {f : Lab ℚ → UInt16} {v : Lab ℚ}
    (hv : v.InDomain)
    (hf : ∀ index, Scalar.ofCode16 (f (nodeColor points index)) = (nodeColor points index).l) :
    |blendedCode points f v - v.l| ≤ 1 / 2 := by
  have hline : |blendedCode points f v - (1 * v.l + 0)| ≤ 0 + 1 / 2 := by
    refine abs_blendedCode_sub_line_le (d := 0) hpoints hv (Nat.succ_pos 2) zero_le_one ?_
    intro index _
    rw [hf index, one_mul, add_zero, abs_nonpos_iff]
    exact sub_self _
  rwa [one_mul, add_zero, zero_add] at hline

section Building

variable (α : Type) [Scalar α]

/-- The profile that decodes fax colours can be sampled at any number of nodes. -/
theorem exists_faxDecoder (hpoints : 2 ≤ points) :
    ∃ table, faxDecoder α points = .ok (decodeProfile table)
      ∧ table.IsSampled (Fax.rowsToConnection : RowOp α UInt16) points 3 3 := by
  obtain ⟨table, htable, hsampled⟩ : ∃ table, faxDecodeTable α points = .ok table
      ∧ table.IsSampled (Fax.rowsToConnection : RowOp α UInt16) points 3 3 :=
    Grid.exists_isSampled (Lab.isLawful_readRow fun _ => rfl) hpoints (by decide) rfl
  exact ⟨table, by rw [faxDecoder, htable], hsampled⟩

/-- The profile that encodes fax colours can be sampled at any number of nodes. -/
theorem exists_faxEncoder (hpoints : 2 ≤ points) :
    ∃ table, faxEncoder α points = .ok (encodeProfile table)
      ∧ table.IsSampled (Fax.rowsOfConnection : RowOp α UInt16) points 3 3 := by
  obtain ⟨table, htable, hsampled⟩ : ∃ table, faxEncodeTable α points = .ok table
      ∧ table.IsSampled (Fax.rowsOfConnection : RowOp α UInt16) points 3 3 :=
    Grid.exists_isSampled (Lab.isLawful_readRow fun _ => rfl) hpoints (by decide) rfl
  exact ⟨table, by rw [faxEncoder, htable], hsampled⟩

/-- Where there is memory, the profile that decodes fax colours is sampled without further ado. -/
theorem faxDecode_of_room (hroom : Grid.checkRoom points 3 = .ok ()) :
    faxDecode points α = faxDecoder α points := by
  rw [faxDecode, hroom]

/-- Where there is memory, the profile that encodes fax colours is sampled without further ado. -/
theorem faxEncode_of_room (hroom : Grid.checkRoom points 3 = .ok ()) :
    faxEncode points α = faxEncoder α points := by
  rw [faxEncode, hroom]

end Building

section Decoding

/-- Decoded codes are as near to their lines as rounding and the displacement of the nodes let
them be. -/
theorem abs_blended_toConnection_sub_le (hpoints : 2 ≤ points) {v : Lab ℚ} (hv : v.InDomain) :
    |blendedCode points (fun c => (Fax.toConnection c).l) v - v.l| ≤ 1 / 2
      ∧ |blendedCode points (fun c => (Fax.toConnection c).a) v - (2 / 3 * v.a + 33152 / 3)|
        ≤ 1 / 2 + 2 / 3 / 2
      ∧ |blendedCode points (fun c => (Fax.toConnection c).b) v - (40 / 51 * v.b + 231552 / 17)|
        ≤ 1 / 2 + 40 / 51 / 2 := by
  have hdomain := inDomain_nodeColor points
  have hlength : v.toRow.length = 3 := rfl
  refine ⟨?_, ?_, ?_⟩
  · exact abs_blendedCode_sub_l_le hpoints hv fun index =>
      congrArg Scalar.ofCode16 (Fax.l_toConnection (v := nodeColor points index) rfl)
  · refine abs_blendedCode_sub_line_le (d := 1) hpoints hv (by omega) (by norm_num) ?_
    intro index _
    exact (Fax.abs_toConnection_sub_le (hdomain index)).1
  · refine abs_blendedCode_sub_line_le (d := 2) hpoints hv (by omega) (by norm_num) ?_
    intro index _
    exact (Fax.abs_toConnection_sub_le (hdomain index)).2

/-- A code that only reads one coordinate of a node is interpolated along that axis alone. -/
theorem blendedCode_eq_channel {f : Lab ℚ → UInt16} {v : Lab ℚ} {d : ℕ} (hd : d < v.toRow.length)
    (hf : ∀ index, f (nodeColor points index) = f (uniform (nodeCode points (index.getD d 0)))) :
    blendedCode points f v = channel points f v.toRow[d] := by
  have hcode : (fun index => (Scalar.ofCode16 (f (nodeColor points index)) : ℚ))
      = fun index => Scalar.ofCode16 (f (uniform (nodeCode points (index.getD d 0)))) := by
    funext index
    rw [hf index]
  rw [blendedCode, hcode]
  exact Grid.alongAxes_coordinate hd fun i => Scalar.ofCode16 (f (uniform (nodeCode points i)))

/-- No channel of the map that is sampled reads another one. -/
theorem blended_toConnection (points : ℕ) (v : Lab ℚ) :
    blendedCode points (fun c => (Fax.toConnection c).l) v
        = channel points (fun c => (Fax.toConnection c).l) v.l
      ∧ blendedCode points (fun c => (Fax.toConnection c).a) v
        = channel points (fun c => (Fax.toConnection c).a) v.a
      ∧ blendedCode points (fun c => (Fax.toConnection c).b) v
        = channel points (fun c => (Fax.toConnection c).b) v.b := by
  have hlength : v.toRow.length = 3 := rfl
  refine ⟨?_, ?_, ?_⟩
  · exact blendedCode_eq_channel (d := 0) (by omega) fun _ => Fax.toConnection_congr.1 rfl
  · exact blendedCode_eq_channel (d := 1) (by omega) fun _ => Fax.toConnection_congr.2.1 rfl
  · exact blendedCode_eq_channel (d := 2) (by omega) fun _ => Fax.toConnection_congr.2.2 rfl

/-- The profile that decodes fax colours, sampled at any number of nodes, treats each channel by
itself, and gives codes of the connection space that miss the exact ones by less than one. -/
theorem exists_faxDecode_near (hpoints : 2 ≤ points) :
    ∃ p, faxDecoder ℚ points = .ok p
      ∧ (Grid.checkRoom points 3 = .ok () → faxDecode points ℚ = .ok p)
      ∧ ∃ l a b : ℚ → ℚ, ∀ v : Lab ℚ,
        Maps p v ⟨l v.l, a v.a, b v.b⟩ ∧
        (v.InDomain →
          |l v.l - (Connection.exact16 (Fax.decode v)).l| < 1
            ∧ |a v.a - (Connection.exact16 (Fax.decode v)).a| < 1
            ∧ |b v.b - (Connection.exact16 (Fax.decode v)).b| < 1) := by
  obtain ⟨table, hdecoder, hsampled⟩ := exists_faxDecoder ℚ hpoints
  refine ⟨decodeProfile table, hdecoder, fun hroom => (faxDecode_of_room ℚ hroom).trans hdecoder,
    channel points fun c => (Fax.toConnection c).l, channel points fun c => (Fax.toConnection c).a,
    channel points fun c => (Fax.toConnection c).b, fun v => ?_⟩
  obtain ⟨hl, ha, hb⟩ := blended_toConnection points v
  have hmaps := maps_blended (p := decodeProfile table) rfl rfl hsampled hpoints v
  rw [blended, hl, ha, hb] at hmaps
  refine ⟨hmaps, fun hv => ?_⟩
  obtain ⟨hnearl, hneara, hnearb⟩ := abs_blended_toConnection_sub_le hpoints hv
  rw [← hl, ← ha, ← hb, Fax.exact16_decode]
  refine ⟨hnearl.trans_lt ?_, hneara.trans_lt ?_, hnearb.trans_lt ?_⟩ <;> norm_num

/-- With two nodes only, at a colour off the nodes. -/
theorem exists_faxDecode_near_two :
    ∃ p, faxDecode 2 ℚ = .ok p ∧
      ∃ w : Lab ℚ, Maps p ⟨12345, 40000, 50001 / 2⟩ w
        ∧ |w.l - 12345| < 1 ∧ |w.a - 113152 / 3| < 1 ∧ |w.b - 564892 / 17| < 1 := by
  obtain ⟨p, -, hp, l, a, b, hchannels⟩ := exists_faxDecode_near (le_refl 2)
  obtain ⟨hmaps, hnear⟩ := hchannels ⟨12345, 40000, 50001 / 2⟩
  obtain ⟨hl, ha, hb⟩ := hnear ⟨by norm_num, by norm_num, by norm_num⟩
  rw [Fax.exact16_decode] at hl ha hb
  norm_num at hl ha hb
  exact ⟨p, hp rfl, _, hmaps, hl, ha, hb⟩

end Decoding

section RoundTrip

/-- The colours at the nodes around a colour lie in the envelope, of whatever lightness. -/
def IsCellInEnvelope (points : ℕ) (c : Lab ℚ) : Prop :=
  ∀ i ∈ (place points c.a).nodes, ∀ j ∈ (place points c.b).nodes,
    Envelope.fax.Contains (Connection.decode16 ⟨c.l, nodeCode points i, nodeCode points j⟩)

/-- The colours at the corners around a colour lie in the envelope if its cell does. -/
theorem contains_nodeColor {c : Lab ℚ} (hcell : IsCellInEnvelope points c) {index : List ℤ}
    (hindex : IsCorner (c.toRow.map (place points)) index) :
    Envelope.fax.Contains (Connection.decode16 (nodeColor points index)) := by
  obtain _ | ⟨_, hab⟩ := hindex
  obtain _ | ⟨ha, hb⟩ := hab
  obtain _ | ⟨hb, _⟩ := hb
  obtain ⟨haMin, haMax, hbMin, hbMax⟩ := hcell _ ha _ hb
  exact ⟨haMin, haMax, hbMin, hbMax⟩

/-- Encoded codes are as near to their lines as cutting off and the displacement of the nodes let
them be, the axes only within the envelope. -/
theorem abs_blended_ofConnection_sub_le (hpoints : 2 ≤ points) {c : Lab ℚ} (hc : c.InDomain)
    (hcell : IsCellInEnvelope points c) :
    |blendedCode points (fun c => (Fax.ofConnection c).l) c - c.l| ≤ 1 / 2
      ∧ |blendedCode points (fun c => (Fax.ofConnection c).a) c - (3 / 2 * c.a + (-16576 - 1 / 2))|
        ≤ 1 / 2 + 3 / 2 / 2
      ∧ |blendedCode points (fun c => (Fax.ofConnection c).b) c
          - (51 / 40 * c.b + (-86832 / 5 - 1 / 2))| ≤ 1 / 2 + 51 / 40 / 2 := by
  have hdomain := inDomain_nodeColor points
  have hlength : c.toRow.length = 3 := rfl
  refine ⟨?_, ?_, ?_⟩
  · exact abs_blendedCode_sub_l_le hpoints hc fun index =>
      congrArg Scalar.ofCode16 (Fax.l_ofConnection (hdomain index) rfl)
  · refine abs_blendedCode_sub_line_le (d := 1) hpoints hc (by omega) (by norm_num) ?_
    intro index hindex
    exact (Fax.abs_ofConnection_sub_le (hdomain index) (contains_nodeColor hcell hindex)).1
  · refine abs_blendedCode_sub_line_le (d := 2) hpoints hc (by omega) (by norm_num) ?_
    intro index hindex
    exact (Fax.abs_ofConnection_sub_le (hdomain index) (contains_nodeColor hcell hindex)).2

/-- Encoding with a profile sampled at any number of nodes and decoding with one sampled at any
other keeps a colour around which all nodes lie in the envelope, to one code in lightness and to
little more than two codes on the axes. -/
theorem exists_faxRoundTrip_near {fine : ℕ} (hpoints : 2 ≤ points) (hfine : 2 ≤ fine) :
    ∃ encoder decoder, faxEncoder ℚ points = .ok encoder ∧ faxDecoder ℚ fine = .ok decoder
      ∧ (Grid.checkRoom points 3 = .ok () → faxEncode points ℚ = .ok encoder)
      ∧ (Grid.checkRoom fine 3 = .ok () → faxDecode fine ℚ = .ok decoder)
      ∧ ∀ c : Lab ℚ, c.InDomain → IsCellInEnvelope points c →
        ∃ v w : Lab ℚ, Maps encoder c v ∧ Maps decoder v w
          ∧ |w.l - c.l| ≤ 1 ∧ |w.a - c.a| < 9 / 4 ∧ |w.b - c.b| < 9 / 4 := by
  obtain ⟨encoding, hencoder, hencoded⟩ := exists_faxEncoder ℚ hpoints
  obtain ⟨decoding, hdecoder, hdecoded⟩ := exists_faxDecoder ℚ hfine
  refine ⟨encodeProfile encoding, decodeProfile decoding, hencoder, hdecoder,
    fun hroom => (faxEncode_of_room ℚ hroom).trans hencoder,
    fun hroom => (faxDecode_of_room ℚ hroom).trans hdecoder, fun c hc hcell => ?_⟩
  have hencode := maps_blended (p := encodeProfile encoding) rfl rfl hencoded hpoints c
  obtain ⟨hvl, hva, hvb⟩ := abs_blended_ofConnection_sub_le hpoints hc hcell
  -- what comes out of the first table is a point of the domain of the second
  have hdomain := inDomain_blended hpoints Fax.ofConnection c
  have hdecode := maps_blended (p := decodeProfile decoding) rfl rfl hdecoded hfine
    (blended points Fax.ofConnection c)
  obtain ⟨hwl, hwa, hwb⟩ := abs_blended_toConnection_sub_le hfine hdomain
  refine ⟨_, _, hencode, hdecode, ?_⟩
  simp only [blended] at hwl hwa hwb ⊢
  -- the slopes of the two ways are inverse to each other, so what the first table misses by is
  -- scaled back by the second before it adds its own
  rw [abs_le] at hvl hva hvb hwl hwa hwb
  rw [abs_le, abs_lt, abs_lt]
  refine ⟨⟨?_, ?_⟩, ⟨?_, ?_⟩, ?_, ?_⟩ <;> linarith

/-- The cell of a dull colour among five nodes on each axis. -/
theorem isCellInEnvelope_dull : IsCellInEnvelope 5 ⟨1000, 20000, 60001 / 2⟩ := by
  have ha : (place 5 (20000 : ℚ)).nodes = [1, 2] :=
    Grid.nodes_place (by decide) (by decide) (by norm_num [Grid.position])
  have hb : (place 5 (60001 / 2 : ℚ)).nodes = [1, 2] :=
    Grid.nodes_place (by decide) (by decide) (by norm_num [Grid.position])
  have hcode : ∀ i ∈ [(1 : ℤ), 2], 16384 ≤ nodeCode 5 i ∧ nodeCode 5 i ≤ 32768 := by
    have hone : nodeValue 5 1 = 16384 := by decide
    have htwo : nodeValue 5 2 = 32768 := by decide
    simp [nodeCode, hone, htwo, Scalar.ofCode16_rat]
  intro i hi j hj
  rw [ha] at hi
  rw [hb] at hj
  obtain ⟨hi0, hi1⟩ := hcode i hi
  obtain ⟨hj0, hj1⟩ := hcode j hj
  constructor <;> norm_num [Envelope.fax, Connection.decode16, Scalar.ofInt_rat] <;> linarith

/-- Five nodes one way and two the other, at a dull colour off the nodes. -/
theorem exists_faxRoundTrip_near_dull :
    ∃ encoder decoder, faxEncode 5 ℚ = .ok encoder ∧ faxDecode 2 ℚ = .ok decoder
      ∧ ∃ v w : Lab ℚ, Maps encoder ⟨1000, 20000, 60001 / 2⟩ v ∧ Maps decoder v w
        ∧ |w.l - 1000| ≤ 1 ∧ |w.a - 20000| < 9 / 4 ∧ |w.b - 60001 / 2| < 9 / 4 := by
  obtain ⟨encoder, decoder, -, -, hencoder, hdecoder, hnear⟩ :=
    exists_faxRoundTrip_near (by decide : 2 ≤ 5) (le_refl 2)
  have hdomain : Lab.InDomain ⟨1000, 20000, 60001 / 2⟩ := by
    constructor <;> norm_num
  exact ⟨encoder, decoder, hencoder rfl, hdecoder rfl, hnear _ hdomain isCellInEnvelope_dull⟩

end RoundTrip

end Recolor.Virtual
