import Recolor.Proofs.Rows.Layout
import Recolor.Proofs.Rows.Widths
import Recolor.Transform.Plan

/-!
# Pixel by pixel

A plan treats each pixel by itself: what it makes of a block is what it makes of the pixels, one
after another. Each comes out with the channels of the output format, if the engine keeps to the
layouts it is asked for and tables are as wide as their spaces. A transform adds nothing but the
complements at both ends, so a pixel of an image depends on one pixel of the row.
-/

set_option autoImplicit false

namespace Recolor

/-- A pixel as it is stored in a format, or a stored pixel as it is: complemented if samples are
stored inverted. -/
def FormatFields.settlePixel (f : FormatFields) (p : List UInt8) : List UInt8 :=
  if f.isInverted then Rows.invert p else p

namespace Transform

/-- Settling a block settles each of its pixels. -/
theorem rows_settle (f : FormatFields) (b : Block UInt8) :
    (settle f b).rows = b.rows.map f.settlePixel := by
  unfold settle FormatFields.settlePixel
  split
  · rfl
  · simp

/-- A pixel of the image of a row is made of the row's pixel at the same place and of no other, by
what the transform makes of single pixels. -/
theorem pixel_of_image {t : Transform} (ht : t.IsExact) {single : List UInt8 → List UInt8}
    (hsingle : ∀ b result, t.convert b = .ok result → result.rows = b.rows.map single)
    {row out : List UInt8} (h : t.image row = .ok out) {x : Nat} :
    let k := t.inputFormat.samplesPerPixel.toNat
    let m := t.outputFormat.samplesPerPixel.toNat
    x < row.length / k → (out.drop (x * m)).take m
      = t.outputFormat.settlePixel (single (t.inputFormat.settlePixel
        ((row.drop (x * k)).take k))) := by
  intro k m hx
  obtain ⟨result, hresult, hcount, hlength, rfl⟩ := image_ok ht h
  rw [Rows.take_drop_flatten hlength (by rw [length_settle, hcount]; exact hx), rows_settle,
    hsingle _ _ hresult, rows_settle]
  have hpiece := Rows.getD_cut k (row.length / k) row hx
  rw [← hpiece]
  simp only [List.getD_eq_getElem?_getD, List.getElem?_map]
  rw [List.getElem?_eq_getElem (by rw [Rows.length_cut]; exact hx)]
  rfl

end Transform

/-- A block whose pixels are all of its width. -/
def Block.IsUniform {α : Type} (b : Block α) : Prop :=
  ∀ row ∈ b.rows, row.length = b.width

namespace Rows

variable {α : Type}

/-- Pixels are laid out again as they are, and only if the width is the one they have. -/
theorem rewidth_ok {b result : Block α} {width : Int} (h : rewidth b width = .ok result) :
    result.rows = b.rows ∧ (b.IsUniform → result.IsUniform)
      ∧ (b.IsUniform → 0 ≤ width → ∀ row ∈ result.rows, (row.length : Int) = width) := by
  unfold rewidth at h
  split at h
  · rename_i hwidth
    simp only [Except.ok.injEq] at h
    subst h
    exact ⟨rfl, id, fun hb _ row hrow => by rw [hb row hrow, hwidth]⟩
  · split at h
    · rename_i hempty
      simp only [Except.ok.injEq] at h
      subst h
      have hrows : b.rows = [] := List.isEmpty_iff.mp hempty.1
      exact ⟨hrows.symm, fun _ => by simp [Block.IsUniform], by simp⟩
    · split at h
      · rename_i hopen
        simp only [Except.ok.injEq] at h
        subst h
        exact ⟨rfl, id, fun _ hwidth => absurd hwidth (by omega)⟩
      · simp at h

end Rows

namespace Built

variable {t : Built} {channels : Int} {b result : Block UInt8}

/-- What a transform of the engine makes of one pixel; of a Lab pixel it takes three columns. -/
def pixel (t : Built) (p : List UInt8) : List UInt8 :=
  t.map.run (if t.request.inputMode = .lab then p.take 3 else p)

/-- A transform whose pixels have so many channels. Where they are no Lab pixels that is checked
when they are unpacked. -/
def Gives (t : Built) (channels : Int) : Prop :=
  t.request.outputMode = .lab → (t.map.width : Int) = channels

/-- Pixels reach the engine one by one. -/
theorem rows_pack {mode : Mode} (h : pack mode b = .ok result) :
    result.rows = b.rows.map fun p => if mode = .lab then p.take 3 else p := by
  unfold pack at h
  split at h
  · rename_i hlab
    split at h
    · simp at h
    · simp only [Except.ok.injEq] at h
      simp [← h, hlab]
  · rename_i hother
    split at h
    · simp only [Except.ok.injEq] at h
      simp [← h, hother]
    · simp at h

/-- The block as the engine gives it, before it is unpacked. -/
theorem unpack_of_run (h : t.run channels b = .ok result) :
    ∃ given : Block UInt8, given.rows = b.rows.map t.pixel ∧ given.IsUniform
      ∧ given.width = t.map.width ∧ unpack t.request.outputMode channels given = .ok result := by
  unfold run at h
  cases hpack : pack t.request.inputMode b with
  | error e => simp [hpack] at h
  | ok packed =>
    simp only [hpack] at h
    refine ⟨_, ?_, ?_, rfl, h⟩
    · simp only [rows_pack hpack, List.map_map]
      rfl
    · intro row hrow
      obtain ⟨p, -, rfl⟩ := List.mem_map.mp hrow
      exact t.map.length_run p

/-- What a transform of the engine makes of a block is what it makes of the pixels. -/
theorem rows_run (h : t.run channels b = .ok result) : result.rows = b.rows.map t.pixel := by
  obtain ⟨given, hrows, -, -, hunpack⟩ := unpack_of_run h
  rw [← hrows]
  unfold unpack at hunpack
  split at hunpack
  · simp only [Except.ok.injEq] at hunpack
    rw [hunpack]
  · exact (Rows.rewidth_ok hunpack).1

/-- What the engine gives back has pixels of one width. -/
theorem isUniform_run (h : t.run channels b = .ok result) : result.IsUniform := by
  obtain ⟨given, -, huniform, -, hunpack⟩ := unpack_of_run h
  unfold unpack at hunpack
  split at hunpack
  · simp only [Except.ok.injEq] at hunpack
    rwa [← hunpack]
  · exact (Rows.rewidth_ok hunpack).2.1 huniform

/-- The pixels of a transform of the engine have the channels that are asked for. -/
theorem length_run (ht : t.Gives channels) (hchannels : 0 ≤ channels)
    (h : t.run channels b = .ok result) : ∀ p ∈ result.rows, (p.length : Int) = channels := by
  obtain ⟨given, -, huniform, hwidth, hunpack⟩ := unpack_of_run h
  unfold unpack at hunpack
  split at hunpack
  · rename_i hlab
    simp only [Except.ok.injEq] at hunpack
    subst hunpack
    intro p hp
    rw [huniform p hp, hwidth, ht hlab]
  · exact (Rows.rewidth_ok hunpack).2.2 huniform hchannels

end Built

namespace Plan

variable {plan : Plan} {channels : Int} {b result : Block UInt8}

/-- Lab samples of the engine as colours. -/
def decodeLab : RowOp UInt8 Float :=
  (RowOp.samples Scalar.ofSample8).andThen Connection.decodeRows8

/-- Decoding Lab samples is done row by row. -/
theorem isLawful_decodeLab : decodeLab.IsLawful :=
  (RowOp.isLawful_samples _).andThen (Lab.isLawful_readRow fun _ => rfl)

/-- What the half that leads to Lab colours makes of one pixel. -/
def toLabPixel : InputHalf → List UInt8 → List Float
  | .table p => p.deviceToLab.run
  | .engine t => fun pixel => decodeLab.run (t.pixel pixel)

/-- What showing on another device makes of one colour. -/
def simulatePixel (t : Built) (lab : List Float) : List Float :=
  decodeLab.run (t.pixel ((Connection.encodeRows8 : RowOp Float UInt8).run lab))

/-- What the half that leads from Lab colours makes of one colour. -/
def fromLabPixel : OutputHalf → List Float → List UInt8
  | .table p => p.labToDevice.run
  | .engine t => fun lab => t.pixel ((Connection.encodeRows8 : RowOp Float UInt8).run lab)

/-- What a plan makes of one pixel of natural samples. -/
def pixel : Plan → List UInt8 → List UInt8
  | .direct t => t.pixel
  | .link p => (p.deviceToDevice Float).run
  | .chain first none last => fun p => fromLabPixel last (toLabPixel first p)
  | .chain first (some t) last => fun p =>
    fromLabPixel last (simulatePixel t (toLabPixel first p))

/-- The half that leads to Lab colours works on one pixel after another. -/
theorem rows_toLab {half : InputHalf} {lab : Block Float} (h : toLab half b = .ok lab) :
    lab.rows = b.rows.map (toLabPixel half) := by
  cases half with
  | table p => exact RowOp.rows_of_onBlock h
  | engine t =>
    unfold toLab at h
    cases hrun : t.run 3 b with
    | error e => simp [hrun] at h
    | ok shown =>
      simp only [hrun] at h
      rw [RowOp.rows_of_onBlock h, Built.rows_run hrun, List.map_map]
      rfl

/-- Showing on another device works on one colour after another. -/
theorem rows_simulate {t : Built} {lab shown : Block Float} (h : simulate t lab = .ok shown) :
    shown.rows = lab.rows.map (simulatePixel t) := by
  unfold simulate at h
  cases hencode : (Connection.encodeRows8 : RowOp Float UInt8).onBlock lab with
  | error e => simp [hencode] at h
  | ok codes =>
    cases hrun : t.run 3 codes with
    | error e => simp [hencode, hrun] at h
    | ok samples =>
      simp only [hencode, hrun] at h
      rw [RowOp.rows_of_onBlock h, Built.rows_run hrun, RowOp.rows_of_onBlock hencode,
        List.map_map, List.map_map]
      rfl

/-- The half that leads from Lab colours works on one colour after another. -/
theorem rows_fromLab {half : OutputHalf} {lab : Block Float}
    (h : fromLab half channels lab = .ok result) :
    result.rows = lab.rows.map (fromLabPixel half) := by
  cases half with
  | table p => exact RowOp.rows_of_onBlock h
  | engine t =>
    unfold fromLab at h
    cases hencode : (Connection.encodeRows8 : RowOp Float UInt8).onBlock lab with
    | error e => simp [hencode] at h
    | ok codes =>
      simp only [hencode] at h
      rw [Built.rows_run h, RowOp.rows_of_onBlock hencode, List.map_map]
      rfl

/-- What a plan makes of a block is what it makes of the pixels, one after another. -/
theorem rows_convert (h : plan.convert channels b = .ok result) :
    result.rows = b.rows.map plan.pixel := by
  cases plan with
  | direct t => exact Built.rows_run h
  | link p => exact RowOp.rows_of_onBlock h
  | chain first middle last =>
    unfold convert at h
    cases hfirst : toLab first b with
    | error e => simp [hfirst] at h
    | ok lab =>
      cases middle with
      | none =>
        simp only [hfirst] at h
        rw [rows_fromLab h, rows_toLab hfirst, List.map_map]
        rfl
      | some t =>
        cases hshown : simulate t lab with
        | error e => simp [hfirst, hshown] at h
        | ok shown =>
          simp only [hfirst, hshown] at h
          rw [rows_fromLab h, rows_simulate hshown, rows_toLab hfirst, List.map_map, List.map_map]
          rfl

/-- A plan whose last stage gives pixels of so many channels. -/
def Gives (channels : Int) : Plan → Prop
  | .direct t => t.Gives channels
  | .link p => (p.table.outputs : Int) = channels
  | .chain _ _ (.table p) => (p.table.outputs : Int) = channels
  | .chain _ _ (.engine t) => t.Gives channels

/-- The Lab colours of pixels of one width have one width. -/
theorem isUniform_toLab {half : InputHalf} {lab : Block Float} (hb : b.IsUniform)
    (h : toLab half b = .ok lab) : lab.IsUniform := by
  cases half with
  | table p => exact RowOp.length_of_onBlock p.isLawful_deviceToLab hb h
  | engine t =>
    unfold toLab at h
    cases hrun : t.run 3 b with
    | error e => simp [hrun] at h
    | ok shown =>
      simp only [hrun] at h
      exact RowOp.length_of_onBlock isLawful_decodeLab (Built.isUniform_run hrun) h

/-- Shown colours keep to one width. -/
theorem isUniform_simulate {t : Built} {lab shown : Block Float} (h : simulate t lab = .ok shown) :
    shown.IsUniform := by
  unfold simulate at h
  cases hencode : (Connection.encodeRows8 : RowOp Float UInt8).onBlock lab with
  | error e => simp [hencode] at h
  | ok codes =>
    cases hrun : t.run 3 codes with
    | error e => simp [hencode, hrun] at h
    | ok samples =>
      simp only [hencode, hrun] at h
      exact RowOp.length_of_onBlock isLawful_decodeLab (Built.isUniform_run hrun) h

/-- The half that leads from Lab colours gives every pixel the channels of the plan. -/
theorem length_fromLab {half : OutputHalf} {first : InputHalf} {middle : Option Built}
    (hgives : (Plan.chain first middle half).Gives channels) (hchannels : 0 ≤ channels)
    {lab : Block Float} (hlab : lab.IsUniform) (h : fromLab half channels lab = .ok result) :
    ∀ p ∈ result.rows, (p.length : Int) = channels := by
  cases half with
  | table p =>
    intro row hrow
    rw [RowOp.length_of_onBlock p.isLawful_labToDevice hlab h row hrow,
      SampledProfile.width_labToDevice (RowOp.width_of_onBlock h)]
    exact hgives
  | engine t =>
    unfold fromLab at h
    cases hencode : (Connection.encodeRows8 : RowOp Float UInt8).onBlock lab with
    | error e => simp [hencode] at h
    | ok codes =>
      simp only [hencode] at h
      exact Built.length_run hgives hchannels h

/-- Every pixel comes out with the channels that the last stage gives. -/
theorem length_convert (hgives : plan.Gives channels) (hchannels : 0 ≤ channels)
    (hb : b.IsUniform) (h : plan.convert channels b = .ok result) :
    ∀ p ∈ result.rows, (p.length : Int) = channels := by
  cases plan with
  | direct t => exact Built.length_run hgives hchannels h
  | link p =>
    intro row hrow
    have hwidth := RowOp.width_of_onBlock h
    rw [RowOp.length_of_onBlock p.isLawful_deviceToDevice hb h row hrow,
      SampledProfile.width_deviceToDevice hwidth]
    exact hgives
  | chain first middle last =>
    unfold convert at h
    cases hfirst : toLab first b with
    | error e => simp [hfirst] at h
    | ok lab =>
      cases middle with
      | none =>
        simp only [hfirst] at h
        exact length_fromLab hgives hchannels (isUniform_toLab hb hfirst) h
      | some t =>
        cases hshown : simulate t lab with
        | error e => simp [hfirst, hshown] at h
        | ok shown =>
          simp only [hfirst, hshown] at h
          exact length_fromLab hgives hchannels (isUniform_simulate hshown) h

/-- The transform that carries out a plan makes of natural samples what the plan makes of them. -/
theorem rows_transform {f g : FormatFields} (h : (plan.transform f g).convert b = .ok result) :
    result.rows = b.rows.map plan.pixel := by
  simp only [Plan.transform] at h
  split at h
  · simp at h
  · rename_i converted hconverted
    simp only [Except.ok.injEq] at h
    rw [← h]
    exact rows_convert hconverted

/-- The transform that carries out a plan gives every pixel the samples of the output format. -/
theorem isExact_transform {f g : FormatFields} (hgives : plan.Gives g.channels)
    (hchannels : 0 ≤ g.channels) (hextra : g.extra = 0) : (plan.transform f g).IsExact := by
  intro b result _ hb h
  simp only [Plan.transform] at h
  split at h
  · simp at h
  · rename_i converted hconverted
    simp only [Except.ok.injEq] at h
    subst h
    constructor
    · rw [rows_convert hconverted, List.length_map]
    · intro pixel hp
      rw [length_convert hgives hchannels hb hconverted pixel hp]
      simp [Plan.transform, FormatFields.samplesPerPixel, hextra]

end Plan

end Recolor
