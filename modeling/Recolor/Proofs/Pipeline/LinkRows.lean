import Recolor.Proofs.Pipeline.Channels
import Recolor.Proofs.Pipeline.DeviceLink
import Recolor.Proofs.Scanline.WholeRun
import Recolor.Proofs.Transform.Shapes

/-!
# Rows of a device link

The room for the row that is written is made once and used for every row, and it is made without
regard to what it holds. So a transform has to overwrite all of it. For a device link that rests on
numbers of three origins: the channels that the link's table has, those of the colour spaces in its
header, and those of the formats chosen for the source and the destination. `fits_of_link` shows
that they agree whenever a request for a link is resolved, and that the rows of a run are therefore
never mixed with what the room held before.
-/

set_option autoImplicit false

namespace Recolor

/-- A device link with the channels of two formats, and a curve for each of them. -/
structure SampledProfile.Fits (p : SampledProfile) (f g : PixelFormat) : Prop where
  inputs : (p.table.inputs : Int) = f.samplesPerPixel
  outputs : (p.table.outputs : Int) = g.samplesPerPixel
  inputCurves : ∃ curves, p.inputCurves = some curves ∧ (curves.length : Int) = f.samplesPerPixel
  outputCurves : ∃ curves, p.outputCurves = some curves ∧ (curves.length : Int) = g.samplesPerPixel

/-! ## Overwriting room -/

namespace Transform

/-- A transform that overwrites the room for a row of any width: what it makes of a row of that width
fills the room, so that nothing remains of what the room held and nothing depends on it. -/
def Overwrites (t : Transform) : Prop :=
  ∀ (width : Int) (row room : List UInt8), (row.length : Int) = t.inputFormat.rowBytes width →
    (room.length : Int) = t.outputFormat.rowBytes width →
      t.applyRow row room = t.image row
        ∧ ∀ out, t.image row = .ok out → out.length = room.length

variable {t : Transform}

/-- Only pixels that have samples are converted. -/
theorem samplesPerPixel_pos_of_image {row out : List UInt8} (h : t.image row = .ok out) :
    0 < t.inputFormat.samplesPerPixel := by
  unfold image at h
  split at h
  · cases h
  · rename_i b hb
    exact (Rows.pixels_ok hb).1

/-- The image of a row of some width fills the room for a row of that width. -/
theorem imageLength_eq_of_width (hinput : t.inputFormat.bytesPerSample = 1)
    (houtput : t.outputFormat.bytesPerSample = 1) (hpositive : 0 < t.inputFormat.samplesPerPixel)
    (hnonneg : 0 ≤ t.outputFormat.samplesPerPixel) {width : Int} {row room : List UInt8}
    (hrow : (row.length : Int) = t.inputFormat.rowBytes width)
    (hroom : (room.length : Int) = t.outputFormat.rowBytes width) :
    t.imageLength row.length = room.length := by
  obtain ⟨k, hk⟩ := Int.eq_ofNat_of_zero_le hpositive.le
  obtain ⟨m, hm⟩ := Int.eq_ofNat_of_zero_le hnonneg
  rw [hk] at hpositive
  rw [FormatFields.rowBytes, hinput, hk, mul_one] at hrow
  rw [FormatFields.rowBytes, houtput, hm, mul_one] at hroom
  have hwidth : 0 ≤ width := by
    by_contra hneg
    have := Int.mul_neg_of_neg_of_pos (by omega : width < 0) hpositive
    omega
  obtain ⟨n, rfl⟩ := Int.eq_ofNat_of_zero_le hwidth
  have hrowLength : row.length = n * k := by exact_mod_cast hrow
  have hroomLength : room.length = n * m := by exact_mod_cast hroom
  rw [imageLength, hk, hm, Int.toNat_natCast, Int.toNat_natCast, hrowLength, hroomLength,
    Nat.mul_div_cancel n (by exact_mod_cast hpositive)]

/-- Transforms that give each pixel its samples overwrite the room for a row. -/
theorem IsExact.overwrites (ht : t.IsExact) (hinput : t.inputFormat.bytesPerSample = 1)
    (houtput : t.outputFormat.bytesPerSample = 1)
    (hnonneg : 0 ≤ t.outputFormat.samplesPerPixel) : t.Overwrites := by
  intro width row room hrow hroom
  rw [applyRow_eq]
  cases himage : t.image row with
  | error e => exact ⟨rfl, nofun⟩
  | ok result =>
    have hpositive := samplesPerPixel_pos_of_image himage
    have hlength : result.length = room.length := by
      rw [length_image ht himage]
      exact imageLength_eq_of_width hinput houtput hpositive hnonneg hrow hroom
    constructor
    · simp only [Rows.overlay_of_length hlength]
    · intro out h
      cases h
      exact hlength

end Transform

namespace Scanline

variable {s : Scanline} {t : Transform} {width : Int} {other : List UInt8}

/-- With a transform that overwrites the room for a row, what is made of a row that fits is its image
and does not depend on what the room holds. -/
theorem convertRow_of_room (ht : t.Overwrites) (h : s.HasRooms t width)
    (hother : other.length = s.rowOut.length) {row : List UInt8} (hrow : row.length = s.rowSize) :
    ({ s with rowOut := other } : Scanline).convertRow row = s.convertRow row
      ∧ ∀ out, s.convertRow row = .ok out → t.image row = .ok out := by
  have hroom : (other.length : Int) = t.outputFormat.rowBytes width := hother ▸ h.rowOut
  have hin : (row.length : Int) = t.inputFormat.rowBytes width := hrow ▸ h.rowSize
  simp only [convertRow, h.transform]
  rw [(ht width row other hin hroom).1, (ht width row s.rowOut hin h.rowOut).1]
  exact ⟨rfl, fun _ hout => hout⟩

/-- A step does not depend on what the room for the row holds, either. After a row is passed on the
room holds its image and nothing else. -/
theorem step_of_room (ht : t.Overwrites) (h : s.HasRooms t width)
    (hother : other.length = s.rowOut.length) :
    (∃ room, room.length = s.step.2.rowOut.length
        ∧ ({ s with rowOut := other } : Scanline).step = (s.step.1, { s.step.2 with rowOut := room }))
      ∧ (s.step.1 = .ok true → ∃ row, (s.reader.readRow s.rowSize).1 = .ok row
        ∧ t.image row = .ok s.step.2.rowOut) := by
  unfold step
  by_cases hphase : s.phase ≠ .streaming
  · simp only [if_pos hphase]
    exact ⟨⟨other, hother, rfl⟩, nofun⟩
  · simp only [if_neg hphase]
    by_cases hdone : s.isDone = true
    · have hdone' : ({ s with rowOut := other } : Scanline).isDone = true := hdone
      simp only [if_pos hdone, if_pos hdone']
      exact ⟨⟨other, hother, rfl⟩, nofun⟩
    · have hdone' : ¬({ s with rowOut := other } : Scanline).isDone = true := hdone
      simp only [if_neg hdone, if_neg hdone']
      cases hread : s.reader.readRow s.rowSize with
      | mk result reader =>
        cases result with
        | error e => exact ⟨⟨other, hother, rfl⟩, nofun⟩
        | ok row =>
          have hrow : row.length = s.rowSize := Reader.length_of_readRow (congrArg Prod.fst hread)
          have hrooms : ({ s with reader } : Scanline).HasRooms t width :=
            ⟨h.transform, h.rowSize, h.rowOut⟩
          obtain ⟨hsame, himage⟩ := convertRow_of_room ht hrooms hother hrow
          -- both runs have read the same row, and from here on the room is not looked at again
          simp only [passRow]
          rw [hsame]
          cases hconvert : ({ s with reader } : Scanline).convertRow row with
          | error e => exact ⟨⟨other, hother, rfl⟩, nofun⟩
          | ok converted =>
            cases hwrite : s.writer.writeRow converted with
            | error e =>
              simp only [hwrite]
              exact ⟨⟨converted, rfl, rfl⟩, nofun⟩
            | ok writer =>
              simp only [hwrite]
              exact ⟨⟨converted, rfl, rfl⟩, fun _ => ⟨row, rfl, himage _ hconvert⟩⟩

/-- With such a transform no number of steps depends on what the room holds at first. -/
theorem steps_of_room (ht : t.Overwrites) (h : s.HasRooms t width)
    (hother : other.length = s.rowOut.length) (count : Nat) :
    ∃ room, ({ s with rowOut := other } : Scanline).steps count
      = ((s.steps count).1, { (s.steps count).2 with rowOut := room }) := by
  induction count generalizing s other with
  | zero => exact ⟨other, rfl⟩
  | succ count ih =>
    obtain ⟨⟨room, hlength, hstep⟩, -⟩ := step_of_room ht h hother
    have hnext := h.step
    unfold steps
    rw [hstep]
    cases hs : s.step with
    | mk outcome s₁ =>
      rw [hs] at hlength hnext
      cases outcome with
      | error e => exact ⟨room, rfl⟩
      | ok more =>
        cases more with
        | false => exact ⟨room, rfl⟩
        | true => exact ih hnext hlength

end Scanline

/-! ## Requests for a link -/

section Resolved

variable {r : Request} {source : SourceColor} {invertsCmyk : Bool} {s : Services} {w w' : World}

/-- The input profile of a resolved request that names a device link is one. -/
theorem Request.isLink_of_resolveInput {format : PixelFormat} {p : Profile} {used : Bool}
    (h : (r.resolveInput source format).run s w = (.ok (p, used), w')) (hlink : r.link ≠ .unset) :
    p.isLink = true := by
  obtain ⟨hopens, -⟩ := Request.opens_of_resolveInput h
  cases hkind : r.link with
  | unset => exact absurd hkind hlink
  | invalid v => simp [Request.resolveInput, hkind] at h
  | named name =>
    rw [Request.origin, hkind] at hopens
    obtain ⟨data, q, -, hload, rfl⟩ := hopens
    simp [Profile.isLink, Profile.deviceClass, (Link.isLink_of_load hload).1]

/-- The device link of a resolved request is the plan and has the channels of the formats. -/
theorem Resolved.fits_of_isLink {d : Resolved}
    (h : (r.resolve source invertsCmyk).run s w = (.ok d, w'))
    (hlink : d.inputProfile.isLink = true) :
    ∃ p, d.inputProfile = .sampled p ∧ d.plan = .link p ∧ p.Fits d.inputFormat d.outputFormat := by
  obtain ⟨w₁, w₂, hin, hinput, hothers, hspace, hout, hbuild, -⟩ := Request.resolve_ok h
  obtain ⟨hopens, -⟩ := Request.opens_of_resolveInput hinput
  have hnone := (Request.resolveOthers_ok hothers).1.mpr hlink
  obtain ⟨-, -, hcombine⟩ := Plan.build_ok_iff.mp hbuild
  rcases @Plan.combine_of_isLink d.inputFormat.fields d.outputFormat.fields r.rendering
    d.inputProfile d.outputProfile d.proofProfile hlink with ⟨p, hp, -, hplan⟩ | ⟨-, hplan⟩
  · rw [hplan, Work.run_pure] at hcombine
    simp only [Prod.mk.injEq, Except.ok.injEq] at hcombine
    refine ⟨p, hp, hcombine.1.symm, ?_⟩
    obtain ⟨data, name, intent, hload⟩ := Origin.link_of_isLink hopens hp hlink
    obtain ⟨from', to', inputCurves, outputCurves, hfrom, hto, hcurvesIn, hcurvesOut, hinputs,
      hlengthIn, houtputs, hlengthOut⟩ := Link.load_ok hload
    obtain ⟨n, hn, -, hf⟩ := SourceColor.inputFormat_ok hin
    obtain ⟨t, m, ht, hm, hg⟩ := outputFormat_ok hout
    -- the first space of the link is the one of the source's rows, the second one the target
    rw [hp] at hspace
    simp only [Profile.space, hfrom, Option.some.injEq] at hspace
    rw [hnone, hp] at ht
    simp only [Request.targetSpace, Profile.pcs, hto, Option.some.injEq] at ht
    rw [hspace, hn] at hinputs hlengthIn
    rw [ht, hm] at houtputs hlengthOut
    have hsamplesIn : d.inputFormat.samplesPerPixel = n := by
      rw [hf]
      simp [PixelFormat.samplesPerPixel, PixelFormat.fields, FormatFields.samplesPerPixel]
    have hsamplesOut : d.outputFormat.samplesPerPixel = m := by
      rw [hg]
      simp [PixelFormat.samplesPerPixel, PixelFormat.fields, FormatFields.samplesPerPixel]
    exact {
      inputs := by rw [hsamplesIn, hinputs]; rfl
      outputs := by rw [hsamplesOut, houtputs]; rfl
      inputCurves := ⟨inputCurves, hcurvesIn, by rw [hsamplesIn, hlengthIn]; rfl⟩
      outputCurves := ⟨outputCurves, hcurvesOut, by rw [hsamplesOut, hlengthOut]; rfl⟩ }
  · simp [hplan] at hcombine

/-- A device link with the channels of the formats overwrites the room for every row. -/
theorem Resolved.overwrites_of_fits {d : Resolved}
    (h : (r.resolve source invertsCmyk).run s w = (.ok d, w')) {p : SampledProfile}
    (hplan : d.plan = .link p) (hfits : p.Fits d.inputFormat d.outputFormat) :
    d.transform.Overwrites := by
  obtain ⟨-, -, hin, -, -, -, hout, -, -⟩ := Request.resolve_ok h
  obtain ⟨n, -, -, hf⟩ := SourceColor.inputFormat_ok hin
  obtain ⟨t, m, -, -, hg⟩ := outputFormat_ok hout
  have hextra : d.outputFormat.fields.extra = 0 := by rw [hg]; rfl
  have hchannels : 0 ≤ d.outputFormat.fields.channels := by
    rw [hg]
    exact Int.natCast_nonneg m
  have hgives : d.plan.Gives d.outputFormat.fields.channels := by
    rw [hplan, Plan.Gives, hfits.outputs, PixelFormat.samplesPerPixel, FormatFields.samplesPerPixel,
      hextra, add_zero]
  refine Transform.IsExact.overwrites (Plan.isExact_transform hgives hchannels hextra) ?_ ?_ ?_
  · show d.inputFormat.fields.bytesPerSample = 1
    rw [hf]
    rfl
  · show d.outputFormat.fields.bytesPerSample = 1
    rw [hg]
    rfl
  · show 0 ≤ d.outputFormat.fields.channels + d.outputFormat.fields.extra
    rw [hextra, add_zero]
    exact hchannels

/-- A resolved request for a device link has a link as its plan whose table has exactly the channels
of the formats, with a curve for each. So the room for a row of any width is overwritten with every
row of that width; the room that a run is started with has the size for the source's width and keeps
it; no number of steps depends on what it holds, and after each row that is passed on it holds that
row's image. -/
theorem Resolved.fits_of_link {d : Resolved}
    (h : (r.resolve source invertsCmyk).run s w = (.ok d, w'))
    (hlink : r.link ≠ .unset ∨ d.inputProfile.isLink = true) :
    (∃ p, d.inputProfile = .sampled p ∧ d.plan = .link p ∧ p.Fits d.inputFormat d.outputFormat)
      ∧ d.transform.Overwrites
      ∧ ∀ (e e' : Scanline) (setup : Setup), setup.transform = d.transform →
        e.start setup = (.ok (), e') → ∀ (other : List UInt8), other.length = e'.rowOut.length →
          ∀ count : Nat, let now := (e'.steps count).2
            now.HasRooms d.transform e.reader.width
              ∧ (∃ room, ({ e' with rowOut := other } : Scanline).steps count
                = ((e'.steps count).1, { now with rowOut := room }))
              ∧ (now.step.1 = .ok true → ∃ row, (now.reader.readRow now.rowSize).1 = .ok row
                ∧ d.transform.image row = .ok now.step.2.rowOut) := by
  have hisLink : d.inputProfile.isLink = true := by
    rcases hlink with hlink | hlink
    · obtain ⟨w₁, -, -, hinput, -⟩ := Request.resolve_ok h
      exact Request.isLink_of_resolveInput hinput hlink
    · exact hlink
  obtain ⟨p, hp, hplan, hfits⟩ := Resolved.fits_of_isLink h hisLink
  have hoverwrites := Resolved.overwrites_of_fits h hplan hfits
  refine ⟨⟨p, hp, hplan, hfits⟩, hoverwrites, ?_⟩
  intro e e' setup hsetup hstart other hother count now
  have hrooms : e'.HasRooms d.transform e.reader.width := hsetup ▸ Scanline.hasRooms_of_start hstart
  have hkept : now.HasRooms d.transform e.reader.width := hrooms.steps count
  exact ⟨hkept, Scanline.steps_of_room hoverwrites hrooms hother count,
    (Scanline.step_of_room hoverwrites hkept rfl).2⟩

/-- A request for the link that leaves every sample as it is, and a run over a gray column with its
transform, which comes to the same whatever the room holds at first. -/
theorem Resolved.fits_of_link_identity :
    let r : Request := { link := .named "a.icc" }
    let w : World := { files := { nodes := [(["a.icc"], .file identityLink)] } }
    let gray : PixelFormat := { space := .gray, channels := 1 }
    ∃ d w', (r.resolve { space := .grayscale }).run columnServices w = (.ok d, w')
      ∧ (∃ p, d.plan = .link p ∧ p.Fits gray gray)
      ∧ ∃ e, (columnRun [7, 8] .gray).start { transform := d.transform, space := some .gray }
          = (.ok (), e)
        ∧ ∀ (x : UInt8) (count : Nat),
          (({ e with rowOut := [x] } : Scanline).steps count).2.writer
            = (e.steps count).2.writer := by
  intro r w gray
  have hnode : w.files.node (Path.ofString "a.icc") = .ok (.file identityLink) :=
    node_identityLink (by decide +kernel)
  obtain ⟨w', hrun, -⟩ := Request.run_resolve_of_named (rfl : r.link = .named "a.icc")
    { space := .grayscale } true columnServices w
  rw [hnode] at hrun
  have hformats : ((Link.outcome (SourceColor.inputFormat { space := .grayscale }) (Link.profileAt
      (.ok (.file identityLink)) (Path.ofString "a.icc") r.rendering.intent) true).toOption.map
      fun d => (d.inputFormat, d.outputFormat)) = some (gray, gray) := by decide +kernel
  cases hout : Link.outcome (SourceColor.inputFormat { space := .grayscale }) (Link.profileAt
      (.ok (.file identityLink)) (Path.ofString "a.icc") r.rendering.intent) true with
  | error e =>
    rw [hout] at hformats
    cases hformats
  | ok d =>
    rw [hout] at hrun hformats
    simp only [Except.toOption, Option.map_some, Option.some.injEq, Prod.mk.injEq] at hformats
    obtain ⟨hinput, houtput⟩ := hformats
    obtain ⟨⟨p, -, hplan, hfits⟩, -, hrows⟩ := Resolved.fits_of_link hrun (.inl (by simp [r]))
    rw [hinput, houtput] at hfits
    have hstart : ((columnRun [7, 8] .gray).start
        { transform := d.transform, space := some .gray }).1 = .ok () := by
      simp only [Scanline.start, Resolved.transform, Plan.transform, hinput, houtput]
      rfl
    refine ⟨d, w', hrun, ⟨p, hplan, hfits⟩, _, Prod.ext hstart rfl, ?_⟩
    intro x count
    have hroom : [x].length = ((columnRun [7, 8] .gray).start
        { transform := d.transform, space := some .gray }).2.rowOut.length := by
      simp only [Scanline.start, Resolved.transform, Plan.transform, hinput, houtput]
      rfl
    obtain ⟨-, ⟨room, hsame⟩, -⟩ := hrows (columnRun [7, 8] .gray) _
      { transform := d.transform, space := some .gray } rfl (Prod.ext hstart rfl) [x] hroom count
    rw [hsame]

end Resolved

end Recolor
