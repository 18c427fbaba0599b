import Recolor.Proofs.Conversion.Pixels
import Recolor.Proofs.Marker.Segments
import Recolor.Proofs.Pipeline.Mismatch
import Recolor.Proofs.Scanline.Markers

/-!
# Which destinations are labelled as fax images

A destination is labelled by the space of its pixels, while its rows are encoded by the output
profile. The two agree for the virtual profile that encodes fax colours, and they differ for
profile files whose data is in Lab: their rows are labelled as fax colours and are none.
`carriesFax_iff` says of every conversion without a device link which destinations are labelled,
and that those of such files are the only ones labelled wrongly.
-/

set_option autoImplicit false

namespace Recolor

/-- Whether a reference names the virtual fax profiles, in letters of any case. -/
def Reference.IsFax (r : Reference) : Prop :=
  ∃ name, r = .named name ∧ name.toLower = "*lab"

/-- A reference is the stock name of the virtual fax profiles exactly if it names them. -/
theorem Reference.isStock_lab_iff (r : Reference) : r.isStock Stock.lab = true ↔ r.IsFax := by
  cases r with
  | named name =>
    have hname : Stock.isName name Stock.lab = true ↔ name.toLower = "*lab" :=
      Stock.isName_iff name Stock.lab
    simpa [isStock, IsFax] using hname
  | unset => simp [isStock, IsFax]
  | invalid v => simp [isStock, IsFax]

namespace Resolved

/-- Whether the rows are encoded by the virtual profile of fax colours. -/
def EncodesFax (r : Resolved) : Prop :=
  ∃ p first middle, Virtual.faxEncode = .ok p ∧ r.plan = .chain first middle (.table p)

/-- Whether the output profile is an ICC profile whose data is in Lab. -/
def HasLabIcc (r : Resolved) : Prop :=
  ∃ p, r.outputProfile = some (.icc p) ∧ p.space = some .lab

end Resolved

section Planning

open Plan

variable {s : Services} {w w' : World} {f g : FormatFields} {input : Profile} {r : Rendering}

/-- Rows are encoded by a table exactly if the output profile is sampled, and then by its table. -/
theorem Plan.Combines.last_eq_table_iff {engine : ColorEngine} {output : Profile}
    {proof : Option Profile} {plan : Plan} {p : SampledProfile}
    (h : Combines engine f g r input output proof plan) :
    output = .sampled p ↔ ∃ first middle, plan = .chain first middle (.table p) := by
  cases h with
  | direct => simp
  | proof => simp
  | chain _ _ _ hlast =>
    cases hlast with
    | table _ => simp
    | engine _ _ => simp

/-- Without a device link a plan ends in a table exactly if that table is the output profile. -/
theorem Plan.last_of_build {output : Profile} {proof : Option Profile} {plan : Plan}
    {p : SampledProfile} (hlink : input.isLink = false)
    (h : (build f g input (some output) proof r).run s w = (.ok plan, w')) :
    output = .sampled p ↔ ∃ first middle, plan = .chain first middle (.table p) := by
  obtain ⟨-, -, hcombine⟩ := build_ok_iff.mp h
  exact ((combine_ok_iff hlink).mp hcombine).1.last_eq_table_iff

/-- The engine makes no device links. -/
theorem Plan.not_isLink_of_build {p : IccProfile} {output proof : Option Profile} {plan : Plan}
    (h : (build f g (.icc p) output proof r).run s w = (.ok plan, w')) :
    (Profile.icc p).isLink = false := by
  obtain ⟨-, -, hcombine⟩ := build_ok_iff.mp h
  cases hlink : (Profile.icc p).isLink with
  | false => rfl
  | true =>
    rcases @combine_of_isLink f g r (.icc p) output proof hlink with ⟨q, hq, -⟩ | ⟨-, hplan⟩
    · cases hq
    · simp [hplan] at hcombine

end Planning

section Resolving

variable {r : Request} {source : SourceColor} {invertsCmyk : Bool} {s : Services} {w w' : World}

/-- A reference to a profile never leads to a device link. -/
theorem Reference.origin_ne_link (space : Space) (r : Reference) (name : String) :
    r.origin space ≠ .link name := by
  unfold origin
  split
  · split
    · simp
    · split <;> simp
  · split <;> simp

/-- Without a device link the input profile is none. -/
theorem Request.not_isLink_of_resolve {d : Resolved} (hlink : r.link = .unset)
    (h : (r.resolve source invertsCmyk).run s w = (.ok d, w')) : d.inputProfile.isLink = false := by
  obtain ⟨w₁, w₂, -, hinput, -, -, -, hbuild, -⟩ := Request.resolve_ok h
  obtain ⟨hopens, -⟩ := Request.opens_of_resolveInput hinput
  cases hprofile : d.inputProfile with
  | icc p =>
    rw [hprofile] at hbuild
    exact Plan.not_isLink_of_build hbuild
  | sampled p =>
    rw [hprofile] at hopens
    rcases Origin.sampled_of_opens hopens with ⟨name, horigin⟩ | hfax
    · simp only [Request.origin, hlink] at horigin
      split at horigin
      · simp_all
      · simp at horigin
      · exact absurd horigin (Reference.origin_ne_link _ _ _)
    · simp [Profile.isLink, Profile.deviceClass, Virtual.faxDecode_ok hfax]

/-- The rows are in the space of the output profile. -/
theorem Resolved.space_of_outputProfile {d : Resolved} {output : Profile}
    (h : (r.resolve source invertsCmyk).run s w = (.ok d, w'))
    (houtput : d.outputProfile = some output) : output.space = some d.outputSpace := by
  obtain ⟨-, -, -, -, -, -, hout, -, -⟩ := Request.resolve_ok h
  obtain ⟨t, n, ht, -, hf⟩ := outputFormat_ok hout
  rw [houtput] at ht
  rw [Resolved.outputSpace, hf]
  exact ht

/-- Rows that no device link makes are encoded as fax colours exactly if the output profile is the
virtual one. -/
theorem Resolved.encodesFax_iff {d : Resolved}
    (h : (r.resolve source invertsCmyk).run s w = (.ok d, w')) {output : Profile}
    (houtput : d.outputProfile = some output) (hinput : d.inputProfile.isLink = false) :
    d.EncodesFax ↔ ∃ p, Virtual.faxEncode = .ok p ∧ output = .sampled p := by
  obtain ⟨w₁, w₂, -, -, -, -, -, hbuild, -⟩ := Request.resolve_ok h
  rw [houtput] at hbuild
  constructor
  · rintro ⟨p, first, middle, hp, hplan⟩
    exact ⟨p, hp, (Plan.last_of_build hinput hbuild).mpr ⟨first, middle, hplan⟩⟩
  · rintro ⟨p, hp, hsampled⟩
    obtain ⟨first, middle, hplan⟩ := (Plan.last_of_build hinput hbuild).mp hsampled
    exact ⟨p, first, middle, hp, hplan⟩

/-- Without a device link the rows are encoded as fax colours exactly if the output profile is the
virtual one, and their space is Lab then and for profile files of Lab data. -/
theorem Resolved.fax_of_resolve {d : Resolved} (hlink : r.link = .unset)
    (h : (r.resolve source invertsCmyk).run s w = (.ok d, w')) :
    (d.EncodesFax ↔ r.output.IsFax) ∧ ¬(d.HasLabIcc ∧ r.output.IsFax)
      ∧ (d.outputSpace = .lab ↔ r.output.IsFax ∨ d.HasLabIcc) := by
  have hinput := Request.not_isLink_of_resolve hlink h
  obtain ⟨w₁, w₂, -, -, hothers, -, -, -, -⟩ := Request.resolve_ok h
  obtain ⟨hnone, hsome⟩ := Request.resolveOthers_ok hothers
  cases houtput : d.outputProfile with
  | none => simp [hnone.mp houtput] at hinput
  | some output =>
    obtain ⟨w₃, hresolve⟩ := hsome output houtput
    have hspace := Resolved.space_of_outputProfile h houtput
    have hencodes := Resolved.encodesFax_iff h houtput hinput
    have hicc : d.HasLabIcc ↔ ∃ q, output = .icc q ∧ d.outputSpace = .lab := by
      constructor
      · rintro ⟨q, hq, hlab⟩
        obtain rfl := Option.some.inj (houtput.symm.trans hq)
        exact ⟨q, rfl, Option.some.inj (hspace.symm.trans hlab)⟩
      · rintro ⟨q, rfl, hlab⟩
        exact ⟨q, houtput, hspace.trans (by rw [hlab])⟩
    have houtputs := Request.resolveOutput_ok hresolve
    rw [Reference.isStock_lab_iff] at houtputs
    rcases houtputs with ⟨hfax, q, hq, rfl⟩ | ⟨hfax, q, rfl⟩
    · have hlab : d.outputSpace = .lab :=
        Option.some.inj (hspace.symm.trans (Virtual.faxEncode_ok hq).1)
      simp [hencodes, hicc, hfax, hlab, hq]
    · simp [hencodes, hicc, hfax]

end Resolving

/-- A writer that is created has no markers. -/
theorem Writer.markers_of_create {path : Path} {width height : Int} {space : Space}
    {quality : Value} {w : Writer} (h : Writer.create path width height space quality = .ok w) :
    w.markers = [] := by
  unfold create at h
  split at h
  · simp at h
  · split at h
    · simp at h
    · split at h
      · simp at h
      · simp only [Except.ok.injEq] at h
        rw [← h]

/-- The request of a configuration asks for the device link that is set, if one is. -/
theorem Config.link_of_request {c : Config} {request : Request} (h : c.request = .ok request) :
    request.link = .ofSetting c.profiles.link :=
  (request_ok h).1

namespace Conversion

variable {c : Config} {input output : Path} {s : Services} {w w' : World}

/-- The picture that rows are handed to the encoder in carries a fax marker exactly if the space of
its pixels is Lab. -/
theorem carriesFax_of_transfer {reader : Reader} {r : Resolved} {n : Nat}
    (h : (transfer c reader output r).run s w = (.ok n, w')) :
    ∃ job, w'.jobs = w.jobs ++ [job] ∧ (job.CarriesFax ↔ r.outputSpace = .lab) := by
  obtain ⟨writer, s', hwriter, hrun⟩ := transfer_ok h
  obtain ⟨jfif, -, hmarkers⟩ := Scanline.markers_of_run hrun
  obtain ⟨_, s₂, _, -, -, hfinish, -⟩ := Scanline.run_ok hrun
  obtain ⟨-, options, hoptions, hjobs⟩ := Scanline.jobs_of_finish hfinish
  refine ⟨_, hjobs, ?_⟩
  have hsettled := Marker.areSettled (some r.outputSpace) reader.markers jfif s'.writer.writesAdobe
  rw [Writer.markers_of_create hwriter, List.nil_append] at hmarkers
  rw [Writer.carriesFax_job hoptions, hmarkers, hsettled.identify, Option.some.injEq]

/-- A conversion without a device link hands one picture to the encoder. Its rows are encoded as fax
colours exactly if the output profile is named as the virtual one. It carries a fax marker then, and
also if the output profile is a profile file of Lab data. So the marker is right exactly if the
output profile is none of these. -/
theorem carriesFax_iff {report : Report} (hlink : c.profiles.link.isSet = false)
    (h : (Conversion.run c input output).run s w = (.ok report, w'))
    (hsucceeded : report.succeeded = true) :
    ∃ request reader r job w₁ w₂, c.request = .ok request
      ∧ (Reader.openFile input).run s w = (.ok reader, w₁)
      ∧ (request.resolve reader.color Writer.invertsCmyk).run s w₁ = (.ok r, w₂)
      ∧ w'.jobs = w.jobs ++ [job]
      ∧ (r.EncodesFax ↔ request.output.IsFax)
      ∧ (job.CarriesFax ↔ request.output.IsFax ∨ r.HasLabIcc)
      ∧ ((job.CarriesFax ↔ r.EncodesFax) ↔ ¬r.HasLabIcc) := by
  obtain ⟨reader, r, n, w₁, w₂, hopen, hresolve, htransfer⟩ := run_ok h hsucceeded
  obtain ⟨request, hrequest, hresolved⟩ := resolve_ok hresolve
  obtain ⟨job, hjobs, hcarries⟩ := carriesFax_of_transfer htransfer
  have hunset : request.link = .unset := by
    rw [Config.link_of_request hrequest]
    exact Reference.ofSetting_eq_unset_iff.mpr hlink
  obtain ⟨hencodes, hapart, hspace⟩ := Resolved.fax_of_resolve hunset hresolved
  refine ⟨request, reader, r, job, w₁, w₂, hrequest, hopen, hresolved, ?_, hencodes, ?_, ?_⟩
  · rw [hjobs, (leaves_jobs_resolve c _).apply hresolve,
      (Reader.leaves_jobs_openFile input).apply hopen]
  · rw [hcarries, hspace]
  · rw [hcarries, hspace, hencodes]
    constructor
    · intro hsame hicc
      exact hapart ⟨hicc, hsame.mp (.inr hicc)⟩
    · intro hicc
      simp [hicc]

end Conversion

/-! ## A profile file of Lab data -/

/-- A picture of one pixel. -/
def onePixel : Picture :=
  { mode := .rgb, width := 1, height := 1, samples := [1, 2, 3] }

/-- An engine of plain arithmetic and a codec that knows the picture of one pixel. -/
def pixelServices : Services :=
  { engine := ArithmeticEngine.engine, codec := Codec.ofPictures [("in.jpg", onePixel)] none }

/-- The reader of that picture. -/
def pixelReader : Reader :=
  Reader.ofPicture { parts := ["in.jpg"] } onePixel [] {}

/-- A configuration that asks for a profile file. -/
def labConfig : Config :=
  { profiles := { output := .text "lab.icc" } }

/-- A folder with the file of a picture of one pixel and a profile of Lab data. -/
def labWorld : World :=
  { files := { nodes := [(["in.jpg"], .file [0xFF, 0xD8])
                         , (["lab.icc"], .file (headerOf "abstLab Lab "))] } }

/-- That profile. -/
def labIcc : IccProfile :=
  { source := .data (headerOf "abstLab Lab "), name := "lab.icc"
    path := some { parts := ["lab.icc"] }, space := some .lab, pcs := some .lab
    deviceClass := .abstract }

/-- What the engine is asked for: a transform from the built-in profile to that one. -/
def labRequest : BuildRequest :=
  { input := .srgb, output := labIcc.source, inputMode := .rgb, outputMode := .lab
    intent := .perceptual, flags := { word := 0 } }

/-- The transform from the built-in profile to that one. -/
def labResolved : Resolved where
  plan := .direct ⟨labRequest, ArithmeticEngine.pixelMap .lab⟩
  inputFormat := { space := .rgb, channels := 3 }
  outputFormat := { space := .lab, channels := 3 }
  inputProfile := .icc { Plan.display with stated := "sRGB built-in" }
  outputProfile := some (.icc labIcc)

/-- The writer for a picture of one pixel. -/
def labWriter : Writer :=
  { path := { parts := ["out.jpg"] }, width := 1, height := 1, mode := .ycbcr, quality := .int 75 }

/-- What the run over that picture is started with. -/
def labSetup : Setup :=
  { transform := labResolved.transform, space := some labResolved.outputSpace }

/-- The run over that picture once it is started. -/
def labStarted : Scanline :=
  (({ reader := pixelReader, writer := labWriter } : Scanline).start labSetup).2

/-- The run over that picture when all steps are taken. -/
def labRun : Scanline :=
  (labStarted.steps 2).2

set_option maxRecDepth 4000 in
/-- The profile of Lab data opens. -/
theorem labIcc_ok : IccProfile.ofBytes ArithmeticEngine.engine (headerOf "abstLab Lab ") "lab.icc"
    (some { parts := ["lab.icc"] }) = .ok labIcc := by
  rfl

/-- The system takes the name of the profile of Lab data. -/
theorem isPlain_lab : FileTree.IsPlain "lab.icc" := by decide +kernel

/-- The request of that configuration is resolved to that transform. -/
theorem Conversion.resolve_lab {w : World} (hfiles : w.files = labWorld.files) :
    (Conversion.resolve labConfig pixelReader).run pixelServices w
      = (.ok labResolved, (w.note (.read { parts := ["lab.icc"] })).note (.requested labRequest)) := by
  let request : Request := { output := .named "lab.icc" }
  have hopen : (Profile.ofFile { parts := ["lab.icc"] }).run pixelServices w
      = (.ok labIcc, w.note (.read { parts := ["lab.icc"] })) := by
    have hname : Path.name { parts := ["lab.icc"] } = "lab.icc" := rfl
    have hengine : pixelServices.engine = ArithmeticEngine.engine := rfl
    rw [Profile.run_ofFile (FileTree.read_name isPlain_lab (by rw [hfiles]; rfl)), hname, hengine,
      labIcc_ok]
  have hothers : (request.resolveOthers labResolved.inputProfile).run pixelServices w
      = (.ok (some (.icc labIcc), none), w.note (.read { parts := ["lab.icc"] })) :=
    Request.run_resolveOthers rfl rfl rfl hopen
  have hinput : (request.resolveInput pixelReader.color labResolved.inputFormat).run pixelServices w
      = (.ok (labResolved.inputProfile, false), w) := rfl
  show (request.resolve pixelReader.color Writer.invertsCmyk).run _ _ = _
  rw [Request.run_resolve_of_profiles _ rfl hinput hothers]
  rfl

/-- The rows of a picture of one pixel are taken through that transform in any world without a file
of the destination's name; the destination's file is there afterwards. -/
theorem Conversion.exists_transfer_lab {w : World}
    (hfree : w.files.nodes.lookup ["out.jpg"] = none) :
    ∃ w', (Conversion.transfer labConfig pixelReader { parts := ["out.jpg"] } labResolved).run
        pixelServices w = (.ok 1, w')
      ∧ w'.files = w.files.put ["out.jpg"] (.file [31, 48, 65]) := by
  obtain ⟨w', hencode, hfiles⟩ : ∃ w', (Work.encode ((labRun.writer.addMarkers []).job
        { quality := .int 75, fullChroma := true
          extra := (Marker.toSegments [Marker.fax]).toOption })).run pixelServices
          (w.note (.closed { parts := ["in.jpg"] })) = (.ok (), w')
      ∧ w'.files = w.files.put ["out.jpg"] (.file [31, 48, 65]) :=
    ⟨_, Work.run_encode_ok_iff.mpr ⟨_, _, rfl, FileTree.write_name isPlain_out [31, 48, 65]
      (by simp [World.note, hfree]), rfl⟩, rfl⟩
  have hwriter : Writer.create { parts := ["out.jpg"] } pixelReader.width pixelReader.height
      labResolved.outputSpace labConfig.output.quality = .ok labWriter := rfl
  have hstart : ({ reader := pixelReader, writer := labWriter } : Scanline).start labSetup
      = (.ok (), labStarted) := rfl
  have hsteps : labStarted.steps 2 = (.ok (), labRun) := rfl
  have hrun := Scanline.run_of_encode hstart hsteps rfl rfl rfl rfl rfl hencode
  exact ⟨w', Conversion.run_transfer hwriter hrun, hfiles⟩

/-- The conversion of that picture succeeds, and its destination is labelled as a fax image. -/
theorem Conversion.exists_run_lab : ∃ report w' job,
    (Conversion.run labConfig { parts := ["in.jpg"] } { parts := ["out.jpg"] }).run pixelServices
      labWorld = (.ok report, w') ∧ report.succeeded = true ∧ w'.jobs = labWorld.jobs ++ [job]
      ∧ job.CarriesFax := by
  let w₁ : World := (labWorld.note (.read { parts := ["in.jpg"] })).note
    (.opened { parts := ["in.jpg"] })
  have hcontent : labWorld.files.read { parts := ["in.jpg"] } = .ok [0xFF, 0xD8] :=
    FileTree.read_name isPlain_in rfl
  have hopen : (Reader.openFile { parts := ["in.jpg"] }).run pixelServices labWorld
      = (.ok pixelReader, w₁) :=
    Reader.run_openFile hcontent rfl rfl rfl rfl
  have hinput : (Work.fileSize { parts := ["in.jpg"] }).run pixelServices w₁ = (.ok 2, w₁) :=
    Work.run_fileSize_ok_iff.mpr ⟨⟨_, hcontent, rfl⟩, rfl⟩
  have hresolve := Conversion.resolve_lab (w := w₁) rfl
  obtain ⟨w', htransfer, hfiles⟩ := Conversion.exists_transfer_lab
    (w := (w₁.note (.read { parts := ["lab.icc"] })).note (.requested labRequest)) rfl
  have houtput := Work.run_fileSize_ok_iff (s := pixelServices).mpr
    ⟨⟨[31, 48, 65], FileTree.read_name isPlain_out (by rw [hfiles]; rfl), rfl⟩, rfl⟩
  obtain ⟨report, hreport, hsucceeded⟩ :=
    Conversion.exists_run (by rfl) hopen hinput hresolve htransfer houtput
  obtain ⟨job, hjobs, hcarries⟩ := Conversion.carriesFax_of_transfer htransfer
  exact ⟨report, w', job, hreport, hsucceeded, hjobs, hcarries.mpr rfl⟩

/-- The name of the profile of Lab data does not name the virtual fax profiles. -/
theorem not_isFax_lab : ¬(Reference.named "lab.icc").IsFax := by
  rw [← Reference.isStock_lab_iff]
  decide +kernel

/-- The destination of that conversion is labelled, and its rows are not encoded as fax colours. -/
theorem Conversion.carriesFax_lab : ∃ report w' r job,
    (Conversion.run labConfig { parts := ["in.jpg"] } { parts := ["out.jpg"] }).run pixelServices
      labWorld = (.ok report, w') ∧ report.succeeded = true ∧ w'.jobs = labWorld.jobs ++ [job]
    ∧ job.CarriesFax ∧ ¬Resolved.EncodesFax r ∧ r.HasLabIcc := by
  obtain ⟨report, w', job, hrun, hsucceeded, hjobs, hcarries⟩ := Conversion.exists_run_lab
  obtain ⟨request, -, r, job', -, -, hrequest, -, -, hjobs', hencodes, hcarries', -⟩ :=
    Conversion.carriesFax_iff rfl hrun hsucceeded
  have hjob : job = job' := by simpa using hjobs.symm.trans hjobs'
  have hfax : ¬request.output.IsFax := by
    cases hrequest
    exact not_isFax_lab
  subst hjob
  refine ⟨report, w', r, job, hrun, hsucceeded, hjobs, hcarries, ?_, ?_⟩
  · rw [hencodes]
    exact hfax
  · exact (hcarries'.mp hcarries).resolve_left hfax

/-- A destination can be labelled as a fax image although the output profile is not named as the
virtual one. -/
theorem Conversion.labelled_without_fax :
    ¬∀ (c : Config) (input output : Path) (s : Services) (w w' : World) (report : Report)
      (request : Request) (job : EncodeJob), c.profiles.link.isSet = false →
      (Conversion.run c input output).run s w = (.ok report, w') → report.succeeded = true →
      c.request = .ok request → w'.jobs = w.jobs ++ [job] →
        (job.CarriesFax ↔ request.output.IsFax) := by
  intro h
  obtain ⟨report, w', job, hrun, hsucceeded, hjobs, hcarries⟩ := Conversion.exists_run_lab
  exact not_isFax_lab ((h labConfig _ _ _ _ _ _ _ _ rfl hrun hsucceeded rfl hjobs).mp hcarries)

end Recolor
