import Recolor.Proofs.Conversion.Steps
import Recolor.Proofs.Pipeline.Channels
import Recolor.Proofs.Pipeline.Mismatch
import Recolor.Proofs.Scanline.WholeRun

/-!
# The pixels of a conversion

A conversion that succeeds hands the encoder a picture of the source's size in which every pixel
is what one map makes of the source's pixel at the same place. The map is the plan's, which knows
nothing of inverted samples. Four-component samples are complemented where the source decodes
them, where a format says that they are inverted, and where the writer encodes them; in the end
all of these cancel, but for the samples of a source without a colour transform marker, which
reach the plan complemented once.
-/

set_option autoImplicit false

namespace Recolor

/-! ## Formats and layouts -/

/-- Only pixels of four components are decoded with four bands. -/
theorem Mode.bands_eq_four {mode : Mode} : mode.bands = 4 ↔ mode = .cmyk := by
  cases mode <;> simp [Mode.bands]

/-- Only the space of printing inks has four channels. -/
theorem Space.channels?_eq_four {space : Space} (h : space.channels? = some 4) :
    space = .cmyk := by
  cases space <;> simp_all [Space.channels?]

/-- The layout in which a space is written has the space's channels, and is that of four
components exactly for these. -/
theorem Space.bands_of_writerMode? {space : Space} {mode : Mode} {n : Nat}
    (hmode : space.writerMode? = some mode) (hn : space.channels? = some n) :
    mode.bands = n ∧ (mode = .cmyk ↔ space = .cmyk) := by
  cases space <;> simp_all [Space.writerMode?, Space.channels?] <;> subst_vars <;> decide

/-- The same format with its samples as they are. -/
def PixelFormat.natural (f : PixelFormat) : PixelFormat :=
  { f with flavor := .natural }

/-- A plan depends on the spaces of formats, and not on the sense of their samples. -/
theorem Plan.build_natural (f g : PixelFormat) (input : Profile) (output proof : Option Profile)
    (r : Rendering) : Plan.build f.natural.fields g.natural.fields input output proof r
      = Plan.build f.fields g.fields input output proof r := rfl

/-! ## Pixels of the source and of the destination -/

/-- A pixel of the source as it is decoded. -/
def Reader.pixelAt (r : Reader) (x y : Nat) : List UInt8 :=
  Rows.pixelAt r.components r.width.toNat r.decoded x y

/-- A pixel of the source as it enters the plan: complemented if it is one of four components and
no marker announces a colour transform. -/
def Reader.entering (r : Reader) (x y : Nat) : List UInt8 :=
  if r.picture.mode = .cmyk ∧ r.color.hasAdobe = false then Rows.invert (r.pixelAt x y)
  else r.pixelAt x y

/-- A pixel of the picture that is handed to the encoder. -/
def EncodeJob.pixelAt (j : EncodeJob) (x y : Nat) : List UInt8 :=
  Rows.pixelAt j.mode.bands j.width.toNat j.samples x y

/-- A pixel that reaches the encoder is that of a row of the writer, complemented for four
components. -/
theorem Writer.pixelAt_job {w : Writer}
    (hrows : ∀ row ∈ w.rows, row.length = w.width.toNat * w.mode.bands) {x y : Nat}
    (hx : x < w.width.toNat) (hy : y < w.rows.length) (options : SaveOptions) :
    (w.job options).pixelAt x y
      = if w.mode = .cmyk then
          Rows.invert (((w.rows.getD y []).drop (x * w.mode.bands)).take w.mode.bands)
        else ((w.rows.getD y []).drop (x * w.mode.bands)).take w.mode.bands := by
  show Rows.pixelAt w.mode.bands w.width.toNat w.encoderRows.flatten x y = _
  rw [Rows.pixelAt_flatten (w.length_of_mem_encoderRows hrows) hx
    (by rw [length_encoderRows]; exact hy), getD_encoderRows]
  split
  · rw [Rows.take_drop_invert]
  · rfl

section Source

variable {path : Path} {p : Picture} {markers : List Marker} {resolution : Resolution}

/-- The format of the rows of a source is that of four components exactly if the picture is. -/
theorem Reader.space_eq_cmyk {f : PixelFormat}
    (h : (Reader.ofPicture path p markers resolution).color.inputFormat = .ok f) :
    f.space = .cmyk ↔ p.mode = .cmyk := by
  obtain ⟨n, hn, hcomponents, -⟩ := SourceColor.inputFormat_ok h
  have hbands : (p.mode.bands : Int) = n := hcomponents p.mode.bands rfl
  rw [← Mode.bands_eq_four]
  constructor
  · intro hf
    rw [hf] at hn
    simp only [Space.channels?, Option.some.injEq] at hn
    omega
  · intro hfour
    exact Space.channels?_eq_four (by rw [hn]; congr 1; omega)

/-- Preparing turns no picture into one of four components, nor one of these into another. -/
theorem Reader.mode_facts_eq_cmyk :
    (Reader.ofPicture path p markers resolution).facts.mode = .cmyk ↔ p.mode = .cmyk := by
  unfold Reader.facts Reader.prepared
  split
  · rename_i hfax
    have hmode : p.mode = .rgb := hfax.2
    simp [hmode]
  · rfl

/-- The complement of the source and that of the input format cancel for marked sources. -/
theorem Reader.settle_decoded {f : PixelFormat}
    (h : (Reader.ofPicture path p markers resolution).color.inputFormat = .ok f) (x y : Nat) :
    let r := Reader.ofPicture path p markers resolution
    f.fields.settlePixel
        (if r.facts.mode = .cmyk then Rows.invert (r.pixelAt x y) else r.pixelAt x y)
      = r.entering x y := by
  intro r
  obtain ⟨n, -, -, hf⟩ := SourceColor.inputFormat_ok h
  have hspace := Reader.space_eq_cmyk h
  have hinverted : f.fields.isInverted = true ↔ p.mode = .cmyk ∧ r.color.hasAdobe = true := by
    rw [hf, ← hspace]
    by_cases hmarked : f.space = .cmyk ∧ r.color.hasAdobe = true
    · simp [FormatFields.isInverted, PixelFormat.fields, hmarked, r]
    · simp [FormatFields.isInverted, PixelFormat.fields, hmarked, r]
  unfold FormatFields.settlePixel Reader.entering
  have hmode : r.picture.mode = p.mode := rfl
  have hdecoded : r.facts.mode = .cmyk ↔ p.mode = .cmyk := Reader.mode_facts_eq_cmyk
  simp only [hmode, hdecoded]
  by_cases hcmyk : p.mode = .cmyk
  · cases hadobe : r.color.hasAdobe with
    | true => simp [hinverted, hcmyk, hadobe]
    | false => simp [hinverted, hcmyk, hadobe]
  · simp [hinverted, hcmyk]

end Source

/-- The complement of the output format and that of the writer cancel. -/
theorem Writer.encode_settled {f : PixelFormat} {space : Option Space} {planar : Bool}
    (h : outputFormat space planar Writer.invertsCmyk = .ok f) {w : Writer}
    (hmode : w.mode = .cmyk ↔ f.space = .cmyk) (pixel : List UInt8) :
    (if w.mode = .cmyk then Rows.invert (f.fields.settlePixel pixel)
      else f.fields.settlePixel pixel) = pixel := by
  obtain ⟨t, n, -, -, rfl⟩ := outputFormat_ok h
  by_cases hcmyk : w.mode = .cmyk
  · have ht : t = .cmyk := hmode.mp hcmyk
    simp [FormatFields.settlePixel, FormatFields.isInverted, PixelFormat.fields, hcmyk, ht,
      Writer.invertsCmyk]
  · have ht : t ≠ .cmyk := fun h => hcmyk (hmode.mpr h)
    simp [FormatFields.settlePixel, FormatFields.isInverted, PixelFormat.fields, hcmyk, ht]

/-! ## The picture that is encoded -/

namespace Conversion

/-- A picture for the encoder that shows a source through one map of single pixels. -/
structure Shows (job : EncodeJob) (reader : Reader) (map : List UInt8 → List UInt8) : Prop where
  width : job.width = reader.width
  height : job.height = reader.height
  /-- There are samples for all pixels and no others. -/
  complete : job.samples.length = job.height.toNat * (job.width.toNat * job.mode.bands)
  /-- The samples of the source are those of its pixels, too. -/
  decoded : 0 < reader.height →
    reader.decoded.length = reader.height.toNat * (reader.width.toNat * reader.components)
  pixels : ∀ x y : Nat, (x : Int) < reader.width → (y : Int) < reader.height →
    job.pixelAt x y = map (reader.entering x y)

variable {c : Config} {input output : Path} {s : Services} {w w' : World}

/-- The formats that a request is resolved to suit the source and a writer for its size. -/
theorem suits_of_resolve {path : Path} {p : Picture} {markers : List Marker}
    {resolution : Resolution} {request : Request} {r : Resolved} {out : Path} {quality : Value}
    {writer : Writer}
    (h : (request.resolve (Reader.ofPicture path p markers resolution).color
      Writer.invertsCmyk).run s w = (.ok r, w'))
    (hwriter : Writer.create out p.width p.height r.outputSpace quality = .ok writer) :
    r.transform.Suits (Reader.ofPicture path p markers resolution) writer
      ∧ (writer.mode = .cmyk ↔ r.outputFormat.space = .cmyk) := by
  obtain ⟨w₁, w₂, hin, -, -, -, hout, -, -⟩ := Request.resolve_ok h
  obtain ⟨n, hn, hcomponents, hf⟩ := SourceColor.inputFormat_ok hin
  obtain ⟨t, m, -, hm, hg⟩ := outputFormat_ok hout
  obtain ⟨-, hwidth, -, -, hmode, -, -⟩ := Writer.create_ok hwriter
  have hspace : r.outputFormat.space = t := by rw [hg]
  obtain ⟨hbands, hcmyk⟩ :=
    Space.bands_of_writerMode? hmode (by rw [Resolved.outputSpace, hspace, hm])
  refine ⟨⟨hwidth, ?_, ?_, ?_, ?_⟩, hcmyk⟩
  · show r.inputFormat.fields.bytesPerSample = 1
    rw [hf]
    rfl
  · show r.outputFormat.fields.bytesPerSample = 1
    rw [hg]
    rfl
  · have hcount : (p.mode.bands : Int) = n := hcomponents p.mode.bands rfl
    show r.inputFormat.fields.samplesPerPixel = (p.mode.bands : Int)
    rw [hf, hcount]
    simp [FormatFields.samplesPerPixel, PixelFormat.fields]
  · show r.outputFormat.fields.samplesPerPixel = (writer.mode.bands : Int)
    rw [hg, hbands]
    simp [FormatFields.samplesPerPixel, PixelFormat.fields]

section Shown

variable {reader : Reader} {t : Transform} {writer : Writer}

/-- Rows that are images of the rows of a source have the length of the writer's rows. -/
theorem length_of_images (h₀ : reader.rows = none) (hwidth : 0 ≤ reader.width)
    (hexact : t.IsExact) (hsuits : t.Suits reader writer)
    (hcount : (writer.rows.length : Int) = reader.height)
    (himages : ∀ y : Nat, (y : Int) < reader.height → ∃ row, reader.sourceRow y = .ok row
      ∧ t.image row = .ok (writer.rows.getD y [])) :
    ∀ row ∈ writer.rows, row.length = reader.width.toNat * writer.mode.bands := by
  intro row hrow
  obtain ⟨y, hy, rfl⟩ := List.getElem_of_mem hrow
  have hrange : (y : Int) < reader.height := by omega
  obtain ⟨source, hsource, himage⟩ := himages y hrange
  have hsame : writer.rows.getD y [] = writer.rows[y] := by
    simp [List.getD_eq_getElem?_getD, List.getElem?_eq_getElem hy]
  rw [← hsame, Transform.length_image hexact himage,
    Reader.length_of_sourceRow h₀ hwidth hrange hsource, hsuits.imageLength_eq hwidth,
    Writer.toNat_rowLength (hsuits.width ▸ hwidth), hsuits.width]
  rfl

/-- A pixel of a row of the source is the decoded pixel, complemented for four components. -/
theorem pixel_of_sourceRow (h₀ : reader.rows = none) (hwidth : 0 ≤ reader.width) {x y : Nat}
    (hx : (x : Int) < reader.width) (hy : (y : Int) < reader.height) {row : List UInt8}
    (hrow : reader.sourceRow y = .ok row) :
    (row.drop (x * reader.components)).take reader.components
      = if reader.facts.mode = .cmyk then Rows.invert (reader.pixelAt x y)
        else reader.pixelAt x y := by
  have hpixel : reader.pixelAt x y
      = ((reader.piece y).drop (x * reader.components)).take reader.components := by
    rw [Reader.pixelAt, Rows.pixelAt_eq _ _ _ (by omega : x < reader.width.toNat), Reader.piece,
      Reader.rowSamples_eq hwidth]
  rw [(Reader.sourceRow_ok h₀ hwidth hy hrow).2, hpixel]
  split
  · rw [Rows.take_drop_invert]
  · rfl

/-- If the complements of the source and the input format leave what enters the map, and those of
the output format and the writer cancel, then the picture of a writer whose rows are the images of
the rows of a source shows the source through the map of single pixels. -/
theorem shows_of_images {map : List UInt8 → List UInt8} (h₀ : reader.rows = none)
    (hwidth : 0 ≤ reader.width) (hexact : t.IsExact)
    (hmap : ∀ b result, t.convert b = .ok result → result.rows = b.rows.map map)
    (henter : ∀ x y, t.inputFormat.settlePixel (if reader.facts.mode = .cmyk
      then Rows.invert (reader.pixelAt x y) else reader.pixelAt x y) = reader.entering x y)
    (hleave : ∀ pixel, (if writer.mode = .cmyk then Rows.invert (t.outputFormat.settlePixel pixel)
      else t.outputFormat.settlePixel pixel) = pixel)
    (hsuits : t.Suits reader writer) (hheight : writer.height = reader.height)
    (hcount : (writer.rows.length : Int) = reader.height)
    (himages : ∀ y : Nat, (y : Int) < reader.height → ∃ row, reader.sourceRow y = .ok row
      ∧ t.image row = .ok (writer.rows.getD y []))
    (options : SaveOptions) : Shows (writer.job options) reader map := by
  have hrows : ∀ row ∈ writer.rows, row.length = writer.width.toNat * writer.mode.bands := by
    rw [hsuits.width]
    exact length_of_images h₀ hwidth hexact hsuits hcount himages
  refine ⟨hsuits.width, hheight, ?_, ?_, ?_⟩
  · have hall : writer.rows.length = writer.height.toNat := by omega
    rw [Writer.length_samples_job hrows, hall]
    rfl
  · intro hpositive
    obtain ⟨row, hsource, -⟩ := himages 0 hpositive
    rw [(Reader.sourceRow_ok h₀ hwidth hpositive hsource).1, Reader.rowSamples_eq hwidth]
  · intro x y hx hy
    obtain ⟨row, hsource, himage⟩ := himages y hy
    have hinput : t.inputFormat.samplesPerPixel.toNat = reader.components := by
      rw [hsuits.input, Int.toNat_natCast]
    have houtput : t.outputFormat.samplesPerPixel.toNat = writer.mode.bands := by
      rw [hsuits.output, Int.toNat_natCast]
      rfl
    have hcolumn : x < row.length / reader.components := by
      have hpositive : 0 < reader.components := Mode.bands_pos _
      rw [Reader.length_of_sourceRow h₀ hwidth hy hsource, Reader.rowSamples_eq hwidth,
        Nat.mul_div_cancel _ hpositive]
      omega
    have hpixel := Transform.pixel_of_image hexact hmap himage (x := x)
    simp only [hinput, houtput] at hpixel
    calc (writer.job options).pixelAt x y
        = if writer.mode = .cmyk then
            Rows.invert (((writer.rows.getD y []).drop (x * writer.mode.bands)).take
              writer.mode.bands)
          else ((writer.rows.getD y []).drop (x * writer.mode.bands)).take writer.mode.bands :=
        Writer.pixelAt_job hrows (by rw [hsuits.width]; omega) (by omega) options
      _ = map (t.inputFormat.settlePixel
            ((row.drop (x * reader.components)).take reader.components)) := by
        rw [hpixel hcolumn]
        exact hleave _
      _ = map (reader.entering x y) := by
        rw [pixel_of_sourceRow h₀ hwidth hx hy hsource, henter]

end Shown

/-- A conversion that succeeds hands one picture to the encoder, of the size of the picture that
the codec found in the source. Each of its pixels is what the plan makes of the source's pixel in
the same place, as it enters the plan; and the plan is the one that is built for formats of
samples that are not inverted. -/
theorem shows_of_run {report : Report} (hengine : s.engine.KeepsLayouts)
    (h : (Conversion.run c input output).run s w = (.ok report, w'))
    (hsucceeded : report.succeeded = true) :
    ∃ content p markers resolution request r job w₁ w₂,
      let source := Reader.ofPicture input p markers resolution
      w.files.read input = .ok content ∧ s.codec.identify input content = some p
      ∧ (Reader.openFile input).run s w = (.ok source, w₁)
      ∧ c.request = .ok request
      ∧ (request.resolve source.color Writer.invertsCmyk).run s w₁ = (.ok r, w₂)
      ∧ (∃ v, (Plan.build r.inputFormat.natural.fields r.outputFormat.natural.fields r.inputProfile
          r.outputProfile r.proofProfile request.rendering).run s v = (.ok r.plan, w₂))
      ∧ w'.jobs = w.jobs ++ [job] ∧ Shows job source r.plan.pixel := by
  obtain ⟨reader, r, n, w₁, w₂, hopen, hresolve, htransfer⟩ := run_ok h hsucceeded
  obtain ⟨content, p, markers, resolution, hread, hp, rfl⟩ := Reader.openFile_ok hopen
  obtain ⟨request, hrequest, hresolved⟩ := resolve_ok hresolve
  obtain ⟨writer, s', hwriter, hrun⟩ := transfer_ok htransfer
  obtain ⟨v₁, v₂, hin, -, -, -, hout, hbuild, -⟩ := Request.resolve_ok hresolved
  obtain ⟨hsuits, hcmyk⟩ := suits_of_resolve hresolved hwriter
  obtain ⟨-, -, hheight, hrows, -, hnonneg, hcolumns⟩ := Writer.create_ok hwriter
  have hexact : r.transform.IsExact := Resolved.isExact_of_resolve hengine hresolved
  obtain ⟨hfacts, hcount, himages, options, hjobs⟩ := Scanline.images_of_run rfl rfl hrows hheight
    hnonneg hcolumns hexact hsuits hrun
  have hmode : s'.writer.mode = writer.mode := Writer.mode_eq_of_facts hfacts
  have hsuits' : r.transform.Suits (Reader.ofPicture input p markers resolution) s'.writer :=
    { width := (Writer.width_eq_of_facts hfacts).trans hsuits.width
      inputBytes := hsuits.inputBytes
      outputBytes := hsuits.outputBytes
      input := hsuits.input
      output := by
        rw [Writer.components, hmode]
        exact hsuits.output }
  have hmap : ∀ b result, r.transform.convert b = .ok result →
      result.rows = b.rows.map r.plan.pixel := fun _ _ => Plan.rows_transform
  refine ⟨content, p, markers, resolution, request, r, s'.writer.job options, w₁, w₂, hread, hp,
    hopen, hrequest, hresolved, ⟨v₂, ?_⟩, ?_, ?_⟩
  · rw [Plan.build_natural]
    exact hbuild
  · rw [hjobs, (leaves_jobs_resolve c _).apply hresolve,
      (Reader.leaves_jobs_openFile input).apply hopen]
  · exact shows_of_images rfl hcolumns hexact hmap (Reader.settle_decoded hin)
      (Writer.encode_settled hout (by rw [hmode]; exact hcmyk)) hsuits'
      ((Writer.height_eq_of_facts hfacts).trans hheight) hcount himages options

end Conversion

/-- The engine of plain arithmetic gives pixels of the layout that it is asked for. -/
theorem ArithmeticEngine.keepsLayouts : ArithmeticEngine.engine.KeepsLayouts := by
  intro request map h
  have hbuild : ArithmeticEngine.build request = .ok map := h
  unfold ArithmeticEngine.build at hbuild
  split at hbuild
  · simp only [Except.ok.injEq] at hbuild
    rw [← hbuild]
    rfl
  · simp at hbuild

/-! ## Two rows of two pixels -/

/-- A picture of four different pixels in two rows, each of four components, without a marker of a
colour transform. -/
def sheet : Picture :=
  { mode := .cmyk, width := 2, height := 2
    samples := [0, 10, 20, 30, 1, 11, 21, 31, 2, 12, 22, 32, 3, 13, 23, 33] }

/-- An engine of plain arithmetic and a codec that knows that picture. -/
def sheetServices : Services :=
  { engine := ArithmeticEngine.engine, codec := Codec.ofPictures [("in.jpg", sheet)] none }

/-- The data of a printer profile for four components. -/
def pressData : Bytes :=
  headerOf "prtrCMYKLab "

/-- A folder with the file of that picture and the printer profile. -/
def sheetWorld : World :=
  { files := { nodes := [(["in.jpg"], .file [0xFF, 0xD8]), (["press.icc"], .file pressData)] } }

/-- A configuration that asks for the printer profile at both ends. -/
def sheetConfig : Config :=
  { profiles := { input := .text "press.icc", output := .text "press.icc" } }

/-- The request of that configuration. -/
def sheetRequest : Request :=
  { input := .named "press.icc", output := .named "press.icc" }

/-- The reader of that picture. -/
def sheetReader : Reader :=
  Reader.ofPicture { parts := ["in.jpg"] } sheet [] {}

/-- The writer for a picture of its size. -/
def sheetWriter : Writer :=
  { path := { parts := ["out.jpg"] }, width := 2, height := 2, mode := .cmyk, quality := .int 75 }

/-- The printer profile. -/
def pressIcc : IccProfile :=
  { source := .data pressData, name := "press.icc", path := some { parts := ["press.icc"] }
    space := some .cmyk, pcs := some .lab, deviceClass := .output }

/-- What the engine is asked for: a transform from the printer profile to itself. -/
def pressRequest : BuildRequest :=
  { input := pressIcc.source, output := pressIcc.source, inputMode := .cmyk, outputMode := .cmyk
    intent := .perceptual, flags := { word := 0 } }

/-- The transform between the printer profile and itself, from natural samples to inverted ones. -/
def sheetResolved : Resolved where
  plan := .direct ⟨pressRequest, ArithmeticEngine.pixelMap .cmyk⟩
  inputFormat := { space := .cmyk, channels := 4 }
  outputFormat := { space := .cmyk, channels := 4, flavor := .inverted }
  inputProfile := .icc pressIcc
  outputProfile := some (.icc pressIcc)

/-- What the run over that picture is started with. -/
def sheetSetup : Setup :=
  { transform := sheetResolved.transform, space := some sheetResolved.outputSpace }

/-- The run over that picture once it is started. -/
def sheetStarted : Scanline :=
  (({ reader := sheetReader, writer := sheetWriter } : Scanline).start sheetSetup).2

/-- The run over that picture when all steps are taken. -/
def sheetRun : Scanline :=
  (sheetStarted.steps 3).2

set_option maxRecDepth 4000 in
/-- The printer profile opens. -/
theorem pressIcc_ok : IccProfile.ofBytes ArithmeticEngine.engine pressData "press.icc"
    (some { parts := ["press.icc"] }) = .ok pressIcc := by
  rfl

/-- The system takes the name of the printer profile. -/
theorem isPlain_press : FileTree.IsPlain "press.icc" := by decide +kernel

namespace Conversion

/-- The request for the printer profile is resolved to the transform between it and itself. The
profile is read twice, once for each end. -/
theorem resolve_sheet {w : World} (hfiles : w.files = sheetWorld.files) :
    (sheetRequest.resolve sheetReader.color Writer.invertsCmyk).run sheetServices w
      = (.ok sheetResolved, ((w.note (.read { parts := ["press.icc"] })).note
        (.read { parts := ["press.icc"] })).note (.requested pressRequest)) := by
  have hopen {w : World} (hfiles : w.files = sheetWorld.files) :
      (Profile.openNamed "press.icc").run sheetServices w
        = (.ok pressIcc, w.note (.read { parts := ["press.icc"] })) := by
    have hname : Path.name { parts := ["press.icc"] } = "press.icc" := rfl
    have hengine : sheetServices.engine = ArithmeticEngine.engine := rfl
    show (Profile.ofFile { parts := ["press.icc"] }).run _ _ = _
    rw [Profile.run_ofFile (FileTree.read_name isPlain_press (by rw [hfiles]; rfl)), hname, hengine,
      pressIcc_ok]
  have hchosen : (sheetRequest.chosenInput sheetResolved.inputFormat).run sheetServices w
      = (.ok (.icc pressIcc), w.note (.read { parts := ["press.icc"] })) := by
    show (Profile.openNamed "press.icc" >>= _).run _ _ = _
    rw [Work.run_bind_of_ok (hopen hfiles)]
    rfl
  have hinput : (sheetRequest.resolveInput sheetReader.color sheetResolved.inputFormat).run
      sheetServices w
        = (.ok (.icc pressIcc, false), w.note (.read { parts := ["press.icc"] })) := by
    show (sheetRequest.chosenInput _ >>= _).run _ _ = _
    rw [Work.run_bind_of_ok hchosen]
    rfl
  have hothers {w : World} (hfiles : w.files = sheetWorld.files) :
      (sheetRequest.resolveOthers sheetResolved.inputProfile).run sheetServices w
        = (.ok (some (.icc pressIcc), none), w.note (.read { parts := ["press.icc"] })) :=
    Request.run_resolveOthers rfl rfl rfl (hopen hfiles)
  rw [Request.run_resolve_of_profiles _ rfl hinput (hothers hfiles)]
  rfl

/-- The rows of that picture are taken through in any world without a file of the destination's
name; the destination's file is there afterwards. -/
theorem exists_transfer_sheet {w : World} (hfree : w.files.nodes.lookup ["out.jpg"] = none) :
    ∃ w' content, (transfer sheetConfig sheetReader { parts := ["out.jpg"] } sheetResolved).run
        sheetServices w = (.ok 2, w')
      ∧ w'.files = w.files.put ["out.jpg"] (.file content) := by
  obtain ⟨w', content, hencode, hfiles⟩ : ∃ w' content,
      (Work.encode ((sheetRun.writer.addMarkers []).job
        { quality := .int 75, fullChroma := true })).run sheetServices
          (w.note (.closed { parts := ["in.jpg"] })) = (.ok (), w')
      ∧ w'.files = w.files.put ["out.jpg"] (.file content) :=
    ⟨_, _, Work.run_encode_ok_iff.mpr ⟨_, _, rfl, FileTree.write_name isPlain_out _
      (by simp [World.note, hfree]), rfl⟩, rfl⟩
  have hwriter : Writer.create { parts := ["out.jpg"] } sheetReader.width sheetReader.height
      sheetResolved.outputSpace sheetConfig.output.quality = .ok sheetWriter := rfl
  have hstart : ({ reader := sheetReader, writer := sheetWriter } : Scanline).start sheetSetup
      = (.ok (), sheetStarted) := rfl
  have hsteps : sheetStarted.steps 3 = (.ok (), sheetRun) := rfl
  have hrun := Scanline.run_of_encode hstart hsteps rfl rfl rfl rfl rfl hencode
  exact ⟨w', content, run_transfer hwriter hrun, hfiles⟩

/-- The conversion of a picture of four unmarked pixels in two rows: each pixel of the result is
the complemented pixel in the same place, as the engine maps it. -/
theorem shows_sheet : ∃ report w' job,
    (run sheetConfig { parts := ["in.jpg"] } { parts := ["out.jpg"] }).run sheetServices sheetWorld
      = (.ok report, w') ∧ report.succeeded = true ∧ w'.jobs = [job]
    ∧ Shows job sheetReader sheetResolved.plan.pixel
    ∧ sheetReader.entering 1 0 = [254, 244, 234, 224]
    ∧ [job.pixelAt 0 0, job.pixelAt 1 0] = [[63, 80, 97, 114], [53, 70, 87, 104]]
    ∧ [job.pixelAt 0 1, job.pixelAt 1 1] = [[43, 60, 77, 94], [33, 50, 67, 84]] := by
  let w₁ : World := (sheetWorld.note (.read { parts := ["in.jpg"] })).note
    (.opened { parts := ["in.jpg"] })
  have hcontent : sheetWorld.files.read { parts := ["in.jpg"] } = .ok [0xFF, 0xD8] :=
    FileTree.read_name isPlain_in rfl
  have hopen : (Reader.openFile { parts := ["in.jpg"] }).run sheetServices sheetWorld
      = (.ok sheetReader, w₁) :=
    Reader.run_openFile hcontent rfl rfl rfl rfl
  have hinput : (Work.fileSize { parts := ["in.jpg"] }).run sheetServices w₁ = (.ok 2, w₁) :=
    Work.run_fileSize_ok_iff.mpr ⟨⟨_, hcontent, rfl⟩, rfl⟩
  have hresolve := resolve_sheet (w := w₁) rfl
  obtain ⟨w', content, htransfer, hfiles⟩ := exists_transfer_sheet (w := ((w₁.note
    (.read { parts := ["press.icc"] })).note (.read { parts := ["press.icc"] })).note
      (.requested pressRequest)) rfl
  have houtput := Work.run_fileSize_ok_iff (s := sheetServices).mpr
    ⟨⟨content, FileTree.read_name isPlain_out (by rw [hfiles]; rfl), rfl⟩, rfl⟩
  obtain ⟨report, hreport, hsucceeded⟩ :=
    exists_run (c := sheetConfig) (by rfl) hopen hinput hresolve htransfer houtput
  obtain ⟨-, p, markers, resolution, request, r, job, w₂, w₃, -, -, hopen', hrequest, hresolve',
    -, hjobs, hshows⟩ := shows_of_run ArithmeticEngine.keepsLayouts hreport hsucceeded
  -- the reader and the transform of the general statement are those that were just run
  obtain ⟨hreader, rfl⟩ := Prod.mk.inj (hopen'.symm.trans hopen)
  rw [Except.ok.inj hreader] at hresolve' hshows
  obtain rfl : request = sheetRequest := Except.ok.inj (hrequest.symm.trans rfl)
  obtain rfl : r = sheetResolved :=
    Except.ok.inj (congrArg Prod.fst (hresolve'.symm.trans hresolve))
  have hpixel (x y : Nat) (hx : x < 2) (hy : y < 2) :
      job.pixelAt x y = sheetResolved.plan.pixel (sheetReader.entering x y) :=
    hshows.pixels x y (Int.ofNat_lt.mpr hx) (Int.ofNat_lt.mpr hy)
  refine ⟨report, w', job, hreport, hsucceeded, hjobs, hshows, by decide +kernel, ?_, ?_⟩
  · rw [hpixel 0 0 (by decide) (by decide), hpixel 1 0 (by decide) (by decide)]
    decide +kernel
  · rw [hpixel 0 1 (by decide) (by decide), hpixel 1 1 (by decide) (by decide)]
    decide +kernel

end Conversion

end Recolor
