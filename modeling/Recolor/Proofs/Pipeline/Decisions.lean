import Recolor.Cms.Arithmetic
import Recolor.Proofs.Pipeline.Origin
import Recolor.Proofs.Profile.Installed

/-!
# What a built transform was decided on

A request that is resolved comes with all decisions that led to its transform.
`decided_of_resolve` says what each of them is, for every request, source and content of the
files: which origin the input profile was opened from, when there is no output profile, which
format the destination's rows have, and which profile is embedded. The last two rest on what is
known of formats made for a space and of profiles opened from files.
-/

set_option autoImplicit false

namespace Recolor

/-- The format of a space has its canonical channels, of one byte each, and no others. -/
theorem PixelFormat.ofSpace_ok {space : Space} {flavor : Flavor} {planar : Bool} {f : PixelFormat}
    (h : PixelFormat.ofSpace space flavor planar = .ok f) :
    ∃ n, space.channels? = some n
      ∧ f = { space, channels := n, extra := 0, bytesPerSample := 1, planar, flavor } := by
  unfold PixelFormat.ofSpace Space.channels at h
  cases hn : space.channels? with
  | none => simp [hn] at h
  | some n =>
    simp only [hn, Except.ok.injEq] at h
    exact ⟨n, rfl, h.symm⟩

/-- The destination's format is that of the target space, inverted for four components if the
writer announces so. -/
theorem outputFormat_ok {space : Option Space} {planar invertsCmyk : Bool} {f : PixelFormat}
    (h : outputFormat space planar invertsCmyk = .ok f) :
    ∃ t n, space = some t ∧ t.channels? = some n
      ∧ f = { space := t, channels := n, extra := 0, bytesPerSample := 1, planar
              flavor := if t = .cmyk ∧ invertsCmyk then .inverted else .natural } := by
  cases space with
  | none => simp [outputFormat] at h
  | some t =>
    obtain ⟨n, hn, hf⟩ := PixelFormat.ofSpace_ok h
    exact ⟨t, n, rfl, hn, hf⟩

/-- What opening profile data gives: the data itself, under the name and path it was given, with
the spaces and the class of its header. -/
theorem IccProfile.ofBytes_ok {engine : ColorEngine} {data : Bytes} {name : String}
    {path : Option Path} {p : IccProfile}
    (h : IccProfile.ofBytes engine data name path = .ok p) :
    p.source = .data data ∧ p.path = path ∧ ∃ header, Header.parse data = .ok header
      ∧ p.space = header.space ∧ p.pcs = header.pcs ∧ p.deviceClass = header.deviceClass := by
  unfold IccProfile.ofBytes at h
  cases hheader : Header.parse data with
  | error e => simp [hheader] at h
  | ok header =>
    simp only [hheader] at h
    split at h
    · split at h <;> simp at h
    · split at h
      · simp at h
      · simp only [Except.ok.injEq] at h
        subst h
        exact ⟨rfl, rfl, header, rfl, rfl, rfl, rfl⟩

/-- The built-in display profile comes from no file, and is no device link. -/
theorem IccProfile.srgb_ok {engine : ColorEngine} {p : IccProfile}
    (h : IccProfile.srgb engine = .ok p) :
    p.source = .srgb ∧ p.path = none ∧ p.space = some .rgb ∧ p.deviceClass = .display := by
  unfold IccProfile.srgb at h
  split at h
  · simp at h
  · simp only [Except.ok.injEq] at h
    subst h
    exact ⟨rfl, rfl, rfl, rfl⟩

section Decisions

variable {r : Request} {source : SourceColor} {invertsCmyk : Bool} {s : Services} {w w' : World}

/-- An output profile with a path was read from the file that the reference names. -/
theorem Request.path_of_resolveOutput {p : IccProfile} {path : Path}
    (h : r.resolveOutput.run s w = (.ok (.icc p), w')) (hpath : p.path = some path) :
    ∃ name data, r.output = .named name ∧ path = Path.ofString name
      ∧ w.files.read path = .ok data ∧ p.source = .data data := by
  unfold Request.resolveOutput at h
  split at h
  · simp only [Work.run_bind_ok_iff, Work.run_pure, Prod.mk.injEq, Except.ok.injEq,
      reduceCtorEq, false_and, and_false, exists_false] at h
  · simp only [Work.run_bind_ok_iff, Work.run_pure, Prod.mk.injEq, Except.ok.injEq,
      Profile.icc.injEq] at h
    obtain ⟨q, w₁, hopen, rfl, rfl⟩ := h
    cases houtput : r.output with
    | unset =>
      rw [houtput] at hopen
      obtain ⟨-, hq⟩ := Profile.openSrgb_ok hopen
      rw [(IccProfile.srgb_ok hq).2.1] at hpath
      simp at hpath
    | invalid v => simp [houtput, Reference.openProfile] at hopen
    | named name =>
      rw [houtput] at hopen
      obtain ⟨-, -, hq⟩ := Profile.openNamed_ok hopen
      split at hq
      · rw [(IccProfile.srgb_ok hq).2.1] at hpath
        simp at hpath
      · obtain ⟨data, hdata, hq⟩ := hq
        obtain ⟨hsource, hp, -⟩ := IccProfile.ofBytes_ok hq
        rw [hp, Option.some.injEq] at hpath
        subst hpath
        exact ⟨name, data, rfl, rfl, hdata, hsource⟩

/-- A device link takes no other profiles; any other input profile takes an output profile. -/
theorem Request.resolveOthers_ok {input : Profile} {output proof : Option Profile}
    (h : (r.resolveOthers input).run s w = (.ok (output, proof), w')) :
    (output = none ↔ input.isLink = true)
      ∧ ∀ p, output = some p → ∃ w₁, r.resolveOutput.run s w = (.ok p, w₁) := by
  unfold Request.resolveOthers at h
  cases hlink : input.isLink with
  | true =>
    simp only [hlink, if_true, Work.run_pure, Prod.mk.injEq, Except.ok.injEq] at h
    obtain ⟨⟨rfl, rfl⟩, -⟩ := h
    simp
  | false =>
    simp only [hlink, Bool.false_eq_true, if_false, Work.run_bind_ok_iff, Work.run_pure,
      Prod.mk.injEq, Except.ok.injEq] at h
    obtain ⟨p, w₁, hp, q, w₂, -, ⟨rfl, rfl⟩, -⟩ := h
    refine ⟨by simp, ?_⟩
    intro p' hp'
    cases hp'
    exact ⟨w₁, hp⟩

/-- An output profile that opens is the only other profile of a request that asks for none to proof
against. -/
theorem Request.run_resolveOthers {input : Profile} {p : IccProfile} (hinput : input.isLink = false)
    (hstock : r.output.isStock Stock.lab = false) (hproof : r.proof.isUnset = true)
    (hopen : r.output.openProfile.run s w = (.ok p, w')) :
    (r.resolveOthers input).run s w = (.ok (some (.icc p), none), w') := by
  have houtput : r.resolveOutput.run s w = (.ok (.icc p), w') := by
    rw [Request.resolveOutput, hstock, if_neg Bool.false_ne_true, Work.run_bind_of_ok hopen,
      Work.run_pure]
  rw [Request.resolveOthers, hinput, if_neg Bool.false_ne_true, Work.run_bind_of_ok houtput,
    Request.resolveProof, if_pos hproof]
  rfl

/-- The steps of a request that is resolved, each in the world that the one before it left. -/
theorem Request.resolve_ok {d : Resolved}
    (h : (r.resolve source invertsCmyk).run s w = (.ok d, w')) :
    ∃ w₁ w₂, source.inputFormat = .ok d.inputFormat
      ∧ (r.resolveInput source d.inputFormat).run s w = (.ok (d.inputProfile, d.usedEmbedded), w₁)
      ∧ (r.resolveOthers d.inputProfile).run s w₁ = (.ok (d.outputProfile, d.proofProfile), w₂)
      ∧ d.inputProfile.space = some d.inputFormat.space
      ∧ outputFormat (Request.targetSpace d.inputProfile d.outputProfile) d.inputFormat.planar
          invertsCmyk = .ok d.outputFormat
      ∧ (Plan.build d.inputFormat.fields d.outputFormat.fields d.inputProfile d.outputProfile
          d.proofProfile r.rendering).run s w₂ = (.ok d.plan, w')
      ∧ d.embedData = r.dataToEmbed d.outputProfile := by
  simp only [Request.resolve, Work.run_bind_ok_iff, Work.run_lift_ok_iff] at h
  obtain ⟨format, w₀, ⟨hformat, rfl⟩, ⟨input, used⟩, w₁, hinput, ⟨output, proof⟩, w₂, hothers,
    h⟩ := h
  by_cases hspace : input.space = some format.space
  · simp only [hspace, ne_eq, not_true_eq_false, if_false, Work.run_bind_ok_iff,
      Work.run_lift_ok_iff, Work.run_pure, Prod.mk.injEq, Except.ok.injEq] at h
    obtain ⟨outFormat, w₃, ⟨hout, rfl⟩, plan, w₄, hplan, rfl, rfl⟩ := h
    exact ⟨w₁, _, hformat, hinput, hothers, hspace, hout, hplan, rfl⟩
  · simp [hspace] at h

/-- The data of an output profile is embedded if that is asked for and the profile has a path. -/
theorem Request.dataToEmbed_eq_some_iff {output : Option Profile} {data : Bytes} :
    r.dataToEmbed output = some data ↔ r.embedProfile = true
      ∧ ∃ p path, output = some (.icc p) ∧ p.path = some path ∧ p.data? = some data := by
  unfold Request.dataToEmbed
  constructor
  · intro h
    split at h
    · rename_i p
      split at h
      · rename_i hcond
        rw [Bool.and_eq_true, Option.isSome_iff_exists] at hcond
        obtain ⟨hask, path, hpath⟩ := hcond
        exact ⟨hask, p, path, rfl, hpath, h⟩
      · simp at h
    · simp at h
  · rintro ⟨hask, p, path, rfl, hpath, hdata⟩
    simp [hask, hpath, hdata]

/-- What the decisions that come with a transform are, for a request and a source. -/
structure Decided (r : Request) (source : SourceColor) (invertsCmyk : Bool) (s : Services)
    (files : FileTree) (d : Resolved) : Prop where
  /-- The format is that of the source's rows. -/
  format : source.inputFormat = .ok d.inputFormat
  /-- The input profile is that of the origin which is decided on. -/
  input : (r.origin source d.inputFormat.space).Opens r s files d.inputProfile
  /-- It counts as embedded exactly if that is its origin. -/
  embedded : d.usedEmbedded = true ↔
    ∃ data, r.origin source d.inputFormat.space = .embedded data
  /-- Exactly a device link does without an output profile. -/
  output : d.outputProfile = none ↔ d.inputProfile.isLink = true
  /-- The destination's pixels are in the space that the profiles lead to. -/
  space : some d.outputFormat.space = d.outputProfile.elim d.inputProfile.pcs Profile.space
  /-- They have that space's canonical channels. -/
  channels : ∃ n, d.outputFormat.space.channels? = some n ∧ d.outputFormat.channels = n
  /-- They are inverted exactly if they have four components and the writer inverts these. -/
  inverted : d.outputFormat.isInverted = true ↔ d.outputFormat.space = .cmyk ∧ invertsCmyk = true
  /-- A profile is embedded exactly if that is asked for and the output profile has a file. -/
  embeds : d.embedData.isSome = true ↔ r.embedProfile = true
    ∧ ∃ p path, d.outputProfile = some (.icc p) ∧ p.path = some path
  /-- It is the output profile's data, read from the file that the request names. -/
  embedData : ∀ data, d.embedData = some data → ∃ p name, d.outputProfile = some (.icc p)
    ∧ p.source = .data data ∧ p.path = some (Path.ofString name) ∧ r.output = .named name

/-- Whatever a request is resolved to was decided on as stated: for every request, every source,
every writer and all content of the files. -/
theorem Request.decided_of_resolve {d : Resolved}
    (h : (r.resolve source invertsCmyk).run s w = (.ok d, w')) :
    Decided r source invertsCmyk s w.files d := by
  obtain ⟨w₁, w₂, hformat, hinput, hothers, -, hout, -, hembed⟩ := Request.resolve_ok h
  obtain ⟨hopens, hused⟩ := Request.opens_of_resolveInput hinput
  obtain ⟨hnone, houtput⟩ := Request.resolveOthers_ok hothers
  obtain ⟨t, n, ht, hn, hf⟩ := outputFormat_ok hout
  have hfile : ∀ p path, d.outputProfile = some (.icc p) → p.path = some path →
      ∃ name data, r.output = .named name ∧ path = Path.ofString name ∧ p.source = .data data := by
    intro p path hp hpath
    obtain ⟨w₃, hrun⟩ := houtput _ hp
    obtain ⟨name, data, hname, hpath, -, hsource⟩ := Request.path_of_resolveOutput hrun hpath
    exact ⟨name, data, hname, hpath, hsource⟩
  refine ⟨hformat, hopens, hused, hnone, ?_, ?_, ?_, ?_, ?_⟩
  · rw [hf, ← ht]
    cases d.outputProfile <;> rfl
  · rw [hf]
    exact ⟨n, hn, rfl⟩
  · rw [hf]
    by_cases hc : t = .cmyk ∧ invertsCmyk = true
    · simp [PixelFormat.isInverted, FormatFields.isInverted, PixelFormat.fields, hc]
    · simp [PixelFormat.isInverted, FormatFields.isInverted, PixelFormat.fields, hc]
  · rw [hembed, Option.isSome_iff_exists]
    constructor
    · rintro ⟨data, hdata⟩
      obtain ⟨hask, p, path, hp, hpath, -⟩ := Request.dataToEmbed_eq_some_iff.mp hdata
      exact ⟨hask, p, path, hp, hpath⟩
    · rintro ⟨hask, p, path, hp, hpath⟩
      obtain ⟨name, data, -, -, hsource⟩ := hfile p path hp hpath
      have hdata : p.data? = some data := by rw [IccProfile.data?, hsource]
      exact ⟨data, Request.dataToEmbed_eq_some_iff.mpr ⟨hask, p, path, hp, hpath, hdata⟩⟩
  · intro data hdata
    rw [hembed] at hdata
    obtain ⟨-, p, path, hp, hpath, hdata⟩ := Request.dataToEmbed_eq_some_iff.mp hdata
    obtain ⟨name, data', hname, rfl, hsource⟩ := hfile p path hp hpath
    rw [IccProfile.data?, hsource, Option.some.injEq] at hdata
    subst hdata
    exact ⟨p, name, hp, hsource, hpath, hname⟩

end Decisions

/-- A marked source of four components with a profile. -/
def embeddedSource : SourceColor :=
  { space := .cmyk, hasAdobe := true, embedded := some (headerOf "prtrCMYKLab ") }

/-- A request for nothing in particular is resolved to the embedded profile of a source. -/
theorem Request.decided_embedded :
    ∃ d w', (({} : Request).resolve embeddedSource true).run
        { engine := ArithmeticEngine.engine, codec := Codec.ofPictures [] none } {} = (.ok d, w')
      ∧ d.usedEmbedded = true
      ∧ Decided {} embeddedSource true
        { engine := ArithmeticEngine.engine, codec := Codec.ofPictures [] none } {} d := by
  have hused : ((({} : Request).resolve embeddedSource true).run
      { engine := ArithmeticEngine.engine, codec := Codec.ofPictures [] none } {}).1.toOption.map
        Resolved.usedEmbedded = some true := by decide +kernel
  cases h : (({} : Request).resolve embeddedSource true).run
      { engine := ArithmeticEngine.engine, codec := Codec.ofPictures [] none } {} with
  | mk result w' =>
    cases result with
    | error e => simp [h, Except.toOption] at hused
    | ok d =>
      refine ⟨d, w', rfl, ?_, Request.decided_of_resolve h⟩
      simpa [h, Except.toOption] using hused

end Recolor
