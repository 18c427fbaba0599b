import Recolor.Proofs.Pipeline.Decisions
import Recolor.Proofs.Profile.LinkOutcome
import Recolor.Proofs.Transform.Pixelwise
import Recolor.Proofs.Transform.Shapes

/-!
# Channels of the destination

Whatever profiles a request is resolved to, the plan that is built of them gives each pixel the
channels of the destination's format: the table of a device link has as many outputs as its
connection space has channels, the table that encodes fax colours has three, and the colour engine
gives pixels of the layout it is asked for. So the transform of a resolved request is exact, and
the formats at its ends have one byte for each sample.
-/

set_option autoImplicit false

namespace Recolor

/-- An engine whose transforms give pixels of the layout that is asked for. -/
def ColorEngine.KeepsLayouts (engine : ColorEngine) : Prop :=
  ∀ request map, engine.build request = .ok map → map.width = request.outputMode.bands

/-! ## Formats -/

/-- Before components are compared, the format of a source's rows is that of some space, inverted
exactly for marked sources of four components. -/
theorem SourceColor.nominalFormat_ok {c : SourceColor} {f : PixelFormat}
    (h : c.nominalFormat = .ok f) : ∃ space, PixelFormat.ofSpace space
      (if space = .cmyk ∧ c.hasAdobe then .inverted else .natural) = .ok f := by
  unfold nominalFormat at h
  split at h
  · exact ⟨.lab, by simpa using h⟩
  · split at h
    · exact ⟨.gray, by simpa using h⟩
    · exact ⟨.rgb, by simpa using h⟩
    · exact ⟨.rgb, by simpa using h⟩
    · exact ⟨.cmyk, by simpa using h⟩
    · exact ⟨.cmyk, by simpa using h⟩
    · simp at h

/-- The format of a source's rows has one byte for each of its components. -/
theorem SourceColor.inputFormat_ok {c : SourceColor} {f : PixelFormat}
    (h : c.inputFormat = .ok f) :
    ∃ n, f.space.channels? = some n ∧ (∀ m, c.components = some m → m = n)
      ∧ f = { space := f.space, channels := n
              flavor := if f.space = .cmyk ∧ c.hasAdobe then .inverted else .natural } := by
  unfold inputFormat at h
  cases hnominal : c.nominalFormat with
  | error e => simp [hnominal] at h
  | ok g =>
    obtain ⟨space, hspace⟩ := nominalFormat_ok hnominal
    obtain ⟨n, hn, rfl⟩ := PixelFormat.ofSpace_ok hspace
    simp only [hnominal] at h
    split at h
    · simp only [Except.ok.injEq] at h
      subst h
      rename_i hcomponents
      exact ⟨n, hn, by simp [hcomponents], rfl⟩
    · rename_i m hcomponents
      split at h
      · rename_i hm
        simp only [Except.ok.injEq] at h
        subst h
        exact ⟨n, hn, by simp [hcomponents, hm], rfl⟩
      · simp at h

/-! ## Tables -/

/-- A table has the axes and the outputs that it is made for. -/
theorem Grid.ofEntries_ok {shape : List Int} {entries : Array UInt16} {points inputs outputs : Int}
    {g : Grid} (h : Grid.ofEntries shape entries points inputs outputs = .ok g) :
    g.points = points.toNat ∧ g.inputs = inputs.toNat ∧ g.outputs = outputs.toNat := by
  unfold ofEntries at h
  split at h
  · simp at h
  · split at h
    · simp only [Except.ok.injEq] at h
      subst h
      exact ⟨rfl, rfl, rfl⟩
    · simp at h

/-- A table that is sampled has the outputs that it is sampled for. -/
theorem Grid.sample_ok {α : Type} [Scalar α] {sampler : Sampler α} {points inputs outputs : Int}
    {g : Grid} (h : Grid.sample sampler points inputs outputs = .ok g) :
    g.outputs = outputs.toNat := by
  unfold sample at h
  split at h
  · simp at h
  · split at h
    · simp at h
    · dsimp only at h
      split at h
      · simp at h
      · simp at h
      · split at h
        · simp at h
        · split at h
          · simp at h
          · exact (ofEntries_ok h).2.2

section Virtual

variable {α : Type} [Scalar α] {points : Int} {p : SampledProfile}

/-- The profile that encodes fax colours gives Lab pixels. -/
theorem Virtual.faxEncode_ok (h : Virtual.faxEncode points α = .ok p) :
    p.space = some .lab ∧ p.table.outputs = 3 := by
  unfold faxEncode faxEncoder at h
  split at h
  · simp at h
  · cases htable : faxEncodeTable α points with
    | error e => simp [htable] at h
    | ok table =>
      simp only [htable, Except.ok.injEq] at h
      subst h
      exact ⟨rfl, Grid.sample_ok htable⟩

/-- The profile that decodes fax colours is no device link. -/
theorem Virtual.faxDecode_ok (h : Virtual.faxDecode points α = .ok p) :
    p.deviceClass = .colorSpace := by
  unfold faxDecode faxDecoder at h
  split at h
  · simp at h
  · cases htable : faxDecodeTable α points with
    | error e => simp [htable] at h
    | ok table =>
      simp only [htable, Except.ok.injEq] at h
      rw [← h]
      rfl

end Virtual

namespace Link

/-- A device link has tables and curves for the channels of its spaces, of which the first is
not XYZ. -/
theorem load_ok {data : Bytes} {name : String} {intent : Int} {p : SampledProfile}
    (h : load data name intent = .ok p) :
    ∃ source target inputCurves outputCurves, p.space = some source ∧ p.pcs = some target
      ∧ p.inputCurves = some inputCurves ∧ p.outputCurves = some outputCurves
      ∧ p.table.inputs = source.channels?.getD 0 ∧ inputCurves.length = source.channels?.getD 0
      ∧ p.table.outputs = target.channels?.getD 0
      ∧ outputCurves.length = target.channels?.getD 0 := by
  obtain ⟨_, source, target, _, _, tables, -, -, -, -, htables, rfl⟩ := load_ok_iff.mp h
  obtain ⟨layout, points, hhas⟩ := exists_has_of_readTables htables
  exact ⟨source, target, tables.inputCurves, tables.outputCurves, rfl, rfl, rfl, rfl,
    hhas.inputs_eq, hhas.inputCurves, hhas.outputs_eq, hhas.outputCurves⟩

end Link

/-! ## Plans -/

/-- The layout that an engine is given pixels of a space in has the space's channels. -/
theorem Space.bands_of_engineMode? {space : Space} {mode : Mode} {n : Nat}
    (hmode : space.engineMode? = some mode) (hn : space.channels? = some n) : mode.bands = n := by
  cases space <;> simp_all [Space.engineMode?, Space.channels?] <;> subst_vars <;> rfl

/-- The layout of a format whose space has so many channels has as many bands. -/
theorem PixelFormat.bands_of_hasMode {f : PixelFormat} {n : Nat} {mode : Mode}
    (hn : f.space.channels? = some n) (h : f.fields.HasMode mode) : mode.bands = n := by
  obtain ⟨space, hspace, hmode⟩ := h
  cases hspace
  exact Space.bands_of_engineMode? hmode hn

/-- A transform that is the engine's answer gives the bands of the layout that was asked for. -/
theorem Built.Answers.gives {engine : ColorEngine} (hengine : engine.KeepsLayouts) {t : Built}
    {wanted : BuildRequest} (h : t.Answers engine wanted) : t.Gives wanted.outputMode.bands := by
  intro _
  rw [hengine wanted t.map h.map]

namespace Plan

variable {f : FormatFields} {g : PixelFormat} {n : Nat} {r : Rendering} {plan : Plan}

/-- Without a device link a plan gives the channels of the output format, by the engine or by a table
that has as many outputs. -/
theorem Combines.gives {engine : ColorEngine} (hengine : engine.KeepsLayouts)
    (hn : g.space.channels? = some n) {input output : Profile} {proof : Option Profile}
    (h : Combines engine f g.fields r input output proof plan)
    (htable : ∀ p, output = .sampled p → p.table.outputs = n) : plan.Gives n := by
  cases h with
  | direct _ hmode _ hanswers =>
    rw [← PixelFormat.bands_of_hasMode hn hmode]
    exact hanswers.gives hengine
  | proof _ hmode _ hanswers =>
    rw [← PixelFormat.bands_of_hasMode hn hmode]
    exact hanswers.gives hengine
  | chain _ _ _ hlast =>
    cases hlast with
    | table _ => exact congrArg Int.ofNat (htable _ rfl)
    | engine hmode _ hanswers =>
      rw [← PixelFormat.bands_of_hasMode hn hmode]
      exact hanswers.gives hengine

/-- A plan gives the channels of the output format, if the tables among its profiles do. -/
theorem gives_of_build {s : Services} {w w' : World} (hengine : s.engine.KeepsLayouts)
    (hn : g.space.channels? = some n) {input : Profile} {output proof : Option Profile}
    (h : (build f g.fields input output proof r).run s w = (.ok plan, w'))
    (hlink : ∀ p, input = .sampled p → input.isLink = true → p.table.outputs = n)
    (htable : ∀ p, output = some (.sampled p) → p.table.outputs = n) : plan.Gives n := by
  obtain ⟨-, -, hcombine⟩ := build_ok_iff.mp h
  cases hisLink : input.isLink with
  | true =>
    rcases @combine_of_isLink f g.fields r input output proof hisLink with
      ⟨p, hp, -, hplan⟩ | ⟨-, hplan⟩
    · simp only [hplan, Work.run_pure, Prod.mk.injEq, Except.ok.injEq] at hcombine
      rw [← hcombine.1]
      exact congrArg Int.ofNat (hlink p hp hisLink)
    · simp [hplan] at hcombine
  | false =>
    cases output with
    | none => simp [combine_none hisLink] at hcombine
    | some output =>
      have hcombines := ((combine_ok_iff hisLink).mp hcombine).1
      exact hcombines.gives hengine hn fun p hp => htable p (congrArg some hp)

end Plan

/-! ## Resolved requests -/

section Resolved

variable {r : Request} {source : SourceColor} {invertsCmyk : Bool} {s : Services} {w w' : World}

/-- An output profile is the virtual one if its name is asked for, else an ICC profile. -/
theorem Request.resolveOutput_ok {p : Profile} (h : r.resolveOutput.run s w = (.ok p, w')) :
    (r.output.isStock Stock.lab = true ∧ ∃ q, Virtual.faxEncode = .ok q ∧ p = .sampled q)
      ∨ (¬r.output.isStock Stock.lab = true ∧ ∃ q, p = .icc q) := by
  unfold resolveOutput at h
  split at h
  · rename_i hstock
    simp only [Work.run_bind_ok_iff, Work.run_ofExcept, Work.run_pure, Prod.mk.injEq,
      Except.ok.injEq] at h
    obtain ⟨q, w₁, ⟨hq, -⟩, hp, -⟩ := h
    exact .inl ⟨hstock, q, hq, hp.symm⟩
  · rename_i hstock
    simp only [Work.run_bind_ok_iff, Work.run_pure, Prod.mk.injEq, Except.ok.injEq] at h
    obtain ⟨q, w₁, -, hp, -⟩ := h
    exact .inr ⟨hstock, q, hp.symm⟩

/-- An output profile that is sampled is the virtual one that encodes fax colours. -/
theorem Request.sampled_of_resolveOutput {p : SampledProfile}
    (h : r.resolveOutput.run s w = (.ok (.sampled p), w')) : Virtual.faxEncode = .ok p := by
  rcases Request.resolveOutput_ok h with ⟨-, q, hq, hp⟩ | ⟨-, q, hp⟩
  · cases hp
    exact hq
  · cases hp

/-- A sampled input profile is a device link's or decodes fax colours. -/
theorem Origin.sampled_of_opens {files : FileTree} {p : SampledProfile} {o : Origin}
    (h : o.Opens r s files (.sampled p)) :
    (∃ name, o = .link name) ∨ Virtual.faxDecode = .ok p := by
  cases o with
  | link name => exact .inl ⟨name, rfl⟩
  | fax =>
    obtain ⟨q, hq, hp⟩ := h
    cases hp
    exact .inr hq
  | embedded data => obtain ⟨_, -, hp⟩ := h; cases hp
  | installed space => obtain ⟨_, _, _, _, -, -, -, -, hp⟩ := h; cases hp
  | srgb => obtain ⟨_, -, hp⟩ := h; cases hp
  | file name => obtain ⟨_, _, -, -, hp⟩ := h; cases hp

/-- A device link that is not left to the engine was loaded from a file. -/
theorem Origin.link_of_isLink {files : FileTree} {p : Profile} {q : SampledProfile} {o : Origin}
    (h : o.Opens r s files p) (hp : p = .sampled q) (hlink : p.isLink = true) :
    ∃ data name intent, Link.load data name intent = .ok q := by
  subst hp
  rcases Origin.sampled_of_opens h with ⟨name, rfl⟩ | hfax
  · obtain ⟨data, q', -, hload, hq⟩ := h
    cases hq
    exact ⟨data, _, _, hload⟩
  · simp [Profile.isLink, Profile.deviceClass, Virtual.faxDecode_ok hfax] at hlink

/-- The plan of a resolved request gives each pixel the channels of the destination's format. -/
theorem Resolved.gives_of_resolve (hengine : s.engine.KeepsLayouts) {d : Resolved}
    (h : (r.resolve source invertsCmyk).run s w = (.ok d, w')) :
    d.plan.Gives d.outputFormat.channels := by
  obtain ⟨w₁, w₂, -, hinput, hothers, -, hout, hbuild, -⟩ := Request.resolve_ok h
  obtain ⟨t, n, ht, hn, hf⟩ := outputFormat_ok hout
  obtain ⟨hopens, -⟩ := Request.opens_of_resolveInput hinput
  obtain ⟨hnone, hsome⟩ := Request.resolveOthers_ok hothers
  have hspace : d.outputFormat.space = t := by rw [hf]
  have hchannels : d.outputFormat.channels = n := by rw [hf]
  rw [hchannels]
  refine Plan.gives_of_build hengine (hspace ▸ hn) hbuild ?_ ?_
  · intro p hp hlink
    obtain ⟨data, name, intent, hload⟩ := Origin.link_of_isLink hopens hp hlink
    obtain ⟨_, target, _, _, -, hpcs, -, -, -, -, houtputs, -⟩ := Link.load_ok hload
    rw [hnone.mpr hlink, hp] at ht
    simp only [Request.targetSpace, Profile.pcs, hpcs, Option.some.injEq] at ht
    rw [houtputs, ht, hn]
    rfl
  · intro p hp
    obtain ⟨w₃, hrun⟩ := hsome _ hp
    obtain ⟨hlab, houtputs⟩ := Virtual.faxEncode_ok (Request.sampled_of_resolveOutput hrun)
    rw [hp] at ht
    simp only [Request.targetSpace, Profile.space, hlab, Option.some.injEq] at ht
    rw [← ht] at hn
    simp only [Space.channels?, Option.some.injEq] at hn
    rw [houtputs, hn]

/-- The transform of a resolved request gives every pixel the samples of its output format. -/
theorem Resolved.isExact_of_resolve (hengine : s.engine.KeepsLayouts) {d : Resolved}
    (h : (r.resolve source invertsCmyk).run s w = (.ok d, w')) : d.transform.IsExact := by
  obtain ⟨w₁, w₂, -, -, -, -, hout, -, -⟩ := Request.resolve_ok h
  obtain ⟨t, n, -, -, hf⟩ := outputFormat_ok hout
  refine Plan.isExact_transform (Resolved.gives_of_resolve hengine h) ?_ ?_
  · rw [hf]
    exact Int.natCast_nonneg n
  · rw [hf]
    rfl

end Resolved

end Recolor
