import Recolor.Proofs.Pipeline.Decisions
import Recolor.Proofs.Pipeline.Frame

/-!
# Profiles that do not fit the source

An input profile has to work in the colour space of the source's pixels. Whether it does is
checked once all profiles are resolved and before the colour engine is asked for anything;
`mismatch_iff` says that the check refuses exactly the profiles which do not fit, those without
a known space and device links included. Two facts carry it: no other part of a request's
resolution reports a mismatch once the profiles are there, and resolving them asks nothing of
the colour engine.
-/

set_option autoImplicit false

namespace Recolor

/-- Whether a failure reports something else than a profile that does not fit. -/
def Failure.IsNoMismatch : Failure → Prop
  | .conversion (.mismatch _ _) => False
  | _ => True

section Building

open Work

/-- A refusal of the colour engine is an error of building, or a fault. -/
theorem Plan.request_failsOnly (b : BuildRequest) :
    FailsOnly Failure.IsNoMismatch (Plan.request b) := by
  intro s w e w' h
  simp only [Work.run, Plan.request, Work.build] at h
  cases hbuild : s.engine.build b with
  | ok map => simp [hbuild] at h
  | error f =>
    simp only [hbuild, Prod.mk.injEq, Except.error.injEq] at h
    rw [← h.1]
    split <;> trivial

/-- A format without a mode of the engine is no profile that does not fit. -/
theorem FormatFields.isNoMismatch_of_engineMode {f : FormatFields} {e : Failure}
    (h : f.engineMode = .error e) : e.IsNoMismatch := by
  unfold FormatFields.engineMode at h
  split at h
  · simp only [Except.error.injEq] at h
    rw [← h]
    trivial
  · split at h
    · simp only [Except.error.injEq] at h
      rw [← h]
      trivial
    · simp at h

/-- A half of a chain asks for a mode of the engine and a transform, or for a table. -/
theorem Plan.inputHalf_failsOnly (f : FormatFields) (i : Intent) (flags : TransformFlags)
    (p : Profile) : FailsOnly Failure.IsNoMismatch (Plan.inputHalf f i flags p) := by
  cases p with
  | sampled p => exact .ite (fun _ => .pure _) (fun _ => .fail trivial)
  | icc p =>
    exact .bind (.ofExcept fun _ => FormatFields.isNoMismatch_of_engineMode) fun _ =>
      .bind (Plan.request_failsOnly _) fun _ => .pure _

/-- Making the half that leads from Lab colours never reports a mismatch. -/
theorem Plan.outputHalf_failsOnly (f : FormatFields) (i : Intent) (flags : TransformFlags)
    (p : Profile) : FailsOnly Failure.IsNoMismatch (Plan.outputHalf f i flags p) := by
  cases p with
  | sampled p => exact .ite (fun _ => .pure _) (fun _ => .fail trivial)
  | icc p =>
    exact .bind (.ofExcept fun _ => FormatFields.isNoMismatch_of_engineMode) fun _ =>
      .bind (Plan.request_failsOnly _) fun _ => .pure _

/-- Making the middle of a chain never reports a mismatch. -/
theorem Plan.proofStage_failsOnly (r : Rendering) (flags : TransformFlags) (p : Option Profile) :
    FailsOnly Failure.IsNoMismatch (Plan.proofStage r flags p) := by
  match p with
  | none => exact .pure _
  | some (.sampled _) => exact .fail trivial
  | some (.icc _) => exact .bind (Plan.request_failsOnly _) fun _ => .pure _

/-- Making a chain never reports a mismatch. -/
theorem Plan.chainOf_failsOnly (f g : FormatFields) (input output : Profile)
    (proof : Option Profile) (r : Rendering) (flags : TransformFlags) :
    FailsOnly Failure.IsNoMismatch (Plan.chainOf f g input output proof r flags) :=
  .bind (Plan.inputHalf_failsOnly f _ _ input) fun _ =>
    .bind (Plan.proofStage_failsOnly r flags proof) fun _ =>
      .bind (Plan.outputHalf_failsOnly g _ _ output) fun _ => .pure _

/-- One transform for profiles that are all ICC profiles needs both modes of the engine. -/
theorem Plan.directRequest_failsOnly (f g : FormatFields) (a b : IccProfile)
    (c : Option IccProfile) (r : Rendering) (flags : TransformFlags) :
    FailsOnly Failure.IsNoMismatch (Work.ofExcept (Plan.directRequest f g a b c r flags)) := by
  apply FailsOnly.ofExcept
  intro e h
  unfold Plan.directRequest at h
  split at h
  · rename_i hm
    simp only [Except.error.injEq] at h
    exact FormatFields.isNoMismatch_of_engineMode (h ▸ hm)
  · split at h
    · rename_i hm
      simp only [Except.error.injEq] at h
      exact FormatFields.isNoMismatch_of_engineMode (h ▸ hm)
    · simp at h

/-- Building a plan never reports a profile that does not fit. -/
theorem Plan.build_failsOnly (f g : FormatFields) (input : Profile) (output proof : Option Profile)
    (r : Rendering) : FailsOnly Failure.IsNoMismatch (Plan.build f g input output proof r) := by
  have combined : FailsOnly Failure.IsNoMismatch (Plan.combine f g input output proof r) := by
    unfold Plan.combine
    apply FailsOnly.ite
    · intro _
      cases input with
      | sampled p => exact .ite (fun _ => .pure _) (fun _ => .fail trivial)
      | icc p => exact .fail trivial
    · intro _
      cases output with
      | none => exact .fail trivial
      | some output =>
        dsimp only
        split
        · exact .bind (Plan.directRequest_failsOnly f g _ _ _ r _) fun _ =>
            .bind (Plan.request_failsOnly _) fun _ => .pure _
        · exact .bind (Plan.directRequest_failsOnly f g _ _ _ r _) fun _ =>
            .bind (Plan.request_failsOnly _) fun _ => .pure _
        · exact Plan.chainOf_failsOnly f g input output proof r _
  exact .bind combined fun _ => .bind (.lift _ fun _ => trivial) fun _ =>
    .bind (.lift _ fun _ => trivial) fun _ => .pure _

end Building

/-- What is left of a request once its profiles fit the source: the format of the destination's
rows, and the plan. -/
def Request.planned (r : Request) (invertsCmyk : Bool) (format : PixelFormat) (input : Profile)
    (used : Bool) (output proof : Option Profile) : Work Resolved := do
  let outFormat ← Work.lift
    (outputFormat (Request.targetSpace input output) format.planar invertsCmyk)
  let plan ← Plan.build format.fields outFormat.fields input output proof r.rendering
  return { plan, inputFormat := format, outputFormat := outFormat, inputProfile := input
           outputProfile := output, proofProfile := proof, usedEmbedded := used
           embedData := r.dataToEmbed output }

/-- Once the profiles fit, no mismatch is reported. -/
theorem Request.planned_failsOnly (r : Request) (invertsCmyk : Bool) (format : PixelFormat)
    (input : Profile) (used : Bool) (output proof : Option Profile) :
    Work.FailsOnly Failure.IsNoMismatch (r.planned invertsCmyk format input used output proof) :=
  .bind (.lift _ fun _ => trivial) fun _ =>
    .bind (Plan.build_failsOnly _ _ _ _ _ _) fun _ => .pure _

/-- What is left of a request once its input profile is resolved. -/
def Request.completed (r : Request) (invertsCmyk : Bool) (format : PixelFormat) (input : Profile)
    (used : Bool) : Work Resolved := do
  let (output, proof) ← r.resolveOthers input
  if input.space ≠ some format.space then
    Work.fail (.conversion (.mismatch input.space format.space))
  else r.planned invertsCmyk format input used output proof

/-- Once the source's format and its input profile are there, the other profiles come next. -/
theorem Request.run_resolve_of_input {r : Request} {source : SourceColor} {format : PixelFormat}
    {input : Profile} {used : Bool} {s : Services} {w w₁ : World} (invertsCmyk : Bool)
    (hformat : source.inputFormat = .ok format)
    (hinput : (r.resolveInput source format).run s w = (.ok (input, used), w₁)) :
    (r.resolve source invertsCmyk).run s w
      = (r.completed invertsCmyk format input used).run s w₁ := by
  unfold Request.resolve
  rw [hformat, Work.run_bind_of_ok (Work.run_lift_ok format), Work.run_bind_of_ok hinput]
  rfl

/-- Once the source's format and all profiles are there, the check of the spaces comes next. -/
theorem Request.run_resolve_of_profiles {r : Request} {source : SourceColor} {format : PixelFormat}
    {input : Profile} {used : Bool} {output proof : Option Profile} {s : Services}
    {w w₁ w₂ : World} (invertsCmyk : Bool) (hformat : source.inputFormat = .ok format)
    (hinput : (r.resolveInput source format).run s w = (.ok (input, used), w₁))
    (hothers : (r.resolveOthers input).run s w₁ = (.ok (output, proof), w₂)) :
    (r.resolve source invertsCmyk).run s w
      = (if input.space ≠ some format.space then
          Work.fail (.conversion (.mismatch input.space format.space))
        else r.planned invertsCmyk format input used output proof).run s w₂ := by
  rw [Request.run_resolve_of_input invertsCmyk hformat hinput, Request.completed,
    Work.run_bind_of_ok hothers]

/-- Once the source's format and all profiles are there, a request is refused for a profile that
does not fit exactly if the space of the input profile's data is not that of the format. The
refusal carries both, and nothing was asked of the colour engine before. So the input profile of
any transform that is built works in the space of the source's pixels. -/
theorem Request.mismatch_iff (r : Request) (source : SourceColor) (invertsCmyk : Bool)
    (s : Services) (w : World) :
    (∀ format input used output proof w₁ w₂,
      source.inputFormat = .ok format →
      (r.resolveInput source format).run s w = (.ok (input, used), w₁) →
      (r.resolveOthers input).run s w₁ = (.ok (output, proof), w₂) →
        (∀ found image,
          ((r.resolve source invertsCmyk).run s w).1
              = .error (.conversion (.mismatch found image)) ↔
            input.space ≠ some format.space ∧ found = input.space ∧ image = format.space)
        ∧ (input.space ≠ some format.space →
          ((r.resolve source invertsCmyk).run s w).2.requests = w.requests))
    ∧ ∀ d w', (r.resolve source invertsCmyk).run s w = (.ok d, w') →
        d.inputProfile.space = some d.inputFormat.space := by
  constructor
  · intro format input used output proof w₁ w₂ hformat hinput hothers
    have hrun := Request.run_resolve_of_profiles invertsCmyk hformat hinput hothers
    by_cases hspace : input.space = some format.space
    · refine ⟨fun found image => ⟨?_, fun h => absurd hspace h.1⟩, fun h => absurd hspace h⟩
      intro h
      rw [hrun, if_neg (not_not_intro hspace)] at h
      exact (r.planned_failsOnly invertsCmyk format input used output proof s w₂ _ _
        (Prod.ext h rfl)).elim
    · rw [hrun, if_pos hspace]
      constructor
      · intro found image
        simp [hspace, eq_comm]
      · intro _
        calc w₂.requests = w₁.requests :=
              (r.leaves_resolveOthers World.passesOver_requests input).apply hothers
          _ = w.requests :=
              (r.leaves_resolveInput World.passesOver_requests source format).apply hinput
  · intro d w' h
    obtain ⟨w₁, w₂, -, -, -, hspace, -⟩ := Request.resolve_ok h
    exact hspace

/-- The built-in display profile does not fit gray rows; it is refused before the engine is asked
for a transform. -/
theorem Request.mismatch_gray :
    let t := (({ input := .named "*sRGB" } : Request).resolve { space := .grayscale } true).run
      { engine := ArithmeticEngine.engine, codec := Codec.ofPictures [] none } {}
    t.1 = .error (.conversion (.mismatch (some .rgb) .gray)) ∧ t.2.requests = [] := by
  have h := (Request.mismatch_iff { input := .named "*sRGB" } { space := .grayscale } true
    { engine := ArithmeticEngine.engine, codec := Codec.ofPictures [] none } {}).1
    { space := .gray, channels := 1 } _ _ _ _ _ _ rfl rfl rfl
  exact ⟨(h.1 (some .rgb) .gray).mpr ⟨by decide, rfl, rfl⟩, h.2 (by decide)⟩

end Recolor
