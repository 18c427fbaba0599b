import Recolor.Pipeline.Resolve
import Recolor.Proofs.Files.Elsewhere
import Recolor.Proofs.Work.Runs

/-!
# What resolving leaves as it was

Resolving a request reads files, searches folders and may save a profile; building a plan asks the
colour engine for transforms. Whatever is observed of the world and passes over such events is the
same afterwards, also when the work fails. Three observations matter: the requests to the engine,
which resolving the profiles leaves as they were, the pictures handed to the encoder, which all of
it does, and the files, of which at most the one is written that a profile is saved to.
-/

set_option autoImplicit false

namespace Recolor

/-- An observation of the world that passes over files being read and searched for. -/
structure World.PassesReads {γ : Type} (view : World → γ) : Prop where
  read : ∀ (w : World) p, view (w.note (.read p)) = view w
  searched : ∀ (w : World) p, view (w.note (.searched p)) = view w

/-- An observation of the world that passes over files being read, written and searched for. -/
structure World.PassesOver {γ : Type} (view : World → γ) : Prop where
  read : ∀ (w : World) p, view (w.note (.read p)) = view w
  wrote : ∀ (w : World) files p, view ({ w with files }.note (.wrote p)) = view w
  searched : ∀ (w : World) p, view (w.note (.searched p)) = view w

/-- An observation that passes over written files too passes over those that are read and searched
for. -/
theorem World.PassesOver.reads {γ : Type} {view : World → γ} (hv : World.PassesOver view) :
    World.PassesReads view where
  read := hv.read
  searched := hv.searched

/-- Only requests count as requests. -/
theorem World.passesOver_requests : World.PassesOver World.requests where
  read _ _ := Work.requests_note fun _ => by simp
  wrote _ _ _ := Work.requests_note fun _ => by simp
  searched _ _ := Work.requests_note fun _ => by simp

/-- Only pictures that are encoded count as such. -/
theorem World.passesOver_jobs : World.PassesOver World.jobs where
  read _ _ := Work.jobs_note fun _ => by simp
  wrote _ _ _ := Work.jobs_note fun _ => by simp
  searched _ _ := Work.jobs_note fun _ => by simp

section Resolving

open Work

variable {γ : Type} {view : World → γ}

/-- Opening a profile from a file is only seen as reading. -/
theorem Profile.leaves_ofFile (hv : World.PassesReads view) (p : Path) :
    Leaves view (Profile.ofFile p) := by
  refine .bind (.hasPath p) fun found => .ite ?_ (.fail _)
  exact .bind (.readFile fun w => hv.read w p) fun _ => .bind .services fun _ => .ofExcept _

/-- Opening the built-in profile is not seen at all. -/
theorem Profile.leaves_openSrgb : Leaves view Profile.openSrgb :=
  .bind .services fun _ => .ofExcept _

/-- Following a reference is only seen as reading. -/
theorem Reference.leaves_openProfile (hv : World.PassesReads view) (ref : Reference) :
    Leaves view ref.openProfile := by
  cases ref with
  | unset => exact Profile.leaves_openSrgb
  | named name =>
    exact .ite Profile.leaves_openSrgb (.ite (.fail _) (Profile.leaves_ofFile hv _))
  | invalid v => exact .fail _

/-- Every folder that is searched is noted, and no more. -/
theorem Profile.leaves_findInstalled (hv : World.PassesReads view) (space : Space)
    (extra : List Path) : Leaves view (Profile.findInstalled space extra) := by
  have searched (folders : List Path) :
      Leaves view (folders.forM fun folder => Work.note (.searched folder)) := by
    induction folders with
    | nil => exact .pure _
    | cons folder rest ih => exact .bind (.note fun w => hv.searched w folder) fun _ => ih
  exact .bind .services fun _ => .bind (.lift _) fun folders =>
    .bind (searched folders) fun _ => .bind .files fun _ => .lift _

/-- Opening an installed profile is only seen as reading and searching. -/
theorem Request.leaves_installedInput (hv : World.PassesReads view) (r : Request) (space : Space) :
    Leaves view (r.installedInput space) := by
  refine .bind (Profile.leaves_findInstalled hv space r.folders) fun found => ?_
  cases found with
  | none => exact .fail _
  | some path => exact .bind (Profile.leaves_ofFile hv path) fun _ => .pure _

/-- An embedded profile is saved by writing a file, whatever becomes of it. -/
theorem Request.leaves_saveProfile (hv : World.PassesOver view) (r : Request) (data : Bytes) :
    Leaves view (r.saveProfile data) := by
  unfold Request.saveProfile
  split
  · exact .pure _
  · exact .fail _
  · refine .bind (.outcome (.writeFile fun w files => hv.wrote w files _)) fun outcome => ?_
    split
    · exact .pure _
    · exact .ite (.pure _) (.fail _)
    · exact .fail _

/-- Resolving the input profile leaves what reading and saving leave, wherever the profile comes
from. -/
theorem Request.leaves_resolveInput_of_save (r : Request) (hv : World.PassesReads view)
    (hsave : ∀ data, Leaves view (r.saveProfile data)) (source : SourceColor)
    (format : PixelFormat) : Leaves view (r.resolveInput source format) := by
  unfold Request.resolveInput
  split
  · exact .fail _
  · -- a device link
    refine .bind ?_ fun _ => .pure _
    refine .bind (.hasPath _) fun _ => .ite ?_ (.fail _)
    exact .bind (.readFile fun w => hv.read w _) fun _ => .bind (.ofExcept _) fun _ => .pure _
  · split
    · -- an embedded profile
      refine .bind ?_ fun _ => .pure _
      exact .bind .services fun _ => .bind (.ofExcept _) fun _ =>
        .bind (hsave _) fun _ => .pure _
    · -- a profile by its reference, or one in its place
      refine .bind (.ite ?_ (.ite ?_ ?_)) fun _ => .pure _
      · exact .bind (.ofExcept _) fun _ => .pure _
      · exact r.leaves_installedInput hv _
      · exact .bind (Reference.leaves_openProfile hv _) fun _ => .pure _

/-- Resolving the input profile leaves what passes over files. -/
theorem Request.leaves_resolveInput (r : Request) (hv : World.PassesOver view)
    (source : SourceColor) (format : PixelFormat) : Leaves view (r.resolveInput source format) :=
  r.leaves_resolveInput_of_save hv.reads (r.leaves_saveProfile hv) source format

/-- Resolving the output profile is only seen as reading. -/
theorem Request.leaves_resolveOutput (r : Request) (hv : World.PassesReads view) :
    Leaves view r.resolveOutput :=
  .ite (.bind (.ofExcept _) fun _ => .pure _)
    (.bind (Reference.leaves_openProfile hv _) fun _ => .pure _)

/-- Resolving the profile to proof against is only seen as reading. -/
theorem Request.leaves_resolveProof (r : Request) (hv : World.PassesReads view) :
    Leaves view r.resolveProof :=
  .ite (.pure _) (.bind (Reference.leaves_openProfile hv _) fun _ => .pure _)

/-- Resolving the other profiles leaves what reading leaves. -/
theorem Request.leaves_resolveOthers_of_reads (r : Request) (hv : World.PassesReads view)
    (input : Profile) : Leaves view (r.resolveOthers input) :=
  .ite (.pure _) (.bind (r.leaves_resolveOutput hv) fun _ =>
    .bind (r.leaves_resolveProof hv) fun _ => .pure _)

/-- Resolving the other profiles leaves what passes over files. -/
theorem Request.leaves_resolveOthers (r : Request) (hv : World.PassesOver view)
    (input : Profile) : Leaves view (r.resolveOthers input) :=
  r.leaves_resolveOthers_of_reads hv.reads input

end Resolving

section Building

open Work

variable {γ : Type} {view : World → γ}

/-- The engine is asked for a transform and the request is noted. -/
theorem Plan.asksOnly_request (b : BuildRequest) : AsksOnly (Plan.request b) := by
  intro s
  cases hbuild : s.engine.build b with
  | error f =>
    refine ⟨.error (if f.kind = .engine then BuildError.engine f else f), [b], fun w => ?_⟩
    simp only [Work.run, Plan.request, Work.build, hbuild]
    rfl
  | ok map =>
    refine ⟨.ok ⟨b, map⟩, [b], fun w => ?_⟩
    simp only [Work.run, Plan.request, Work.build, hbuild]
    rfl

/-- The half that leads to Lab colours does no more than ask the engine. -/
theorem Plan.asksOnly_inputHalf (f : FormatFields) (i : Intent) (flags : TransformFlags)
    (p : Profile) : AsksOnly (Plan.inputHalf f i flags p) := by
  cases p with
  | sampled p => exact .ite (.pure _) (.fail _)
  | icc p => exact .bind (.ofExcept _) fun _ => .bind (Plan.asksOnly_request _) fun _ => .pure _

/-- The half that leads from Lab colours does no more than ask the engine. -/
theorem Plan.asksOnly_outputHalf (f : FormatFields) (i : Intent) (flags : TransformFlags)
    (p : Profile) : AsksOnly (Plan.outputHalf f i flags p) := by
  cases p with
  | sampled p => exact .ite (.pure _) (.fail _)
  | icc p => exact .bind (.ofExcept _) fun _ => .bind (Plan.asksOnly_request _) fun _ => .pure _

/-- The middle of a chain does no more than ask the engine. -/
theorem Plan.asksOnly_proofStage (r : Rendering) (flags : TransformFlags) (p : Option Profile) :
    AsksOnly (Plan.proofStage r flags p) := by
  match p with
  | none => exact .pure _
  | some (.sampled _) => exact .fail _
  | some (.icc _) => exact .bind (Plan.asksOnly_request _) fun _ => .pure _

/-- Building a plan asks the engine for transforms, and nothing else. -/
theorem Plan.asksOnly_build (f g : FormatFields) (input : Profile) (output proof : Option Profile)
    (r : Rendering) : AsksOnly (Plan.build f g input output proof r) := by
  have combined : AsksOnly (Plan.combine f g input output proof r) := by
    unfold Plan.combine
    apply AsksOnly.ite
    · cases input with
      | sampled p => exact .ite (.pure _) (.fail _)
      | icc p => exact .fail _
    · cases output with
      | none => exact .fail _
      | some output =>
        dsimp only
        split
        · exact .bind (.ofExcept _) fun _ => .bind (Plan.asksOnly_request _) fun _ => .pure _
        · exact .bind (.ofExcept _) fun _ => .bind (Plan.asksOnly_request _) fun _ => .pure _
        · exact .bind (Plan.asksOnly_inputHalf _ _ _ _) fun _ =>
            .bind (Plan.asksOnly_proofStage _ _ _) fun _ =>
              .bind (Plan.asksOnly_outputHalf _ _ _ _) fun _ => .pure _
  exact .bind combined fun _ => .bind (.lift _) fun _ => .bind (.lift _) fun _ => .pure _

/-- Resolving a request leaves what reading, saving and requests to the engine leave. -/
theorem Request.leaves_resolve_of_save (r : Request) (hv : World.PassesReads view)
    (hrequests : ∀ (w : World) b, view (w.note (.requested b)) = view w)
    (hsave : ∀ data, Leaves view (r.saveProfile data)) (source : SourceColor)
    (invertsCmyk : Bool) : Leaves view (r.resolve source invertsCmyk) := by
  refine .bind (.lift _) fun format => .bind (r.leaves_resolveInput_of_save hv hsave _ _) ?_
  rintro ⟨input, used⟩
  refine .bind (r.leaves_resolveOthers_of_reads hv _) ?_
  rintro ⟨output, proof⟩
  refine .ite (.fail _) (.bind (.lift _) fun outFormat => ?_)
  exact .bind ((Plan.asksOnly_build _ _ _ _ _ _).leaves hrequests) fun _ => .pure _

/-- Resolving a request leaves what passes over files and requests to the engine. -/
theorem Request.leaves_resolve (r : Request) (hv : World.PassesOver view)
    (hrequests : ∀ (w : World) b, view (w.note (.requested b)) = view w) (source : SourceColor)
    (invertsCmyk : Bool) : Leaves view (r.resolve source invertsCmyk) :=
  r.leaves_resolve_of_save hv.reads hrequests (r.leaves_saveProfile hv) source invertsCmyk

/-- Resolving a request encodes no picture. -/
theorem Request.leaves_jobs_resolve (r : Request) (source : SourceColor) (invertsCmyk : Bool) :
    Leaves World.jobs (r.resolve source invertsCmyk) :=
  r.leaves_resolve World.passesOver_jobs (fun _ _ => jobs_note fun _ => by simp) source invertsCmyk

end Building

/-- Resolving a request leaves all files but the one that it asks to save a profile to. -/
theorem Request.leaves_files_resolve (r : Request) (p : Path)
    (hsaved : ∀ name, r.saveEmbedded = .named name → Path.ofString name = p)
    (source : SourceColor) (invertsCmyk : Bool) :
    Work.Leaves (fun w => w.files.elsewhere p) (r.resolve source invertsCmyk) := by
  refine r.leaves_resolve_of_save ⟨fun _ _ => rfl, fun _ _ => rfl⟩ (fun _ _ => rfl) ?_ _ _
  intro data
  unfold Request.saveProfile
  split
  · exact .pure _
  · exact .fail _
  · rename_i name hname
    have written : Work.Leaves (fun w => w.files.elsewhere p)
        (Work.writeFile (Path.ofString name) data) := by
      intro s w
      rw [hsaved name hname]
      simp only [Work.run, Work.writeFile]
      cases hwrite : w.files.write p data with
      | error e => rfl
      | ok files => exact FileTree.elsewhere_of_write hwrite
    refine .bind (.outcome written) fun outcome => ?_
    split
    · exact .pure _
    · exact .ite (.pure _) (.fail _)
    · exact .fail _

end Recolor
