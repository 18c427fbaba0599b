import Recolor.Conversion
import Recolor.Proofs.Pipeline.Frame
import Recolor.Proofs.Scanline.Calls

/-!
# The steps of a conversion

A conversion that succeeds has opened its source, resolved the request that its configuration
makes, and taken the rows through. Only the last of these hands a picture to the encoder.
-/

set_option autoImplicit false

namespace Recolor

variable {s : Services} {w w' : World}

/-- A source that is opened is the picture that the codec finds in the file. -/
theorem Reader.openFile_ok {path : Path} {reader : Reader}
    (h : (Reader.openFile path).run s w = (.ok reader, w')) :
    ∃ content p markers resolution, w.files.read path = .ok content
      ∧ s.codec.identify path content = some p
      ∧ reader = Reader.ofPicture path p markers resolution := by
  simp only [openFile, Work.run_bind_ok_iff, Work.run_outcome, Prod.mk.injEq, Except.ok.injEq] at h
  obtain ⟨outcome, w₁, ⟨houtcome, rfl⟩, h⟩ := h
  cases outcome with
  | error e =>
    cases e with
    | conversion e => simp at h
    | fault f =>
      dsimp only at h
      split at h <;> simp at h
  | ok content =>
    obtain ⟨hread, -⟩ := Work.run_readFile_ok_iff.mp (Prod.ext houtcome rfl)
    simp only [Work.run_bind_ok_iff, Work.run_services, Prod.mk.injEq, Except.ok.injEq] at h
    obtain ⟨s', w₂, ⟨rfl, rfl⟩, h⟩ := h
    cases hp : s.codec.identify path content with
    | none => simp [hp] at h
    | some p =>
      simp only [hp, Work.run_bind_ok_iff] at h
      obtain ⟨-, w₃, -, h⟩ := h
      split at h
      · simp only [Work.run_bind_ok_iff, Work.run_lift_ok_iff, Work.run_pure, Prod.mk.injEq,
          Except.ok.injEq] at h
        obtain ⟨markers, w₄, -, resolution, w₅, -, hreader, -⟩ := h
        exact ⟨content, p, markers, resolution, hread, hp, hreader.symm⟩
      · simp only [Work.run_bind_ok_iff, Work.run_fail, Prod.mk.injEq, reduceCtorEq, false_and,
          and_false, exists_false] at h

/-- Conversely a file in which the codec finds a JPEG picture is opened as that picture. -/
theorem Reader.run_openFile {path : Path} {content : Bytes} {p : Picture} {markers : List Marker}
    {resolution : Resolution} (hread : w.files.read path = .ok content)
    (hp : s.codec.identify path content = some p) (hformat : p.format = some "JPEG")
    (hmarkers : Reader.markersOf p.segments = .ok markers)
    (hresolution : Reader.resolutionOf p = .ok resolution) :
    (Reader.openFile path).run s w
      = (.ok (Reader.ofPicture path p markers resolution),
        (w.note (.read path)).note (.opened path)) := by
  have hcontent := Work.run_readFile_ok_iff (s := s).mpr ⟨hread, rfl⟩
  unfold openFile
  rw [Work.run_bind_of_ok (Work.run_outcome _), hcontent]
  dsimp only
  rw [Work.run_bind_of_ok Work.run_services, hp]
  dsimp only
  rw [Work.run_bind_of_ok (Work.run_note _), if_pos hformat, hmarkers, hresolution,
    Work.run_bind_of_ok (Work.run_lift_ok _), Work.run_bind_of_ok (Work.run_lift_ok _),
    Work.run_pure]

/-- Opening a source encodes no picture. -/
theorem Reader.leaves_jobs_openFile (path : Path) :
    Work.Leaves World.jobs (Reader.openFile path) := by
  have read : Work.Leaves World.jobs (Work.readFile path) :=
    .readFile fun _ => Work.jobs_note fun _ => by simp
  refine .bind (.outcome read) fun outcome => ?_
  split
  · exact .ite (.fail _) (.fail _)
  · exact .fail _
  · refine .bind .services fun s => ?_
    split
    · exact .fail _
    · refine .bind (.note fun _ => Work.jobs_note fun _ => by simp) fun _ => .ite ?_ ?_
      · exact .bind (.lift _) fun _ => .bind (.lift _) fun _ => .pure _
      · exact .bind (.note fun _ => Work.jobs_note fun _ => by simp) fun _ => .fail _

/-- The request of a configuration asks for the device link that is set, if one is, and saves an
embedded profile where the configuration says. -/
theorem Config.request_ok {c : Config} {request : Request} (h : c.request = .ok request) :
    request.link = .ofSetting c.profiles.link
      ∧ request.saveEmbedded = .ofValue c.output.saveEmbedded := by
  unfold Config.request at h
  cases hprofiles : checkProfiles c.profiles with
  | error f => simp [hprofiles, bind, Except.bind] at h
  | ok _ =>
    cases hrendering : c.renderingAsked with
    | error f => simp [hprofiles, hrendering, bind, Except.bind] at h
    | ok rendering =>
      simp only [hprofiles, hrendering, bind, Except.bind, pure, Except.pure,
        Except.ok.injEq] at h
      rw [← h]
      exact ⟨rfl, rfl⟩

namespace Conversion

variable {c : Config} {input output : Path} {reader : Reader}

/-- The transform of a conversion is that of the request which the configuration makes. -/
theorem resolve_ok {r : Resolved} (h : (resolve c reader).run s w = (.ok r, w')) :
    ∃ request, c.request = .ok request
      ∧ (request.resolve reader.color Writer.invertsCmyk).run s w = (.ok r, w') := by
  simp only [resolve, Work.run_bind_ok_iff, Work.run_lift_ok_iff] at h
  obtain ⟨request, w₁, ⟨hrequest, rfl⟩, h⟩ := h
  exact ⟨request, hrequest, h⟩

/-- Rows are taken through by a writer that is created for the source's size and a run. -/
theorem transfer_ok {r : Resolved} {n : Nat}
    (h : (transfer c reader output r).run s w = (.ok n, w')) :
    ∃ writer s', Writer.create output reader.width reader.height r.outputSpace c.output.quality
        = .ok writer
      ∧ (({ reader, writer } : Scanline).run
          { transform := r.transform, space := some r.outputSpace, embed := r.embedData }).run s w
        = (.ok (.ok n, s'), w') := by
  simp only [transfer, Work.run_bind_ok_iff, Work.run_ofExcept, Prod.mk.injEq] at h
  obtain ⟨writer, w₁, ⟨hwriter, rfl⟩, ⟨outcome, s'⟩, w₂, hrun, hn, rfl⟩ := h
  dsimp only at hn
  subst hn
  exact ⟨writer, s', hwriter, hrun⟩

/-- Conversely the rows are taken through if a writer can be created and its run succeeds. -/
theorem run_transfer {r : Resolved} {writer : Writer} {s' : Scanline} {n : Nat}
    (hwriter : Writer.create output reader.width reader.height r.outputSpace c.output.quality
      = .ok writer)
    (hrun : (({ reader, writer } : Scanline).run
        { transform := r.transform, space := some r.outputSpace, embed := r.embedData }).run s w
      = (.ok (.ok n, s'), w')) :
    (transfer c reader output r).run s w = (.ok n, w') := by
  unfold transfer
  rw [hwriter, Work.run_bind_of_ok (Work.run_ofExcept _), Work.run_bind_of_ok hrun,
    Work.run_ofExcept]

/-- A report of failure does not say that the conversion succeeded. -/
theorem succeeded_of_giveUp {report report' : Report} {e : Failure}
    (h : (giveUp report e).run s w = (.ok report', w')) : report'.succeeded = report.succeeded := by
  cases e with
  | fault f => simp [giveUp] at h
  | conversion e =>
    simp only [giveUp, Work.run_pure, Prod.mk.injEq, Except.ok.injEq] at h
    rw [← h.1]

/-- An opened source is converted when a transform is resolved and its rows are taken through. -/
theorem convertOpened_ok {report report₁ : Report} {n : Nat}
    (h : (convertOpened c reader output report).run s w = (.ok (.ok n, report₁), w')) :
    ∃ r w₁, (resolve c reader).run s w = (.ok r, w₁)
      ∧ (transfer c reader output r).run s w₁ = (.ok n, w') ∧ report₁ = report.describe r := by
  unfold convertOpened at h
  rw [Work.run_bind_of_ok (Work.run_outcome _)] at h
  cases hresolve : (resolve c reader).run s w with
  | mk resolved w₁ =>
    rw [hresolve] at h
    cases resolved with
    | error e₁ => simp at h
    | ok r =>
      rw [Work.run_bind_of_ok (Work.run_outcome _), Work.run_pure] at h
      simp only [Prod.mk.injEq, Except.ok.injEq] at h
      obtain ⟨⟨hpassed, rfl⟩, rfl⟩ := h
      exact ⟨r, w₁, rfl, Prod.ext hpassed rfl, rfl⟩

/-- On the way a report only learns what a transform rests on. -/
theorem report_of_convertOpened {report report₁ : Report} {outcome : Except Failure Nat}
    (h : (convertOpened c reader output report).run s w = (.ok (outcome, report₁), w')) :
    report₁ = report ∨ ∃ r, report₁ = report.describe r := by
  unfold convertOpened at h
  rw [Work.run_bind_of_ok (Work.run_outcome _)] at h
  cases hresolve : ((resolve c reader).run s w).1 with
  | error e =>
    simp only [hresolve, Work.run_pure, Prod.mk.injEq, Except.ok.injEq] at h
    exact .inl h.1.2.symm
  | ok r =>
    simp only [hresolve, Work.run_bind_of_ok (Work.run_outcome _), Work.run_pure, Prod.mk.injEq,
      Except.ok.injEq] at h
    exact .inr ⟨r, h.1.2.symm⟩

/-- A conversion of a file that succeeds opens it, resolves a transform and takes the rows
through. -/
theorem convertFile_ok {report : Report}
    (h : (convertFile c input output).run s w = (.ok report, w'))
    (hsucceeded : report.succeeded = true) :
    ∃ reader r n w₁ w₂, (Reader.openFile input).run s w = (.ok reader, w₁)
      ∧ (resolve c reader).run s w₁ = (.ok r, w₂)
      ∧ (transfer c reader output r).run s w₂ = (.ok n, w') := by
  simp only [convertFile, Work.run_bind_ok_iff, Work.run_outcome, Prod.mk.injEq,
    Except.ok.injEq] at h
  obtain ⟨opened, w₁, ⟨hopened, rfl⟩, h⟩ := h
  cases opened with
  | error e =>
    rw [succeeded_of_giveUp h] at hsucceeded
    simp at hsucceeded
  | ok reader =>
    simp only [Work.run_bind_ok_iff, Work.run_fileSize_ok_iff] at h
    obtain ⟨size, w₂, ⟨-, rfl⟩, ⟨outcome, report₁⟩, w₃, hconvert, h⟩ := h
    cases outcome with
    | error e =>
      have hfresh : report₁.succeeded = false := by
        rcases report_of_convertOpened hconvert with rfl | ⟨r, rfl⟩
        · rfl
        · rfl
      rw [Work.run_bind_of_ok (reader.run_close s w₃)] at h
      rw [succeeded_of_giveUp h, hfresh] at hsucceeded
      simp at hsucceeded
    | ok n =>
      obtain ⟨r, w₄, hresolve, htransfer, -⟩ := convertOpened_ok hconvert
      simp only [conclude, Work.run_bind_ok_iff, Work.run_fileSize_ok_iff, Work.run_pure,
        Prod.mk.injEq, Except.ok.injEq] at h
      obtain ⟨outputSize, w₅, ⟨-, rfl⟩, -, rfl⟩ := h
      exact ⟨reader, r, n, _, w₄, Prod.ext hopened rfl, hresolve, htransfer⟩

/-- A conversion that succeeds had no problem with its configuration, and converts the file. -/
theorem run_ok {report : Report} (h : (run c input output).run s w = (.ok report, w'))
    (hsucceeded : report.succeeded = true) :
    ∃ reader r n w₁ w₂, (Reader.openFile input).run s w = (.ok reader, w₁)
      ∧ (resolve c reader).run s w₁ = (.ok r, w₂)
      ∧ (transfer c reader output r).run s w₂ = (.ok n, w') := by
  have hnow (w : World) : Work.now.run s w = (.ok (s.clock w.events.length), w) := rfl
  simp only [run, Work.run_bind_ok_iff, Work.run_lift_ok_iff] at h
  obtain ⟨problems, w₁, ⟨-, rfl⟩, h⟩ := h
  cases problems with
  | cons problem rest =>
    simp only [Work.run_pure, Prod.mk.injEq, Except.ok.injEq] at h
    rw [← h.1] at hsucceeded
    simp at hsucceeded
  | nil =>
    simp only [Work.run_bind_ok_iff, hnow, Work.run_pure, Prod.mk.injEq, Except.ok.injEq] at h
    obtain ⟨start, w₂, ⟨-, rfl⟩, converted, w₃, hconvert, stop, w₄, ⟨-, rfl⟩, rfl, rfl⟩ := h
    exact convertFile_ok hconvert hsucceeded

/-- A conversion without a problem in its configuration reports what became of the file, and how
long it took. -/
theorem run_of_convertFile {report : Report} (hproblems : c.problems = .ok [])
    (h : (convertFile c input output).run s w = (.ok report, w')) :
    ∃ elapsed, (run c input output).run s w = (.ok { report with elapsed }, w') := by
  have hnow (w : World) : Work.now.run s w = (.ok (s.clock w.events.length), w) := rfl
  refine ⟨s.clock w'.events.length - s.clock w.events.length, ?_⟩
  unfold run
  rw [hproblems, Work.run_bind_of_ok (Work.run_lift_ok _)]
  dsimp only
  rw [Work.run_bind_of_ok (hnow w), Work.run_bind_of_ok h, Work.run_bind_of_ok (hnow w')]
  rfl

/-- Conversely a conversion succeeds whose steps do. -/
theorem exists_run {c : Config} {input output : Path} {s : Services} {w w₁ w₂ w' : World}
    {reader : Reader} {r : Resolved} {n inputSize outputSize : Nat}
    (hproblems : c.problems = .ok [])
    (hopen : (Reader.openFile input).run s w = (.ok reader, w₁))
    (hinput : (Work.fileSize input).run s w₁ = (.ok inputSize, w₁))
    (hresolve : (resolve c reader).run s w₁ = (.ok r, w₂))
    (htransfer : (transfer c reader output r).run s w₂ = (.ok n, w'))
    (houtput : (Work.fileSize output).run s w' = (.ok outputSize, w')) :
    ∃ report, (run c input output).run s w = (.ok report, w') ∧ report.succeeded = true := by
  have hconvert : (convertOpened c reader output (opened input reader inputSize)).run s w₁
      = (.ok (.ok n, (opened input reader inputSize).describe r), w') := by
    unfold convertOpened
    rw [Work.run_bind_of_ok (Work.run_outcome _), hresolve]
    dsimp only
    rw [Work.run_bind_of_ok (Work.run_outcome _), htransfer]
    rfl
  have hfile : (convertFile c input output).run s w
      = (conclude ((opened input reader inputSize).describe r) output n).run s w' := by
    unfold convertFile
    rw [Work.run_bind_of_ok (Work.run_outcome _), hopen]
    dsimp only
    rw [Work.run_bind_of_ok hinput, Work.run_bind_of_ok hconvert]
  unfold conclude at hfile
  rw [Work.run_bind_of_ok houtput] at hfile
  obtain ⟨elapsed, hrun⟩ := run_of_convertFile hproblems hfile
  exact ⟨_, hrun, rfl⟩

/-- Resolving the transform of a conversion encodes no picture. -/
theorem leaves_jobs_resolve (c : Config) (reader : Reader) :
    Work.Leaves World.jobs (resolve c reader) :=
  .bind (.lift _) fun request => request.leaves_jobs_resolve _ _

end Conversion

end Recolor
