import Recolor.Proofs.Conversion.FaxLabel
import Recolor.Proofs.Scanline.Ending

/-!
# How a conversion ends

A conversion that comes to an end of its own reports a success or a failure, and nothing between.
After a success one picture with all rows has been handed to the encoder, for the path that was
asked for, and was encoded. After a failure none has, or one that the encoder refused, which is then
what the report says; and if none has, nothing was written over what the path leads to, except
where the embedded profile is saved to the same place. A source that was opened is closed in each
case: by the run that ends, and once more by the conversion if it gives up.
-/

set_option autoImplicit false

namespace Recolor

/-! ## What is done about pictures -/

/-- Whether an event is about a picture. -/
def Event.isHandling : Event → Bool
  | .opened _ | .closed _ | .encoded _ => true
  | _ => false

/-- The picture that an event hands to the encoder. -/
def Event.job? : Event → Option EncodeJob
  | .encoded job => some job
  | _ => none

/-- Every picture that is opened is closed behind. -/
def Event.ClosesAll : List Event → Prop
  | [] => True
  | .opened p :: rest => .closed p ∈ rest ∧ ClosesAll rest
  | _ :: rest => ClosesAll rest

namespace World

/-- What was done about pictures, in order. -/
def handled (w : World) : List Event :=
  w.events.filter Event.isHandling

/-- What is noted is handled if it is a handling event, and passed over otherwise. -/
theorem handled_note (w : World) (e : Event) :
    (w.note e).handled = w.handled ++ if e.isHandling then [e] else [] := by
  unfold handled note
  rw [List.filter_append]
  cases h : e.isHandling <;> simp [h]

/-- An event that is no handling leaves what was handled. -/
theorem handled_note_of_not {e : Event} (h : e.isHandling = false) (w : World) :
    (w.note e).handled = w.handled := by
  rw [handled_note, h]
  exact List.append_nil _

/-- Reading, writing and searching for files leave what was handled. -/
theorem passesOver_handled : PassesOver handled where
  read w _ := handled_note_of_not rfl w
  wrote w files _ := handled_note_of_not rfl { w with files }
  searched w _ := handled_note_of_not rfl w

/-- The pictures that were encoded are those among the handled events. -/
theorem jobs_eq_filterMap (w : World) : w.jobs = w.handled.filterMap Event.job? := by
  unfold jobs handled
  rw [List.filterMap_filter]
  congr 1
  funext e
  cases e <;> rfl

/-- Further handled events add their pictures to those that were encoded. -/
theorem jobs_of_handled {w w' : World} {events : List Event}
    (h : w'.handled = w.handled ++ events) : w'.jobs = w.jobs ++ events.filterMap Event.job? := by
  rw [jobs_eq_filterMap, h, List.filterMap_append, ← jobs_eq_filterMap]

end World

/-! ## What a conversion ends with -/

/-- The report of a conversion that succeeded. -/
structure Report.IsSuccess (report : Report) (output : Path) (p : Picture) : Prop where
  succeeded : report.succeeded = true
  problem : report.problem = none
  outputPath : report.outputPath = some output
  height : report.height = p.height
  rows : (report.rows : Int) = p.height

/-- The report of a conversion that failed. -/
structure Report.IsFailure (report : Report) : Prop where
  succeeded : report.succeeded = false
  problem : report.problem.isSome = true
  outputPath : report.outputPath = none
  rows : report.rows = 0

/-- A picture for the encoder that has all rows of a picture and goes to a path. -/
structure EncodeJob.IsWhole (job : EncodeJob) (output : Path) (p : Picture) : Prop where
  path : job.path = output
  width : job.width = p.width
  height : job.height = p.height
  complete : job.samples.length = p.height.toNat * (p.width.toNat * job.mode.bands)

/-- Whether a configuration asks to save an embedded profile to the place of a path. -/
def Config.SavesTo (c : Config) (t : FileTree) (p : Path) : Prop :=
  ∃ name place, Reference.ofValue c.output.saveEmbedded = .named name
    ∧ t.place (Path.ofString name) = .ok place ∧ t.place p = .ok place

namespace Conversion

/-- A conversion that handed nothing to the encoder, and wrote over nothing that its destination
leads to. -/
structure HandsNothing (c : Config) (output : Path) (w w' : World) : Prop where
  jobs : w'.jobs = w.jobs
  destination : ¬c.SavesTo w.files output →
    (w'.files.node output).toOption = (w.files.node output).toOption

/-- A conversion whose picture the encoder refused, as the report says. -/
def IsRefused (input output : Path) (s : Services) (w : World) (report : Report) (w' : World) :
    Prop :=
  ∃ job f v, job.path = output ∧ w'.jobs = w.jobs ++ [job]
    ∧ (Work.encode job).run s v = (.error (.fault f), v.note (.encoded job))
    ∧ w' = (v.note (.encoded job)).note (.closed input)
    ∧ report.problem = some (ConversionError.message (.codec (.cannotWrite output f)))

/-- A conversion whose picture was encoded with all rows of the source's. -/
def Delivers (input output : Path) (s : Services) (w : World) (report : Report) (w' : World) :
    Prop :=
  ∃ content p job v, w.files.read input = .ok content ∧ s.codec.identify input content = some p
    ∧ report.IsSuccess output p ∧ job.IsWhole output p ∧ w'.jobs = w.jobs ++ [job]
    ∧ (Work.encode job).run s v = (.ok (), w')

/-- How a conversion ends: it delivers, or fails before or with the encoder. Each picture that it
opened is closed. -/
structure Concludes (c : Config) (input output : Path) (s : Services) (w : World)
    (report : Report) (w' : World) : Prop where
  outcome : Delivers input output s w report w'
    ∨ report.IsFailure ∧ (HandsNothing c output w w' ∨ IsRefused input output s w report w')
  closed : ∃ events, w'.handled = w.handled ++ events ∧ Event.ClosesAll events

end Conversion

variable {s : Services} {w w' : World} {c : Config} {input output : Path}

/-! ## The steps -/

/-- How opening a source ended, and what it left. -/
inductive Reader.Opening (path : Path) (w : World) : Except Failure Reader → World → Prop
  | opened (reader : Reader) (hpath : reader.path = path) :
      Opening path w (.ok reader) ((w.note (.read path)).note (.opened path))
  /-- No picture was found in the file. -/
  | absent (e : ConversionError) : Opening path w (.error (.conversion e)) (w.note (.read path))
  /-- The picture was closed again since it is none of the format. -/
  | refused (e : ConversionError) : Opening path w (.error (.conversion e))
      (((w.note (.read path)).note (.opened path)).note (.closed path))
  | faulty (f : Fault) (w' : World) : Opening path w (.error (.fault f)) w'

/-- A source is opened, or is not open after a conversion error. -/
theorem Reader.opening_of_openFile {path : Path} {result : Except Failure Reader}
    (h : (Reader.openFile path).run s w = (result, w')) : Opening path w result w' := by
  have hworld : ((Work.readFile path).run s w).2 = w.note (.read path) := by
    simp only [Work.run, Work.readFile]
    cases w.files.read path <;> rfl
  rw [openFile, Work.run_bind_of_ok (Work.run_outcome _), hworld] at h
  cases hread : ((Work.readFile path).run s w).1 with
  | error e =>
    cases e with
    | conversion e =>
      simp only [hread, Work.run_fail, Prod.mk.injEq] at h
      obtain ⟨rfl, rfl⟩ := h
      exact .absent _
    | fault f =>
      simp only [hread] at h
      split at h
      · simp only [Work.run_fail, Prod.mk.injEq] at h
        obtain ⟨rfl, rfl⟩ := h
        exact .absent _
      · simp only [Work.run_fail, Prod.mk.injEq] at h
        obtain ⟨rfl, rfl⟩ := h
        exact .faulty _ _
  | ok content =>
    simp only [hread, Work.run_bind_of_ok Work.run_services] at h
    cases hp : s.codec.identify path content with
    | none =>
      simp only [hp, Work.run_fail, Prod.mk.injEq] at h
      obtain ⟨rfl, rfl⟩ := h
      exact .absent _
    | some p =>
      simp only [hp, Work.run_bind_of_ok (Work.run_note _)] at h
      split at h
      · -- what the picture says of itself can only be a fault
        cases hmarkers : markersOf p.segments with
        | error f =>
          rw [hmarkers, Work.run_bind_of_error (Work.run_lift_error f), Prod.mk.injEq] at h
          obtain ⟨rfl, rfl⟩ := h
          exact .faulty _ _
        | ok markers =>
          rw [hmarkers, Work.run_bind_of_ok (Work.run_lift_ok markers)] at h
          cases hresolution : resolutionOf p with
          | error f =>
            rw [hresolution, Work.run_bind_of_error (Work.run_lift_error f), Prod.mk.injEq] at h
            obtain ⟨rfl, rfl⟩ := h
            exact .faulty _ _
          | ok resolution =>
            rw [hresolution, Work.run_bind_of_ok (Work.run_lift_ok resolution), Work.run_pure,
              Prod.mk.injEq] at h
            obtain ⟨rfl, rfl⟩ := h
            exact .opened _ rfl
      · simp only [Work.run_bind_of_ok (Work.run_note _), Work.run_fail, Prod.mk.injEq] at h
        obtain ⟨rfl, rfl⟩ := h
        exact .refused _

namespace Conversion

variable {reader : Reader} {r : Resolved}

/-- Resolving the transform of a conversion opens, closes and encodes nothing. -/
theorem leaves_handled_resolve (c : Config) (reader : Reader) :
    Work.Leaves World.handled (resolve c reader) :=
  .bind (.lift _) fun request => request.leaves_resolve World.passesOver_handled
    (fun w _ => World.handled_note_of_not rfl w) _ _

/-- Resolving a transform leaves what a path leads to, unless the embedded profile is saved
there. -/
theorem node_of_resolve {result : Except Failure Resolved}
    (h : (resolve c reader).run s w = (result, w')) (hsaved : ¬c.SavesTo w.files output) :
    (w'.files.node output).toOption = (w.files.node output).toOption := by
  unfold resolve at h
  cases hrequest : c.request with
  | error f =>
    rw [hrequest, Work.run_bind_of_error (Work.run_lift_error f), Prod.mk.injEq] at h
    rw [← h.2]
  | ok request =>
    rw [hrequest, Work.run_bind_of_ok (Work.run_lift_ok request)] at h
    have hsame := (Config.request_ok hrequest).2
    cases hname : request.saveEmbedded with
    | named name =>
      have hleaves := request.leaves_files_resolve (Path.ofString name) (by simp [hname])
        reader.color Writer.invertsCmyk
      refine FileTree.toOption_eq_of_seen
        (FileTree.sight_of_elsewhere (hleaves.apply h) fun place hwritable hplace' => ?_)
      have hplace := (FileTree.writable_ok_iff.mp hwritable).2.1
      exact hsaved ⟨name, place, by rw [← hsame, hname], hplace, hplace'⟩
    | _ =>
      -- nothing is saved, so any path will do that leads nowhere
      have hleaves := request.leaves_files_resolve { root := .slash } (by simp [hname])
        reader.color Writer.invertsCmyk
      refine FileTree.toOption_eq_of_seen
        (FileTree.sight_of_elsewhere (hleaves.apply h) fun place hwritable => ?_)
      exact absurd ⟨by decide, rfl⟩ (FileTree.writable_ok_iff.mp hwritable).1

/-- Taking rows through that fails has broken off, by itself or as the run did. -/
theorem broke_of_transfer {e : Failure}
    (h : (transfer c reader output r).run s w = (.error e, w')) :
    Scanline.Broke s reader.path output w e w' := by
  unfold transfer at h
  cases hwriter : Writer.create output reader.width reader.height r.outputSpace
      c.output.quality with
  | error e₁ =>
    rw [hwriter, Work.run_bind_of_error (Work.run_ofExcept _), Prod.mk.injEq] at h
    rw [← h.2]
    exact .early e
  | ok writer =>
    obtain ⟨hpath, -, -, hrows, -⟩ := Writer.create_ok hwriter
    obtain ⟨outcome, s', w₁, hrun⟩ := Scanline.exists_run { reader, writer }
      { transform := r.transform, space := some r.outputSpace, embed := r.embedData } s w
    rw [hwriter, Work.run_bind_of_ok (Work.run_ofExcept _), Work.run_bind_of_ok hrun] at h
    simp only [Work.run_ofExcept, Prod.mk.injEq] at h
    obtain ⟨rfl, rfl⟩ := h
    rw [← hpath]
    exact Scanline.broke_of_run (.initial reader writer hrows) hrun

/-- Taking rows through that succeeds has closed the source and encoded a whole picture. -/
theorem exists_job_of_transfer {n : Nat}
    (h : (transfer c reader output r).run s w = (.ok n, w')) :
    (n : Int) = reader.height ∧ ∃ job, job.IsWhole output reader.picture
      ∧ (Work.encode job).run s (w.note (.closed reader.path)) = (.ok (), w') := by
  obtain ⟨writer, s', hwriter, hrun⟩ := transfer_ok h
  obtain ⟨hpath, hwidth, hheight, hrows, -, -, hcolumns⟩ := Writer.create_ok hwriter
  obtain ⟨job, hencode, hjob, hjobWidth, hjobHeight, hcomplete, hcount⟩ :=
    Scanline.exists_job_of_run (.initial reader writer hrows) (by rw [hwidth]; exact hcolumns) hrun
  have hn : (n : Int) = reader.height := hcount.trans hheight
  refine ⟨hn, job, ⟨hjob.trans hpath, hjobWidth.trans hwidth, hjobHeight.trans hheight, ?_⟩,
    hencode⟩
  have hrowCount : reader.picture.height.toNat = n := by
    show reader.height.toNat = n
    omega
  rw [hcomplete, hwidth, hrowCount]
  rfl

/-- Giving up reports a conversion error, and only that. -/
theorem isFailure_of_giveUp {report₀ report : Report} {e : Failure}
    (hreport : report₀.succeeded = false ∧ report₀.outputPath = none ∧ report₀.rows = 0)
    (h : (giveUp report₀ e).run s w = (.ok report, w')) :
    w' = w ∧ report.IsFailure
      ∧ ∃ e', e = .conversion e' ∧ report.problem = some e'.message := by
  cases e with
  | fault f => simp [giveUp] at h
  | conversion e =>
    simp only [giveUp, Work.run_pure, Prod.mk.injEq, Except.ok.injEq] at h
    obtain ⟨rfl, rfl⟩ := h
    exact ⟨rfl, ⟨hreport.1, rfl, hreport.2.1, hreport.2.2⟩, e, rfl, rfl⟩

/-- Only refusals that the system or a value is to blame for are conversion errors. -/
theorem eq_of_refusal {f : Fault} {e : ConversionError}
    (h : Writer.refusal output f = .conversion e) : e = .codec (.cannotWrite output f) := by
  simp only [Writer.refusal] at h
  split at h
  · cases h
    rfl
  · cases h

/-- A conversion that gives up after its source was opened closes it. If it broke off before the
encoder, it has handed nothing over. -/
theorem concludes_of_broke {report : Report} {e : ConversionError} {w₁ w₂ : World}
    (hopened : w₁.handled = w.handled ++ [.opened input])
    (hnode : ¬c.SavesTo w.files output →
      (w₁.files.node output).toOption = (w.files.node output).toOption)
    (hbroke : Scanline.Broke s input output w₁ (.conversion e) w₂)
    (hfailure : report.IsFailure) (hproblem : report.problem = some e.message) :
    Concludes c input output s w report (w₂.note (.closed input)) := by
  have concludes (events : List Event) (hevents : (w₂.note (.closed input)).handled
        = w.handled ++ events) (hcloses : Event.ClosesAll events)
      (houtcome : HandsNothing c output w (w₂.note (.closed input))
        ∨ IsRefused input output s w report (w₂.note (.closed input))) :
      Concludes c input output s w report (w₂.note (.closed input)) :=
    ⟨.inr ⟨hfailure, houtcome⟩, events, hevents, hcloses⟩
  generalize hbroken : Failure.conversion e = failure at hbroke
  cases hbroke with
  | early =>
    have hevents : (w₁.note (.closed input)).handled
        = w.handled ++ [.opened input, .closed input] := by
      simp [World.handled_note, Event.isHandling, hopened]
    exact concludes _ hevents (by simp [Event.ClosesAll])
      (.inl ⟨(World.jobs_of_handled hevents).trans (List.append_nil _), hnode⟩)
  | closed =>
    have hevents : ((w₁.note (.closed input)).note (.closed input)).handled
        = w.handled ++ [.opened input, .closed input, .closed input] := by
      simp [World.handled_note, Event.isHandling, hopened]
    exact concludes _ hevents (by simp [Event.ClosesAll])
      (.inl ⟨(World.jobs_of_handled hevents).trans (List.append_nil _), hnode⟩)
  | refused job f hpath hencode =>
    have hevents : (((w₁.note (.closed input)).note (.encoded job)).note (.closed input)).handled
        = w.handled ++ [.opened input, .closed input, .encoded job, .closed input] := by
      simp [World.handled_note, Event.isHandling, hopened]
    exact concludes _ hevents (by simp [Event.ClosesAll])
      (.inr ⟨job, f, w₁.note (.closed input), hpath, World.jobs_of_handled hevents, hencode,
        rfl, by rw [hproblem, eq_of_refusal hbroken.symm]⟩)

/-- A conversion whose rows were taken through delivers. -/
theorem concludes_of_transfer {report : Report} {r : Resolved} {n : Nat} {w₁ : World}
    {content : Bytes} {p : Picture} (hread : w.files.read input = .ok content)
    (hp : s.codec.identify input content = some p) {reader : Reader} (hpath : reader.path = input)
    (hpicture : reader.picture = p) (hopened : w₁.handled = w.handled ++ [.opened input])
    (htransfer : (transfer c reader output r).run s w₁ = (.ok n, w'))
    (hreport : (n : Int) = p.height → report.IsSuccess output p) :
    Concludes c input output s w report w' := by
  obtain ⟨hn, job, hwhole, hencode⟩ := exists_job_of_transfer htransfer
  rw [hpath] at hencode
  obtain ⟨data, files, -, -, hw'⟩ := Work.run_encode_ok_iff.mp hencode
  have hevents : w'.handled = w.handled ++ [.opened input, .closed input, .encoded job] := by
    have hfiles : ({ w₁.note (.closed input) with files } : World).handled
        = (w₁.note (.closed input)).handled := rfl
    rw [hw', World.handled_note, World.handled_note, hfiles, World.handled_note, hopened]
    simp [Event.isHandling]
  have hsuccess : report.IsSuccess output p := hreport (by rw [hn, Reader.height, hpicture])
  exact ⟨.inl ⟨content, p, job, w₁.note (.closed input), hread, hp, hsuccess, hpicture ▸ hwhole,
    World.jobs_of_handled hevents, hencode⟩, _, hevents, by simp [Event.ClosesAll]⟩

/-- An opened source whose conversion fails was not resolved, or its rows were not taken through. -/
theorem broke_of_convertOpened {report report₁ : Report} {e : Failure}
    (h : (convertOpened c reader output report).run s w = (.ok (.error e, report₁), w')) :
    ∃ result w₁, (resolve c reader).run s w = (result, w₁)
      ∧ Scanline.Broke s reader.path output w₁ e w' := by
  unfold convertOpened at h
  rw [Work.run_bind_of_ok (Work.run_outcome _)] at h
  cases hresolve : (resolve c reader).run s w with
  | mk resolved w₁ =>
    rw [hresolve] at h
    cases resolved with
    | error e₁ =>
      simp only [Work.run_pure, Prod.mk.injEq, Except.ok.injEq, Except.error.injEq] at h
      obtain ⟨⟨rfl, -⟩, rfl⟩ := h
      exact ⟨_, w₁, rfl, .early e₁⟩
    | ok r =>
      rw [Work.run_bind_of_ok (Work.run_outcome _), Work.run_pure] at h
      simp only [Prod.mk.injEq, Except.ok.injEq] at h
      obtain ⟨⟨hfailed, -⟩, rfl⟩ := h
      exact ⟨_, w₁, rfl, broke_of_transfer (Prod.ext hfailed rfl)⟩

/-- A conversion of a file that returns has come to its end, delivered or given up. -/
theorem concludes_of_convertFile {report : Report}
    (h : (convertFile c input output).run s w = (.ok report, w')) :
    Concludes c input output s w report w' := by
  unfold convertFile at h
  rw [Work.run_bind_of_ok (Work.run_outcome _)] at h
  cases hopen : (Reader.openFile input).run s w with
  | mk opened w₁ =>
    rw [hopen] at h
    cases Reader.opening_of_openFile hopen with
    | faulty f => simp [giveUp] at h
    | absent e =>
      obtain ⟨rfl, hfailure, -⟩ := isFailure_of_giveUp ⟨rfl, rfl, rfl⟩ h
      have hevents : (w.note (.read input)).handled = w.handled ++ [] := by
        simp [World.handled_note, Event.isHandling]
      exact ⟨.inr ⟨hfailure, .inl ⟨(World.jobs_of_handled hevents).trans (List.append_nil _),
        fun _ => rfl⟩⟩, _, hevents, trivial⟩
    | refused e =>
      obtain ⟨rfl, hfailure, -⟩ := isFailure_of_giveUp ⟨rfl, rfl, rfl⟩ h
      have hevents : (((w.note (.read input)).note (.opened input)).note (.closed input)).handled
          = w.handled ++ [.opened input, .closed input] := by
        simp [World.handled_note, Event.isHandling]
      exact ⟨.inr ⟨hfailure, .inl ⟨(World.jobs_of_handled hevents).trans (List.append_nil _),
        fun _ => rfl⟩⟩, _, hevents, by simp [Event.ClosesAll]⟩
    | opened reader hpath =>
      obtain ⟨content, p, markers, resolution, hread, hp, hreader⟩ := Reader.openFile_ok hopen
      have hpicture : reader.picture = p := by rw [hreader]; rfl
      let w₁ := (w.note (.read input)).note (.opened input)
      have hopened : w₁.handled = w.handled ++ [.opened input] := by
        simp [w₁, World.handled_note, Event.isHandling]
      simp only [Work.run_bind_ok_iff, Work.run_fileSize_ok_iff] at h
      obtain ⟨size, w₂, ⟨-, hw₂⟩, ⟨outcome, report₁⟩, w₃, hconvert, h⟩ := h
      rw [hw₂] at hconvert
      cases outcome with
      | error e =>
        obtain ⟨resolved, w₄, hresolve, hbroke⟩ := broke_of_convertOpened hconvert
        rw [hpath] at hbroke
        rw [Work.run_bind_of_ok (reader.run_close s w₃), hpath] at h
        have hfresh : report₁.succeeded = false ∧ report₁.outputPath = none
            ∧ report₁.rows = 0 := by
          rcases report_of_convertOpened hconvert with rfl | ⟨r, rfl⟩
          · exact ⟨rfl, rfl, rfl⟩
          · exact ⟨rfl, rfl, rfl⟩
        obtain ⟨rfl, hfailure, e', rfl, hproblem⟩ := isFailure_of_giveUp hfresh h
        have hresolved : w₄.handled = w.handled ++ [.opened input] :=
          ((leaves_handled_resolve c reader).apply hresolve).trans hopened
        exact concludes_of_broke hresolved (node_of_resolve (w := w₁) hresolve) hbroke hfailure
          hproblem
      | ok n =>
        obtain ⟨r, w₄, hresolve, htransfer, rfl⟩ := convertOpened_ok hconvert
        have hresolved : w₄.handled = w.handled ++ [.opened input] :=
          ((leaves_handled_resolve c reader).apply hresolve).trans hopened
        simp only [conclude, Work.run_bind_ok_iff, Work.run_fileSize_ok_iff, Work.run_pure,
          Prod.mk.injEq, Except.ok.injEq] at h
        obtain ⟨outputSize, w₅, ⟨-, rfl⟩, rfl, rfl⟩ := h
        refine concludes_of_transfer hread hp hpath hpicture hresolved htransfer fun hn => ?_
        exact ⟨rfl, rfl, rfl, by rw [← hpicture]; rfl, hn⟩

/-- Whatever its input, its configuration and its services are, a conversion that comes to an end of
its own has delivered a whole picture and says so, or has failed and says so; if it failed, it has
handed nothing to the encoder and left what its destination leads to, unless the encoder refused its
picture. A source that it opened is closed. -/
theorem concludes_of_run {report : Report}
    (h : (run c input output).run s w = (.ok report, w')) :
    Concludes c input output s w report w' := by
  have hnow (w : World) : Work.now.run s w = (.ok (s.clock w.events.length), w) := rfl
  simp only [run, Work.run_bind_ok_iff, Work.run_lift_ok_iff] at h
  obtain ⟨problems, w₁, ⟨-, rfl⟩, h⟩ := h
  cases problems with
  | cons problem rest =>
    simp only [Work.run_pure, Prod.mk.injEq, Except.ok.injEq] at h
    obtain ⟨rfl, rfl⟩ := h
    exact ⟨.inr ⟨⟨rfl, rfl, rfl, rfl⟩, .inl ⟨rfl, fun _ => rfl⟩⟩, [],
      (List.append_nil _).symm, trivial⟩
  | nil =>
    simp only [Work.run_bind_ok_iff, hnow, Work.run_pure, Prod.mk.injEq, Except.ok.injEq] at h
    obtain ⟨start, w₂, ⟨-, rfl⟩, converted, w₃, hconvert, stop, w₄, ⟨-, rfl⟩, rfl, rfl⟩ := h
    obtain ⟨houtcome, hclosed⟩ := concludes_of_convertFile hconvert
    refine ⟨?_, hclosed⟩
    -- the time that it took is noted in the report
    rcases houtcome with ⟨content, p, job, v, hread, hp, hsuccess, hwhole, hjobs, hencode⟩
      | ⟨hfailure, hhands⟩
    · have htimed : ({ converted with elapsed := stop - start } : Report).IsSuccess output p :=
        ⟨hsuccess.succeeded, hsuccess.problem, hsuccess.outputPath, hsuccess.height,
          hsuccess.rows⟩
      exact .inl ⟨content, p, job, v, hread, hp, htimed, hwhole, hjobs, hencode⟩
    · have htimed : ({ converted with elapsed := stop - start } : Report).IsFailure :=
        ⟨hfailure.succeeded, hfailure.problem, hfailure.outputPath, hfailure.rows⟩
      exact .inr ⟨htimed, hhands⟩

end Conversion

/-- A folder with the file of the picture of one pixel. -/
def pixelWorld : World :=
  { files := { nodes := [(["in.jpg"], .file [0xFF, 0xD8])] } }

/-- Services with an encoder that has no room to write to. -/
def fullServices : Services :=
  { pixelServices with
    codec := Codec.ofPictures [("in.jpg", onePixel)] (some (.raised .system "disk full")) }

/-- The conversion of a picture of one pixel comes to its end all the same when the encoder refuses
that picture. -/
theorem Conversion.exists_run_full : ∃ report w' job,
    (Conversion.run {} { parts := ["in.jpg"] } { parts := ["out.jpg"] }).run fullServices
      pixelWorld = (.ok report, w') ∧ report.succeeded = false ∧ w'.jobs = [job] := by
  have hcontent : pixelWorld.files.read { parts := ["in.jpg"] } = .ok [0xFF, 0xD8] :=
    FileTree.read_name isPlain_in rfl
  let w₁ : World := (pixelWorld.note (.read { parts := ["in.jpg"] })).note
    (.opened { parts := ["in.jpg"] })
  have hopen : (Reader.openFile { parts := ["in.jpg"] }).run fullServices pixelWorld
      = (.ok pixelReader, w₁) :=
    Reader.run_openFile hcontent rfl rfl rfl rfl
  have hsize : (Work.fileSize { parts := ["in.jpg"] }).run fullServices w₁ = (.ok 2, w₁) :=
    Work.run_fileSize_ok_iff.mpr ⟨⟨_, hcontent, rfl⟩, rfl⟩
  have hconvert : ∃ report w' job, (Conversion.convertFile {} { parts := ["in.jpg"] }
      { parts := ["out.jpg"] }).run fullServices pixelWorld = (.ok report, w')
      ∧ report.succeeded = false ∧ w'.jobs = [job] := by
    unfold Conversion.convertFile
    rw [Work.run_bind_of_ok (Work.run_outcome _), hopen]
    dsimp only
    rw [Work.run_bind_of_ok hsize]
    exact ⟨_, _, _, rfl, rfl, rfl⟩
  obtain ⟨report, w', job, hfile, hfailed, hjobs⟩ := hconvert
  obtain ⟨elapsed, hrun⟩ := Conversion.run_of_convertFile rfl hfile
  exact ⟨_, w', job, hrun, hfailed, hjobs⟩

/-- One conversion that delivers, and one whose picture the encoder refuses. -/
theorem Conversion.concludes_lab_full :
    (∃ report w', (Conversion.run labConfig { parts := ["in.jpg"] } { parts := ["out.jpg"] }).run
        pixelServices labWorld = (.ok report, w')
      ∧ Delivers { parts := ["in.jpg"] } { parts := ["out.jpg"] } pixelServices labWorld report w')
    ∧ ∃ report w', (Conversion.run {} { parts := ["in.jpg"] } { parts := ["out.jpg"] }).run
        fullServices pixelWorld = (.ok report, w')
      ∧ report.IsFailure ∧ IsRefused { parts := ["in.jpg"] } { parts := ["out.jpg"] } fullServices
        pixelWorld report w' := by
  constructor
  · obtain ⟨report, w', job, hrun, hsucceeded, -, -⟩ := Conversion.exists_run_lab
    refine ⟨report, w', hrun, (Conversion.concludes_of_run hrun).outcome.resolve_right ?_⟩
    rintro ⟨hfailure, -⟩
    rw [hfailure.succeeded] at hsucceeded
    cases hsucceeded
  · obtain ⟨report, w', job, hrun, hfailed, hjobs⟩ := Conversion.exists_run_full
    refine ⟨report, w', hrun, ?_⟩
    rcases (Conversion.concludes_of_run hrun).outcome with ⟨_, _, _, _, -, -, hsuccess, -⟩
      | ⟨hfailure, hnothing | hrefused⟩
    · rw [hsuccess.succeeded] at hfailed
      cases hfailed
    · rw [hnothing.jobs] at hjobs
      cases hjobs
    · exact ⟨hfailure, hrefused⟩

end Recolor
