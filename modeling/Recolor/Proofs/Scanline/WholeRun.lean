import Recolor.Proofs.Scanline.Delivery

/-!
# A whole run

A run that starts, takes all of its steps and finishes is one of the sequences of calls. So its
rows are the transforms of the rows of the source, and the picture that it hands to the encoder is
made of them, complemented once more for four components.
-/

set_option autoImplicit false

namespace Recolor.Scanline

variable {s s' : Scanline} {setup : Setup} {r₀ : Reader} {w₀ : Writer}

/-- A run with a transform whose rows have the sizes that the transform's formats take up at a
width. -/
structure HasRooms (s : Scanline) (t : Transform) (width : Int) : Prop where
  transform : s.transform = some t
  rowSize : (s.rowSize : Int) = t.inputFormat.rowBytes width
  rowOut : (s.rowOut.length : Int) = t.outputFormat.rowBytes width

/-- A run that starts has the transform that it was given, and room for rows of the source's
width. -/
theorem hasRooms_of_start (h : s.start setup = (.ok (), s')) :
    s'.HasRooms setup.transform s.reader.width := by
  unfold start at h
  split at h
  · simp at h
  · dsimp only at h
    split at h
    · simp at h
    · simp at h
    · rename_i hin hout
      split at h
      · simp at h
      · simp only [Prod.mk.injEq, true_and] at h
        rw [← h]
        refine ⟨rfl, Int.toNat_of_nonneg (Rows.nonneg_of_checkRoom hin).2, ?_⟩
        rw [List.length_replicate]
        exact Int.toNat_of_nonneg (Rows.nonneg_of_checkRoom hout).2

/-- No step changes the transform. -/
theorem transform_step (s : Scanline) : s.step.2.transform = s.transform := by
  obtain ⟨reader, rowOut, -, -, hstep | ⟨out, -, hstep⟩⟩ := s.step_cases
  · rw [hstep]
  · rw [hstep]

/-- What every step keeps, all steps keep. -/
theorem steps_induction {P : Scanline → Prop} (hstep : ∀ s, P s → P s.step.2) (hs : P s)
    (count : Nat) : P (s.steps count).2 := by
  induction count generalizing s with
  | zero => exact hs
  | succ count ih =>
    unfold steps
    have hnext := hstep s hs
    cases h : s.step with
    | mk outcome s₁ =>
      rw [h] at hnext
      cases outcome with
      | error e => exact hnext
      | ok more =>
        cases more with
        | false => exact hnext
        | true => exact ih hnext

/-- No step changes the sizes of rows. -/
theorem HasRooms.step {t : Transform} {width : Int} (h : s.HasRooms t width) :
    s.step.2.HasRooms t width := by
  obtain ⟨reader, rowOut, -, hlength, hstep | ⟨out, -, hstep⟩⟩ := s.step_cases
  · rw [hstep]
    exact ⟨h.transform, h.rowSize, hlength ▸ h.rowOut⟩
  · rw [hstep]
    exact ⟨h.transform, h.rowSize, hlength ▸ h.rowOut⟩

/-- The sizes of rows are the same after any number of steps. -/
theorem HasRooms.steps {t : Transform} {width : Int} (h : s.HasRooms t width) (count : Nat) :
    (s.steps count).2.HasRooms t width :=
  steps_induction (P := fun s => s.HasRooms t width) (fun _ hs => hs.step) h count

/-- A run that succeeds starts, takes its steps and finishes. -/
theorem run_ok {v : Services} {w w' : World} {n : Nat}
    (h : (s.run setup).run v w = (.ok (.ok n, s'), w')) :
    ∃ s₁ s₂ count, s.start setup = (.ok (), s₁) ∧ s₁.steps count = (.ok (), s₂)
      ∧ s₂.finish.run v w = (.ok (.ok (), s'), w') ∧ n = s'.rowsProcessed := by
  unfold run at h
  cases hstart : s.start setup with
  | mk outcome s₁ =>
    cases outcome with
    | error e => simp [hstart] at h
    | ok _ =>
      simp only [hstart] at h
      cases hsteps : s₁.steps (s₁.reader.height.toNat + 1) with
      | mk outcome s₂ =>
        cases outcome with
        | error e => simp [hsteps] at h
        | ok _ =>
          simp only [hsteps, Work.run_bind_ok_iff] at h
          obtain ⟨⟨outcome, s₃⟩, w₁, hfinish, h⟩ := h
          cases outcome with
          | error e => simp at h
          | ok _ =>
            simp only [Work.run_pure, Prod.mk.injEq, Except.ok.injEq] at h
            obtain ⟨⟨rfl, rfl⟩, rfl⟩ := h
            exact ⟨s₁, s₂, _, rfl, hsteps, hfinish, rfl⟩

/-- Conversely a run succeeds that starts, takes its steps to the last row and can be encoded with
the surviving markers. -/
theorem run_of_encode {v : Services} {w w' : World} {s₁ s₂ : Scanline} {markers : List Marker}
    {options : SaveOptions} (hstart : s.start setup = (.ok (), s₁))
    (hsteps : s₁.steps (s₁.reader.height.toNat + 1) = (.ok (), s₂))
    (hphase : s₂.phase = .streaming) (hdone : s₂.isDone = true)
    (hmarkers : ({ s₂ with reader := s₂.reader.closed } : Scanline).survivingMarkers = .ok markers)
    (hcount : (s₂.writer.rowsWritten : Int) = s₂.writer.height)
    (hoptions : (s₂.writer.addMarkers markers).saveOptions = .ok options)
    (hencode : (Work.encode ((s₂.writer.addMarkers markers).job options)).run v
      (w.note (.closed s₂.reader.path)) = (.ok (), w')) :
    (s.run setup).run v w = (.ok (.ok s₂.rowsProcessed,
      { s₂ with reader := s₂.reader.closed, writer := s₂.writer.addMarkers markers
                phase := .finished }), w') := by
  have hfinish := finish_ok_iff.mpr ⟨hphase, hdone, markers, hmarkers,
    Writer.finish_ok_iff.mpr ⟨hcount, options, hoptions, hencode⟩, rfl⟩
  unfold run
  rw [hstart]
  dsimp only
  rw [hsteps]
  dsimp only
  rw [Work.run_bind_of_ok hfinish]
  rfl

/-- A run that succeeds writes the transforms of the rows of the source, if the formats are those
of reader and writer, and hands the writer's picture to the encoder. -/
theorem images_of_run (h₀ : r₀.rows = none) (hread : r₀.rowsRead = 0) (hw : w₀.rows = [])
    (hheight : w₀.height = r₀.height) (hnonneg : 0 ≤ r₀.height) (hwidth : 0 ≤ r₀.width)
    (ht : setup.transform.IsExact) (hsuits : setup.transform.Suits r₀ w₀)
    {v : Services} {w w' : World} {n : Nat}
    (h : (({ reader := r₀, writer := w₀ } : Scanline).run setup).run v w
      = (.ok (.ok n, s'), w')) :
    s'.writer.facts = w₀.facts ∧ (s'.writer.rows.length : Int) = r₀.height
      ∧ (∀ y : Nat, (y : Int) < r₀.height → ∃ row, r₀.sourceRow y = .ok row
        ∧ setup.transform.image row = .ok (s'.writer.rows.getD y []))
      ∧ ∃ options, w'.jobs = w.jobs ++ [s'.writer.job options] := by
  obtain ⟨s₁, s₂, count, hstart, hsteps, hfinish, -⟩ := run_ok h
  have hfresh : Invariant r₀ w₀ { reader := r₀, writer := w₀ } := .initial h₀ hread hnonneg hw
  have hstarted : s₁.Invariant r₀ w₀ := by
    have := hfresh.start ht
    rwa [hstart] at this
  have hstepped : s₂.Invariant r₀ w₀ ∧ s₂.transform = some setup.transform := by
    have := steps_induction
      (P := fun s => s.Invariant r₀ w₀ ∧ s.transform = some setup.transform)
      (fun s hs => ⟨hs.1.step h₀, by rw [transform_step, hs.2]⟩)
      ⟨hstarted, (hasRooms_of_start hstart).transform⟩ count
    rwa [hsteps] at this
  have hi : s'.Invariant r₀ w₀ := hstepped.1.finish hheight hfinish
  obtain ⟨hcount, options, -, hjobs⟩ := jobs_of_finish hfinish
  obtain ⟨-, -, markers, -, -, rfl⟩ := finish_ok_iff.mp hfinish
  refine ⟨hi.writer, ?_, ?_, options, hjobs⟩
  · rw [← hheight, ← Writer.height_eq_of_facts hi.writer]
    exact hcount
  · intro y hy
    obtain ⟨t, hrunning⟩ := hi.running (by simp)
    have hsame : t = setup.transform :=
      Option.some.inj (hrunning.transform.symm.trans hstepped.2)
    subst hsame
    have hall : (s₂.rowsProcessed : Int) = r₀.height := hi.finished rfl
    have hprocessed := hi.processed
    have hreadAll := hi.read
    obtain ⟨row, hsource, hpassage⟩ := hrunning.delivered
      (by simp only at hprocessed hreadAll ⊢; omega) y (by simp only; omega)
    exact ⟨row, hsource, hsuits.image_of_passage hwidth ht
      (Reader.length_of_sourceRow h₀ hwidth hy hsource) hpassage⟩

end Recolor.Scanline
