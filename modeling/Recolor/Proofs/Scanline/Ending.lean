import Recolor.Proofs.Scanline.WholeRun

/-!
# How a run ends

Whatever a transform makes of the rows, the rows of a writer are counted and of one length, since
each is fitted into the room for a row. So a run that succeeds hands a picture of full size to the
encoder (`exists_job_of_run`), after it has closed its source. A run that fails leaves the world as
it was, or with its source closed, or with the source closed and a picture that the encoder refused
(`Broke`).
-/

set_option autoImplicit false

namespace Recolor

variable {v : Services} {w w' : World}

/-- How a run that failed left the world, with the failure that it reports. -/
inductive Scanline.Broke (v : Services) (source target : Path) (w : World) :
    Failure → World → Prop
  /-- It did nothing. -/
  | early (e : Failure) : Broke v source target w e w
  /-- It closed its source. -/
  | closed (e : Failure) : Broke v source target w e (w.note (.closed source))
  /-- It closed its source, and the encoder refused the picture. -/
  | refused (job : EncodeJob) (f : Fault) (hpath : job.path = target)
      (hencode : (Work.encode job).run v (w.note (.closed source))
        = (.error f, (w.note (.closed source)).note (.encoded job))) :
      Broke v source target w (Writer.refusal target f)
        ((w.note (.closed source)).note (.encoded job))

namespace Scanline

variable {s s' : Scanline} {setup : Setup} {source : Path} {w₀ : Writer}

/-- What every run keeps, whatever its transform does: the source is the same, and the rows of the
writer are counted and of its length. -/
structure Tally (source : Path) (w₀ : Writer) (s : Scanline) : Prop where
  source : s.reader.path = source
  facts : s.writer.facts = w₀.facts
  counted : s.writer.rowsWritten = s.rowsProcessed
  fitted : ∀ row ∈ s.writer.rows, row.length = w₀.rowLength.toNat

namespace Tally

/-- A new run keeps the tally. -/
theorem initial (reader : Reader) (writer : Writer) (h : writer.rows = []) :
    Tally reader.path writer { reader, writer } where
  source := rfl
  facts := rfl
  counted := by simp [Writer.rowsWritten, h]
  fitted := by simp [h]

/-- Starting keeps the tally. -/
theorem start (h : s.Tally source w₀) (setup : Setup) : (s.start setup).2.Tally source w₀ := by
  have hdescribed (r : Resolution) (t : Option Transform) (q : Option Resolution) :
      Tally source w₀
        { s with writer := describeOutput s.writer r setup, transform := t, resolution := q } :=
    { source := h.source
      facts := by rw [facts_describeOutput]; exact h.facts
      counted := by rw [Writer.rowsWritten, rows_describeOutput]; exact h.counted
      fitted := by rw [rows_describeOutput]; exact h.fitted }
  unfold Scanline.start
  split
  · exact h
  · dsimp only
    have hstarted := hdescribed (sourceResolution s.reader) (some setup.transform)
      (some (sourceResolution s.reader))
    split
    · exact hstarted
    · exact hstarted
    · split
      · exact ⟨hstarted.source, hstarted.facts, hstarted.counted, hstarted.fitted⟩
      · exact ⟨hstarted.source, hstarted.facts, hstarted.counted, hstarted.fitted⟩

/-- A step keeps the tally. -/
theorem step (h : s.Tally source w₀) : s.step.2.Tally source w₀ := by
  obtain ⟨reader, rowOut, hfacts, -, hstep⟩ := s.step_cases
  have hsource : reader.path = source := (Reader.path_eq_of_facts hfacts).trans h.source
  rcases hstep with hstep | ⟨out, hout, hstep⟩
  · rw [hstep]
    exact ⟨hsource, h.facts, h.counted, h.fitted⟩
  · have hcounted : s.writer.rows.length = s.rowsProcessed := h.counted
    rw [hstep]
    refine ⟨hsource, h.facts, by simp [Writer.rowsWritten, hcounted], ?_⟩
    intro row hrow
    rcases List.mem_append.mp hrow with hrow | hrow
    · exact h.fitted row hrow
    · rw [List.mem_singleton.mp hrow, hout, Writer.rowLength_eq_of_facts h.facts]

/-- Several steps keep the tally. -/
theorem steps (h : s.Tally source w₀) (count : Nat) : (s.steps count).2.Tally source w₀ :=
  steps_induction (P := fun s => s.Tally source w₀) (fun _ hs => hs.step) h count

/-- The rows of the writer have the samples of all its pixels. -/
theorem length_of_mem (h : s.Tally source w₀) (hwidth : 0 ≤ w₀.width) :
    ∀ row ∈ s.writer.rows, row.length = s.writer.width.toNat * s.writer.mode.bands := by
  intro row hrow
  have hsame : s.writer.width = w₀.width := Writer.width_eq_of_facts h.facts
  rw [h.fitted row hrow, ← Writer.rowLength_eq_of_facts h.facts,
    Writer.toNat_rowLength (hsame ▸ hwidth)]
  rfl

end Tally

/-- A run always comes to an end of its own. -/
theorem exists_run (s : Scanline) (setup : Setup) (v : Services) (w : World) :
    ∃ outcome s' w', (s.run setup).run v w = (.ok (outcome, s'), w') := by
  unfold run
  split
  · exact ⟨_, _, _, rfl⟩
  · split
    · exact ⟨_, _, _, rfl⟩
    · rename_i s₂ hsteps
      obtain ⟨outcome, s', w', hfinish⟩ := s₂.exists_finish v w
      rw [Work.run_bind_of_ok hfinish]
      cases outcome with
      | error e => exact ⟨_, _, _, rfl⟩
      | ok _ => exact ⟨_, _, _, rfl⟩

/-- Finishing that fails has done nothing, or closed the source, or been refused by the encoder. -/
theorem broke_of_finish {e : Failure} (h : s.finish.run v w = (.ok (.error e, s'), w')) :
    Broke v s.reader.path s.writer.path w e w' := by
  unfold finish at h
  split at h
  · simp only [Work.run_pure, Prod.mk.injEq] at h
    rw [← h.2]
    exact .early e
  · split at h
    · simp only [Work.run_pure, Prod.mk.injEq] at h
      rw [← h.2]
      exact .early e
    · rw [Work.run_bind_of_ok (s.reader.run_close v w)] at h
      cases hmarkers : ({ s with reader := s.reader.closed } : Scanline).survivingMarkers with
      | error f =>
        simp only [hmarkers, Work.run_pure, Prod.mk.injEq] at h
        rw [← h.2]
        exact .closed e
      | ok markers =>
        simp only [hmarkers, Work.run_bind_of_ok (Work.run_outcome _)] at h
        cases hfinish : (s.writer.addMarkers markers).finish.run v
            (w.note (.closed s.reader.path)) with
        | mk result w₁ =>
          cases result with
          | ok _ => simp [hfinish] at h
          | error e₁ =>
            simp only [hfinish, Work.run_pure, Prod.mk.injEq, Except.ok.injEq,
              Except.error.injEq] at h
            obtain ⟨⟨rfl, -⟩, rfl⟩ := h
            rcases Writer.finish_error hfinish with rfl | ⟨options, f, hencode, rfl, rfl⟩
            · exact .closed e₁
            · exact .refused _ f rfl hencode

/-- A run that fails has broken off early, closed its source, or had its picture refused. -/
theorem broke_of_run (ht : s.Tally source w₀) {e : Failure}
    (h : (s.run setup).run v w = (.ok (.error e, s'), w')) : Broke v source w₀.path w e w' := by
  unfold run at h
  cases hstart : s.start setup with
  | mk outcome s₁ =>
    have ht₁ := ht.start setup
    rw [hstart] at ht₁
    cases outcome with
    | error e₁ =>
      simp only [hstart, Work.run_pure, Prod.mk.injEq] at h
      rw [← h.2]
      exact .early e
    | ok _ =>
      simp only [hstart] at h
      cases hsteps : s₁.steps (s₁.reader.height.toNat + 1) with
      | mk outcome s₂ =>
        have ht₂ := ht₁.steps (s₁.reader.height.toNat + 1)
        rw [hsteps] at ht₂
        cases outcome with
        | error e₁ =>
          simp only [hsteps, Work.run_pure, Prod.mk.injEq] at h
          rw [← h.2]
          exact .early e
        | ok _ =>
          obtain ⟨outcome, s₃, w₁, hfinish⟩ := s₂.exists_finish v w
          simp only [hsteps, Work.run_bind_of_ok hfinish] at h
          cases outcome with
          | ok _ => simp at h
          | error e₁ =>
            simp only [Work.run_pure, Prod.mk.injEq, Except.ok.injEq, Except.error.injEq] at h
            obtain ⟨⟨rfl, -⟩, rfl⟩ := h
            have hbroke := broke_of_finish hfinish
            rw [ht₂.source, Writer.path_eq_of_facts ht₂.facts] at hbroke
            exact hbroke

/-- A run that succeeds has closed its source and then encoded a picture with all of its rows, and
it tells how many these are. -/
theorem exists_job_of_run (ht : s.Tally source w₀) (hwidth : 0 ≤ w₀.width) {n : Nat}
    (h : (s.run setup).run v w = (.ok (.ok n, s'), w')) :
    ∃ job, (Work.encode job).run v (w.note (.closed source)) = (.ok (), w')
      ∧ job.path = w₀.path ∧ job.width = w₀.width ∧ job.height = w₀.height
      ∧ job.samples.length = n * (w₀.width.toNat * job.mode.bands) ∧ (n : Int) = w₀.height := by
  obtain ⟨s₁, s₂, count, hstart, hsteps, hfinish, rfl⟩ := run_ok h
  have ht₁ := ht.start setup
  rw [hstart] at ht₁
  have ht₂ := ht₁.steps count
  rw [hsteps] at ht₂
  obtain ⟨-, -, markers, -, hwriter, rfl⟩ := finish_ok_iff.mp hfinish
  obtain ⟨hcount, options, -, hencode⟩ := Writer.finish_ok_iff.mp hwriter
  let writer := s₂.writer.addMarkers markers
  have hfacts : writer.facts = w₀.facts := ht₂.facts
  have hwidth' : writer.width = w₀.width := Writer.width_eq_of_facts hfacts
  have hheight : writer.height = w₀.height := Writer.height_eq_of_facts hfacts
  have hcounted : writer.rows.length = s₂.rowsProcessed := ht₂.counted
  have hsamples : (writer.job options).samples.length
      = writer.rows.length * (writer.width.toNat * writer.mode.bands) :=
    Writer.length_samples_job (ht₂.length_of_mem hwidth) options
  rw [ht₂.source] at hencode
  refine ⟨writer.job options, hencode, Writer.path_eq_of_facts hfacts, hwidth', hheight, ?_, ?_⟩
  · rw [hsamples, hcounted, hwidth']
    rfl
  · rw [← hheight, ← hcount]
    exact congrArg Int.ofNat hcounted.symm

end Scanline

end Recolor
