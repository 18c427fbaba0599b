import Recolor.Jpeg.Scanline
import Recolor.Proofs.Jpeg.Reading
import Recolor.Proofs.Jpeg.Writing

/-!
# Calls to a run

A run over a picture is driven by calls in any order, and a step may also be broken off from
outside at any point of its way. This module says what such calls make of a run: all that a step
can do to it (`step_cases`), and which run finishing leaves.
-/

set_option autoImplicit false

namespace Recolor

/-- Where a step is broken off. -/
inductive Interruption where
  | decoding
  | reading
  | converting
  | writing
  deriving DecidableEq, Repr, Inhabited

/-- A call to a run. -/
inductive Call where
  | start (setup : Setup)
  | step
  | brokenStep (point : Interruption)
  | finish (services : Services) (world : World)

namespace Scanline

/-- A run as a step leaves it that is broken off while a row is on its way. -/
def breakOff (s : Scanline) : Interruption → Scanline
  | .decoding => { s with reader := s.reader.ready }
  | .reading =>
    match s.reader.ready.decode with
    | .error _ => { s with reader := s.reader.ready }
    | .ok rows => { s with reader := { s.reader.ready with rows := some rows } }
  | .converting => { s with reader := (s.reader.readRow s.rowSize).2 }
  | .writing =>
    match s.reader.readRow s.rowSize with
    | (.error _, reader) => { s with reader }
    | (.ok row, reader) =>
      match ({ s with reader } : Scanline).convertRow row with
      | .error _ => { s with reader }
      | .ok converted => { s with reader, rowOut := converted }

/-- A run after a call, whatever becomes of the call. -/
def perform (s : Scanline) : Call → Scanline
  | .start setup => (s.start setup).2
  | .step => s.step.2
  | .brokenStep point => if s.phase = .streaming ∧ ¬s.isDone then s.breakOff point else s
  | .finish services world =>
    match (s.finish.run services world).1 with
    | .error _ => s
    | .ok (_, s') => s'

/-- A run after calls in order. -/
def after (s : Scanline) (calls : List Call) : Scanline :=
  calls.foldl perform s

/-- The last call is made to the run that those before it left. -/
theorem after_concat (s : Scanline) (calls : List Call) (c : Call) :
    s.after (calls ++ [c]) = (s.after calls).perform c := by
  simp [after]

/-- Room that a row is converted into keeps its size. -/
theorem length_of_convertRow {s : Scanline} {row converted : List UInt8}
    (h : s.convertRow row = .ok converted) : converted.length = s.rowOut.length := by
  unfold convertRow at h
  split at h
  · cases h
  · exact Transform.length_of_applyRow h

/-- What a step can make of a run. It reads, and it may fill the room for a row, which keeps its size;
if the row is written, it is counted. -/
theorem step_cases (s : Scanline) : ∃ reader rowOut, reader.facts = s.reader.facts
    ∧ rowOut.length = s.rowOut.length
    ∧ (s.step.2 = { s with reader, rowOut }
      ∨ ∃ out : List UInt8, out.length = s.writer.rowLength.toNat
        ∧ s.step.2 = { s with
            reader, rowOut, writer := { s.writer with rows := s.writer.rows ++ [out] }
            rowsProcessed := s.rowsProcessed + 1 }) := by
  unfold step
  split
  · exact ⟨s.reader, s.rowOut, rfl, rfl, .inl rfl⟩
  · split
    · exact ⟨s.reader, s.rowOut, rfl, rfl, .inl rfl⟩
    · have hread := s.reader.facts_readRow s.rowSize
      split
      · rename_i e reader hreader
        rw [hreader] at hread
        exact ⟨reader, s.rowOut, hread, rfl, .inl rfl⟩
      · rename_i row reader hreader
        rw [hreader] at hread
        unfold passRow
        cases hconvert : ({ s with reader } : Scanline).convertRow row with
        | error e => exact ⟨reader, s.rowOut, hread, rfl, .inl rfl⟩
        | ok converted =>
          refine ⟨reader, converted, hread, length_of_convertRow hconvert, ?_⟩
          cases hwrite : s.writer.writeRow converted with
          | error e =>
            left
            simp only [hwrite]
          | ok writer =>
            obtain ⟨out, hout, rfl⟩ := Writer.writeRow_ok hwrite
            right
            refine ⟨out, Rows.length_of_fill hout, ?_⟩
            simp only [hwrite]

/-- A step that is broken off has at most read a row and filled the room for one. -/
theorem breakOff_cases (s : Scanline) (point : Interruption) :
    ∃ reader rowOut, reader.facts = s.reader.facts ∧ s.breakOff point = { s with reader, rowOut } := by
  have hready : s.reader.ready.facts = s.reader.facts := s.reader.facts_ready
  have hread := s.reader.facts_readRow s.rowSize
  cases point with
  | decoding => exact ⟨_, s.rowOut, hready, rfl⟩
  | reading =>
    unfold breakOff
    dsimp only
    split
    · exact ⟨_, s.rowOut, hready, rfl⟩
    · rename_i rows hdecode
      refine ⟨_, s.rowOut, ?_, rfl⟩
      rw [← hready]
      exact Reader.facts_read s.reader.ready s.reader.ready.isClosed s.reader.ready.rowsRead
        (some rows)
  | converting => exact ⟨_, s.rowOut, hread, rfl⟩
  | writing =>
    unfold breakOff
    dsimp only
    split
    · rename_i e reader hreader
      rw [hreader] at hread
      exact ⟨reader, s.rowOut, hread, rfl⟩
    · rename_i row reader hreader
      rw [hreader] at hread
      split
      · exact ⟨reader, s.rowOut, hread, rfl⟩
      · exact ⟨reader, _, hread, rfl⟩

section Finish

variable {s s' : Scanline} {v : Services} {w w' : World}

/-- Finishing always leaves a run, whatever becomes of it. -/
theorem exists_finish (s : Scanline) (v : Services) (w : World) :
    ∃ outcome s' w', s.finish.run v w = (.ok (outcome, s'), w') := by
  unfold finish
  split
  · exact ⟨_, _, _, rfl⟩
  · split
    · exact ⟨_, _, _, rfl⟩
    · rw [Work.run_bind_of_ok (s.reader.run_close v w)]
      cases hmarkers : ({ s with reader := s.reader.closed } : Scanline).survivingMarkers with
      | error f =>
        simp only [hmarkers]
        exact ⟨_, _, _, rfl⟩
      | ok markers =>
        simp only [hmarkers, Work.run_bind_of_ok (Work.run_outcome _)]
        split <;> exact ⟨_, _, _, rfl⟩

/-- A run finishes exactly if it has been started, no row is left, and the writer finishes with
the surviving markers of the source. -/
theorem finish_ok_iff : s.finish.run v w = (.ok (.ok (), s'), w') ↔
    s.phase = .streaming ∧ s.isDone = true ∧ ∃ markers,
      ({ s with reader := s.reader.closed } : Scanline).survivingMarkers = .ok markers
      ∧ (s.writer.addMarkers markers).finish.run v (w.note (.closed s.reader.path)) = (.ok (), w')
      ∧ s' = { s with reader := s.reader.closed, writer := s.writer.addMarkers markers
                      phase := .finished } := by
  unfold finish
  by_cases hphase : s.phase = .streaming
  · rw [if_neg (not_not_intro hphase)]
    by_cases hdone : s.isDone = true
    · rw [if_neg (by simp [hdone]), Work.run_bind_of_ok (s.reader.run_close v w)]
      cases hmarkers : ({ s with reader := s.reader.closed } : Scanline).survivingMarkers with
      | error f => simp [hmarkers]
      | ok markers =>
        simp only [hmarkers, Work.run_bind_of_ok (Work.run_outcome _)]
        cases hfinish : (s.writer.addMarkers markers).finish.run v
            (w.note (.closed s.reader.path)) with
        | mk result w₁ =>
          cases result with
          | error e =>
            constructor
            · intro h
              simp at h
            · rintro ⟨-, -, markers', hsame, h, -⟩
              cases hsame
              simp [hfinish] at h
          | ok _ =>
            constructor
            · intro h
              simp only [Work.run_pure, Prod.mk.injEq, Except.ok.injEq, true_and] at h
              obtain ⟨rfl, rfl⟩ := h
              exact ⟨hphase, hdone, markers, rfl, hfinish, rfl⟩
            · rintro ⟨-, -, markers', hsame, h, rfl⟩
              cases hsame
              rw [hfinish] at h
              cases h
              rfl
    · rw [if_pos (by simp [hdone])]
      simp [hdone]
  · rw [if_pos hphase]
    simp [hphase]

/-- A run that finishes has encoded all rows that it wrote, and no other picture. -/
theorem jobs_of_finish (h : s.finish.run v w = (.ok (.ok (), s'), w')) :
    (s'.writer.rowsWritten : Int) = s'.writer.height ∧ ∃ options,
      s'.writer.saveOptions = .ok options ∧ w'.jobs = w.jobs ++ [s'.writer.job options] := by
  obtain ⟨-, -, markers, -, hfinish, rfl⟩ := finish_ok_iff.mp h
  obtain ⟨hcount, options, hoptions, hencode⟩ := Writer.finish_ok_iff.mp hfinish
  refine ⟨hcount, options, hoptions, ?_⟩
  rw [World.jobs_of_encode hencode]
  simp [World.jobs, World.note]

/-- Finishing that fails leaves the run, or closes its source and hands markers on. -/
theorem finish_error {e : Failure} (h : s.finish.run v w = (.ok (.error e, s'), w')) :
    s' = s ∨ ∃ markers,
      s' = { s with reader := s.reader.closed, writer := s.writer.addMarkers markers } := by
  unfold finish at h
  split at h
  · simp only [Work.run_pure, Prod.mk.injEq, Except.ok.injEq] at h
    exact .inl h.1.2.symm
  · split at h
    · simp only [Work.run_pure, Prod.mk.injEq, Except.ok.injEq] at h
      exact .inl h.1.2.symm
    · rw [Work.run_bind_of_ok (s.reader.run_close v w)] at h
      cases hmarkers : ({ s with reader := s.reader.closed } : Scanline).survivingMarkers with
      | error f =>
        simp only [hmarkers, Work.run_pure, Prod.mk.injEq, Except.ok.injEq] at h
        exact .inr ⟨[], by rw [← h.1.2]; simp [Writer.addMarkers]⟩
      | ok markers =>
        simp only [hmarkers, Work.run_bind_of_ok (Work.run_outcome _)] at h
        split at h
        · simp only [Work.run_pure, Prod.mk.injEq, Except.ok.injEq] at h
          exact .inr ⟨markers, h.1.2.symm⟩
        · simp at h

end Finish

end Scanline

end Recolor
