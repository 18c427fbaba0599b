import Recolor.Jpeg.Writer
import Recolor.Proofs.Rows.Layout
import Recolor.Proofs.Work.Runs

/-!
# A picture that is written

A writer is created with room for its rows, takes rows up one behind the other, and hands them to
the encoder when all are there. What it was created with does not change.
-/

set_option autoImplicit false

namespace Recolor

namespace Writer

/-- What a writer was created with. -/
def facts (w : Writer) : Writer :=
  { w with rows := [], resolution := none, markers := [], profile := none }

/-- Writers with the same facts write the same file. -/
theorem path_eq_of_facts {w w₀ : Writer} (h : w.facts = w₀.facts) : w.path = w₀.path := by
  have : w.facts.path = w₀.facts.path := by rw [h]
  exact this

/-- Writers with the same facts write the same layout. -/
theorem mode_eq_of_facts {w w₀ : Writer} (h : w.facts = w₀.facts) : w.mode = w₀.mode := by
  have : w.facts.mode = w₀.facts.mode := by rw [h]
  exact this

/-- Writers with the same facts write the same width. -/
theorem width_eq_of_facts {w w₀ : Writer} (h : w.facts = w₀.facts) : w.width = w₀.width := by
  have : w.facts.width = w₀.facts.width := by rw [h]
  exact this

/-- Writers with the same facts write the same height. -/
theorem height_eq_of_facts {w w₀ : Writer} (h : w.facts = w₀.facts) : w.height = w₀.height := by
  have : w.facts.height = w₀.facts.height := by rw [h]
  exact this

/-- Writers with the same facts write rows of the same length. -/
theorem rowLength_eq_of_facts {w w₀ : Writer} (h : w.facts = w₀.facts) :
    w.rowLength = w₀.rowLength := by
  rw [rowLength, rowLength, components, components, width_eq_of_facts h, mode_eq_of_facts h]

/-- A row of a writer has the samples of all its pixels. -/
theorem toNat_rowLength {w : Writer} (h : 0 ≤ w.width) :
    w.rowLength.toNat = w.width.toNat * w.components := by
  rw [rowLength, Int.toNat_mul h (Int.natCast_nonneg _), Int.toNat_natCast]

/-- The encoder gets as many rows as were written. -/
@[simp] theorem length_encoderRows (w : Writer) : w.encoderRows.length = w.rows.length := by
  unfold encoderRows
  split <;> simp

/-- Complementing rows for the encoder leaves their lengths. -/
theorem length_of_mem_encoderRows (w : Writer) {n : Nat} (h : ∀ row ∈ w.rows, row.length = n) :
    ∀ row ∈ w.encoderRows, row.length = n := by
  unfold encoderRows
  split
  · intro row hrow
    obtain ⟨r, hr, rfl⟩ := List.mem_map.mp hrow
    rw [Rows.length_invert, h r hr]
  · exact h

/-- A row reaches the encoder complemented if it is one of four components. -/
theorem getD_encoderRows (w : Writer) (y : Nat) : w.encoderRows.getD y []
    = if w.mode = .cmyk then Rows.invert (w.rows.getD y []) else w.rows.getD y [] := by
  unfold encoderRows
  split
  · simp only [List.getD_eq_getElem?_getD, List.getElem?_map]
    cases w.rows[y]? <;> rfl
  · rfl

/-- The samples that reach the encoder are those of the writer's rows. -/
theorem length_samples_job {w : Writer}
    (hrows : ∀ row ∈ w.rows, row.length = w.width.toNat * w.mode.bands) (options : SaveOptions) :
    (w.job options).samples.length = w.rows.length * (w.width.toNat * w.mode.bands) := by
  show w.encoderRows.flatten.length = _
  rw [Rows.length_flatten_of_length (w.length_of_mem_encoderRows hrows), length_encoderRows]

/-- What a writer is created with, and that there is room for its rows. -/
theorem create_ok {path : Path} {width height : Int} {space : Space} {quality : Value} {w : Writer}
    (h : Writer.create path width height space quality = .ok w) :
    w.path = path ∧ w.width = width ∧ w.height = height ∧ w.rows = []
      ∧ space.writerMode? = some w.mode ∧ 0 ≤ height ∧ 0 ≤ width := by
  unfold create at h
  cases hmode : space.writerMode? with
  | none => simp [hmode] at h
  | some mode =>
    cases hquality : Quality.clamp quality with
    | error f => simp [hmode, hquality] at h
    | ok q =>
      cases hroom : Rows.checkRoom height (width * mode.bands) with
      | error f => simp [hmode, hquality, hroom] at h
      | ok _ =>
        simp only [hmode, hquality, hroom, Except.ok.injEq] at h
        subst h
        obtain ⟨hheight, hlength⟩ := Rows.nonneg_of_checkRoom hroom
        refine ⟨rfl, rfl, rfl, rfl, rfl, hheight, ?_⟩
        cases mode <;> simp only [Mode.bands] at hlength <;> omega

/-- A row that is written is fitted into the room for a row and put behind the others. -/
theorem writeRow_ok {w w' : Writer} {row : List UInt8} (h : w.writeRow row = .ok w') :
    ∃ out, Rows.fill row w.rowLength.toNat = .ok out ∧ w' = { w with rows := w.rows ++ [out] } := by
  unfold writeRow at h
  split at h
  · simp at h
  · cases hfill : Rows.fill row w.rowLength.toNat with
    | error f => simp [hfill] at h
    | ok out =>
      simp only [hfill, Except.ok.injEq] at h
      exact ⟨out, rfl, h.symm⟩

/-- A picture is finished exactly if all of its rows are there and it is encoded. -/
theorem finish_ok_iff {w : Writer} {s : Services} {v v' : World} :
    w.finish.run s v = (.ok (), v') ↔ (w.rowsWritten : Int) = w.height ∧ ∃ options,
      w.saveOptions = .ok options ∧ (Work.encode (w.job options)).run s v = (.ok (), v') := by
  unfold finish
  by_cases hcount : (w.rowsWritten : Int) = w.height
  · rw [if_neg (not_not_intro hcount)]
    cases hoptions : w.saveOptions with
    | error f => simp
    | ok options =>
      simp only [Work.run_bind_of_ok (Work.run_outcome _), hcount, true_and, Except.ok.injEq]
      cases hencode : (Work.encode (w.job options)).run s v with
      | mk result v₁ =>
        cases result with
        | error e => simp [hencode]
        | ok _ => simp [hencode]
  · rw [if_pos hcount]
    simp [hcount]

/-- A writer fails to finish without doing anything, or because the encoder refuses its picture. -/
theorem finish_error {w : Writer} {e : Failure} {s : Services} {v v' : World}
    (h : w.finish.run s v = (.error e, v')) :
    v' = v ∨ ∃ options f, (Work.encode (w.job options)).run s v
        = (.error (.fault f), v.note (.encoded (w.job options)))
      ∧ v' = v.note (.encoded (w.job options)) ∧ e = refusal w.path f := by
  unfold finish at h
  split at h
  · simp only [Work.run_fail, Prod.mk.injEq] at h
    exact .inl h.2.symm
  · split at h
    · simp only [Work.run_fail, Prod.mk.injEq] at h
      exact .inl h.2.symm
    · rename_i options hoptions
      rw [Work.run_bind_of_ok (Work.run_outcome _)] at h
      cases hencode : (Work.encode (w.job options)).run s v with
      | mk result v₁ =>
        cases result with
        | ok _ => simp [hencode] at h
        | error e₁ =>
          obtain ⟨rfl, f, rfl⟩ := Work.run_encode_error hencode
          simp only [hencode, Work.run_fail, Prod.mk.injEq, Except.error.injEq] at h
          exact .inr ⟨options, f, hencode, h.2.symm, h.1.symm⟩

end Writer

/-- Encoding that succeeds notes the picture, and no other. -/
theorem World.jobs_of_encode {job : EncodeJob} {s : Services} {w w' : World}
    (h : (Work.encode job).run s w = (.ok (), w')) : w'.jobs = w.jobs ++ [job] := by
  obtain ⟨content, files, -, -, rfl⟩ := Work.run_encode_ok_iff.mp h
  simp [World.jobs, World.note]

end Recolor
