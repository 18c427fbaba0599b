import Recolor.Jpeg.Reader
import Recolor.Proofs.Rows.Layout
import Recolor.Proofs.Work.Runs

/-!
# A picture that is read on

Reading changes how far a picture has been read, settles the layout that it is decoded in and
keeps the decoded rows. It changes nothing that these rows depend on, so every row that is handed
over is the row of that number of the picture as it was opened. What the rows are follows from
the samples: they are cut in order, and those of four components are complemented.
-/

set_option autoImplicit false

namespace Recolor

namespace Reader

/-- The reader as closing leaves it. -/
def closed (r : Reader) : Reader :=
  { r with isClosed := true, rows := none }

/-- Closing a reader notes that its picture is closed. -/
@[simp] theorem run_close (r : Reader) (s : Services) (w : World) :
    r.close.run s w = (.ok r.closed, w.note (.closed r.path)) := rfl

/-- A row of the source, as it is decoded. -/
def sourceRow (r : Reader) (i : Nat) : Except Failure (List UInt8) :=
  match r.ready.decode with
  | .error e => .error e
  | .ok rows => .ok (rows.getD i [])

/-- What a reader knows of its picture, however far it has been read: the layout is the one that
decoding settles. -/
def facts (r : Reader) : Reader :=
  { r.prepared with isClosed := false, rowsRead := 0, rows := none }

/-- The same picture, read on. The rows that are kept are those that decoding gives. -/
structure Continues (r₀ r : Reader) : Prop where
  facts : r.facts = r₀.facts
  rows : ∀ rows, r.rows = some rows → r₀.ready.decode = .ok rows

/-- A reader that has not decoded yet continues itself. -/
theorem Continues.refl {r : Reader} (h : r.rows = none) : r.Continues r where
  facts := rfl
  rows := by simp [h]

/-- Preparing is settled by the facts that it leaves. -/
@[simp] theorem prepared_prepared (r : Reader) : r.prepared.prepared = r.prepared := by
  by_cases h : r.color.isFax ∧ r.mode = .rgb
  · simp [prepared, h]
  · simp [prepared, h]

/-- Preparing leaves the decoded rows. -/
@[simp] theorem rows_prepared (r : Reader) : r.prepared.rows = r.rows := by
  unfold prepared
  split <;> rfl

/-- Preparing leaves the number of rows that were read. -/
@[simp] theorem rowsRead_prepared (r : Reader) : r.prepared.rowsRead = r.rowsRead := by
  unfold prepared
  split <;> rfl

/-- A prepared reader knows the same of its picture. -/
@[simp] theorem facts_prepared (r : Reader) : r.prepared.facts = r.facts := by
  simp [facts]

/-- A reader about to decode knows the same of its picture. -/
@[simp] theorem facts_ready (r : Reader) : r.ready.facts = r.facts := by
  unfold ready
  split <;> simp

/-- Making ready leaves the number of rows that were read. -/
@[simp] theorem rowsRead_ready (r : Reader) : r.ready.rowsRead = r.rowsRead := by
  unfold ready
  split <;> simp

/-- Making ready leaves the decoded rows. -/
@[simp] theorem rows_ready (r : Reader) : r.ready.rows = r.rows := by
  unfold ready
  split <;> simp

/-- Neither the count nor the rows that are kept nor closing bear on the facts. -/
@[simp] theorem facts_read (r : Reader) (isClosed : Bool) (rowsRead : Nat)
    (rows : Option (List (List UInt8))) :
    ({ r with isClosed, rowsRead, rows } : Reader).facts = r.facts := by
  unfold facts prepared
  split <;> rfl

/-- Among the facts of a reader is its picture. -/
theorem picture_facts (r : Reader) : r.facts.picture = r.picture := by
  unfold facts prepared
  split <;> rfl

/-- Readers with the same facts read the same file. -/
theorem path_eq_of_facts {r r₀ : Reader} (h : r.facts = r₀.facts) : r.path = r₀.path := by
  have path_facts (r : Reader) : r.facts.path = r.path := by
    unfold facts prepared
    split <;> rfl
  rw [← path_facts, h, path_facts]

/-- Readers with the same facts have the same markers. -/
theorem markers_eq_of_facts {r r₀ : Reader} (h : r.facts = r₀.facts) : r.markers = r₀.markers := by
  have markers_facts (r : Reader) : r.facts.markers = r.markers := by
    unfold facts prepared
    split <;> rfl
  rw [← markers_facts, h, markers_facts]

/-- Reading a row leaves the facts, whatever becomes of it. -/
theorem facts_readRow (r : Reader) (size : Nat) : (r.readRow size).2.facts = r.facts := by
  have hready := r.facts_ready
  have hkept (rows : List (List UInt8)) (n : Nat) :
      ({ r.ready with rows := some rows, rowsRead := n } : Reader).facts = r.facts :=
    (facts_read r.ready r.ready.isClosed n (some rows)).trans hready
  unfold readRow
  split
  · rfl
  · dsimp only
    split
    · exact hready
    · split
      · exact hkept _ _
      · exact hkept _ _

/-- A row that is read has the length that is asked for. -/
theorem length_of_readRow {r : Reader} {size : Nat} {row : List UInt8}
    (h : (r.readRow size).1 = .ok row) : row.length = size := by
  unfold readRow at h
  split at h
  · cases h
  · dsimp only at h
    split at h
    · cases h
    · split at h
      · cases h
      · rename_i filled hfilled
        cases h
        exact Rows.length_of_fill hfilled

/-- A reader that has not decoded yet decodes by its facts alone. -/
theorem decode_ready {r : Reader} (h : r.rows = none) : r.ready.decode = r.facts.decode := by
  simp only [ready, h, Option.isSome_none, Bool.false_eq_true, if_false, decode, rows_prepared]
  rfl

/-- The samples as they are decoded. -/
def decoded (r : Reader) : Bytes :=
  if r.facts.isRaw then r.picture.rawSamples else r.picture.samples

/-- The samples of a row of a picture whose width is known. -/
def rowSamples (r : Reader) : Nat :=
  (r.width * r.components).toNat

/-- A row has the samples of all its pixels. -/
theorem rowSamples_eq {r : Reader} (h : 0 ≤ r.width) :
    r.rowSamples = r.width.toNat * r.components := by
  rw [rowSamples, Int.toNat_mul h (Int.natCast_nonneg _), Int.toNat_natCast]

/-- The samples of a row that is so many rows down, as they are decoded. -/
def piece (r : Reader) (i : Nat) : List UInt8 :=
  (r.decoded.drop (i * r.rowSamples)).take r.rowSamples

/-- Samples become rows only if they fill them exactly. -/
theorem rowsOf_ok {r : Reader} (hwidth : 0 ≤ r.width) {samples : Bytes}
    {rows : List (List UInt8)} (h : r.rowsOf samples = .ok rows) :
    samples.length = r.height.toNat * r.rowSamples
      ∧ rows = if r.mode = .cmyk then
          (Rows.cut r.rowSamples r.height.toNat samples).map Rows.invert
        else Rows.cut r.rowSamples r.height.toNat samples := by
  have hlength : r.rowLength samples.length = r.rowSamples := if_neg (by omega)
  simp only [rowsOf, hlength] at h
  split at h
  · rename_i hcount
    simp only [Except.ok.injEq] at h
    exact ⟨hcount, h.symm⟩
  · simp at h

/-- Decoding that succeeds makes rows of the decoded samples. -/
theorem rowsOf_decoded {r : Reader} (h₀ : r.rows = none) {rows : List (List UInt8)}
    (h : r.ready.decode = .ok rows) : r.facts.rowsOf r.decoded = .ok rows := by
  rw [decode_ready h₀] at h
  have hnone : r.facts.rows = none := rfl
  simp only [decode, hnone] at h
  cases hsamples : r.facts.samples with
  | error e => simp [hsamples] at h
  | ok samples =>
    simp only [hsamples] at h
    rw [← h]
    unfold Reader.samples at hsamples
    split at hsamples
    · simp at hsamples
    · simp only [Except.ok.injEq, picture_facts] at hsamples
      rw [← hsamples, decoded]

/-- A row of the source is its piece of the decoded samples, complemented for four components. -/
theorem sourceRow_ok {r : Reader} (h₀ : r.rows = none) (hwidth : 0 ≤ r.width) {i : Nat}
    {row : List UInt8} (hi : (i : Int) < r.height) (h : r.sourceRow i = .ok row) :
    r.decoded.length = r.height.toNat * r.rowSamples
      ∧ row = if r.facts.mode = .cmyk then Rows.invert (r.piece i) else r.piece i := by
  have hpicture := r.picture_facts
  have hsize : r.facts.rowSamples = r.rowSamples := by
    simp only [rowSamples, width, components, hpicture]
  have hheight : r.facts.height = r.height := congrArg Picture.height hpicture
  have hrange : i < r.height.toNat := by omega
  unfold sourceRow at h
  split at h
  · simp at h
  · rename_i rows hdecode
    obtain ⟨hcount, hcut⟩ := rowsOf_ok (by rw [width, hpicture]; exact hwidth)
      (rowsOf_decoded h₀ hdecode)
    rw [hsize, hheight] at hcount hcut
    simp only [Except.ok.injEq] at h
    refine ⟨hcount, ?_⟩
    rw [← h, hcut, piece, ← Rows.getD_cut r.rowSamples r.height.toNat r.decoded hrange]
    split
    · rw [List.getD_eq_getElem?_getD, List.getD_eq_getElem?_getD, List.getElem?_map,
        List.getElem?_eq_getElem (by simpa using hrange)]
      rfl
    · rfl

/-- Rows of the source are of the length that its width and its components tell. -/
theorem length_of_sourceRow {r : Reader} (h₀ : r.rows = none) (hwidth : 0 ≤ r.width) {i : Nat}
    {row : List UInt8} (hi : (i : Int) < r.height) (h : r.sourceRow i = .ok row) :
    row.length = r.rowSamples := by
  obtain ⟨hcount, rfl⟩ := sourceRow_ok h₀ hwidth hi h
  have hpiece : (r.piece i).length = r.rowSamples := by
    have hfits : (i + 1) * r.rowSamples ≤ r.height.toNat * r.rowSamples :=
      Nat.mul_le_mul_right _ (by omega)
    rw [Nat.succ_mul] at hfits
    rw [piece, List.length_take, List.length_drop]
    omega
  split
  · rw [Rows.length_invert, hpiece]
  · exact hpiece

section Continues

variable {r₀ r : Reader}

/-- Reading on keeps the picture. -/
theorem Continues.picture (h : r₀.Continues r) : r.picture = r₀.picture := by
  rw [← picture_facts, h.facts, picture_facts]

/-- Reading on keeps the width. -/
theorem Continues.width (h : r₀.Continues r) : r.width = r₀.width :=
  congrArg Picture.width h.picture

/-- Reading on keeps the height. -/
theorem Continues.height (h : r₀.Continues r) : r.height = r₀.height :=
  congrArg Picture.height h.picture

/-- A reader that was read on decodes what it would have decoded at first. -/
theorem Continues.decode (h : r₀.Continues r) (h₀ : r₀.rows = none) :
    r.ready.decode = r₀.ready.decode := by
  cases hrows : r.rows with
  | some rows =>
    rw [h.rows rows hrows]
    simp [Reader.decode, hrows]
  | none => rw [decode_ready hrows, decode_ready h₀, h.facts]

/-- A reader that is made ready reads on in the same picture. -/
theorem Continues.ready (h : r₀.Continues r) : r₀.Continues r.ready where
  facts := by rw [facts_ready, h.facts]
  rows := by rw [rows_ready]; exact h.rows

/-- Closing drops what was decoded. -/
theorem Continues.closed (h : r₀.Continues r) : r₀.Continues r.closed where
  facts := by rw [← h.facts]; exact facts_read r true r.rowsRead none
  rows rows hrows := by simp [Reader.closed] at hrows

/-- The decoded rows are kept, whatever is counted. -/
theorem Continues.keep (h : r₀.Continues r) {rows : List (List UInt8)}
    (hrows : r₀.ready.decode = .ok rows) (n : Nat) :
    r₀.Continues { r with rows := some rows, rowsRead := n } where
  facts := by rw [← h.facts]; exact facts_read r r.isClosed n (some rows)
  rows rows' h' := by
    simp only [Option.some.injEq] at h'
    rwa [← h']

/-- A row that is read is the next row of the source, fitted into the room that was asked for. -/
theorem Continues.readRow_ok (h : r₀.Continues r) (h₀ : r₀.rows = none) {size : Nat}
    {row : List UInt8} {r' : Reader} (hread : r.readRow size = (.ok row, r')) :
    r₀.Continues r' ∧ r'.rowsRead = r.rowsRead + 1 ∧ (r.rowsRead : Int) < r₀.height
      ∧ ∃ source, r₀.sourceRow r.rowsRead = .ok source ∧ Rows.fill source size = .ok row := by
  unfold readRow at hread
  split at hread
  · simp at hread
  · rename_i hleft
    simp only [h.decode h₀] at hread
    split at hread
    · simp at hread
    · rename_i rows hdecode
      split at hread
      · simp at hread
      · rename_i row' hfill
        simp only [Prod.mk.injEq, Except.ok.injEq] at hread
        obtain ⟨rfl, rfl⟩ := hread
        simp only [isDone, decide_eq_true_eq, h.height] at hleft
        refine ⟨h.ready.keep hdecode _, by simp, by omega, rows.getD r.rowsRead [], ?_, ?_⟩
        · simp [sourceRow, hdecode]
        · simpa using hfill

/-- Reading that fails counts nothing. -/
theorem Continues.readRow_error (h : r₀.Continues r) (h₀ : r₀.rows = none) {size : Nat}
    {e : Failure} {r' : Reader} (hread : r.readRow size = (.error e, r')) :
    r₀.Continues r' ∧ r'.rowsRead = r.rowsRead := by
  unfold readRow at hread
  split at hread
  · simp only [Prod.mk.injEq] at hread
    obtain ⟨-, rfl⟩ := hread
    exact ⟨h, rfl⟩
  · simp only [h.decode h₀] at hread
    split at hread
    · simp only [Prod.mk.injEq] at hread
      obtain ⟨-, rfl⟩ := hread
      exact ⟨h.ready, rowsRead_ready r⟩
    · rename_i rows hdecode
      split at hread
      · simp only [Prod.mk.injEq] at hread
        obtain ⟨-, rfl⟩ := hread
        exact ⟨h.ready.keep hdecode _, rowsRead_ready r⟩
      · simp at hread

end Continues

end Reader

end Recolor
