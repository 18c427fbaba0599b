import Recolor.Proofs.Scanline.Calls

/-!
# Runs to any destination

A run needs little of the writer at its end: it hands over a resolution, markers, a profile and
rows, asks which markers the encoder emits itself, and finishes. `Destination` is that interface,
with what is known of the markers, and `ScanlineTo` a run to any destination. A writer is a
destination, and the run to it is the library's run (`run_ofScanline`), so that what holds of runs
to any destination holds of that one.
-/

set_option autoImplicit false

namespace Recolor

/-- What a run needs of a destination. Calls that fail may leave it changed. -/
structure Destination (σ : Type) where
  /-- The markers that were handed over, in order. -/
  markers : σ → List Marker
  setResolution : σ → Resolution → σ
  addMarker : σ → Marker → σ
  embed : σ → Bytes → σ
  writeRow : σ → List UInt8 → Except Failure Unit × σ
  /-- Whether the encoder emits a density marker. -/
  writesJfif : σ → Except Fault Bool
  /-- Whether the encoder emits a colour transform marker. -/
  writesAdobe : σ → Except Fault Bool
  finish : σ → Work (Except Failure Unit × σ)
  markers_setResolution : ∀ d r, markers (setResolution d r) = markers d
  markers_addMarker : ∀ d m, markers (addMarker d m) = markers d ++ [m]
  markers_embed : ∀ d data, markers (embed d data) = markers d
  markers_writeRow : ∀ d row, markers (writeRow d row).2 = markers d
  markers_finish : ∀ d v w outcome d' w',
    (finish d).run v w = (.ok (outcome, d'), w') → markers d' = markers d

/-- A run over one picture to any destination. -/
structure ScanlineTo (σ : Type) where
  reader : Reader
  sink : σ
  phase : Phase := .idle
  transform : Option Transform := none
  resolution : Option Resolution := none
  rowsProcessed : Nat := 0
  rowSize : Nat := 0
  rowOut : List UInt8 := []

namespace ScanlineTo

section Calls

variable {σ : Type} (D : Destination σ)

/-- The destination with the markers and the profile that describe the output. -/
def describeOutput (d : σ) (r : Resolution) (setup : Setup) : σ :=
  let d := D.setResolution d r
  let d := if setup.space = some .lab then D.addMarker d Marker.fax else d
  match setup.embed with
  | none => d
  | some data => if data.isEmpty then d else D.embed d data

/-- Prepares the destination and the rows. -/
def start (s : ScanlineTo σ) (setup : Setup) : Except Failure Unit × ScanlineTo σ :=
  if s.phase ≠ .idle then (.error (CodecError.calledIn "start" s.phase.name), s)
  else
    let resolution := Scanline.sourceResolution s.reader
    let s :=
      { s with
        resolution := some resolution
        sink := describeOutput D s.sink resolution setup
        transform := some setup.transform }
    let sizeIn := setup.transform.inputFormat.rowBytes s.reader.width
    let sizeOut := setup.transform.outputFormat.rowBytes s.reader.width
    match Rows.checkRoom 1 sizeIn, Rows.checkRoom 1 sizeOut with
    | .error f, _ => (.error f, s)
    | _, .error f => (.error f, s)
    | .ok (), .ok () =>
      let s :=
        { s with
          phase := .streaming
          rowSize := sizeIn.toNat
          rowOut := List.replicate sizeOut.toNat 0 }
      match setup.transform.checkNamed with
      | .error f => (.error f, s)
      | .ok () => (.ok (), s)

/-- Converts a row into the room for the row that is written. -/
def convertRow (s : ScanlineTo σ) (row : List UInt8) : Except Failure (List UInt8) :=
  match s.transform with
  | none => .error (.fault (.raised .attribute "no transform"))
  | some t => t.applyRow row s.rowOut

/-- Converts and writes a row that was read. -/
def passRow (s : ScanlineTo σ) (row : List UInt8) : Except Failure Unit × ScanlineTo σ :=
  match s.convertRow row with
  | .error e => (.error (Scanline.rowFailure s.rowsProcessed e), s)
  | .ok converted =>
    match D.writeRow s.sink converted with
    | (.error e, sink) =>
      (.error (Scanline.rowFailure s.rowsProcessed e), { s with rowOut := converted, sink })
    | (.ok (), sink) =>
      (.ok (), { s with rowOut := converted, sink, rowsProcessed := s.rowsProcessed + 1 })

/-- Converts one row; false if there is none left. -/
def step (s : ScanlineTo σ) : Except Failure Bool × ScanlineTo σ :=
  if s.phase ≠ .streaming then (.error (CodecError.calledIn "step" s.phase.name), s)
  else if s.reader.isDone then (.ok false, s)
  else
    match s.reader.readRow s.rowSize with
    | (.error e, reader) => (.error (Scanline.rowFailure s.rowsProcessed e), { s with reader })
    | (.ok row, reader) =>
      match passRow D { s with reader } row with
      | (.error e, s) => (.error e, s)
      | (.ok (), s) => (.ok true, s)

/-- The markers of the source that the destination is to carry. -/
def survivingMarkers (s : ScanlineTo σ) : Except Fault (List Marker) :=
  match D.writesJfif s.sink, D.writesAdobe s.sink with
  | .error f, _ => .error f
  | _, .error f => .error f
  | .ok jfif, .ok adobe =>
    .ok (Marker.carried (s.reader.markers.filter fun m => !m.isFax) jfif adobe)

/-- Closes the source, copies its surviving markers and encodes. -/
def finish (s : ScanlineTo σ) : Work (Except Failure Unit × ScanlineTo σ) :=
  if s.phase ≠ .streaming then
    return (.error (CodecError.calledIn "finish" s.phase.name), s)
  else if !s.reader.isDone then
    return (.error (CodecError.rowsLeft (s.reader.height - s.reader.rowsRead)), s)
  else do
    let reader ← s.reader.close
    let s := { s with reader }
    match s.survivingMarkers D with
    | .error f => return (.error f, s)
    | .ok markers =>
      match ← D.finish (markers.foldl D.addMarker s.sink) with
      | (.error e, sink) => return (.error e, { s with sink })
      | (.ok (), sink) => return (.ok (), { s with sink, phase := .finished })

/-- Takes steps until none is left or one fails; there are at most `count`. -/
def steps (s : ScanlineTo σ) : Nat → Except Failure Unit × ScanlineTo σ
  | 0 => (.ok (), s)
  | count + 1 =>
    match s.step D with
    | (.error e, s) => (.error e, s)
    | (.ok false, s) => (.ok (), s)
    | (.ok true, s) => s.steps count

/-- Starts and takes all steps. -/
def stream (s : ScanlineTo σ) (setup : Setup) : Except Failure Unit × ScanlineTo σ :=
  match s.start D setup with
  | (.error e, s) => (.error e, s)
  | (.ok (), s) => s.steps D (s.reader.height.toNat + 1)

/-- Starts, takes all steps and finishes; the result is the number of rows. -/
def run (s : ScanlineTo σ) (setup : Setup) : Work (Except Failure Nat × ScanlineTo σ) :=
  match s.stream D setup with
  | (.error e, s) => return (.error e, s)
  | (.ok (), s) => do
    match ← s.finish D with
    | (.error e, s) => return (.error e, s)
    | (.ok (), s) => return (.ok s.rowsProcessed, s)

end Calls

end ScanlineTo

/-! ## A writer is a destination -/

/-- A writer as a destination: it refuses rows and stays as it is, and it does not change when it
finishes. -/
def Writer.destination : Destination Writer where
  markers := Writer.markers
  setResolution := Writer.setResolution
  addMarker := Writer.addMarker
  embed := Writer.embed
  writeRow w row :=
    match w.writeRow row with
    | .error e => (.error e, w)
    | .ok w' => (.ok (), w')
  writesJfif := Writer.writesJfif
  writesAdobe w := .ok w.writesAdobe
  finish w := do
    let outcome ← Work.outcome w.finish
    return (outcome, w)
  markers_setResolution _ _ := rfl
  markers_addMarker _ _ := rfl
  markers_embed _ _ := rfl
  markers_writeRow w row := by
    cases h : w.writeRow row with
    | error e => rfl
    | ok w' =>
      obtain ⟨out, -, rfl⟩ := Writer.writeRow_ok h
      rfl
  markers_finish w v v' outcome w' v'' h := by
    cases h
    rfl

/-- Adding markers to a writer one after another adds them all. -/
theorem Writer.foldl_addMarker (w : Writer) (ms : List Marker) :
    ms.foldl Writer.destination.addMarker w = w.addMarkers ms := by
  induction ms generalizing w with
  | nil => simp [addMarkers]
  | cons m ms ih =>
    rw [List.foldl_cons, ih]
    simp [destination, addMarker, addMarkers]

namespace ScanlineTo

/-- The library's run as a run to a destination. -/
def ofScanline (s : Scanline) : ScanlineTo Writer where
  reader := s.reader
  sink := s.writer
  phase := s.phase
  transform := s.transform
  resolution := s.resolution
  rowsProcessed := s.rowsProcessed
  rowSize := s.rowSize
  rowOut := s.rowOut

/-- What a call to the library's run leaves, as what it leaves of a run to a destination. -/
def ofOutcome {α : Type} (t : α × Scanline) : α × ScanlineTo Writer :=
  (t.1, ofScanline t.2)

variable (s : Scanline)

/-- As a run to a destination a run is in the same phase. -/
@[simp] theorem phase_ofScanline : (ofScanline s).phase = s.phase := rfl

/-- As a run to a destination a run has the same reader. -/
@[simp] theorem reader_ofScanline : (ofScanline s).reader = s.reader := rfl

/-- Starting comes to the same for the library's run. -/
theorem start_ofScanline (setup : Setup) : (ofScanline s).start Writer.destination setup
    = ofOutcome (s.start setup) := by
  unfold start Scanline.start
  rw [phase_ofScanline]
  by_cases hphase : s.phase = .idle
  · rw [if_neg (not_not_intro hphase), if_neg (not_not_intro hphase)]
    dsimp only [ofScanline]
    cases Rows.checkRoom 1 (setup.transform.inputFormat.rowBytes s.reader.width) with
    | error f => rfl
    | ok _ =>
      cases Rows.checkRoom 1 (setup.transform.outputFormat.rowBytes s.reader.width) with
      | error f => rfl
      | ok _ => cases setup.transform.checkNamed <;> rfl
  · rw [if_pos hphase, if_pos hphase]
    rfl

/-- Passing a row on comes to the same for the library's run. -/
theorem passRow_ofScanline (row : List UInt8) : (ofScanline s).passRow Writer.destination row
    = ofOutcome (s.passRow row) := by
  unfold passRow Scanline.passRow
  have hconvert : (ofScanline s).convertRow row = s.convertRow row := rfl
  rw [hconvert]
  cases s.convertRow row with
  | error e => rfl
  | ok converted =>
    dsimp only [Writer.destination, ofScanline]
    cases s.writer.writeRow converted <;> rfl

/-- A step comes to the same for the library's run. -/
theorem step_ofScanline : (ofScanline s).step Writer.destination = ofOutcome s.step := by
  unfold step Scanline.step Scanline.isDone
  rw [phase_ofScanline, reader_ofScanline]
  by_cases hphase : s.phase = .streaming
  · rw [if_neg (not_not_intro hphase), if_neg (not_not_intro hphase)]
    by_cases hdone : s.reader.isDone = true
    · rw [if_pos hdone, if_pos hdone]
      rfl
    · rw [if_neg hdone, if_neg hdone]
      have hsize : (ofScanline s).rowSize = s.rowSize := rfl
      rw [hsize]
      cases s.reader.readRow s.rowSize with
      | mk result reader =>
        cases result with
        | error e => rfl
        | ok row =>
          have hpass := passRow_ofScanline { s with reader } row
          dsimp only [ofScanline] at hpass ⊢
          rw [hpass]
          cases ({ s with reader } : Scanline).passRow row with
          | mk outcome s' => cases outcome <;> rfl
  · rw [if_pos hphase, if_pos hphase]
    rfl

/-- Several steps come to the same for the library's run. -/
theorem steps_ofScanline (count : Nat) : (ofScanline s).steps Writer.destination count
    = ofOutcome (s.steps count) := by
  induction count generalizing s with
  | zero => rfl
  | succ count ih =>
    unfold steps Scanline.steps
    rw [step_ofScanline]
    cases s.step with
    | mk outcome s' =>
      match outcome with
      | .error e => rfl
      | .ok false => rfl
      | .ok true => exact ih s'

/-- The same markers survive in the library's run. -/
theorem survivingMarkers_ofScanline : (ofScanline s).survivingMarkers Writer.destination
    = s.survivingMarkers := by
  unfold survivingMarkers Scanline.survivingMarkers
  dsimp only [ofScanline, Writer.destination]
  cases s.writer.writesJfif <;> rfl

/-- Finishing comes to the same for the library's run. -/
theorem finish_ofScanline : (ofScanline s).finish Writer.destination
    = (do let t ← s.finish; return ofOutcome t) := by
  unfold finish Scanline.finish Scanline.isDone
  rw [phase_ofScanline, reader_ofScanline]
  by_cases hphase : s.phase = .streaming
  · rw [if_neg (not_not_intro hphase), if_neg (not_not_intro hphase)]
    by_cases hdone : s.reader.isDone = true
    · rw [if_neg (by simp [hdone]), if_neg (by simp [hdone]), Work.bind_assoc]
      congr 1
      funext reader
      have hmarkers := survivingMarkers_ofScanline { s with reader }
      dsimp only [ofScanline] at hmarkers ⊢
      rw [hmarkers]
      cases ({ s with reader } : Scanline).survivingMarkers with
      | error f => rfl
      | ok markers =>
        dsimp only
        rw [Writer.foldl_addMarker, Work.bind_assoc]
        funext v w
        cases h : (s.writer.addMarkers markers).finish.run v w with
        | mk outcome w' =>
          have hours : (Work.outcome (s.writer.addMarkers markers).finish).run v w
              = (.ok outcome, w') := by rw [Work.run_outcome, h]
          have htheirs : (Writer.destination.finish (s.writer.addMarkers markers)).run v w
              = (.ok (outcome, s.writer.addMarkers markers), w') :=
            Work.run_bind_of_ok hours
          show Work.run _ v w = Work.run _ v w
          rw [Work.run_bind_of_ok hours, Work.run_bind_of_ok htheirs]
          cases outcome <;> rfl
    · rw [if_pos (by simp [hdone]), if_pos (by simp [hdone])]
      rfl
  · rw [if_pos hphase, if_pos hphase]
    rfl

/-- The library's run is the run to the writer as a destination. -/
theorem run_ofScanline (setup : Setup) : (ofScanline s).run Writer.destination setup
    = (do let t ← s.run setup; return ofOutcome t) := by
  unfold run stream Scanline.run
  rw [start_ofScanline]
  cases s.start setup with
  | mk outcome s₁ =>
    cases outcome with
    | error e => rfl
    | ok _ =>
      dsimp only [ofOutcome]
      rw [steps_ofScanline, reader_ofScanline]
      cases s₁.steps (s₁.reader.height.toNat + 1) with
      | mk outcome s₂ =>
        cases outcome with
        | error e => rfl
        | ok _ =>
          dsimp only [ofOutcome]
          rw [finish_ofScanline, Work.bind_assoc, Work.bind_assoc]
          congr 1
          funext t
          cases t with
          | mk outcome s₃ => cases outcome <;> rfl

end ScanlineTo

end Recolor
