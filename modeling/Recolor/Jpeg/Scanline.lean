import Recolor.Jpeg.Reader
import Recolor.Jpeg.Writer
import Recolor.Transform.Basic

/-!
# Row by row

The rows of a picture run from a reader through a transform to a writer. A run
starts, takes one step per row, and finishes. Starting carries the resolution over
and settles the markers that describe the output; finishing closes the source,
copies the surviving markers of the source and encodes.

A call out of order is refused. A call that fails may leave the run changed, so its
outcome comes with the run as it is afterwards.
-/

set_option autoImplicit false

namespace Recolor

/-- Where a run stands. -/
inductive Phase where
  | idle
  | streaming
  | finished
  deriving DecidableEq, Repr, Inhabited

namespace Phase

/-- The name of a phase. -/
def name : Phase → String
  | .idle => "idle"
  | .streaming => "streaming"
  | .finished => "finished"

end Phase

/-- What a run needs to start. -/
structure Setup where
  transform : Transform
  /-- The colour space of the destination. -/
  space : Option Space
  /-- The profile to embed. -/
  embed : Option Bytes := none

/-- A run over one picture. -/
structure Scanline where
  reader : Reader
  writer : Writer
  phase : Phase := .idle
  transform : Option Transform := none
  resolution : Option Resolution := none
  rowsProcessed : Nat := 0
  /-- The size of a row that is read. -/
  rowSize : Nat := 0
  /-- The row that is written, as the last step left it. -/
  rowOut : List UInt8 := []

namespace Scanline

/-- Whether all rows of the source have been read. -/
def isDone (s : Scanline) : Bool :=
  s.reader.isDone

/-- The resolution of the source: that among the editor's resources, else the stated one. -/
def sourceResolution (r : Reader) : Resolution :=
  (Photoshop.resolution? r.markers).getD r.resolution

/-- The writer with the markers and the profile that describe the output. -/
def describeOutput (w : Writer) (r : Resolution) (setup : Setup) : Writer :=
  let w := w.setResolution r
  let w := if setup.space = some .lab then w.addMarker Marker.fax else w
  match setup.embed with
  | none => w
  | some data => if data.isEmpty then w else w.embed data

/-- Prepares the writer and the rows. Formats without a name are noticed once the run has
started. -/
def start (s : Scanline) (setup : Setup) : Except Failure Unit × Scanline :=
  if s.phase ≠ .idle then (.error (CodecError.calledIn "start" s.phase.name), s)
  else
    let resolution := sourceResolution s.reader
    let s :=
      { s with
        resolution := some resolution
        writer := describeOutput s.writer resolution setup
        transform := some setup.transform }
    let sizeIn := setup.transform.inputFormat.rowBytes s.reader.width
    let sizeOut := setup.transform.outputFormat.rowBytes s.reader.width
    match Rows.checkRoom 1 sizeIn, Rows.checkRoom 1 sizeOut with
    | .error f, _ => (.error f, s)
    | _, .error f => (.error f, s)
    | .ok (), .ok () =>
      let s :=
        { s with
          phase := .streaming
          rowSize := sizeIn.toNat
          rowOut := List.replicate sizeOut.toNat 0 }
      match setup.transform.checkNamed with
      | .error f => (.error f, s)
      | .ok () => (.ok (), s)

/-- A fault while a row is converted is reported with the number of the row; faults that
stand for a mistake in the program are passed on. -/
def rowFailure (row : Nat) : Failure → Failure
  | .fault f =>
    if f.isValue || f.isSystem || f.kind = .engine then CodecError.scanline row f else f
  | e => e

/-- Converts a row into the room for the row that is written. -/
def convertRow (s : Scanline) (row : List UInt8) : Except Failure (List UInt8) :=
  match s.transform with
  | none => .error (.fault (.raised .attribute "no transform"))
  | some t => t.applyRow row s.rowOut

/-- Converts and writes a row that was read. -/
def passRow (s : Scanline) (row : List UInt8) : Except Failure Unit × Scanline :=
  match s.convertRow row with
  | .error e => (.error (rowFailure s.rowsProcessed e), s)
  | .ok converted =>
    match s.writer.writeRow converted with
    | .error e => (.error (rowFailure s.rowsProcessed e), { s with rowOut := converted })
    | .ok writer =>
      (.ok (), { s with rowOut := converted, writer, rowsProcessed := s.rowsProcessed + 1 })

/-- Converts one row; false if there is none left. -/
def step (s : Scanline) : Except Failure Bool × Scanline :=
  if s.phase ≠ .streaming then (.error (CodecError.calledIn "step" s.phase.name), s)
  else if s.isDone then (.ok false, s)
  else
    match s.reader.readRow s.rowSize with
    | (.error e, reader) => (.error (rowFailure s.rowsProcessed e), { s with reader })
    | (.ok row, reader) =>
      match passRow { s with reader } row with
      | (.error e, s) => (.error e, s)
      | (.ok (), s) => (.ok true, s)

/-- The markers of the source that the writer is to carry. -/
def survivingMarkers (s : Scanline) : Except Fault (List Marker) :=
  match s.writer.writesJfif with
  | .error f => .error f
  | .ok jfif =>
    .ok (Marker.carried (s.reader.markers.filter fun m => !m.isFax) jfif s.writer.writesAdobe)

/-- Closes the source, copies its surviving markers and encodes. -/
def finish (s : Scanline) : Work (Except Failure Unit × Scanline) :=
  if s.phase ≠ .streaming then
    return (.error (CodecError.calledIn "finish" s.phase.name), s)
  else if !s.isDone then
    return (.error (CodecError.rowsLeft (s.reader.height - s.reader.rowsRead)), s)
  else do
    let reader ← s.reader.close
    let s := { s with reader }
    match s.survivingMarkers with
    | .error f => return (.error f, s)
    | .ok markers =>
      let s := { s with writer := s.writer.addMarkers markers }
      match ← Work.outcome s.writer.finish with
      | .error e => return (.error e, s)
      | .ok () => return (.ok (), { s with phase := .finished })

/-- Takes steps until none is left or one fails; there are at most `count`. -/
def steps (s : Scanline) : Nat → Except Failure Unit × Scanline
  | 0 => (.ok (), s)
  | count + 1 =>
    match s.step with
    | (.error e, s) => (.error e, s)
    | (.ok false, s) => (.ok (), s)
    | (.ok true, s) => s.steps count

/-- Starts, takes all steps and finishes; the result is the number of rows. -/
def run (s : Scanline) (setup : Setup) : Work (Except Failure Nat × Scanline) :=
  match s.start setup with
  | (.error e, s) => return (.error e, s)
  | (.ok (), s) =>
    match s.steps (s.reader.height.toNat + 1) with
    | (.error e, s) => return (.error e, s)
    | (.ok (), s) => do
      match ← s.finish with
      | (.error e, s) => return (.error e, s)
      | (.ok (), s) => return (.ok s.rowsProcessed, s)

end Scanline

end Recolor
