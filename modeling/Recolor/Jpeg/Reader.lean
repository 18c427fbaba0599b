import Recolor.Jpeg.Encoding
import Recolor.Marker.Selection
import Recolor.Rows.Layout
import Recolor.World

/-!
# Reading rows

A reader opens a picture, gathers its markers, resolution and colour facts, and hands
out its rows one after another. The samples are decoded when the first row is asked
for: those of a fax image without colour conversion, and those of four components
complemented, since the codec hands them over inverted.

Reading a row may fail and still leave the reader changed, so its outcome comes with
the reader as it is afterwards.
-/

set_option autoImplicit false

namespace Recolor

/-- A picture being read. -/
structure Reader where
  path : Path
  picture : Picture
  /-- The layout of the decoded samples. -/
  mode : Mode
  /-- Whether the samples are decoded without colour conversion. -/
  isRaw : Bool := false
  isClosed : Bool := false
  markers : List Marker
  resolution : Resolution
  color : SourceColor
  rowsRead : Nat := 0
  /-- The decoded rows, once there are any. -/
  rows : Option (List (List UInt8)) := none
  deriving Inhabited

namespace Reader

/-- The markers among the segments of a picture; parts of an embedded profile are left
out. -/
def markersOf : List (String × Bytes) → Except Fault (List Marker)
  | [] => .ok []
  | (name, payload) :: rest =>
    match Marker.tagOfName name with
    | .error e => .error e
    | .ok tag =>
      match markersOf rest with
      | .error e => .error e
      | .ok markers =>
        match tag with
        | none => .ok markers
        | some tag =>
          let m : Marker := { tag, payload }
          .ok (if m.isProfile then markers else m :: markers)

/-- The resolution that a picture states. -/
def resolutionOf (p : Picture) : Except Fault Resolution :=
  match p.density with
  | none => .ok {}
  | some density => Resolution.ofStated density p.densityUnit

/-- The colour facts of a picture with the given markers. -/
def colorOf (p : Picture) (markers : List Marker) : SourceColor where
  space := JpegSpace.ofComponents (p.layers.getD (.int p.mode.bands)) p.hasAdobe p.adobeTransform
  hasAdobe := p.hasAdobe || Marker.hasAdobe markers
  isFax := Marker.identifyFax markers
  embedded := p.profile.filter fun data => !data.isEmpty
  components := some p.mode.bands

/-- A reader at the beginning of a picture. -/
def ofPicture (path : Path) (p : Picture) (markers : List Marker) (resolution : Resolution) :
    Reader where
  path := path
  picture := p
  mode := p.mode
  markers := markers
  resolution := resolution
  color := colorOf p markers

/-- Opens the picture in a file. -/
def openFile (path : Path) : Work Reader := do
  match ← Work.outcome (Work.readFile path) with
  | .error (.fault f) => if f.isSystem then Work.fail (CodecError.cannotOpen path f) else Work.fail f
  | .error e => Work.fail e
  | .ok content =>
    let s ← Work.services
    match s.codec.identify path content with
    | none => Work.fail (CodecError.cannotOpen path (.unidentified path))
    | some p =>
      Work.note (.opened path)
      if p.format = some "JPEG" then
        let markers ← Work.lift (markersOf p.segments)
        let resolution ← Work.lift (resolutionOf p)
        return ofPicture path p markers resolution
      else
        Work.note (.closed path)
        Work.fail (CodecError.notJpeg path (p.format.getD "None"))

/-- Closes the picture. -/
def close (r : Reader) : Work Reader := do
  Work.note (.closed r.path)
  return { r with isClosed := true, rows := none }

/-- Columns of the picture. -/
def width (r : Reader) : Int :=
  r.picture.width

/-- Rows of the picture. -/
def height (r : Reader) : Int :=
  r.picture.height

/-- Samples of one pixel. -/
def components (r : Reader) : Nat :=
  r.picture.mode.bands

/-- Whether all rows have been read. -/
def isDone (r : Reader) : Bool :=
  r.height ≤ r.rowsRead

/-- The reader with colour conversion turned off if the image is a fax image. -/
def prepared (r : Reader) : Reader :=
  if r.color.isFax ∧ r.mode = .rgb then { r with mode := .ycbcr, isRaw := true } else r

/-- The samples as the codec decodes them. -/
def samples (r : Reader) : Except Failure Bytes :=
  match r.picture.fault with
  | some f => .error (if f.isSystem then CodecError.cannotDecode r.path f else f)
  | none => .ok (if r.isRaw then r.picture.rawSamples else r.picture.samples)

/-- The samples of a row, when there are so many in all. A picture that leaves its width open
has rows of equal length. -/
def rowLength (r : Reader) (count : Nat) : Nat :=
  if r.width < 0 then count / r.height.toNat else (r.width * r.components).toNat

/-- Samples as rows, those of four components complemented. -/
def rowsOf (r : Reader) (samples : Bytes) : Except Failure (List (List UInt8)) :=
  let rowLength := r.rowLength samples.length
  if samples.length = r.height.toNat * rowLength then
    let rows := Rows.cut rowLength r.height.toNat samples
    .ok (if r.mode = .cmyk then rows.map Rows.invert else rows)
  else
    .error (Fault.notReshapable samples.length [r.height, r.width * r.components])

/-- The decoded rows. -/
def decode (r : Reader) : Except Failure (List (List UInt8)) :=
  match r.rows with
  | some rows => .ok rows
  | none =>
    match r.samples with
    | .error e => .error e
    | .ok samples => r.rowsOf samples

/-- The reader before it decodes: it is prepared unless it has decoded already. -/
def ready (r : Reader) : Reader :=
  if r.rows.isSome then r else r.prepared

/-- Reads the next row into room of the given size. -/
def readRow (r : Reader) (size : Nat) : Except Failure (List UInt8) × Reader :=
  if r.isDone then (.error (CodecError.readPastEnd r.path), r)
  else
    let r := r.ready
    match r.decode with
    | .error e => (.error e, r)
    | .ok rows =>
      let r := { r with rows := some rows }
      match Rows.fill (rows.getD r.rowsRead []) size with
      | .error f => (.error f, r)
      | .ok row => (.ok row, { r with rowsRead := r.rowsRead + 1 })

end Reader

end Recolor
