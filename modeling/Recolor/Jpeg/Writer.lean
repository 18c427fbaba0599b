import Recolor.Marker.Selection
import Recolor.Rows.Layout
import Recolor.World

/-!
# Writing rows

A writer collects the rows of a picture and hands them to the encoder when all are
there, together with resolution, markers and an embedded profile. Samples of four
components are complemented, since the codec stores them inverted. The layout the
encoder is given follows from the colour space; Lab samples of fax images are
written as raw components.
-/

set_option autoImplicit false

namespace Recolor

namespace Space

/-- The layout in which pixels of a space are encoded. -/
def writerMode? : Space → Option Mode
  | .gray => some .gray
  | .rgb => some .rgb
  | .ycbcr => some .ycbcr
  | .cmyk => some .cmyk
  | .lab => some .ycbcr
  | _ => none

end Space

namespace Quality

/-- The quality if none is asked for. -/
def standard : Value := .int 75

/-- Whether a number is at least the given one; `none` for values that are no numbers. -/
def atLeast? (bound : Int) : Value → Option Bool
  | .int n => some (bound ≤ n)
  | .bool b => some (bound ≤ Value.ofTruth b)
  | .float x => some (decide (Binary64.ofInt bound ≤ x))
  | _ => none

/-- Whether a number is below the given one; `none` for values that are no numbers. -/
def below? (bound : Int) : Value → Option Bool
  | .int n => some (n < bound)
  | .bool b => some (Value.ofTruth b < bound)
  | .float x => some (decide (x < Binary64.ofInt bound))
  | _ => none

/-- A quality confined to 0 to 100. -/
def clamp (v : Value) : Except Fault Value :=
  match below? 100 v with
  | none => .error (.raised .type "quality is not a number")
  | some false => .ok (.int 100)
  | some true => .ok (if (atLeast? 1 v).getD false then v else
      match v with
      | .float x => if 0.0 < x then v else .int 0
      | _ => .int 0)

end Quality

/-- A picture being written. -/
structure Writer where
  path : Path
  width : Int
  height : Int
  mode : Mode
  /-- A number from 0 to 100. -/
  quality : Value
  rows : List (List UInt8) := []
  resolution : Option Resolution := none
  markers : List Marker := []
  profile : Option Bytes := none
  deriving Repr, Inhabited

namespace Writer

/-- Samples of one pixel. -/
def components (w : Writer) : Nat :=
  w.mode.bands

/-- Rows written so far. -/
def rowsWritten (w : Writer) : Nat :=
  w.rows.length

/-- The samples of a row. -/
def rowLength (w : Writer) : Int :=
  w.width * w.components

/-- A writer of a picture in a colour space. -/
def create (path : Path) (width height : Int) (space : Space) (quality : Value := Quality.standard) :
    Except Failure Writer :=
  match space.writerMode? with
  | none => .error (SpaceError.notWritable space)
  | some mode =>
    match Quality.clamp quality with
    | .error f => .error f
    | .ok quality =>
      match Rows.checkRoom height (width * mode.bands) with
      | .error f => .error f
      | .ok () => .ok { path, width, height, mode, quality }

/-- At the highest quality colours are kept as they are, without conversion to luma and
chroma. -/
def keepsRgb (w : Writer) : Bool :=
  w.mode == .rgb && (Quality.atLeast? 100 w.quality).getD false

/-- The resolution in dots per inch, if there is a resolution and its unit is known. -/
def dotsPerInch (w : Writer) : Except Fault (Option (Float × Float)) :=
  match w.resolution with
  | none => .ok none
  | some r => r.dotsPerInch

/-- Whether the encoder emits a density marker: always for gray and luma-chroma data, else
only if a resolution is given. -/
def writesJfif (w : Writer) : Except Fault Bool :=
  if w.mode == .gray || w.mode == .ycbcr || (w.mode == .rgb && !w.keepsRgb) then .ok true
  else
    match w.dotsPerInch with
    | .error f => .error f
    | .ok density => .ok density.isSome

/-- Whether the encoder emits a colour transform marker. -/
def writesAdobe (w : Writer) : Bool :=
  w.mode == .cmyk || w.keepsRgb

/-- Whether four-component samples are stored inverted: they come with a colour transform
marker. -/
def invertsCmyk : Bool := true

/-- Adds a marker. -/
def addMarker (w : Writer) (m : Marker) : Writer :=
  { w with markers := w.markers ++ [m] }

/-- Adds markers in order. -/
def addMarkers (w : Writer) (ms : List Marker) : Writer :=
  { w with markers := w.markers ++ ms }

/-- Sets the resolution. -/
def setResolution (w : Writer) (r : Resolution) : Writer :=
  { w with resolution := some r }

/-- Sets the profile to embed. -/
def embed (w : Writer) (data : Bytes) : Writer :=
  { w with profile := some data }

/-- Writes the next row. -/
def writeRow (w : Writer) (row : List UInt8) : Except Failure Writer :=
  if w.height ≤ w.rowsWritten then .error (CodecError.writePastEnd w.path)
  else
    match Rows.fill row w.rowLength.toNat with
    | .error f => .error f
    | .ok row => .ok { w with rows := w.rows ++ [row] }

/-- The options the picture is saved with. -/
def saveOptions (w : Writer) : Except Fault SaveOptions :=
  match w.dotsPerInch with
  | .error f => .error f
  | .ok dotsPerInch =>
    match Marker.toSegments w.markers with
    | .error f => .error f
    | .ok segments =>
      .ok { quality := w.quality
            fullChroma := (Quality.atLeast? 70 w.quality).getD false
            keepRgb := w.keepsRgb
            dotsPerInch
            profile := w.profile.filter fun data => !data.isEmpty
            extra := if w.markers.isEmpty then none else some segments }

/-- The samples as the encoder takes them. -/
def encoderRows (w : Writer) : List (List UInt8) :=
  if w.mode = .cmyk then w.rows.map Rows.invert else w.rows

/-- The picture for the encoder. -/
def job (w : Writer) (options : SaveOptions) : EncodeJob where
  path := w.path
  mode := w.mode
  width := w.width
  height := w.height
  samples := w.encoderRows.flatten
  options := options

/-- The error that a fault of the encoder is reported as. -/
def refusal (path : Path) : Failure → Failure
  | .fault f => if f.isSystem || f.isValue then CodecError.cannotWrite path f else f
  | e => e

/-- Encodes the picture, which must be complete. -/
def finish (w : Writer) : Work Unit :=
  if (w.rowsWritten : Int) ≠ w.height then
    Work.fail (CodecError.rowsMissing w.rowsWritten w.height w.path)
  else
    match w.saveOptions with
    | .error f => Work.fail (refusal w.path f)
    | .ok options => do
      match ← Work.outcome (Work.encode (w.job options)) with
      | .error e => Work.fail (refusal w.path e)
      | .ok () => return ()

end Writer

end Recolor
