import Recolor.Pixel.Format
import Recolor.Rows.Layout

/-!
# Transforms

A transform turns pixels of one format into pixels of another. Its core works on
natural samples; the sense of the samples is settled at both ends, where inverted
samples are complemented. A row is converted by cutting it into pixels and stringing
the converted pixels together.
-/

set_option autoImplicit false

namespace Recolor

/-- A transform between two pixel formats. -/
structure Transform where
  inputFormat : FormatFields
  outputFormat : FormatFields
  /-- The conversion of natural samples. -/
  convert : Block UInt8 → Except Failure (Block UInt8)

namespace Transform

/-- Complements the samples of pixels that are stored inverted. -/
def settle (f : FormatFields) (b : Block UInt8) : Block UInt8 :=
  if f.isInverted then { b with rows := b.rows.map Rows.invert } else b

/-- Refuses a transform between formats of which one has no name. -/
def checkNamed (t : Transform) : Except Fault Unit :=
  match t.inputFormat.checkNamed with
  | .error f => .error f
  | .ok () => t.outputFormat.checkNamed

/-- Converts pixels. -/
def applyPixels (t : Transform) (b : Block UInt8) : Except Failure (Block UInt8) :=
  match t.convert (settle t.inputFormat b) with
  | .error e => .error e
  | .ok result => .ok (settle t.outputFormat result)

/-- Converts a row into room that the result may not fill. -/
def applyRow (t : Transform) (row room : List UInt8) : Except Failure (List UInt8) :=
  match Rows.pixels t.inputFormat.samplesPerPixel row with
  | .error e => .error e
  | .ok b =>
    match t.applyPixels b with
    | .error e => .error e
    | .ok result =>
      match Rows.overlay result.rows.flatten room with
      | .error e => .error e
      | .ok filled => .ok filled

end Transform

end Recolor
