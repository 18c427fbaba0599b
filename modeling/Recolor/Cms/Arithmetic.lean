import Recolor.Cms.Engine
import Recolor.Profile.Header

/-!
# A colour engine of plain arithmetic

A stand-in for a colour engine, exact and independent of the profiles' contents. It
opens any data but that marked `BAD!` or `OSER` in the header's manufacturer field,
takes the text behind the header as the description, and builds a transform if the
colour spaces of both profiles are those of the two layouts. The transform adds up
the samples of a pixel with increasing weights.
-/

set_option autoImplicit false

namespace Recolor.ArithmeticEngine

/-- The four letters that decide how the stand-in treats a profile. -/
def mark (data : Bytes) : String :=
  Bytes.latin1 (Bytes.window data 44 4)

/-- The text behind the header, up to the first zero byte. -/
def text (data : Bytes) : String :=
  Bytes.latin1 ((data.drop Header.length).takeWhile (· != 0))

/-- The text by which a profile appears in a record of requests. -/
def label : IccSource → String
  | .srgb => "sRGB built-in"
  | .labD50 => "Lab identity built-in"
  | .data bytes => text bytes

/-- The letters of a profile's colour space. -/
def spaceLetters : IccSource → String
  | .srgb => "RGB "
  | .labD50 => "Lab "
  | .data bytes => Header.spaceLetters bytes

/-- The letters of the colour space whose pixels have a layout. -/
def modeLetters : Mode → String
  | .gray => "GRAY"
  | .rgb => "RGB "
  | .cmyk => "CMYK"
  | .lab => "Lab "
  | .ycbcr => "YCbr"
  | _ => ""

/-- Opens data unless it is marked as bad. -/
def openData (data : Bytes) : Except Fault Unit :=
  if mark data = "BAD!" then .error (.engineRefused "cannot open profile")
  else if mark data = "OSER" then .error .profileUnreadable
  else .ok ()

/-- The description of a profile; data marked `NODE` refuses it and data marked `NONE`
has none. -/
def describe : IccSource → Except Fault (Option String)
  | .data bytes =>
    if mark bytes = "NODE" then .error (.engineRefused "no description")
    else if mark bytes = "NONE" then .ok none
    else .ok (some (text bytes))
  | source => .ok (some (label source))

/-- The samples of a pixel added up with the weights 1, 2, 3 and so on. -/
def weightedSum (pixel : List UInt8) : Nat :=
  ((List.range pixel.length).zip pixel).foldl (fun sum p => sum + (p.1 + 1) * p.2.toNat) 0

/-- The map to pixels of a layout: sample `c`, counted from 1, is the weighted sum of the
pixel and `17 * c`, wrapped to a byte. -/
def pixelMap (outputMode : Mode) : PixelMap where
  width := outputMode.bands
  run pixel := (List.range outputMode.bands).map fun c =>
    UInt8.ofNat (17 * (c + 1) + weightedSum pixel)
  length_run pixel := by simp

/-- Builds a transform between profiles whose spaces are those of the layouts. -/
def build (request : BuildRequest) : Except Fault PixelMap :=
  if spaceLetters request.input = modeLetters request.inputMode
      ∧ spaceLetters request.output = modeLetters request.outputMode then
    .ok (pixelMap request.outputMode)
  else .error (.engineRefused "cannot build transform")

/-- The stand-in as a colour engine. -/
def engine : ColorEngine :=
  { openData, describe, build }

end Recolor.ArithmeticEngine
