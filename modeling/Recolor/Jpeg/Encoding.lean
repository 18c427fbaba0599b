import Recolor.Pixel.Format

/-!
# Colour facts of a source image

The colour space of the compressed data, the markers that bear on colour, an
embedded profile and the number of decoded components. They fix the format of the
decoded rows: fax images hold Lab samples, luma-chroma data is decoded to RGB, and
four-component data that a colour transform marker announces is stored inverted.
-/

set_option autoImplicit false

namespace Recolor

/-- The colour space of compressed data. -/
inductive JpegSpace where
  | unknown
  | grayscale
  | rgb
  | ycbcr
  | cmyk
  | ycck
  deriving DecidableEq, Repr, Inhabited

namespace JpegSpace

/-- All colour spaces of compressed data. -/
def all : List JpegSpace :=
  [.unknown, .grayscale, .rgb, .ycbcr, .cmyk, .ycck]

/-- The name of a colour space of compressed data. -/
def name : JpegSpace → String
  | .unknown => "unknown"
  | .grayscale => "grayscale"
  | .rgb => "rgb"
  | .ycbcr => "ycbcr"
  | .cmyk => "cmyk"
  | .ycck => "ycck"

/-- The colour space of compressed data with a given name. -/
def ofName? (s : String) : Option JpegSpace :=
  all.find? fun j => j.name == s

/-- The colour space that the number of components and the colour transform tell. -/
def ofComponents (components : Value) (hasAdobe : Bool) (transform : Value) : JpegSpace :=
  if components.isNumber 1 then .grayscale
  else if components.isNumber 3 then
    if hasAdobe && transform.isNumber 0 then .rgb else .ycbcr
  else if components.isNumber 4 then
    if transform.isNumber 2 then .ycck else .cmyk
  else .unknown

end JpegSpace

/-- What is known of a source image's colours before it is decoded. -/
structure SourceColor where
  space : JpegSpace
  hasAdobe : Bool := false
  isFax : Bool := false
  embedded : Option Bytes := none
  components : Option Int := none
  deriving DecidableEq, Repr, Inhabited

namespace SourceColor

/-- The format of the rows before the number of components is compared. -/
def nominalFormat (c : SourceColor) : Except SpaceError PixelFormat :=
  if c.isFax then PixelFormat.ofSpace .lab
  else
    match c.space with
    | .grayscale => PixelFormat.ofSpace .gray
    | .rgb => PixelFormat.ofSpace .rgb
    | .ycbcr => PixelFormat.ofSpace .rgb
    | .cmyk => PixelFormat.ofSpace .cmyk (if c.hasAdobe then .inverted else .natural)
    | .ycck => PixelFormat.ofSpace .cmyk (if c.hasAdobe then .inverted else .natural)
    | .unknown => .error (.unreadable c.space.name)

/-- The format of the decoded rows, which must have as many components as decoded. -/
def inputFormat (c : SourceColor) : Except SpaceError PixelFormat :=
  match c.nominalFormat with
  | .error e => .error e
  | .ok f =>
    match c.components with
    | none => .ok f
    | some n => if n = f.channels then .ok f else .error (.components f.space f.channels n)

end SourceColor

/-- The format of the destination's rows, in planes if the source's are. Four-component samples
are inverted when the writer announces a colour transform. -/
def outputFormat (space : Option Space) (planar invertsCmyk : Bool) :
    Except SpaceError PixelFormat :=
  match space with
  | none => .error .unknownOutput
  | some s =>
    PixelFormat.ofSpace s (if s = .cmyk ∧ invertsCmyk then .inverted else .natural) planar

end Recolor
