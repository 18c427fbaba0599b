import Recolor.Failure
import Recolor.Transform.Settings

/-!
# The colour engine

The numerical work on ICC profiles is done by a colour engine outside the library.
This module states what is asked of it: to open a profile's data, to describe a
profile, and to build a transform between two profiles, with a third to proof
against or without. A request names the profiles by where they come from, so that
requests can be compared and recorded.
-/

set_option autoImplicit false

namespace Recolor

/-- The layout of an image's pixels. -/
inductive Mode where
  | bilevel
  | palette
  | gray
  | grayAlpha
  | rgb
  | cmyk
  | lab
  | ycbcr
  deriving DecidableEq, Repr, Inhabited

namespace Mode

/-- All layouts. -/
def all : List Mode :=
  [.bilevel, .palette, .gray, .grayAlpha, .rgb, .cmyk, .lab, .ycbcr]

/-- The name of a layout. -/
def name : Mode → String
  | .bilevel => "1"
  | .palette => "P"
  | .gray => "L"
  | .grayAlpha => "LA"
  | .rgb => "RGB"
  | .cmyk => "CMYK"
  | .lab => "LAB"
  | .ycbcr => "YCbCr"

/-- The layout with a given name. -/
def ofName? (s : String) : Option Mode :=
  all.find? fun m => m.name == s

/-- Samples of one pixel. -/
def bands : Mode → Nat
  | .bilevel => 1
  | .palette => 1
  | .gray => 1
  | .grayAlpha => 2
  | .rgb => 3
  | .cmyk => 4
  | .lab => 3
  | .ycbcr => 3

end Mode

namespace Space

/-- The layout in which the colour engine takes pixels of a space. -/
def engineMode? : Space → Option Mode
  | .gray => some .gray
  | .rgb => some .rgb
  | .cmyk => some .cmyk
  | .lab => some .lab
  | .ycbcr => some .ycbcr
  | _ => none

/-- The layout in which the colour engine takes pixels of a space, or the error that it
has none. -/
def engineMode (s : Space) : Except SpaceError Mode :=
  match s.engineMode? with
  | some m => .ok m
  | none => .error (.noEngineMode s)

end Space

/-- Where an ICC profile comes from: one of the two built-in ones, or data. -/
inductive IccSource where
  | srgb
  | labD50
  | data (bytes : Bytes)
  deriving DecidableEq, Repr, Inhabited

/-- What the colour engine is asked to build. -/
structure BuildRequest where
  input : IccSource
  output : IccSource
  inputMode : Mode
  outputMode : Mode
  intent : Intent
  flags : EngineFlags
  /-- The profile to proof against and the intent for it. -/
  proof : Option (IccSource × Intent) := none
  deriving DecidableEq, Repr, Inhabited

/-- What a built transform does to a pixel: it gives one of a fixed number of samples. -/
structure PixelMap where
  width : Nat
  run : List UInt8 → List UInt8
  length_run : ∀ pixel, (run pixel).length = width

/-- A colour engine. -/
structure ColorEngine where
  /-- Opens a profile's data. -/
  openData : Bytes → Except Fault Unit
  /-- The description of a profile, if it has one. -/
  describe : IccSource → Except Fault (Option String)
  /-- Builds a transform. -/
  build : BuildRequest → Except Fault PixelMap

end Recolor
