import Recolor.Cms.Engine
import Recolor.Files.Bytes

/-!
# The codec

Compression and decompression are done by a codec outside the library. It says of a
file what picture it holds, hands over the picture's samples, and turns samples and
save options into the bytes of a file. This module states that interface.

A stand-in codec keeps its pictures by the paths of their files and writes samples
as they are; it refuses to write when told to.
-/

set_option autoImplicit false

namespace Recolor

/-- What a codec finds in a file before it decodes the samples. What it tells of the compressed
data may be values of any kind. -/
structure Picture where
  /-- The name of the file's format, if it has one. -/
  format : Option String := some "JPEG"
  mode : Mode
  width : Int
  height : Int
  /-- Components of the compressed data, if the codec tells. -/
  layers : Option Value := none
  /-- Saved application segments, in the order of the file. -/
  segments : List (String × Bytes) := []
  hasAdobe : Bool := false
  adobeTransform : Value := .null
  /-- The densities along both axes, if they are stated. -/
  density : Option Value := none
  densityUnit : Value := .int 0
  profile : Option Bytes := none
  /-- The decoded samples. -/
  samples : Bytes := []
  /-- The samples when they are decoded without colour conversion. -/
  rawSamples : Bytes := []
  /-- What stops the samples from being decoded. -/
  fault : Option Fault := none
  deriving Repr, Inhabited

/-- The options a picture is saved with. -/
structure SaveOptions where
  quality : Value
  /-- Whether the colour components are kept at full resolution. -/
  fullChroma : Bool := false
  keepRgb : Bool := false
  dotsPerInch : Option (Float × Float) := none
  profile : Option Bytes := none
  /-- Segments to write besides the codec's own. -/
  extra : Option Bytes := none
  deriving Repr, Inhabited

/-- A picture handed to the encoder. -/
structure EncodeJob where
  path : Path
  mode : Mode
  width : Int
  height : Int
  samples : Bytes
  options : SaveOptions
  deriving Repr, Inhabited

/-- A codec. -/
structure Codec where
  /-- The picture in a file, if the codec knows the file's format. -/
  identify : Path → Bytes → Option Picture
  /-- The bytes of the file for a picture. -/
  encode : EncodeJob → Except Fault Bytes

namespace Codec

/-- The stand-in codec with pictures for some paths, which refuses to write if it is
given a fault. -/
def ofPictures (pictures : List (String × Picture)) (refusal : Option Fault) : Codec where
  identify path _ := pictures.lookup path.toString
  encode job :=
    match refusal with
    | some f => .error f
    | none => .ok job.samples

end Codec

end Recolor
