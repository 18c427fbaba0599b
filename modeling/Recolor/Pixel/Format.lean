import Recolor.Failure

/-!
# Pixel formats and descriptor words

A pixel format says how one row of pixels is laid out: its colour space, channels,
extra channels, bytes per sample, whether the channels lie in planes, and the sense
of the samples. It packs into a single word:

    bits 0-2    bytes per sample
    bits 3-6    channels
    bits 7-9    extra channels
    bit  12     planar
    bit  13     inverted samples
    bits 16-20  code of the colour space

Formats may also be given with fields that no word can hold; packing refuses them,
and names the first field at fault.
-/

set_option autoImplicit false

namespace Recolor

/-- The layout of one row of pixels. -/
structure PixelFormat where
  space : Space
  channels : Int
  extra : Int := 0
  bytesPerSample : Int := 1
  planar : Bool := false
  flavor : Flavor := .natural
  deriving DecidableEq, Repr, Inhabited

/-- A field that should name a member of a family but may hold any value. -/
inductive Tag (α : Type) where
  | known (a : α)
  | other (value : Value)
  deriving Repr, Inhabited

/-- The fields of a pixel format before they are checked. -/
structure FormatFields where
  space : Tag Space
  channels : Int
  extra : Int := 0
  bytesPerSample : Int := 1
  planar : Bool := false
  flavor : Tag Flavor := .known .natural
  deriving Repr, Inhabited

namespace Value

/-- Whether a value may stand as a key: collections that can change may not. -/
def isKey : Value → Bool
  | .list _ => false
  | .set _ => false
  | .map _ => false
  | .again _ => false
  | _ => true

/-- The fault of asking a value for its name. -/
def unnamed (v : Value) : Fault :=
  .raised .attribute (v.shown ++ " has no name")

/-- The fault of looking up a value among the colour spaces, of which it is none. -/
def notASpace (v : Value) : Fault :=
  if v.isKey then v.unnamed else .raised .type (v.shown ++ " is no key")

end Value

namespace Tag

/-- The member that a field holds, if it holds one. -/
def known? {α : Type} : Tag α → Option α
  | .known a => some a
  | .other _ => none

/-- The colour space that a field holds, which is looked up among all of them. -/
def space : Tag Space → Except Fault Space
  | .known s => .ok s
  | .other v => .error v.notASpace

/-- Whether two fields hold the same member or equal values. -/
def same {α : Type} [DecidableEq α] : Tag α → Tag α → Bool
  | .known a, .known b => decide (a = b)
  | .other v, .other w => v.same w
  | _, _ => false

end Tag

namespace Space

/-- The canonical number of channels of a space. -/
def channels (s : Space) : Except SpaceError Int :=
  match s.channels? with
  | some n => .ok n
  | none => .error (.noChannels s)

end Space

namespace FormatFields

/-- Whether the samples are stored inverted. -/
def isInverted (f : FormatFields) : Bool :=
  match f.flavor with
  | .known .inverted => true
  | _ => false

/-- Whether the pixels are Lab colours. -/
def isLab (f : FormatFields) : Bool :=
  match f.space with
  | .known .lab => true
  | _ => false

/-- Samples of one pixel, extra channels included. -/
def samplesPerPixel (f : FormatFields) : Int :=
  f.channels + f.extra

/-- The size in bytes of a row of pixels. -/
def rowBytes (f : FormatFields) (width : Int) : Int :=
  width * f.samplesPerPixel * f.bytesPerSample

/-- Packs a format into its descriptor word. -/
def encode (f : FormatFields) : Except FormatError Int :=
  match f.space, f.flavor with
  | .other v, _ => .error (.unknownSpace v)
  | _, .other v => .error (.unknownFlavor v)
  | .known space, .known flavor =>
    if ¬(0 ≤ f.bytesPerSample ∧ f.bytesPerSample ≤ 7) then .error (.bytesRange f.bytesPerSample)
    else if ¬(0 ≤ f.channels ∧ f.channels ≤ 15) then .error (.channelsRange f.channels)
    else if ¬(0 ≤ f.extra ∧ f.extra ≤ 7) then .error (.extraRange f.extra)
    else
      .ok (f.bytesPerSample + 8 * f.channels + 128 * f.extra
        + 4096 * (if f.planar then 1 else 0) + 8192 * (flavor.bit : Int)
        + 65536 * (space.code : Int))

/-- Whether two formats agree in every field but the sense of the samples. -/
def isCompatible (f g : FormatFields) : Bool :=
  f.space.same g.space && f.channels == g.channels && f.extra == g.extra
    && f.bytesPerSample == g.bytesPerSample && f.planar == g.planar

/-- Whether two formats agree in every field. -/
def same (f g : FormatFields) : Bool :=
  f.isCompatible g && f.flavor.same g.flavor

/-- Refuses a format whose colour space has no name. -/
def checkNamed (f : FormatFields) : Except Fault Unit :=
  match f.space with
  | .known _ => .ok ()
  | .other v => .error v.unnamed

/-- The format in words, if its colour space is a known one. -/
def describe? (f : FormatFields) : Option String :=
  match f.space with
  | .other _ => none
  | .known space =>
    some (String.intercalate " "
      ([space.name, toString f.channels ++ "ch", toString (f.bytesPerSample * 8) ++ "bit"]
        ++ (if f.planar then ["planar"] else [])
        ++ (if f.isInverted then ["inverted"] else [])))

end FormatFields

namespace PixelFormat

/-- The fields of a format. -/
def fields (f : PixelFormat) : FormatFields :=
  { space := .known f.space
    channels := f.channels
    extra := f.extra
    bytesPerSample := f.bytesPerSample
    planar := f.planar
    flavor := .known f.flavor }

/-- The format of a space with its canonical number of channels. -/
def ofSpace (space : Space) (flavor : Flavor := .natural) (planar : Bool := false)
    (bytesPerSample : Int := 1) : Except SpaceError PixelFormat :=
  match space.channels with
  | .error e => .error e
  | .ok channels => .ok { space, channels, flavor, planar, bytesPerSample }

/-- Whether the samples are stored inverted. -/
def isInverted (f : PixelFormat) : Bool :=
  f.fields.isInverted

/-- Samples of one pixel, extra channels included. -/
def samplesPerPixel (f : PixelFormat) : Int :=
  f.fields.samplesPerPixel

/-- The size in bytes of a row of pixels. -/
def rowBytes (f : PixelFormat) (width : Int) : Int :=
  f.fields.rowBytes width

/-- Packs a format into its descriptor word. -/
def encode (f : PixelFormat) : Except FormatError Int :=
  f.fields.encode

/-- The format in words. -/
def describe (f : PixelFormat) : String :=
  f.fields.describe?.getD ""

/-- Unpacks a descriptor word, which may be any integer; bits that belong to no field
are ignored. -/
def decode (word : Int) : Except FormatError PixelFormat :=
  let code := (word / 65536 % 32).toNat
  match Space.ofCode? code with
  | none => .error (.unknownCode code word)
  | some space =>
    .ok { space
          channels := word / 8 % 16
          extra := word / 128 % 8
          bytesPerSample := word % 8
          planar := word / 4096 % 2 == 1
          flavor := if word / 8192 % 2 == 1 then .inverted else .natural }

end PixelFormat

end Recolor
