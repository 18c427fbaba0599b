/-!
# Settings of a transform

The rendering intent, the precalculation mode and the switches that a transform is
built with, and the flag word in which the colour engine takes the latter.
-/

set_option autoImplicit false

namespace Recolor

/-- How colours outside the target's range are rendered. -/
inductive Intent where
  | perceptual
  | relative
  | saturation
  | absolute
  deriving DecidableEq, Repr, Inhabited

namespace Intent

/-- All intents, by increasing code. -/
def all : List Intent :=
  [.perceptual, .relative, .saturation, .absolute]

/-- The number of an intent. -/
def code : Intent → Nat
  | .perceptual => 0
  | .relative => 1
  | .saturation => 2
  | .absolute => 3

/-- The name of an intent. -/
def name : Intent → String
  | .perceptual => "PERCEPTUAL"
  | .relative => "RELATIVE_COLORIMETRIC"
  | .saturation => "SATURATION"
  | .absolute => "ABSOLUTE_COLORIMETRIC"

/-- The name of an intent for readers. -/
def label : Intent → String
  | .perceptual => "Perceptual"
  | .relative => "Relative Colorimetric"
  | .saturation => "Saturation"
  | .absolute => "Absolute Colorimetric"

/-- The intent with a given number. -/
def ofCode? (n : Int) : Option Intent :=
  all.find? fun i => Int.ofNat i.code == n

end Intent

/-- How far the colour engine precalculates a transform. -/
inductive Precalc where
  | off
  | normal
  | highRes
  | lowRes
  deriving DecidableEq, Repr, Inhabited

namespace Precalc

/-- All modes, by increasing code. -/
def all : List Precalc :=
  [.off, .normal, .highRes, .lowRes]

/-- The number of a mode. -/
def code : Precalc → Nat
  | .off => 0
  | .normal => 1
  | .highRes => 2
  | .lowRes => 3

/-- The name of a mode. -/
def name : Precalc → String
  | .off => "OFF"
  | .normal => "NORMAL"
  | .highRes => "HIRES"
  | .lowRes => "LORES"

/-- The name of a mode for readers. -/
def label : Precalc → String
  | .off => "Off"
  | .normal => "Normal"
  | .highRes => "Hi-Res"
  | .lowRes => "Lo-Res"

/-- The mode with a given number. -/
def ofCode? (n : Int) : Option Precalc :=
  all.find? fun m => Int.ofNat m.code == n

/-- The bits of a mode in the engine's flag word. -/
def bits : Precalc → Nat
  | .off => 0x100
  | .normal => 0
  | .highRes => 0x400
  | .lowRes => 0x800

end Precalc

/-- The flags of the colour engine, the bits of one word. -/
structure EngineFlags where
  word : Nat
  deriving DecidableEq, Repr, Inhabited

/-- The switches a transform is built with. -/
structure TransformFlags where
  blackPoint : Bool := false
  gamutCheck : Bool := false
  precalc : Precalc := .normal
  softProofing : Bool := false
  deriving DecidableEq, Repr, Inhabited

namespace TransformFlags

/-- The engine's flag word. -/
def word (f : TransformFlags) : Nat :=
  f.precalc.bits + (if f.blackPoint then 0x2000 else 0) + (if f.gamutCheck then 0x1000 else 0)
    + (if f.softProofing then 0x4000 else 0)

/-- The flags that the engine gets for the switches. -/
def engineFlags (f : TransformFlags) : EngineFlags :=
  { word := f.word }

/-- The same switches with soft proofing on. -/
def proofing (f : TransformFlags) : TransformFlags :=
  { f with softProofing := true }

/-- The switches of a half of a chain, which neither checks the gamut nor proofs. -/
def half (f : TransformFlags) : TransformFlags :=
  { f with gamutCheck := false, softProofing := false }

end TransformFlags

end Recolor
