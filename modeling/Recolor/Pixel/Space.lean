/-!
# Colour spaces

The colour spaces a pixel may be in, each with its name, its code in a descriptor
word and, where the library can write pixels of it, its number of channels. The
sense of the samples, natural or inverted, is the flavor of a pixel.
-/

set_option autoImplicit false

namespace Recolor

/-- The colour space of a pixel. -/
inductive Space where
  | gray
  | rgb
  | cmy
  | cmyk
  | ycbcr
  | yuv
  | xyz
  | lab
  deriving DecidableEq, Repr, Inhabited

/-- Whether samples are stored as they are or inverted. -/
inductive Flavor where
  | natural
  | inverted
  deriving DecidableEq, Repr, Inhabited

namespace Space

/-- All colour spaces, by increasing code. -/
def all : List Space :=
  [.gray, .rgb, .cmy, .cmyk, .ycbcr, .yuv, .xyz, .lab]

/-- The code of a space in a descriptor word. -/
def code : Space → Nat
  | .gray => 3
  | .rgb => 4
  | .cmy => 5
  | .cmyk => 6
  | .ycbcr => 7
  | .yuv => 8
  | .xyz => 9
  | .lab => 10

/-- The space with a given code. -/
def ofCode? (n : Nat) : Option Space :=
  all.find? fun s => s.code == n

/-- The name of a space. -/
def name : Space → String
  | .gray => "GRAY"
  | .rgb => "RGB"
  | .cmy => "CMY"
  | .cmyk => "CMYK"
  | .ycbcr => "YCBCR"
  | .yuv => "YUV"
  | .xyz => "XYZ"
  | .lab => "LAB"

/-- The space with a given name. -/
def ofName? (s : String) : Option Space :=
  all.find? fun space => space.name == s

/-- The number of channels of a space that pixels can be written in. -/
def channels? : Space → Option Nat
  | .gray => some 1
  | .rgb => some 3
  | .cmy => some 3
  | .cmyk => some 4
  | .ycbcr => some 3
  | .yuv => some 3
  | .xyz => none
  | .lab => some 3

/-- A space is found by its code. -/
theorem ofCode?_code (s : Space) : ofCode? s.code = some s := by
  cases s <;> rfl

/-- A space is found by its name. -/
theorem ofName?_name (s : Space) : ofName? s.name = some s := by
  cases s <;> decide +kernel

/-- The codes of spaces fit five bits. -/
theorem code_lt (s : Space) : s.code < 32 := by
  cases s <;> decide

end Space

namespace Flavor

/-- The name of a flavor. -/
def name : Flavor → String
  | .natural => "VANILLA"
  | .inverted => "CHOCOLATE"

/-- The flavor bit of a descriptor word. -/
def bit : Flavor → Nat
  | .natural => 0
  | .inverted => 1

/-- The flavor with a given name. -/
def ofName? (s : String) : Option Flavor :=
  [Flavor.natural, Flavor.inverted].find? fun f => f.name == s

end Flavor

end Recolor
