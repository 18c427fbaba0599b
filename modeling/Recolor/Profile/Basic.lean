import Recolor.Profile.Icc
import Recolor.Profile.Sampled

/-!
# Colour profiles

A profile is an ICC profile or a sampled one. Of both the library needs the colour
space of the data, the connection space and the device class.
-/

set_option autoImplicit false

namespace Recolor

/-- A colour profile. -/
inductive Profile where
  | icc (p : IccProfile)
  | sampled (p : SampledProfile)

namespace Profile

/-- The name of a profile. -/
def name : Profile → String
  | .icc p => p.name
  | .sampled p => p.name

/-- The colour space of the data, if it is a known one. -/
def space : Profile → Option Space
  | .icc p => p.space
  | .sampled p => p.space

/-- The connection space, if it is a known one. -/
def pcs : Profile → Option Space
  | .icc p => p.pcs
  | .sampled p => p.pcs

/-- The device class. -/
def deviceClass : Profile → DeviceClass
  | .icc p => p.deviceClass
  | .sampled p => p.deviceClass

/-- The description. -/
def description : Profile → String
  | .icc p => p.description
  | .sampled p => p.description

/-- Whether the profile is a device link. -/
def isLink (p : Profile) : Bool :=
  p.deviceClass == .link

/-- Whether the profile is evaluated from a table. -/
def isSampled : Profile → Bool
  | .icc _ => false
  | .sampled _ => true

/-- The sort of a profile, as it stands in the text of a profile. -/
def sort : Profile → String
  | .icc _ => "IccProfile"
  | .sampled _ => "SampledProfile"

/-- The name of a space, or a question mark for an unknown one. -/
def spaceText : Option Space → String
  | some s => s.name
  | none => "?"

/-- The text of a profile for records. -/
def shown (p : Profile) : String :=
  p.sort ++ "(" ++ Text.quoted p.name ++ ", " ++ spaceText p.space ++ "->" ++ spaceText p.pcs
    ++ ", " ++ p.deviceClass.signature ++ ")"

end Profile

end Recolor
