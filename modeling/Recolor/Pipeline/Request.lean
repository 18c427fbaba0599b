import Recolor.Config.Value
import Recolor.Profile.Search
import Recolor.Transform.Plan

/-!
# Requests

A request says which profiles a conversion should use, how colours are rendered, and
what to do with embedded profiles. A profile is referred to by name; settings come
from files that may hold any value, so a reference may also be unusable, which is
noticed when it is followed.
-/

set_option autoImplicit false

namespace Recolor

/-- A reference to a file or a stock profile. -/
inductive Reference where
  | unset
  | named (name : String)
  | invalid (value : Value)
  deriving Repr, Inhabited

namespace Reference

/-- The reference a value stands for: text and paths name something. -/
def ofValue : Value → Reference
  | .null => .unset
  | .text s => .named s
  | .path p => .named p.toString
  | v => .invalid v

/-- The reference a value stands for if every empty value counts as none. -/
def ofSetting (v : Value) : Reference :=
  if v.isSet then ofValue v else .unset

/-- Whether the reference is the given stock name. -/
def isStock (r : Reference) (stock : String) : Bool :=
  match r with
  | .named name => Stock.isName name stock
  | _ => false

/-- Whether there is no reference. -/
def isUnset : Reference → Bool
  | .unset => true
  | _ => false

/-- Why a value is no reference. It is compared with the stock names by its text first. -/
def refusal (v : Value) : Fault :=
  if v.isShowable then .notAPath v else .raised .value "an integer has too many digits"

/-- Opens the profile referred to; without a reference that is the built-in display
profile. -/
def openProfile : Reference → Work IccProfile
  | .unset => Profile.openSrgb
  | .named name => Profile.openNamed name
  | .invalid v => Work.fail (refusal v)

end Reference

/-- What a conversion is asked for. -/
structure Request where
  input : Reference := .unset
  output : Reference := .unset
  /-- The profile to proof against. -/
  proof : Reference := .unset
  link : Reference := .unset
  rendering : Rendering := {}
  ignoreEmbedded : Bool := false
  embedProfile : Bool := false
  /-- Where to save an embedded profile. -/
  saveEmbedded : Reference := .unset
  /-- Folders to search for installed profiles first. -/
  folders : List Path := []
  deriving Repr, Inhabited

end Recolor
