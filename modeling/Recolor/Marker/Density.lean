import Recolor.Config.Coercion

/-!
# Resolution of an image

A resolution is two densities and their unit. In a known unit it can be stated in
dots per inch, one inch being 2.54 centimetres.
-/

set_option autoImplicit false

namespace Recolor

/-- The unit of a density. -/
inductive DensityUnit where
  | unknown
  | perInch
  | perCentimetre
  deriving DecidableEq, Repr, Inhabited

namespace DensityUnit

/-- All units, by increasing code. -/
def all : List DensityUnit :=
  [.unknown, .perInch, .perCentimetre]

/-- The number of a unit. -/
def code : DensityUnit → Nat
  | .unknown => 0
  | .perInch => 1
  | .perCentimetre => 2

/-- The name of a unit. -/
def name : DensityUnit → String
  | .unknown => "UNKNOWN"
  | .perInch => "PIXELS_PER_INCH"
  | .perCentimetre => "PIXELS_PER_CM"

/-- The name of a unit for readers. -/
def label : DensityUnit → String
  | .unknown => "unknown"
  | .perInch => "pixels per inch"
  | .perCentimetre => "pixels per cm"

/-- The unit whose number a value is; other values stand for no known unit. -/
def ofValue (v : Value) : DensityUnit :=
  (all.find? fun u => v.isNumber u.code).getD .unknown

end DensityUnit

/-- Densities along both axes, and their unit. An image that states none has one pixel
to an unknown unit. -/
structure Resolution where
  x : Int := 1
  y : Int := 1
  unit : DensityUnit := .unknown
  deriving DecidableEq, Repr, Inhabited

namespace Resolution

/-- The resolution that a pair of densities and the number of their unit state. -/
def ofStated (density unit : Value) : Except Fault Resolution := do
  match ← density.members with
  | [x, y] =>
    let x ← x.toWhole
    let y ← y.toWhole
    return { x, y, unit := DensityUnit.ofValue unit }
  | _ => .error (.raised .value "there are two densities")

/-- A density as a number, if it is not too large to be one. -/
def number (n : Int) : Except Fault Float :=
  match Binary64.ofInt? n with
  | some x => .ok x
  | none => .error .tooLarge

/-- Both densities, each multiplied by a factor. -/
def scaled (r : Resolution) (factor : Float) : Except Fault (Option (Float × Float)) :=
  match number r.x with
  | .error e => .error e
  | .ok x =>
    match number r.y with
    | .error e => .error e
    | .ok y => .ok (some (x * factor, y * factor))

/-- The resolution in dots per inch, if its unit is known. -/
def dotsPerInch (r : Resolution) : Except Fault (Option (Float × Float)) :=
  match r.unit with
  | .unknown => .ok none
  | .perInch => r.scaled 1.0
  | .perCentimetre => r.scaled 2.54

end Resolution

end Recolor
