import Recolor.Numeric.Scalar
import Recolor.Rows.RowOp

/-!
# Curves

A curve is a list of 16-bit entries spread evenly over the 16-bit domain. Between
two knots it is linear, at a knot it is the entry itself, and beyond its ends it
stays at the end's entry. Curves act on the columns of rows, the first curve on the
first column.
-/

set_option autoImplicit false

namespace Recolor

/-- The entries of a curve, evenly spread from 0 to 65535. -/
abbrev Curve := List UInt16

namespace Curve

variable {α : Type} [Scalar α]

/-- The places of `count` knots: evenly spaced from zero, the last exactly at the end of
the domain. -/
def places (count : Nat) : List α :=
  if count ≤ 1 then List.replicate count 0.0
  else
    let step : α := 65535.0 / Scalar.ofInt (Int.ofNat (count - 1))
    (List.range (count - 1)).map (fun i => Scalar.ofInt (Int.ofNat i) * step) ++ [65535.0]

/-- The knots of a curve. -/
def knots (c : Curve) : List (α × α) :=
  (places c.length).zip (c.map Scalar.ofCode16)

/-- Follows the line from one knot to the next, from the last knot that is not to the
right of `x`. -/
@[specialize] def follow (x : α) : List (α × α) → α
  | [] => 0.0
  | [(_, y)] => y
  | (x0, y0) :: (x1, y1) :: rest =>
    if Scalar.lt x x1 then
      if Scalar.lt x0 x then (y1 - y0) / (x1 - x0) * (x - x0) + y0 else y0
    else follow x ((x1, y1) :: rest)

/-- The value of the piecewise linear map through knots. -/
@[specialize] def interpolate (knots : List (α × α)) (x : α) : α :=
  match knots with
  | [(_, y)] => y
  | knots => if Scalar.isNaN x then x else follow x knots

/-- Whether curves can be applied to rows of a width, one curve after another. -/
def check : List Curve → Nat → Except Fault Unit
  | [], _ => .ok ()
  | _ :: _, 0 => .error .tooFewColumns
  | c :: rest, n + 1 => if c.isEmpty then .error .emptyCurve else check rest n

/-- Applies to each column the knots that stand at its place. -/
@[specialize] def applyKnots : List (List (α × α)) → List α → List α
  | knots :: rest, x :: row => interpolate knots x :: applyKnots rest row
  | _, row => row

/-- Applies curves to the columns of rows. -/
def applyRows (curves : List Curve) : RowOp α α where
  width n := match check curves n with
    | .error e => .error e
    | .ok () => .ok n
  run := applyKnots (curves.map knots)

/-- Applies curves if there are any. -/
def applyRows? (curves : Option (List Curve)) : RowOp α α :=
  applyRows (curves.getD [])

end Curve

end Recolor
