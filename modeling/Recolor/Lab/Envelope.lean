import Recolor.Lab.Color

/-!
# Bringing colours into an envelope

An envelope bounds lightness from above and the opponent axes by a rectangle. A
colour outside the rectangle moves towards the neutral axis along its ray of equal
hue until it touches the nearest face. Lightness above the bound is cut, and a
colour of negative lightness becomes black.
-/

set_option autoImplicit false

namespace Recolor

/-- Bounds on lightness and on the opponent axes. -/
structure Envelope (α : Type) where
  lMax : α
  aMax : α
  bMax : α
  aMin : α
  bMin : α
  deriving Repr, Inhabited

namespace Envelope

variable {α : Type} [Scalar α]

/-- The envelope of fax colours. -/
def fax : Envelope α where
  lMax := 100.0
  aMax := 85.0
  bMax := 125.0
  aMin := Scalar.ofInt (-85)
  bMin := Scalar.ofInt (-75)

/-- Shrinks a factor so far that it brings a value above the bound down to it. -/
@[inline] def shrinkAbove (value bound factor : α) : α :=
  if Scalar.lt bound value then Scalar.lesser factor (bound / value) else factor

/-- Shrinks a factor so far that it brings a value below the bound up to it. -/
@[inline] def shrinkBelow (value bound factor : α) : α :=
  if Scalar.lt value bound then Scalar.lesser factor (bound / value) else factor

/-- The factor that brings the opponent axes of a colour into the rectangle. -/
@[specialize] def factor (e : Envelope α) (c : Lab α) : α :=
  shrinkBelow c.b e.bMin (shrinkAbove c.b e.bMax
    (shrinkBelow c.a e.aMin (shrinkAbove c.a e.aMax 1.0)))

/-- Brings a colour into the envelope. The scaled axes are confined once more, since
scaling may overshoot a face by the last digit. -/
@[specialize] def confine (e : Envelope α) (c : Lab α) : Lab α :=
  let t := e.factor c
  let outside := Scalar.lt t 1.0
  { l := Scalar.lesser c.l e.lMax
    a := if outside then Scalar.clip (c.a * t) e.aMin e.aMax else c.a
    b := if outside then Scalar.clip (c.b * t) e.bMin e.bMax else c.b }

/-- Whether a colour is darker than black. -/
@[inline] def isBlack (c : Lab α) : Bool :=
  Scalar.lt c.l 0.0

/-- Moves a colour into the envelope along its ray of equal hue. -/
@[specialize] def desaturate (e : Envelope α) (c : Lab α) : Lab α :=
  let d := e.confine c
  if isBlack d then ⟨0.0, 0.0, 0.0⟩ else d

/-- Moves the colours of rows into the envelope; further columns of a colour that
becomes black become zero with it. -/
def desaturateRows (e : Envelope α) : RowOp α α where
  width n := RowOp.atLeast 3 n n
  run
    | l :: a :: b :: rest =>
      let d := e.confine ⟨l, a, b⟩
      if isBlack d then (⟨0.0, 0.0, 0.0⟩ : Lab α).toRow ++ rest.map (fun _ => 0.0)
      else d.toRow ++ rest
    | row => row

end Envelope

end Recolor
