import Recolor.Numeric.Binary64
import Recolor.Rows.RowOp

/-!
# Lab colours

A colour by lightness and the two opponent axes. The same three places also hold
the three codes of an encoded colour. Rows of pixels carry the three values in
their first columns; an operation that reads colours off rows takes those.
-/

set_option autoImplicit false

namespace Recolor

/-- Lightness and the two opponent axes, or the codes that stand for them. -/
structure Lab (α : Type) where
  l : α
  a : α
  b : α
  deriving DecidableEq, Repr, Inhabited

namespace Lab

variable {α β : Type}

/-- The three values as a row. -/
def toRow (c : Lab α) : List α :=
  [c.l, c.a, c.b]

/-- The three values that a function gives for each place. -/
def map (f : α → β) (c : Lab α) : Lab β :=
  ⟨f c.l, f c.a, f c.b⟩

/-- The operation on rows that turns the first three columns into a colour's row. -/
def readRow (f : Lab α → List β) : RowOp α β where
  width := RowOp.atLeast 3 3
  run
    | l :: a :: b :: _ => f ⟨l, a, b⟩
    | _ => []

/-- The angle of a colour's hue in degrees, from 0 up. -/
def hue (c : Lab Float) : Float :=
  let turn : Float := 180.0 / 3.141592653589793
  let angle := Float.atan2 c.b c.a * turn
  if angle < 0.0 then angle + 360.0 else angle

end Lab

end Recolor
