/-!
# Numbers the colour arithmetic runs on

Every formula of the colour layer is written once, over a type of scalars. The
class below lists what a formula may use: the four operations, decimal literals,
the strict order, a test for "not a number", and the greatest integer that does
not exceed a value. Binary64 numbers run the program; rational numbers give the
same formulas their exact reading.

Comparisons with a value that is not a number are false, and the selection `lesser` hands
such a value on when it stands first. On a tie it returns its second argument, which
decides between the two zeros.
-/

set_option autoImplicit false

namespace Recolor

/-- The greatest integer that does not exceed a number, where there is one. -/
inductive Whole where
  /-- An ordinary integer. -/
  | int (n : Int)
  /-- Below every integer. -/
  | belowAll
  /-- Above every integer. -/
  | aboveAll
  /-- The number was not a number. -/
  | undefined
  deriving DecidableEq, Repr, Inhabited

namespace Whole

/-- Confines a bound to `lo .. hi`; the upper end wins when the two cross. -/
def clamp (lo hi : Int) : Whole → Int
  | .int n => min (max n lo) hi
  | .belowAll => min lo hi
  | .aboveAll => hi
  | .undefined => min lo hi

/-- Saturates to a 16-bit code. -/
def toCode16 (w : Whole) : UInt16 :=
  UInt16.ofNat (w.clamp 0 65535).toNat

/-- Saturates to an 8-bit sample. -/
def toSample8 (w : Whole) : UInt8 :=
  UInt8.ofNat (w.clamp 0 255).toNat

/-- An integer is clamped to bounds by its order. -/
theorem clamp_int (lo hi n : Int) : (Whole.int n).clamp lo hi = min (max n lo) hi := rfl

/-- Whatever is clamped to bounds from zero on is not negative. -/
theorem clamp_nonneg (hi : Int) (h : 0 ≤ hi) (w : Whole) : 0 ≤ w.clamp 0 hi := by
  cases w <;> simp only [clamp] <;> omega

/-- Whatever is clamped stays below the upper bound. -/
theorem clamp_le (lo hi : Int) (w : Whole) : w.clamp lo hi ≤ hi := by
  cases w <;> simp only [clamp] <;> omega

end Whole

/-- What the colour formulas ask of a number. -/
class Scalar (α : Type) extends Add α, Sub α, Mul α, Div α, OfScientific α where
  /-- The number nearest to an integer. -/
  ofInt : Int → α
  /-- The strict order; false when either side is not a number. -/
  lt : α → α → Bool
  /-- Whether the value is not a number. -/
  isNaN : α → Bool
  /-- The greatest integer that does not exceed the value. -/
  floor : α → Whole

namespace Scalar

variable {α : Type} [Scalar α]

/-- The first value if it is smaller or not a number, else the second. -/
@[inline] def lesser (a b : α) : α :=
  if isNaN a || lt a b then a else b

/-- The value, or the bound if it is below; a bound that is not a number wins. -/
@[inline] def atLeast (x lo : α) : α :=
  if isNaN lo || lt x lo then lo else x

/-- The value, or the bound if it is above; a bound that is not a number wins. -/
@[inline] def atMost (x hi : α) : α :=
  if isNaN hi || lt hi x then hi else x

/-- Confines a value to `lo .. hi`; the upper end wins when the two cross. A value that is not
a number stays, and so does one that equals a bound. -/
@[inline] def clip (x lo hi : α) : α :=
  atMost (atLeast x lo) hi

/-- The nearest integer, halves upwards. -/
@[inline] def round (x : α) : Whole :=
  floor (x + (0.5 : α))

/-- The number a 16-bit code stands for. -/
@[inline] def ofCode16 (c : UInt16) : α :=
  ofInt (Int.ofNat c.toNat)

/-- The number an 8-bit sample stands for. -/
@[inline] def ofSample8 (c : UInt8) : α :=
  ofInt (Int.ofNat c.toNat)

/-- Whether the value is a number other than the infinities. -/
@[inline] def isFinite (x : α) : Bool :=
  match floor x with
  | .int _ => true
  | _ => false

end Scalar

instance : Scalar Rat where
  ofInt n := (n : Rat)
  lt a b := decide (a < b)
  isNaN _ := false
  floor x := .int x.floor

end Recolor
