import Recolor.Numeric.Scalar
import Recolor.Text.Hex

/-!
# Binary64 numbers by their parts

A finite binary64 number is `±significand · 2^exponent`. This module reads the
parts off the 64-bit word, takes the greatest integer below a value exactly, and
builds the number nearest to a quotient of integers (halves to the even
significand). With the word as sixteen hexadecimal digits a number can be written
and compared without loss.
-/

set_option autoImplicit false

namespace Recolor.Binary64

/-- A binary64 number taken apart. -/
inductive Parts where
  /-- The value `±significand · 2^exponent`. -/
  | finite (negative : Bool) (significand : Nat) (exponent : Int)
  | infinite (negative : Bool)
  | notANumber
  deriving DecidableEq, Repr, Inhabited

/-- Reads the parts off a 64-bit word. -/
def Parts.ofWord (w : Nat) : Parts :=
  let negative := decide (0x8000000000000000 ≤ w)
  let field : Nat := w / 0x10000000000000 % 0x800
  let fraction : Nat := w % 0x10000000000000
  if field = 2047 then
    if fraction = 0 then .infinite negative else .notANumber
  else if field = 0 then .finite negative fraction (-1074)
  else .finite negative (0x10000000000000 + fraction) ((field : Int) - 1075)

/-- The parts of a number. -/
def parts (x : Float) : Parts :=
  Parts.ofWord x.toBits.toNat

/-- The greatest integer that does not exceed the value. -/
def Parts.floor : Parts → Whole
  | .notANumber => .undefined
  | .infinite negative => if negative then .belowAll else .aboveAll
  | .finite negative significand exponent =>
    let scaled := significand * Nat.pow 2 exponent.toNat
    let divisor := Nat.pow 2 (-exponent).toNat
    let quotient := scaled / divisor
    if negative then
      .int (-(quotient : Int) - (if scaled % divisor = 0 then 0 else 1))
    else .int quotient

/-- The integer the value is cut to, towards zero; `none` if there is none. -/
def Parts.truncate? : Parts → Option Int
  | .notANumber => none
  | .infinite _ => none
  | .finite negative significand exponent =>
    let quotient : Int := (significand * Nat.pow 2 exponent.toNat / Nat.pow 2 (-exponent).toNat : Nat)
    some (if negative then -quotient else quotient)

/-- The number with a given 64-bit word. -/
def ofWord (w : Nat) : Float :=
  Float.ofBits (UInt64.ofNat w)

/-- A quotient rounded to an integer, halves to the even one. -/
def divHalfEven (num den : Nat) : Nat :=
  let q := num / den
  let twice := 2 * (num % den)
  if twice < den then q
  else if den < twice then q + 1
  else if q % 2 = 0 then q else q + 1

/-- The number nearest to `±num/den`, or `none` if it is too large to be one. -/
def ofQuotient? (negative : Bool) (num den : Nat) : Option Float :=
  let sign := if negative then 0x8000000000000000 else 0
  if num = 0 then some (ofWord sign)
  else
    -- The unit in the last place, from an estimate of the quotient's size that is
    -- exact or one too large.
    let estimate : Int := (Nat.log2 num : Int) - (Nat.log2 den : Int)
    let scaled (unit : Int) : Nat × Nat := (num * Nat.pow 2 (-unit).toNat, den * Nat.pow 2 unit.toNat)
    let fits (unit : Int) : Bool := (scaled unit).1 / (scaled unit).2 ≥ 0x10000000000000
    let low := max (estimate - 53) (-1074)
    let high := max (estimate - 52) (-1074)
    let unit := if fits high then high else low
    let significand := divHalfEven (scaled unit).1 (scaled unit).2
    let word := (unit + 1074).toNat * 0x10000000000000 + significand
    if word < 2047 * 0x10000000000000 then some (ofWord (sign + word)) else none

/-- The number nearest to an integer, or `none` if it is too large to be one. -/
def ofInt? (n : Int) : Option Float :=
  ofQuotient? (decide (n < 0)) n.natAbs 1

/-- An integer of moderate size as a number; infinite beyond the largest number. -/
def ofInt (n : Int) : Float :=
  if n.natAbs < 0x20000000000000 then
    if n < 0 then -Float.ofNat n.natAbs else Float.ofNat n.natAbs
  else
    match ofInt? n with
    | some x => x
    | none => if n < 0 then -(1.0 / 0.0) else 1.0 / 0.0

/-- The word of a number as sixteen hexadecimal digits, the most significant first. -/
def hex (x : Float) : String :=
  Text.hexDigits 16 x.toBits.toNat

end Recolor.Binary64

namespace Recolor

instance : Scalar Float where
  ofInt := Binary64.ofInt
  lt a b := decide (a < b)
  isNaN x := x.isNaN
  floor x := (Binary64.parts x).floor

end Recolor
