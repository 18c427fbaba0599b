import Recolor.Numeric.Binary64

/-!
# Decimal text of binary64 numbers

Two ways to write a number. The shortest text has the fewest significant digits
that still read back as the same number, and of those the digits nearest to it.
The fixed text has a given number of places after the point, halves of the exact
value going to the even digit.

The shortest digits are found by exact integer arithmetic: the numbers that read
back as a given one form an interval, closed when the significand is even, and on
each decimal grid only the two neighbours of the value need to be tried.
-/

set_option autoImplicit false

namespace Recolor.Decimal

open Recolor.Binary64 (Parts)

/-- A positive fraction of integers. -/
structure Fraction where
  num : Nat
  den : Nat
  deriving Repr, Inhabited

/-- The value `n · 2^e`. -/
def Fraction.dyadic (n : Nat) (e : Int) : Fraction :=
  ⟨n * Nat.pow 2 e.toNat, Nat.pow 2 (-e).toNat⟩

/-- The quotient by `10^k`. -/
def Fraction.scaleDown (f : Fraction) (k : Int) : Fraction :=
  ⟨f.num * Nat.pow 10 (-k).toNat, f.den * Nat.pow 10 k.toNat⟩

/-- Significant digits as an integer, and the power of ten of the last of them. -/
structure Digits where
  coefficient : Nat
  exponent : Int
  deriving Repr, Inhabited

/-- The first `j` from `start` on at which `10^(j - start) · num` reaches `den`, among the
next `steps` candidates. -/
def firstReach (den : Nat) : (steps num start : Nat) → Nat
  | 0, _, start => start
  | steps + 1, num, start =>
    if den ≤ num then start else firstReach den steps (num * 10) (start + 1)

/-- The power of ten of the leading digit of a positive fraction. -/
def leadingExponent (f : Fraction) : Int :=
  if f.den ≤ f.num then ((toString (f.num / f.den)).length : Int) - 1
  else -(firstReach f.den 400 (f.num * 10) 1 : Int)

/-- The numbers around `significand · 2^exponent` that read back as it, in units of
`2^(exponent - 2)`: lower end, upper end, and whether the ends belong. -/
def readBackInterval (significand : Nat) (exponent : Int) : Nat × Nat × Bool :=
  let lower :=
    if significand = 0x10000000000000 ∧ -1074 < exponent then 4 * significand - 1
    else 4 * significand - 2
  (lower, 4 * significand + 2, significand % 2 = 0)

/-- The coefficient on the grid `10^k` that reads back as `significand · 2^exponent`
and lies nearest to it, if the grid has one. -/
def onGrid? (significand : Nat) (exponent : Int) (k : Int) : Option Nat :=
  let (lower, upper, closed) := readBackInterval significand exponent
  let value := (Fraction.dyadic (4 * significand) (exponent - 2)).scaleDown k
  let low := (Fraction.dyadic lower (exponent - 2)).scaleDown k
  let high := (Fraction.dyadic upper (exponent - 2)).scaleDown k
  let inside (c : Nat) : Bool :=
    if closed then low.num ≤ c * low.den && c * high.den ≤ high.num
    else low.num < c * low.den && c * high.den < high.num
  let below := value.num / value.den
  let above := below + 1
  match inside below, inside above with
  | true, true => some (Binary64.divHalfEven value.num value.den)
  | true, false => some below
  | false, true => some above
  | false, false => none

/-- The digits found with the first of the given counts for which the grid has a hit. -/
def firstHit (significand : Nat) (exponent leading : Int) : List Nat → Digits
  | [] => ⟨0, 0⟩
  | count :: rest =>
    let k := leading + 1 - (count : Int)
    match onGrid? significand exponent k with
    | some c => ⟨c, k⟩
    | none => firstHit significand exponent leading rest

/-- The fewest digits that read back as the positive number `significand · 2^exponent`. -/
def shortest (significand : Nat) (exponent : Int) : Digits :=
  firstHit significand exponent
    (leadingExponent (Fraction.dyadic significand exponent)) ((List.range 17).map (· + 1))

/-- How a number is laid out once its digits are known. -/
structure Layout where
  /-- The point stands after at least this many digits in positional notation. -/
  leastPoint : Int
  /-- The point stands after at most this many digits in positional notation. -/
  greatestPoint : Int
  /-- The least number of digits of an exponent. -/
  exponentWidth : Nat

/-- Digits without the zeros at their end. -/
private def dropZeros (ds : List Char) : List Char :=
  (ds.reverse.dropWhile (· == '0')).reverse

/-- A text with zeros before it up to a width. -/
private def padLeft (width : Nat) (s : String) : String :=
  String.ofList (List.replicate (width - s.length) '0') ++ s

/-- Writes significant digits by a layout. -/
def Digits.render (layout : Layout) (d : Digits) : String :=
  let all := (toString d.coefficient).toList
  let point : Int := (all.length : Int) + d.exponent
  let ds := dropZeros all
  let zeros (n : Int) : List Char := List.replicate n.toNat '0'
  if point < layout.leastPoint ∨ layout.greatestPoint < point then
    let e := point - 1
    let fraction := if ds.length ≤ 1 then [] else '.' :: ds.drop 1
    String.ofList (ds.take 1 ++ fraction) ++ "e" ++ (if e < 0 then "-" else "+")
      ++ padLeft layout.exponentWidth (toString e.natAbs)
  else if point ≤ 0 then
    String.ofList ('0' :: '.' :: zeros (-point) ++ ds)
  else if (ds.length : Int) ≤ point then
    String.ofList (ds ++ zeros (point - ds.length) ++ ['.', '0'])
  else
    String.ofList (ds.take point.toNat ++ '.' :: ds.drop point.toNat)

/-- The shortest text of a number that reads back as it. -/
def text (layout : Layout) (x : Float) : String :=
  match Binary64.parts x with
  | .notANumber => "nan"
  | .infinite negative => if negative then "-inf" else "inf"
  | .finite negative 0 _ => if negative then "-0.0" else "0.0"
  | .finite negative significand exponent =>
    (if negative then "-" else "") ++ (shortest significand exponent).render layout

/-- The text of a number with a fixed count of places after the point. -/
def fixed (places : Nat) (x : Float) : String :=
  match Binary64.parts x with
  | .notANumber => "nan"
  | .infinite negative => if negative then "-inf" else "inf"
  | .finite negative significand exponent =>
    let f := Fraction.dyadic (significand * Nat.pow 10 places) exponent
    let units := Binary64.divHalfEven f.num f.den
    let whole := toString (units / Nat.pow 10 places)
    let part := if places = 0 then "" else "." ++ padLeft places (toString (units % Nat.pow 10 places))
    (if negative then "-" else "") ++ whole ++ part

end Recolor.Decimal
