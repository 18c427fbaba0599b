/-!
# Digits and blanks of all scripts

A decimal digit of any script counts as a digit of a number. Superscripts,
subscripts and circled figures look like digits but form no numbers; the two
classes are kept apart, because a test for "all digits" accepts both while
reading a number accepts only the first. The tables are those of Unicode 14.0.
-/

set_option autoImplicit false

namespace Recolor.Text

/-- The code points of the digit zero in every script; nine digits follow each. -/
def decimalZeros : List Nat := [
  48, 1632, 1776, 1984, 2406, 2534, 2662, 2790, 2918, 3046, 3174, 3302, 3430, 3558, 3664, 3792,
  3872, 4160, 4240, 6112, 6160, 6470, 6608, 6784, 6800, 6992, 7088, 7232, 7248, 42528, 43216,
  43264, 43472, 43504, 43600, 44016, 65296, 66720, 68912, 69734, 69872, 69942, 70096, 70384, 70736,
  70864, 71248, 71360, 71472, 71904, 72016, 72784, 73040, 73120, 92768, 92864, 93008, 120782,
  120792, 120802, 120812, 120822, 123200, 123632, 125264, 130032]

/-- Figures that are digits but not decimal digits, as closed ranges of code points. -/
def figureRanges : List (Nat × Nat) := [
  (178, 179), (185, 185), (4969, 4977), (6618, 6618), (8304, 8304), (8308, 8313), (8320, 8329),
  (9312, 9320), (9332, 9340), (9352, 9360), (9450, 9450), (9461, 9469), (9471, 9471),
  (10102, 10110), (10112, 10120), (10122, 10130), (68160, 68163), (69216, 69224), (69714, 69722),
  (127232, 127242)]

/-- The value of a decimal digit of any script. -/
def decimalValue? (c : Char) : Option Nat :=
  (decimalZeros.find? fun z => z ≤ c.toNat && c.toNat ≤ z + 9).map (c.toNat - ·)

/-- Whether a character is a digit or a figure. -/
def isDigitLike (c : Char) : Bool :=
  (decimalValue? c).isSome || figureRanges.any fun r => r.1 ≤ c.toNat && c.toNat ≤ r.2

/-- Blank characters: spaces of all widths, line ends and the information separators. -/
def isBlank (c : Char) : Bool :=
  let n := c.toNat
  (9 ≤ n && n ≤ 13) || (28 ≤ n && n ≤ 32) || n = 133 || n = 160 || n = 5760
    || (8192 ≤ n && n ≤ 8202) || n = 8232 || n = 8233 || n = 8239 || n = 8287 || n = 12288

/-- Blanks that may stand around a numeral: all but the information separators. -/
def isMargin (c : Char) : Bool :=
  isBlank c && !(28 ≤ c.toNat && c.toNat ≤ 31)

/-- The text without the characters of a class at its two ends. -/
def trimWhile (isIn : Char → Bool) (s : List Char) : List Char :=
  ((s.dropWhile isIn).reverse.dropWhile isIn).reverse

/-- The text without the blanks at its two ends. -/
def trimBlank (s : String) : String :=
  String.ofList (trimWhile isBlank s.toList)

/-- A numeral without the blanks around it, its digits written as those of ASCII. -/
def bareNumeral (s : List Char) : List Char :=
  (trimWhile isMargin s).map fun c => (decimalValue? c).elim c fun v => Char.ofNat (48 + v)

/-- More digits than this are refused when a number is read, unless a digit is a whole number
of bits. -/
def longestNumeral : Nat := 4300

/-- The value of a digit to a base of at most sixteen. -/
def digitIn? (base : Nat) (c : Char) : Option Nat :=
  let v :=
    if '0' ≤ c ∧ c ≤ '9' then c.toNat - 48
    else if 'a' ≤ c ∧ c ≤ 'f' then c.toNat - 87
    else if 'A' ≤ c ∧ c ≤ 'F' then c.toNat - 55
    else base
  if v < base then some v else none

/-- The digits of a numeral, in which single underscores may stand between digits. -/
def numeralDigits? (base : Nat) : List Char → Option (List Nat)
  | [] => none
  | [c] => (digitIn? base c).map ([·])
  | c :: '_' :: d :: rest =>
    match digitIn? base c, numeralDigits? base (d :: rest) with
    | some v, some vs => some (v :: vs)
    | _, _ => none
  | c :: d :: rest =>
    match digitIn? base c, numeralDigits? base (d :: rest) with
    | some v, some vs => some (v :: vs)
    | _, _ => none

/-- The letters that announce a base after a leading zero. -/
def baseMarks : Nat → List Char
  | 2 => ['b', 'B']
  | 8 => ['o', 'O']
  | 16 => ['x', 'X']
  | _ => []

/-- A numeral without the zero and the letter that announce its base. An underscore may follow
them. -/
def withoutBaseMark (base : Nat) : List Char → List Char
  | '0' :: m :: rest =>
    if (baseMarks base).contains m then
      match rest with
      | '_' :: rest => rest
      | rest => rest
    else '0' :: m :: rest
  | digits => digits

/-- Reads a whole number to a base of at most sixteen: blanks around it, an optional sign, a mark
of its base if there is one, digits of any script with single underscores between them. -/
def readIntegerIn? (base : Nat) (s : String) : Option Int :=
  let (negative, digits) :=
    match bareNumeral s.toList with
    | '-' :: rest => (true, rest)
    | '+' :: rest => (false, rest)
    | all => (false, all)
  match numeralDigits? base (withoutBaseMark base digits) with
  | some vs =>
    if vs.length ≤ longestNumeral || !(baseMarks base).isEmpty then
      let n : Int := (vs.foldl (fun acc v => acc * base + v) 0 : Nat)
      some (if negative then -n else n)
    else none
  | none => none

/-- Reads a whole number in decimal notation. -/
def readInteger? (s : String) : Option Int :=
  readIntegerIn? 10 s

end Recolor.Text
