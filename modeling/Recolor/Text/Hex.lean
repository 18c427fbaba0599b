/-!
# Hexadecimal text

Bytes as pairs of lower-case digits, and integers as upper-case digits padded with
zeros to a given width, the sign counting towards the width.
-/

set_option autoImplicit false

namespace Recolor.Text

/-- A digit below sixteen, in lower case. -/
private def lowerDigit (n : Nat) : Char :=
  if n < 10 then Char.ofNat (48 + n) else Char.ofNat (87 + n)

/-- The lowest `count` hexadecimal digits of a number, the most significant first. -/
def hexDigits (count n : Nat) : String :=
  String.ofList ((List.range count).map fun i => lowerDigit (n / Nat.pow 16 (count - 1 - i) % 16))

/-- Bytes as pairs of hexadecimal digits. -/
def hexOfBytes (bytes : List UInt8) : String :=
  String.ofList (bytes.flatMap fun b => [lowerDigit (b.toNat / 16), lowerDigit (b.toNat % 16)])

/-- The value of a digit in either case. -/
private def digitValue? (c : Char) : Option Nat :=
  if '0' ≤ c ∧ c ≤ '9' then some (c.toNat - 48)
  else if 'a' ≤ c ∧ c ≤ 'f' then some (c.toNat - 87)
  else if 'A' ≤ c ∧ c ≤ 'F' then some (c.toNat - 55)
  else none

/-- Reads bytes back from pairs of hexadecimal digits. -/
def bytesOfHex? : List Char → Option (List UInt8)
  | [] => some []
  | [_] => none
  | a :: b :: rest =>
    match digitValue? a, digitValue? b, bytesOfHex? rest with
    | some x, some y, some bytes => some (UInt8.ofNat (16 * x + y) :: bytes)
    | _, _, _ => none

/-- An integer in upper-case hexadecimal digits, zeros filling it up to `width`. -/
def hexPadded (width : Nat) (n : Int) : String :=
  let digits := (Nat.toDigits 16 n.natAbs).map Char.toUpper
  let sign := if n < 0 then ['-'] else []
  let fill := List.replicate (width - digits.length - sign.length) '0'
  String.ofList (sign ++ fill ++ digits)

end Recolor.Text
