import Recolor.Yaml.Scalar

/-!
# Binary data in text

Binary data is written to the base 64, with characters for six bits each. Other
characters are passed over, and equals signs fill the last group of four, after which
nothing more is read.
-/

set_option autoImplicit false

namespace Recolor.Yaml.Binary

/-- The six bits that a character stands for. -/
def bits? (c : Char) : Option Nat :=
  if 'A' ≤ c ∧ c ≤ 'Z' then some (c.toNat - 65)
  else if 'a' ≤ c ∧ c ≤ 'z' then some (c.toNat - 71)
  else if '0' ≤ c ∧ c ≤ '9' then some (c.toNat + 4)
  else if c == '+' then some 62
  else if c == '/' then some 63
  else none

/-- The bytes of groups of six bits; bits that fill no byte are dropped. -/
def bytes : List Nat → List UInt8
  | a :: b :: c :: d :: rest =>
    UInt8.ofNat (a * 4 + b / 16) :: UInt8.ofNat (b % 16 * 16 + c / 4)
      :: UInt8.ofNat (c % 4 * 64 + d) :: bytes rest
  | [a, b, c] => [UInt8.ofNat (a * 4 + b / 16), UInt8.ofNat (b % 16 * 16 + c / 4)]
  | [a, b] => [UInt8.ofNat (a * 4 + b / 16)]
  | _ => []

/-- The groups read so far, in reverse, and how many equals signs stand in a row after
them. -/
structure Progress where
  found : List Nat := []
  pads : Nat := 0
  isFilled : Bool := false

/-- One more character. -/
def advance (p : Progress) (c : Char) : Progress :=
  let inGroup := p.found.length % 4
  if p.isFilled then p
  else if c == '=' then
    if 2 ≤ inGroup then
      { p with pads := p.pads + 1, isFilled := 4 ≤ inGroup + p.pads + 1 }
    else p
  else
    match bits? c with
    | some n => { p with found := n :: p.found, pads := 0 }
    | none => p

/-- Reads binary data. -/
def read (s : String) : Except Fault (List UInt8) :=
  if s.toList.all fun c => c.toNat < 128 then
    let p := s.toList.foldl advance {}
    if p.isFilled || p.found.length % 4 == 0 then .ok (bytes p.found.reverse)
    else .error (malformed "binary data is cut short")
  else .error (malformed "binary data holds another character")

end Recolor.Yaml.Binary
