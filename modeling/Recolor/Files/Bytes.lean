import Recolor.Files.Tree

/-!
# Reading bytes

Windows into raw data, numbers written with the most significant byte first, and
the Latin-1 reading of bytes as text. A window that reaches past the end is cut.
-/

set_option autoImplicit false

namespace Recolor.Bytes

/-- The bytes from an offset on, at most `size` of them. -/
def window (data : Bytes) (offset size : Nat) : Bytes :=
  (data.drop offset).take size

/-- The number whose digits to the base 256 are the bytes, the most significant first. -/
def toNat (data : Bytes) : Nat :=
  data.foldl (fun n b => n * 256 + b.toNat) 0

/-- A number as `count` digits to the base 256, the most significant first. -/
def ofNat (count n : Nat) : Bytes :=
  (List.range count).map fun i => UInt8.ofNat (n / Nat.pow 256 (count - 1 - i))

/-- The number at an offset, if its bytes are all there. -/
def numberAt? (data : Bytes) (offset size : Nat) : Option Nat :=
  if offset + size ≤ data.length then some (toNat (window data offset size)) else none

/-- The characters whose codes are the bytes. -/
def latin1 (data : Bytes) : String :=
  String.ofList (data.map fun b => Char.ofNat b.toNat)

/-- The codes of a text's characters, each cut to a byte. -/
def ofText (s : String) : Bytes :=
  s.toList.map fun c => UInt8.ofNat c.toNat

/-- Whether data starts with a signature. -/
def startsWith (data signature : Bytes) : Bool :=
  data.take signature.length == signature

/-- Sixteen-bit numbers from pairs of bytes; an odd byte at the end is dropped. -/
def words16 : Bytes → List UInt16
  | a :: b :: rest => UInt16.ofNat (a.toNat * 256 + b.toNat) :: words16 rest
  | _ => []

end Recolor.Bytes
