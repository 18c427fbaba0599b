import Recolor.Failure
import Recolor.Files.Bytes
import Recolor.Text.Digits

/-!
# Application markers

A marker is a tag and a payload, kept as the decoder handed it over. It is written
as a segment: the byte 255, the tag, the length of what follows with its own two
bytes counted in, and the payload. A tag outside one byte or a payload too long for
the length has no segment.
-/

set_option autoImplicit false

namespace Recolor

/-- A saved marker. -/
structure Marker where
  tag : Int
  payload : Bytes
  deriving DecidableEq, Repr, Inhabited

namespace Marker

/-- The tag of application marker `n`. -/
def app (n : Nat) : Int :=
  224 + Int.ofNat n

/-- The name of a marker: the number of an application marker, else its tag. -/
def name (m : Marker) : String :=
  if app 0 ≤ m.tag ∧ m.tag ≤ app 15 then "APP" ++ toString (m.tag - app 0)
  else "0x" ++ Text.hexPadded 2 m.tag

/-- Whether the payload starts with a signature. -/
def startsWith (m : Marker) (signature : Bytes) : Bool :=
  Bytes.startsWith m.payload signature

/-- The longest payload whose length, counting itself, fits two bytes. -/
def longestPayload : Nat := 65533

/-- The segment of a marker. -/
def toSegment (m : Marker) : Except Fault Bytes :=
  if m.tag < 0 ∨ 255 < m.tag then .error .tagRange
  else if longestPayload < m.payload.length then .error .segmentTooLong
  else
    .ok (255 :: UInt8.ofNat m.tag.toNat :: (Bytes.ofNat 2 (m.payload.length + 2) ++ m.payload))

/-- The segments of several markers, one after another. -/
def toSegments : List Marker → Except Fault Bytes
  | [] => .ok []
  | m :: rest =>
    match m.toSegment with
    | .error e => .error e
    | .ok segment =>
      match toSegments rest with
      | .error e => .error e
      | .ok segments => .ok (segment ++ segments)

/-- The tag that the name of an application marker stands for: `APP` and a number up to
15. Other names have none; a number that is no decimal numeral is a fault. -/
def tagOfName (name : String) : Except Fault (Option Int) :=
  match name.toList with
  | 'A' :: 'P' :: 'P' :: digits =>
    if digits.isEmpty || !digits.all Text.isDigitLike then .ok none
    else
      match Text.readInteger? (String.ofList digits) with
      | none => .error (.badNumeral (String.ofList digits))
      | some n => .ok (if n ≤ 15 then some (app 0 + n) else none)
  | _ => .ok none

end Marker

end Recolor
