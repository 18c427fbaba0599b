import Recolor.Marker.Density
import Recolor.Marker.Segment

/-!
# Resource blocks in an application marker

An editor keeps resources in application marker 13: a header of 14 bytes that starts
with `Photoshop`, then blocks. A block is the signature `8BIM`, a two-byte kind, a
name (its length in one byte, padded so that length byte and name fill an even
number of bytes), a four-byte length, and data padded to an even number of bytes.

The block of kind `03ED` holds the resolution: two densities of four bytes each in
pixels per inch, with 16 bits before the binary point, the second eight bytes after
the first. The walk from block to block ends at the first place that holds no whole
block head, and never reads outside the payload.
-/

set_option autoImplicit false

namespace Recolor.Photoshop

/-- The text every payload with resources starts with. -/
def signature : Bytes := Bytes.ofText "Photoshop"

/-- Bytes before the first block. -/
def headerLength : Nat := 14

/-- The text every block starts with. -/
def blockSignature : Bytes := Bytes.ofText "8BIM"

/-- The kind of the block that holds the resolution. -/
def resolutionKind : Nat := 0x03ED

/-- The fixed facts of a block, and where its data starts. -/
structure BlockHead where
  kind : Nat
  length : Nat
  start : Nat
  deriving DecidableEq, Repr, Inhabited

/-- Bytes that a name fills after its length byte. -/
def paddedName (length : Nat) : Nat :=
  if length % 2 = 1 then length else length + 1

/-- Reads the head of the block at an offset, if a whole one stands there. -/
def readHead? (data : Bytes) (i : Nat) : Option BlockHead :=
  if Bytes.window data i 4 == blockSignature && i + 7 ≤ data.length then
    let length := i + 7 + paddedName (Bytes.toNat (Bytes.window data (i + 6) 1))
    match Bytes.numberAt? data length 4 with
    | none => none
    | some n =>
      some { kind := Bytes.toNat (Bytes.window data (i + 4) 2), length := n, start := length + 4 }
  else none

/-- A head that is read ends after the place where reading began. -/
theorem lt_start_of_readHead? {data : Bytes} {i : Nat} {head : BlockHead}
    (h : readHead? data i = some head) : i < head.start := by
  unfold readHead? at h
  split at h
  · simp only at h
    split at h
    · cases h
    · cases h
      simp only
      omega
  · cases h

/-- Whether a block holds a resolution. -/
def BlockHead.hasResolution (head : BlockHead) : Bool :=
  head.kind == resolutionKind && 16 ≤ head.length

/-- Where the block after a block starts. -/
def BlockHead.next (head : BlockHead) : Nat :=
  head.start + head.length + head.length % 2

/-- The resolution whose data starts at an offset, if its twelve bytes are there. -/
def readResolution? (data : Bytes) (start : Nat) : Option Resolution :=
  if start + 12 ≤ data.length then
    some { x := Bytes.toNat (Bytes.window data start 2)
           y := Bytes.toNat (Bytes.window data (start + 8) 2)
           unit := .perInch }
  else none

/-- Walks the blocks from an offset on to the first one that holds a resolution. -/
def walk (data : Bytes) (i : Nat) : Option Resolution :=
  if i < data.length then
    match _h : readHead? data i with
    | none => none
    | some head =>
      if head.hasResolution then readResolution? data head.start
      else walk data head.next
  else none
termination_by data.length - i
decreasing_by
  have := lt_start_of_readHead? _h
  simp only [BlockHead.next]
  omega

/-- Whether a marker holds resources. -/
def holdsResources (m : Marker) : Bool :=
  m.tag == Marker.app 13 && signature.length < m.payload.length && m.startsWith signature

/-- The resolution among the resources of the first marker that holds any. -/
def resolution? (markers : List Marker) : Option Resolution :=
  match markers.find? holdsResources with
  | none => none
  | some m => walk m.payload headerLength

end Recolor.Photoshop
