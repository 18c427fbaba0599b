import Recolor.Lab.Connection
import Recolor.Lab.Envelope

/-!
# Fax colours

The fax encoding of Lab colours keeps each value in 16 bits over the range of the
fax envelope: lightness from 0 to 100, the first axis 170 wide with its zero at
32768, the second 200 wide with its zero at 24576. Encoding takes the integer below
and saturates, never the nearest one, since existing images were made that way.

The two maps between fax codes and the codes of the connection space are what the
virtual fax profiles are sampled from.
-/

set_option autoImplicit false

namespace Recolor.Fax

variable {α : Type} [Scalar α]

/-- The colour of fax codes, which may be fractional. -/
@[specialize] def decode (codes : Lab α) : Lab α :=
  { l := codes.l / 655.35
    a := 170.0 * (codes.a - 32768.0) / 65535.0
    b := 200.0 * (codes.b - 24576.0) / 65535.0 }

/-- The places of a colour on the fax scales, before they are cut to integers. -/
@[specialize] def scale (c : Lab α) : Lab α :=
  { l := (c.l / 100.0) * 65535.0
    a := (c.a / 170.0) * 65535.0 + 32768.0
    b := (c.b / 200.0) * 65535.0 + 24576.0 }

/-- The fax codes of a colour. -/
@[specialize] def encode (c : Lab α) : Lab UInt16 :=
  (scale c).map fun x => (Scalar.floor x).toCode16

/-- The code at a place on a fax scale; there is none for what is no finite number. -/
def code (x : α) : Except Fault UInt16 :=
  match Scalar.floor x with
  | .undefined => .error .notANumber
  | .belowAll => .error .tooLarge
  | .aboveAll => .error .tooLarge
  | .int n => .ok (Whole.int n).toCode16

/-- The fax codes of a single colour, which must consist of finite numbers. -/
def encodeColor (c : Lab α) : Except Fault (Lab UInt16) :=
  let places := scale c
  match code places.l with
  | .error e => .error e
  | .ok l =>
    match code places.a with
    | .error e => .error e
    | .ok a =>
      match code places.b with
      | .error e => .error e
      | .ok b => .ok ⟨l, a, b⟩

/-- The fax codes of a colour in the connection space. -/
@[specialize] def ofConnection (codes : Lab α) : Lab UInt16 :=
  encode (Envelope.fax.desaturate (Connection.decode16 codes))

/-- The connection space codes of a colour given by fax codes. -/
@[specialize] def toConnection (codes : Lab α) : Lab UInt16 :=
  Connection.encode16 (decode codes)

/-- Reads colours off rows of fax codes. -/
def decodeRows : RowOp α α :=
  Lab.readRow fun c => (decode c).toRow

/-- Writes colours as rows of fax codes. -/
def encodeRows : RowOp α UInt16 :=
  Lab.readRow fun c => (encode c).toRow

/-- From rows of connection space codes to rows of fax codes. -/
def rowsOfConnection : RowOp α UInt16 :=
  Lab.readRow fun c => (ofConnection c).toRow

/-- From rows of fax codes to rows of connection space codes. -/
def rowsToConnection : RowOp α UInt16 :=
  Lab.readRow fun c => (toConnection c).toRow

end Recolor.Fax
