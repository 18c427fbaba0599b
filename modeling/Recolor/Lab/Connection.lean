import Recolor.Lab.Color

/-!
# Encodings of the connection space

Profiles meet in Lab colours, which have two encodings: 16-bit codes, lightness in
655.35 steps to the unit and the opponent axes in 257 with an offset of 128, and
8-bit samples, lightness in 2.55 steps and the axes offset by 128. Encoding rounds
to the nearest code, halves upwards, and saturates at the ends.
-/

set_option autoImplicit false

namespace Recolor.Connection

variable {α : Type} [Scalar α]

/-- The colour of 16-bit codes, which may be fractional. -/
@[specialize] def decode16 (codes : Lab α) : Lab α :=
  { l := codes.l / 655.35
    a := codes.a / 257.0 - 128.0
    b := codes.b / 257.0 - 128.0 }

/-- The 16-bit codes of a colour. -/
@[specialize] def encode16 (c : Lab α) : Lab UInt16 :=
  let lowest : α := Scalar.ofInt (-128)
  let l := Scalar.clip c.l 0.0 100.0
  let a := Scalar.clip c.a lowest 127.9961
  let b := Scalar.clip c.b lowest 127.9961
  { l := (Scalar.round (l * 655.35)).toCode16
    a := (Scalar.round ((a + 128.0) * 257.0)).toCode16
    b := (Scalar.round ((b + 128.0) * 257.0)).toCode16 }

/-- The colour of 8-bit samples. -/
@[specialize] def decode8 (samples : Lab α) : Lab α :=
  { l := samples.l * 100.0 / 255.0
    a := samples.a - 128.0
    b := samples.b - 128.0 }

/-- The 8-bit samples of a colour. -/
@[specialize] def encode8 (c : Lab α) : Lab UInt8 :=
  { l := (Scalar.round (c.l * 255.0 / 100.0)).toSample8
    a := (Scalar.round (c.a + 128.0)).toSample8
    b := (Scalar.round (c.b + 128.0)).toSample8 }

/-- Reads colours off rows of 16-bit codes. -/
def decodeRows16 : RowOp α α :=
  Lab.readRow fun c => (decode16 c).toRow

/-- Writes colours as rows of 16-bit codes. -/
def encodeRows16 : RowOp α UInt16 :=
  Lab.readRow fun c => (encode16 c).toRow

/-- Reads colours off rows of 8-bit samples. -/
def decodeRows8 : RowOp α α :=
  Lab.readRow fun c => (decode8 c).toRow

/-- Writes colours as rows of 8-bit samples. -/
def encodeRows8 : RowOp α UInt8 :=
  Lab.readRow fun c => (encode8 c).toRow

end Recolor.Connection
