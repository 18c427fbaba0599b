import Recolor.Numeric.Scalar
import Recolor.Rows.RowOp

/-!
# Eight and sixteen bits

An 8-bit sample stands for 257 times its value in the 16-bit domain, so that both
ends meet. The way back takes the sample nearest to a 16-bit value: the value is
rounded and saturated, then multiplied by 65281 and divided by 2^24, rounding, in
words of 64 bits.
-/

set_option autoImplicit false

namespace Recolor.Depth

variable {α : Type} [Scalar α]

/-- The 16-bit number that an 8-bit sample stands for. -/
@[inline] def widen (sample : UInt8) : α :=
  Scalar.ofInt (257 * Int.ofNat sample.toNat)

/-- The 16-bit value of any integer sample, kept in 32 bits. -/
def widenWord (sample : Int) : Int :=
  sample * 257 % 4294967296

/-- A 16-bit code times 65281, and half of 2^24 more. -/
def scaledCode (code : UInt16) : UInt64 :=
  code.toUInt64 * 65281 + 8388608

/-- The 8-bit sample of a 16-bit code. -/
def narrowCode (code : UInt16) : UInt8 :=
  (scaledCode code >>> 24).toUInt8

/-- The 8-bit sample nearest to a 16-bit value. -/
@[specialize] def narrow (x : α) : UInt8 :=
  narrowCode (Scalar.round x).toCode16

/-- Widens every sample of rows. -/
def widenRows : RowOp UInt8 α :=
  RowOp.samples widen

/-- Narrows every sample of rows. -/
def narrowRows : RowOp α UInt8 :=
  RowOp.samples narrow

end Recolor.Depth
