import Recolor.Lab.Connection
import Recolor.Profile.Header
import Recolor.Table.Curve
import Recolor.Table.Depth
import Recolor.Table.Grid

/-!
# Sampled profiles

A sampled profile is evaluated in the library: curves on the inputs, a lookup table,
curves on the outputs, all over 16-bit values. According to its direction it leads
from device samples to Lab colours, back, or from device samples to device samples.
-/

set_option autoImplicit false

namespace Recolor

/-- Which way a sampled profile maps. -/
inductive Direction where
  | deviceToPcs
  | pcsToDevice
  | deviceLink
  deriving DecidableEq, Repr, Inhabited

namespace Direction

/-- The name of a direction. -/
def name : Direction → String
  | .deviceToPcs => "device_to_pcs"
  | .pcsToDevice => "pcs_to_device"
  | .deviceLink => "device_link"

/-- The direction with a given name. -/
def ofName? (s : String) : Option Direction :=
  [Direction.deviceToPcs, .pcsToDevice, .deviceLink].find? fun d => d.name == s

end Direction

/-- A profile evaluated from a lookup table. -/
structure SampledProfile where
  name : String
  table : Grid
  direction : Direction
  space : Option Space
  pcs : Option Space
  deviceClass : DeviceClass
  inputCurves : Option (List Curve) := none
  outputCurves : Option (List Curve) := none
  /-- The given description, which may be empty. -/
  stated : String := ""

namespace SampledProfile

/-- The description, or the name if there is none. -/
def description (p : SampledProfile) : String :=
  if p.stated.isEmpty then p.name else p.stated

section Evaluation

variable {α : Type} [Scalar α]

/-- Input curves, table and output curves on rows of 16-bit values. -/
def evaluate16 (p : SampledProfile) : RowOp α α :=
  ((Curve.applyRows? p.inputCurves).andThen p.table.evaluateRows).andThen
    (Curve.applyRows? p.outputCurves)

/-- From device samples to Lab colours. -/
def deviceToLab (p : SampledProfile) : RowOp UInt8 α :=
  (Depth.widenRows.andThen p.evaluate16).andThen Connection.decodeRows16

/-- From 16-bit codes to numbers. -/
def numbers : RowOp UInt16 α :=
  RowOp.samples Scalar.ofCode16

/-- From Lab colours to device samples. -/
def labToDevice (p : SampledProfile) : RowOp α UInt8 :=
  (((Connection.encodeRows16 : RowOp α UInt16).andThen numbers).andThen
    (p.evaluate16 : RowOp α α)).andThen Depth.narrowRows

/-- From device samples to device samples, with the values between them in the given
scalars. -/
def deviceToDevice (α : Type) [Scalar α] (p : SampledProfile) : RowOp UInt8 UInt8 :=
  ((Depth.widenRows : RowOp UInt8 α).andThen p.evaluate16).andThen Depth.narrowRows

end Evaluation

end SampledProfile

end Recolor
